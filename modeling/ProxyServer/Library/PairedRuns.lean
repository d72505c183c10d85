import ProxyServer.Library.FaultState

/-! Two runs of one program side by side, from related states.
They are alike when they end with the same fault, or with the same value in related states.
-/

namespace PairedRuns

open FaultState

variable {σ ε α β : Type} {pre middle post : σ → σ → Prop}

/-- The same fault, or the same value in related states. -/
inductive Alike {σ ε α : Type} (related : σ → σ → Prop)
    : Except ε (α × σ) → Except ε (α × σ) → Prop
  | returned {value left right} (relates : related left right)
    : Alike related (.ok (value, left)) (.ok (value, right))
  | failed {fault} : Alike related (.error fault) (.error fault)

theorem Alike.weaken {left right : Except ε (α × σ)} (alike : Alike pre left right)
    (weaker : ∀ {left right}, pre left right → post left right)
    : Alike post left right := by
  cases alike with
  | returned relates => exact .returned (weaker relates)
  | failed => exact .failed

/-- Runs that begin alike and go on alike are alike. -/
theorem Alike.bind {first : StateT σ (Except ε) α} {rest rest' : α → StateT σ (Except ε) β}
    {left right : σ} (begun : Alike middle (first left) (first right))
    (goesOn
      : ∀ {value left' right'},
          Yields first left value left'
          → Yields first right value right'
          → middle left' right'
          → Alike post (rest value left') (rest' value right'))
    : Alike post ((first >>= rest) left) ((first >>= rest') right) := by
  simp only [Bind.bind, StateT.bind, Except.bind]
  cases outcome : first left with
  | error fault =>
      rw [outcome] at begun
      cases outcome' : first right with
      | error fault' =>
          rw [outcome'] at begun
          cases begun
          exact .failed
      | ok pair' =>
          rw [outcome'] at begun
          cases begun
  | ok pair =>
      rw [outcome] at begun
      cases outcome' : first right with
      | error fault' =>
          rw [outcome'] at begun
          cases begun
      | ok pair' =>
          rw [outcome'] at begun
          cases begun with
          | returned relates => exact goesOn outcome outcome' relates

/-- Runs of the program from states in `pre` are alike, up to states in `post`. -/
def Paired (pre : σ → σ → Prop) (program : StateT σ (Except ε) α) (post : σ → σ → Prop)
    : Prop :=
  ∀ ⦃left right⦄, pre left right → Alike post (program left) (program right)

theorem Paired.pure (value : α)
    : Paired pre (pure value : StateT σ (Except ε) α) pre :=
  fun _ _ before => .returned before

theorem Paired.throw (fault : ε) : Paired pre (throw fault : StateT σ (Except ε) α) post :=
  fun _ _ _ => .failed

theorem Paired.bind {first : StateT σ (Except ε) α} {rest : α → StateT σ (Except ε) β}
    (head : Paired pre first middle) (tail : ∀ value, Paired middle (rest value) post)
    : Paired pre (first >>= rest) post :=
  fun _ _ before => (head before).bind (fun _ _ after => tail _ after)

theorem Paired.ite {condition : Prop} [Decidable condition]
    {yes no : StateT σ (Except ε) α} (hyes : Paired pre yes post)
    (hno : Paired pre no post)
    : Paired pre (if condition then yes else no) post := by
  split
  · exact hyes
  · exact hno

theorem Paired.weaken {program : StateT σ (Except ε) α} (paired : Paired pre program middle)
    (weaker : ∀ {left right}, middle left right → post left right)
    : Paired pre program post :=
  fun _ _ before => (paired before).weaken weaker

/-- Fault-free runs of a paired program return the same value in related states. -/
theorem Paired.yields {program : StateT σ (Except ε) α} (paired : Paired pre program post)
    {left right left' right' : σ} {value value' : α} (before : pre left right)
    (run : Yields program left value left') (run' : Yields program right value' right')
    : value = value' ∧ post left' right' := by
  have alike := paired before
  rw [show program left = _ from run, show program right = _ from run'] at alike
  cases alike with
  | returned relates => exact ⟨rfl, relates⟩

end PairedRuns
