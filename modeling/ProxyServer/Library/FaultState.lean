import Mathlib

/-! Partial correctness and frame rules for stateful programs that may fault.
A program is a `StateT σ (Except ε) α`; its fault-free runs are the ones a rule speaks about.
-/

namespace FaultState

variable {σ ε α β γ ι ρ : Type}

-----------------------------------------------------------------------------------------
-- Fault-free runs
-----------------------------------------------------------------------------------------

/-- The program ends in state `next` with value `value` when started in `start`. -/
def Yields (program : StateT σ (Except ε) α) (start : σ) (value : α) (next : σ) : Prop :=
  program start = .ok (value, next)

/-- A program comes to one end at most. -/
theorem Yields.unique {program : StateT σ (Except ε) α} {start next next' : σ}
    {value value' : α} (run : Yields program start value next)
    (also : Yields program start value' next')
    : value' = value ∧ next' = next := by
  have same : (Except.ok (value', next') : Except ε (α × σ)) = .ok (value, next) :=
    also.symm.trans run
  cases same
  exact ⟨rfl, rfl⟩

/-- Whether a run comes to an end that passes a check. -/
def endsIn (check : α → σ → Bool) : Except ε (α × σ) → Bool
  | .ok (value, next) => check value next
  | .error _ => false

theorem endsIn_run {check : α → σ → Bool} {program : StateT σ (Except ε) α} {start : σ}
    (passed : endsIn check (program start) = true)
    : ∃ value next, Yields program start value next ∧ check value next = true := by
  cases outcome : program start with
  | error fault =>
      rw [outcome] at passed
      cases passed
  | ok pair =>
      rw [outcome] at passed
      exact ⟨pair.1, pair.2, outcome, passed⟩

theorem yields_pure {value value' : α} {start next : σ}
    : Yields (pure value : StateT σ (Except ε) α) start value' next
      ↔ value' = value ∧ next = start := by
  simp only [Yields, pure, StateT.pure, Except.pure, Except.ok.injEq, Prod.mk.injEq]
  exact ⟨fun h => ⟨h.1.symm, h.2.symm⟩, fun h => ⟨h.1.symm, h.2.symm⟩⟩

/-- A sequence runs fault-free exactly when both halves do. -/
theorem yields_bind {first : StateT σ (Except ε) α} {rest : α → StateT σ (Except ε) β}
    {start next : σ} {value : β}
    : Yields (first >>= rest) start value next
      ↔ ∃ middle state, Yields first start middle state
          ∧ Yields (rest middle) state value next := by
  simp only [Yields, bind, StateT.bind, Except.bind]
  cases first start with
  | error fault => simp
  | ok pair =>
      simp only [Except.ok.injEq]
      exact ⟨fun h => ⟨pair.1, pair.2, rfl, h⟩, fun ⟨_, _, same, h⟩ => same ▸ h⟩

theorem yields_discard {program : StateT σ (Except ε) α} {start next : σ}
    : Yields (discard program) start () next ↔ ∃ value, Yields program start value next := by
  change Yields (program >>= fun _ => pure ()) start () next ↔ _
  rw [yields_bind]
  constructor
  · rintro ⟨value, _, run, ends⟩
    obtain ⟨-, rfl⟩ := yields_pure.mp ends
    exact ⟨value, run⟩
  · rintro ⟨value, run⟩
    exact ⟨value, next, run, yields_pure.mpr ⟨rfl, rfl⟩⟩

theorem not_yields_throw {fault : ε} {start next : σ} {value : α}
    : ¬Yields (throw fault : StateT σ (Except ε) α) start value next := by
  simp [Yields, throw, throwThe, MonadExceptOf.throw, StateT.lift, bind, Except.bind]

theorem yields_get {start value next : σ}
    : Yields (get : StateT σ (Except ε) σ) start value next
      ↔ value = start ∧ next = start := by
  simp only [Yields, get, getThe, MonadStateOf.get, StateT.get]
  exact ⟨fun h => by cases h; exact ⟨rfl, rfl⟩, fun h => by rw [h.1, h.2]; rfl⟩

theorem yields_modify {update : σ → σ} {start next : σ} {value : PUnit}
    : Yields (modify update : StateT σ (Except ε) PUnit) start value next
      ↔ next = update start := by
  simp only [Yields, modify, modifyGet, MonadStateOf.modifyGet, StateT.modifyGet]
  exact ⟨fun h => by cases h; rfl, fun h => by rw [h]; rfl⟩

theorem yields_modifyGet {update : σ → α × σ} {start next : σ} {value : α}
    : Yields (modifyGet update : StateT σ (Except ε) α) start value next
      ↔ update start = (value, next) := by
  simp only [Yields, modifyGet, MonadStateOf.modifyGet, StateT.modifyGet]
  exact ⟨fun h => by injection h, fun h => by rw [h]; rfl⟩

/-- Sequences that agree step by step agree. -/
theorem bind_agrees {first first' : StateT σ (Except ε) α}
    {rest rest' : α → StateT σ (Except ε) β} {start : σ} (head : first start = first' start)
    (tail
      : ∀ value next, Yields first' start value next → rest value next = rest' value next)
    : (first >>= rest) start = (first' >>= rest') start := by
  simp only [bind, StateT.bind, Except.bind, head]
  cases outcome : first' start with
  | error fault => rfl
  | ok pair => exact tail pair.1 pair.2 outcome

/-- A sequence goes on from where its first step ends. -/
theorem bind_ends {first : StateT σ (Except ε) α} {rest : α → StateT σ (Except ε) β}
    {start middle : σ} {value : α} (run : Yields first start value middle)
    : (first >>= rest) start = rest value middle := by
  simp only [bind, StateT.bind, Except.bind]
  rw [show first start = .ok (value, middle) from run]

/-- A sequence ends with the fault of its first step. -/
theorem bind_faults {first : StateT σ (Except ε) α} {rest : α → StateT σ (Except ε) β}
    {start : σ} {fault : ε} (failed : first start = .error fault)
    : (first >>= rest) start = .error fault := by
  simp only [bind, StateT.bind, Except.bind]
  rw [failed]

-----------------------------------------------------------------------------------------
-- Preconditions and postconditions
-----------------------------------------------------------------------------------------

/-- Every fault-free run from a state in `pre` ends with a value and state in `post`. -/
def Holds (pre : σ → Prop) (program : StateT σ (Except ε) α) (post : α → σ → Prop)
    : Prop :=
  ∀ ⦃start value next⦄, pre start → Yields program start value next → post value next

theorem Holds.pure {pre : σ → Prop} {post : α → σ → Prop} {value : α}
    (established : ∀ state, pre state → post value state)
    : Holds pre (pure value : StateT σ (Except ε) α) post := by
  intro start value' next before run
  obtain ⟨rfl, rfl⟩ := yields_pure.mp run
  exact established _ before

/-- Sequencing composes through any intermediate assertion. -/
theorem Holds.bind {pre : σ → Prop} {middle : α → σ → Prop} {post : β → σ → Prop}
    {first : StateT σ (Except ε) α} {rest : α → StateT σ (Except ε) β}
    (head : Holds pre first middle) (tail : ∀ value, Holds (middle value) (rest value) post)
    : Holds pre (first >>= rest) post := by
  intro start value next before run
  obtain ⟨bound, state, hfirst, hrest⟩ := yields_bind.mp run
  exact tail bound (head before hfirst) hrest

theorem Holds.ite {pre : σ → Prop} {post : α → σ → Prop} {condition : Prop}
    [Decidable condition] {yes no : StateT σ (Except ε) α} (hyes : Holds pre yes post)
    (hno : Holds pre no post)
    : Holds pre (if condition then yes else no) post := by
  split
  · exact hyes
  · exact hno

theorem Holds.weaken {pre pre' : σ → Prop} {post post' : α → σ → Prop}
    {program : StateT σ (Except ε) α}
    (correct : Holds pre program post) (stronger : ∀ state, pre' state → pre state)
    (weaker : ∀ value state, post value state → post' value state)
    : Holds pre' program post' :=
  fun _ _ _ before run => weaker _ _ (correct (stronger _ before) run)

-----------------------------------------------------------------------------------------
-- Total correctness from one state
-----------------------------------------------------------------------------------------

/-- Started in `start` the program does not fault, and ends with a value and state in
`post`.
-/
def Delivers (program : StateT σ (Except ε) α) (start : σ) (post : α → σ → Prop) : Prop :=
  ∃ value next, Yields program start value next ∧ post value next

theorem Delivers.pure {value : α} {start : σ} {post : α → σ → Prop}
    (established : post value start)
    : Delivers (pure value : StateT σ (Except ε) α) start post :=
  ⟨value, start, yields_pure.mpr ⟨rfl, rfl⟩, established⟩

/-- The first program must end where the rest delivers. -/
theorem Delivers.bind {first : StateT σ (Except ε) α} {rest : α → StateT σ (Except ε) β}
    {start : σ} {post : β → σ → Prop}
    (delivered : Delivers first start (fun value state => Delivers (rest value) state post))
    : Delivers (first >>= rest) start post := by
  obtain ⟨value, middle, hfirst, last, next, hrest, established⟩ := delivered
  exact ⟨last, next, yields_bind.mpr ⟨value, middle, hfirst, hrest⟩, established⟩

theorem Delivers.get {start : σ} {post : σ → σ → Prop} (established : post start start)
    : Delivers (get : StateT σ (Except ε) σ) start post :=
  ⟨start, start, yields_get.mpr ⟨rfl, rfl⟩, established⟩

theorem Delivers.modify {update : σ → σ} {start : σ} {post : PUnit → σ → Prop}
    (established : post ⟨⟩ (update start))
    : Delivers (modify update : StateT σ (Except ε) PUnit) start post :=
  ⟨⟨⟩, update start, yields_modify.mpr rfl, established⟩

theorem Delivers.weaken {program : StateT σ (Except ε) α} {start : σ}
    {post post' : α → σ → Prop} (delivered : Delivers program start post)
    (weaker : ∀ value state, post value state → post' value state)
    : Delivers program start post' := by
  obtain ⟨value, next, run, established⟩ := delivered
  exact ⟨value, next, run, weaker value next established⟩

/-- A run is the one that was delivered, since programs are functions. -/
theorem Delivers.of_yields {program : StateT σ (Except ε) α} {start next : σ} {value : α}
    {post : α → σ → Prop} (delivered : Delivers program start post)
    (run : Yields program start value next)
    : post value next := by
  obtain ⟨value', next', run', established⟩ := delivered
  have same : (Except.ok (value, next) : Except ε (α × σ)) = .ok (value', next') :=
    run.symm.trans run'
  cases same
  exact established

-----------------------------------------------------------------------------------------
-- Conduct
-----------------------------------------------------------------------------------------

/-- What programs are held to: which states a run may lead to, and which faults may end it.
Both are judged from the state the run starts in, and in steps.
-/
structure Conduct (σ : Type) (ε : Type) where
  related : σ → σ → Prop
  tolerates : σ → ε → Prop
  refl : ∀ state, related state state
  trans : ∀ {first second third},
    related first second → related second third → related first third
  later : ∀ {first second fault},
    related first second → tolerates second fault → tolerates first fault

/-- The outcome of a run from the given state is within the conduct. -/
inductive Conduct.Admits {σ ε α : Type} (conduct : Conduct σ ε) (start : σ)
    : Except ε (α × σ) → Prop
  | returned {value next} (related : conduct.related start next)
    : Admits conduct start (.ok (value, next))
  | failed {fault} (tolerated : conduct.tolerates start fault)
    : Admits conduct start (.error fault)

/-- Every run of the program is within the conduct. -/
def Within {σ ε α : Type} (conduct : Conduct σ ε) (program : StateT σ (Except ε) α) : Prop :=
  ∀ start, conduct.Admits start (program start)

section Within

variable {σ ε α β ι : Type} {conduct : Conduct σ ε}

theorem Within.pure (value : α) : Within conduct (pure value : StateT σ (Except ε) α) :=
  fun state => .returned (conduct.refl state)

theorem Within.throw {fault : ε} (tolerated : ∀ state, conduct.tolerates state fault)
    : Within conduct (throw fault : StateT σ (Except ε) α) :=
  fun state => .failed (tolerated state)

/-- A sequence is within a conduct if its head is, and its rest from where the head ends. -/
theorem Within.step {first : StateT σ (Except ε) α} {rest : α → StateT σ (Except ε) β}
    (head : Within conduct first)
    (tail
      : ∀ start value next, Yields first start value next
        → conduct.Admits next (rest value next))
    : Within conduct (first >>= rest) := by
  intro start
  have begun := head start
  simp only [bind, StateT.bind, Except.bind]
  cases outcome : first start with
  | error fault =>
      rw [outcome] at begun
      cases begun with
      | failed tolerated => exact .failed tolerated
  | ok pair =>
      obtain ⟨value, next⟩ := pair
      rw [outcome] at begun
      have ended := tail start value next outcome
      cases begun with
      | returned related =>
          dsimp only
          cases final : rest value next with
          | error fault =>
              rw [final] at ended
              cases ended with
              | failed tolerated => exact .failed (conduct.later related tolerated)
          | ok last =>
              rw [final] at ended
              cases ended with
              | returned later => exact .returned (conduct.trans related later)

/-- What both halves of a sequence stay within, the sequence stays within. -/
theorem Within.bind {first : StateT σ (Except ε) α} {rest : α → StateT σ (Except ε) β}
    (head : Within conduct first) (tail : ∀ value, Within conduct (rest value))
    : Within conduct (first >>= rest) :=
  head.step (fun _ value next _ => tail value next)

theorem Within.get : Within conduct (get : StateT σ (Except ε) σ) :=
  fun state => .returned (conduct.refl state)

theorem Within.modify {update : σ → σ}
    (allowed : ∀ state, conduct.related state (update state))
    : Within conduct (modify update : StateT σ (Except ε) PUnit) :=
  fun state => .returned (allowed state)

theorem Within.ite {condition : Prop} [Decidable condition]
    {yes no : StateT σ (Except ε) α} (hyes : Within conduct yes) (hno : Within conduct no)
    : Within conduct (if condition then yes else no) := by
  split
  · exact hyes
  · exact hno

/-- Running a program over each element of a list stays within what every run does. -/
theorem Within.forM {program : ι → StateT σ (Except ε) PUnit} {items : List ι}
    (each : ∀ item ∈ items, Within conduct (program item))
    : Within conduct (items.forM program) := by
  induction items with
  | nil => exact Within.pure _
  | cons head tail ih =>
      refine Within.bind (each head List.mem_cons_self) (fun _ => ih ?_)
      exact fun item inside => each item (List.mem_cons_of_mem _ inside)

/-- A fault-free run relates the states it starts and ends in. -/
theorem Within.related {program : StateT σ (Except ε) α} (within : Within conduct program)
    {start next : σ} {value : α} (run : Yields program start value next)
    : conduct.related start next := by
  have admitted := within start
  rw [run] at admitted
  cases admitted with
  | returned related => exact related

/-- A fault that ends a run is tolerated where the run started. -/
theorem Within.tolerated {program : StateT σ (Except ε) α} (within : Within conduct program)
    {start : σ} {fault : ε} (failed : program start = .error fault)
    : conduct.tolerates start fault := by
  have admitted := within start
  rw [failed] at admitted
  cases admitted with
  | failed tolerated => exact tolerated

end Within

-----------------------------------------------------------------------------------------
-- Conducts
-----------------------------------------------------------------------------------------

/-- Fault-free runs relate the states they start and end in; faults are not looked at. -/
def Conduct.relating {σ ε : Type} (related : σ → σ → Prop) [IsPreorder σ related]
    : Conduct σ ε where
  related := related
  tolerates := fun _ _ => True
  refl := refl_of related
  trans := trans_of related
  later := fun _ _ => trivial

/-- Fault-free runs related by the conduct of a preorder. -/
theorem within_relating {σ ε α : Type} {related : σ → σ → Prop} [IsPreorder σ related]
    {program : StateT σ (Except ε) α}
    (runs : ∀ {start value next}, Yields program start value next → related start next)
    : Within (Conduct.relating related) program := by
  intro start
  cases outcome : program start with
  | error fault => exact .failed trivial
  | ok pair => exact .returned (runs outcome)

/-- If the invariant holds before, it holds after. -/
def Sustained {σ : Type} (invariant : σ → Prop) (start next : σ) : Prop :=
  invariant start → invariant next

instance {σ : Type} (invariant : σ → Prop) : IsPreorder σ (Sustained invariant) where
  refl := fun _ => id
  trans := fun _ _ _ first second => second ∘ first

/-- The conduct of keeping an invariant. -/
abbrev Conduct.sustaining {σ ε : Type} (invariant : σ → Prop) : Conduct σ ε :=
  Conduct.relating (Sustained invariant)

/-- The conduct of keeping an invariant from which a fault never comes. -/
def Conduct.averting {σ ε : Type} (invariant : σ → Prop) (averted : ε) : Conduct σ ε where
  related := Sustained invariant
  tolerates := fun start fault => invariant start → fault ≠ averted
  refl := fun _ => id
  trans := fun first second => second ∘ first
  later := fun first tolerated => tolerated ∘ first

/-- An invariant program that never ends with the fault averts it. -/
theorem within_averting {σ ε α : Type} {invariant : σ → Prop} {averted : ε}
    {program : StateT σ (Except ε) α} (holds : Holds invariant program (fun _ => invariant))
    (never : Within (Conduct.averting (fun _ => True) averted) program)
    : Within (Conduct.averting invariant averted) program := by
  intro start
  cases outcome : program start with
  | error fault => exact .failed (fun _ => never.tolerated outcome trivial)
  | ok pair => exact .returned (fun before => holds before outcome)

/-- A program that comes to an end within the invariant averts any fault. -/
theorem Delivers.within_averting {σ ε α : Type} {invariant : σ → Prop} {averted : ε}
    {program : StateT σ (Except ε) α}
    (delivers : ∀ start, invariant start → Delivers program start (fun _ => invariant))
    : Within (Conduct.averting invariant averted) program := by
  intro start
  cases outcome : program start with
  | error fault =>
      refine .failed (fun before => ?_)
      obtain ⟨_, _, run, _⟩ := delivers start before
      rw [Yields, outcome] at run
      cases run
  | ok pair => exact .returned (fun before => (delivers start before).of_yields outcome)

/-- What a program sustains is an invariant of it. -/
theorem Within.holds {σ ε α : Type} {invariant : σ → Prop}
    {program : StateT σ (Except ε) α}
    (within : Within (Conduct.sustaining invariant) program)
    : Holds invariant program (fun _ => invariant) :=
  fun _ _ _ before run => within.related run before

theorem Holds.within {σ ε α : Type} {invariant : σ → Prop}
    {program : StateT σ (Except ε) α} (holds : Holds invariant program (fun _ => invariant))
    : Within (Conduct.sustaining invariant) program :=
  within_relating (fun run before => holds before run)

end FaultState
