import ProxyServer.Library.FaultState

/-! Which parts of a state a program can change.
What a program does to a state is described by kinds of single changes, and its footprint is
the set of kinds it makes. What is asked of a program is any relation that allows changes of
these kinds: that everything else stays as it was, or that an invariant is kept.
-/

namespace Footprint

open FaultState

variable {σ ε ι : Type} {Val : ι → Type}

/-- The two states look alike in every view but the given ones. -/
def Unchanged (view : ∀ part, σ → Val part) (parts : Set ι) (start next : σ) : Prop :=
  ∀ part, part ∉ parts → view part next = view part start

variable {changes : ι → σ → σ → Prop} {parts parts' : Set ι} {related : σ → σ → Prop}

/-- The relation allows any single change of the given kinds. -/
def Allows (changes : ι → σ → σ → Prop) (parts : Set ι) (related : σ → σ → Prop) : Prop :=
  ∀ part ∈ parts, ∀ start next, changes part start next → related start next

theorem Allows.mono (allows : Allows changes parts' related) (subset : parts ⊆ parts')
    : Allows changes parts related :=
  fun part inside => allows part (subset inside)

/-- An update that is an allowed change. -/
theorem Allows.modify {conduct : Conduct σ ε} (allows : Allows changes parts conduct.related)
    {part : ι} (inside : part ∈ parts) {update : σ → σ}
    (changed : ∀ state, changes part state (update state))
    : Within conduct (modify update : StateT σ (Except ε) PUnit) :=
  Within.modify (fun state => allows part inside state _ (changed state))

end Footprint
