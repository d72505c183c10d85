import Mathlib

/-! States that a transition system can reach, and the rules for what holds in all of them.
A step carries a label: an input, an event, or the environment's answer to a call.
-/

namespace Reachability

variable {σ τ ι : Type}

/-- The states reached from an initial one by enabled steps. -/
inductive Reachable (initial : σ → Prop) (step : σ → ι → σ → Prop) : σ → Prop
  | start {state} (first : initial state) : Reachable initial step state
  | step {state label next} (earlier : Reachable initial step state)
    (taken : step state label next)
    : Reachable initial step next

variable {initial : σ → Prop} {step : σ → ι → σ → Prop}

/-- What holds initially and is kept by every step holds in every reachable state. -/
theorem Reachable.invariant {state : σ} (reached : Reachable initial step state)
    (invariant : σ → Prop) (established : ∀ state, initial state → invariant state)
    (kept : ∀ state label next, invariant state → step state label next → invariant next)
    : invariant state := by
  induction reached with
  | start first => exact established _ first
  | step _ taken ih => exact kept _ _ _ ih taken

end Reachability
