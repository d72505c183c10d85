import ProxyServer.Library.FaultState

/-! While loops with local variables over a faulting state.
A loop runs on fuel; the rules give its invariants, and its result once a measure bounds the
number of turns.
-/

namespace BoundedLoop

variable {σ ε ι ρ : Type}

/-- How one turn of a loop ends: it leaves with a result or goes on with new locals. -/
inductive Turn (ρ ι : Type)
  | leave (result : ρ)
  | again (locals : ι)

/-- Runs `body` until it leaves; a loop out of fuel is `stuck`. -/
def run (stuck : ε) (body : ι → StateT σ (Except ε) (Turn ρ ι))
    : Nat → ι → StateT σ (Except ε) ρ
  | 0, _ => throw stuck
  | fuel + 1, locals => do
      match ← body locals with
      | .leave result => pure result
      | .again next => run stuck body fuel next

/-- The loop heads reached from one loop head, with the state each is reached in. -/
inductive Visits (body : ι → StateT σ (Except ε) (Turn ρ ι))
    : ι → σ → ι → σ → Prop
  | here {locals state} : Visits body locals state locals state
  | turn {locals state next middle last final}
    (again : FaultState.Yields (body locals) state (.again next) middle)
    (later : Visits body next middle last final)
    : Visits body locals state last final

/-- An assertion kept by every turn that goes on holds at every loop head reached. -/
theorem Visits.invariant {body : ι → StateT σ (Except ε) (Turn ρ ι)}
    (invariant : ι → σ → Prop)
    (kept
      : ∀ locals state next middle,
          invariant locals state
          → FaultState.Yields (body locals) state (.again next) middle
          → invariant next middle)
    {locals last : ι} {state final : σ} (visits : Visits body locals state last final)
    (initial : invariant locals state)
    : invariant last final := by
  induction visits with
  | here => exact initial
  | turn again _ ih => exact ih (kept _ _ _ _ initial again)

/-- How a loop comes to an end from one loop head: a loop head is reached where it leaves with
this outcome, or where its body faults.
-/
inductive Ends (body : ι → StateT σ (Except ε) (Turn ρ ι)) (locals : ι) (state : σ)
    : Except ε (ρ × σ) → Prop
  | leaves {last final result next} (visits : Visits body locals state last final)
    (left : FaultState.Yields (body last) final (.leave result) next)
    : Ends body locals state (.ok (result, next))
  | faults {last final fault} (visits : Visits body locals state last final)
    (failed : body last final = .error fault)
    : Ends body locals state (.error fault)

theorem Ends.turn {body : ι → StateT σ (Except ε) (Turn ρ ι)} {locals next : ι}
    {state middle : σ} {outcome : Except ε (ρ × σ)}
    (again : FaultState.Yields (body locals) state (.again next) middle)
    (later : Ends body next middle outcome)
    : Ends body locals state outcome := by
  cases later with
  | leaves visits left => exact .leaves (.turn again visits) left
  | faults visits failed => exact .faults (.turn again visits) failed

/-- A loop whose turns lower a measure comes to an end, given more fuel than the measure. -/
theorem run_ends (stuck : ε) {body : ι → StateT σ (Except ε) (Turn ρ ι)}
    (measure : ι → σ → Nat)
    (lowers
      : ∀ locals state next middle,
          FaultState.Yields (body locals) state (.again next) middle
          → measure next middle < measure locals state)
    {fuel : Nat} {locals : ι} {state : σ} (enough : measure locals state < fuel)
    : Ends body locals state (run stuck body fuel locals state) := by
  induction fuel generalizing locals state with
  | zero => omega
  | succ fuel ih =>
      cases outcome : body locals state with
      | error fault =>
          rw [run, FaultState.bind_faults outcome]
          exact .faults .here outcome
      | ok pair =>
          obtain ⟨turn, middle⟩ := pair
          rw [run, FaultState.bind_ends outcome]
          cases turn with
          | leave result => exact .leaves .here outcome
          | again next =>
              have lower := lowers _ _ _ _ outcome
              exact Ends.turn outcome (ih (by omega))

/-- Partial correctness of a loop from an invariant of its turns, by induction on the fuel. -/
theorem holds_run (stuck : ε) {body : ι → StateT σ (Except ε) (Turn ρ ι)}
    (invariant : ι → σ → Prop) {post : ρ → σ → Prop}
    (turn
      : ∀ locals, FaultState.Holds (invariant locals) (body locals)
          (fun turn state =>
            match turn with
            | .leave result => post result state
            | .again next => invariant next state))
    (fuel : Nat) (locals : ι)
    : FaultState.Holds (invariant locals) (run stuck body fuel locals) post := by
  induction fuel generalizing locals with
  | zero => exact fun _ _ _ _ run => (FaultState.not_yields_throw run).elim
  | succ fuel ih =>
      refine FaultState.Holds.bind (turn locals) (fun result => ?_)
      cases result with
      | leave result => exact FaultState.Holds.pure (fun _ h => h)
      | again next => exact ih next

/-- Loops whose turns agree wherever an invariant of them holds agree, by induction on the
fuel.
-/
theorem run_agrees (stuck : ε) {body body' : ι → StateT σ (Except ε) (Turn ρ ι)}
    (invariant : ι → σ → Prop)
    (same : ∀ locals state, invariant locals state → body locals state = body' locals state)
    (kept
      : ∀ locals state next middle,
          invariant locals state
          → FaultState.Yields (body' locals) state (.again next) middle
          → invariant next middle)
    {fuel : Nat} {locals : ι} {state : σ} (initial : invariant locals state)
    : run stuck body fuel locals state = run stuck body' fuel locals state := by
  induction fuel generalizing locals state with
  | zero => rfl
  | succ fuel ih =>
      refine FaultState.bind_agrees (same locals state initial) (fun turn next ran => ?_)
      cases turn with
      | leave result => rfl
      | again later => exact ih (kept _ _ _ _ initial ran)

/-- A loop stays within what each of its turns does. -/
theorem within_run {σ ε ι ρ : Type} {conduct : FaultState.Conduct σ ε} {stuck : ε}
    (tolerated : ∀ state, conduct.tolerates state stuck)
    {body : ι → StateT σ (Except ε) (Turn ρ ι)}
    (turn : ∀ locals, FaultState.Within conduct (body locals)) (fuel : Nat) (locals : ι)
    : FaultState.Within conduct (run stuck body fuel locals) := by
  induction fuel generalizing locals with
  | zero => exact FaultState.Within.throw tolerated
  | succ fuel ih =>
      refine FaultState.Within.bind (turn locals) (fun result => ?_)
      cases result with
      | leave result => exact FaultState.Within.pure result
      | again next => exact ih next

/-- Total correctness of a loop: turns that never fault, keep an invariant and lower a
measure leave with the postcondition, given more fuel than the measure.
-/
theorem run_total (stuck : ε) {body : ι → StateT σ (Except ε) (Turn ρ ι)}
    (invariant : ι → σ → Prop) {post : ρ → σ → Prop} (measure : ι → σ → Nat)
    (turn
      : ∀ locals state, invariant locals state
          → FaultState.Delivers (body locals) state
              (fun turn next =>
                match turn with
                | .leave result => post result next
                | .again again =>
                    invariant again next ∧ measure again next < measure locals state))
    {fuel : Nat} {locals : ι} {state : σ} (initial : invariant locals state)
    (enough : measure locals state < fuel)
    : FaultState.Delivers (run stuck body fuel locals) state post := by
  induction fuel generalizing locals state with
  | zero => omega
  | succ fuel ih =>
      refine FaultState.Delivers.bind ((turn locals state initial).weaken ?_)
      intro result next established
      cases result with
      | leave result => exact FaultState.Delivers.pure established
      | again again => exact ih established.1 (by have := established.2; omega)

end BoundedLoop
