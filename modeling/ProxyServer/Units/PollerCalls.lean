import ProxyServer.Units.PollerObject

/-! Whether epoll's data for a descriptor stays in step with the slot of its object.
`ApplyEvents` moves the sequence number of the slot on before it tells epoll; what epoll holds
stays behind when `epoll_ctl` fails.
-/

namespace ProxyServer.Units

/-- A call on an object that is not detached: asking for other events, `AttachPoller` with the
sequence number of the slot that is free, if any, and `ApplyEvents`, each with whether
`epoll_ctl` succeeds. The object keeps its slot, so only the sequence number of epoll's data can
differ.
-/
inductive PollerCall
  | ask (events : Interest)
  | attachPoller (slot : Option Nat) (ctl : Bool)
  | applyEvents (ctl : Bool)

namespace PollerCall

def perform (poller : PollerObject) : PollerCall → PollerObject
  | .ask events => { poller with newEvents := events }
  | .attachPoller slot ctl => (poller.attachPoller slot ctl).2
  | .applyEvents ctl => (poller.applyEvents ctl).2

/-- The object behind some calls. -/
def after (calls : List PollerCall) (poller : PollerObject) : PollerObject :=
  calls.foldl perform poller

/-- The call makes `epoll_ctl` modify a registration. -/
def Modifies (poller : PollerObject) : PollerCall → Prop
  | .ask _ => False
  | .attachPoller _ _ =>
      0 ≤ poller.netfd ∧ poller.attached = true ∧ poller.oldEvents ≠ poller.newEvents
  | .applyEvents _ => poller.attached = true ∧ poller.oldEvents ≠ poller.newEvents

/-- Whether `epoll_ctl` succeeds in the call, if it is made. -/
def succeeds : PollerCall → Bool
  | .ask _ => true
  | .attachPoller _ ctl => ctl
  | .applyEvents ctl => ctl

end PollerCall

namespace PollerObject

/-- Epoll's data for a registered descriptor is that of the slot: its events pass
`VerifyEvents`.
-/
def InStep (poller : PollerObject) : Prop :=
  poller.attached = true
    → ∀ mask seq, poller.kernel = some (mask, seq) → SameSeq seq poller.seq

/-- Only attached objects are registered. -/
def Unregistered (poller : PollerObject) : Prop :=
  poller.attached = false → poller.kernel = none

variable {poller : PollerObject}

-----------------------------------------------------------------------------------------
-- One call
-----------------------------------------------------------------------------------------

theorem Unregistered.applyEvents (unregistered : poller.Unregistered) (ctl : Bool)
    : (poller.applyEvents ctl).2.Unregistered := by
  intro detached
  rw [applyEvents_attached] at detached
  rw [PollerObject.applyEvents, if_pos (Or.inl detached)]
  exact unregistered detached

theorem Unregistered.perform (unregistered : poller.Unregistered) (call : PollerCall)
    : (call.perform poller).Unregistered := by
  cases call with
  | ask events => exact unregistered
  | applyEvents ctl => exact unregistered.applyEvents ctl
  | attachPoller slot ctl =>
      unfold PollerCall.perform PollerObject.attachPoller
      split_ifs with closed attached
      · exact unregistered
      · exact unregistered.applyEvents ctl
      · cases slot with
        | none => exact unregistered
        | some seq => cases ctl <;> exact nofun

/-- `ApplyEvents` keeps the object in step unless it has to modify a registration and fails. -/
theorem InStep.applyEvents_iff (inStep : poller.InStep) (ctl : Bool)
    : (poller.applyEvents ctl).2.InStep
      ↔ (poller.attached = true ∧ poller.oldEvents ≠ poller.newEvents
          → poller.kernel ≠ none → ctl = true) := by
  rw [PollerObject.applyEvents]
  split_ifs with settled succeeds
  · refine iff_of_true inStep (fun modifies => ?_)
    rcases settled with detached | same
    · rw [modifies.1] at detached
      cases detached
    · exact absurd same modifies.2
  · refine iff_of_true ?_ (fun _ _ => succeeds)
    rintro - mask seq ⟨⟩
    rfl
  · obtain ⟨attached, differ⟩ := not_or.mp settled
    have attached : poller.attached = true := by simpa using attached
    constructor
    · intro after _ registered
      obtain ⟨⟨mask, seq⟩, held⟩ := Option.ne_none_iff_exists'.mp registered
      have before : seq % 2 ^ 32 = poller.seq % 2 ^ 32 := inStep attached mask seq held
      have behind : seq % 2 ^ 32 = (poller.seq + 1) % 2 ^ 32 := after attached mask seq held
      omega
    · intro excluded _ mask seq held
      have absent : poller.kernel = none :=
        not_not.mp (fun registered => succeeds (excluded ⟨attached, differ⟩ registered))
      have held : poller.kernel = some (mask, seq) := held
      rw [absent] at held
      cases held

/-- A call keeps the object in step unless it has to modify a registration and fails. -/
theorem InStep.perform_iff (inStep : poller.InStep) (unregistered : poller.Unregistered)
    (call : PollerCall)
    : (call.perform poller).InStep
      ↔ (call.Modifies poller → poller.kernel ≠ none → call.succeeds = true) := by
  cases call with
  | ask events => exact iff_of_true inStep nofun
  | applyEvents ctl => exact inStep.applyEvents_iff ctl
  | attachPoller slot ctl =>
      have opened : ¬poller.netfd < 0 ↔ 0 ≤ poller.netfd := Int.not_lt
      unfold PollerCall.perform PollerObject.attachPoller
      split_ifs with closed attached
      · exact iff_of_true inStep (fun modifies => absurd modifies.1 (by omega))
      · rw [inStep.applyEvents_iff ctl]
        have opened := opened.mp closed
        exact ⟨fun kept modifies => kept modifies.2, fun kept modifies => kept ⟨opened, modifies⟩⟩
      · refine iff_of_true ?_ (fun modifies => absurd modifies.2.1 attached)
        cases slot with
        | none => exact inStep
        | some seq =>
            cases ctl with
            | true =>
                rintro - mask seq' ⟨⟩
                rfl
            | false =>
                intro _ mask seq' held
                have held : poller.kernel = some (mask, seq') := held
                rw [unregistered (eq_false_of_ne_true attached)] at held
                cases held

-----------------------------------------------------------------------------------------
-- Sequences of calls
-----------------------------------------------------------------------------------------

/-- The object is in step all along some calls exactly when each of them that has to modify a
registration succeeds, by induction over the calls.
-/
theorem InStep.after_iff (inStep : poller.InStep) (unregistered : poller.Unregistered)
    (calls : List PollerCall)
    : (∀ earlier, earlier <+: calls → (PollerCall.after earlier poller).InStep)
      ↔ ∀ earlier call, earlier ++ [call] <+: calls
          → call.Modifies (PollerCall.after earlier poller)
          → (PollerCall.after earlier poller).kernel ≠ none → call.succeeds = true := by
  induction calls generalizing poller with
  | nil => simp [PollerCall.after, inStep]
  | cons first rest ih =>
      have step := inStep.perform_iff unregistered first
      constructor
      · intro all earlier call before
        have next := step.mp (all [first] (List.prefix_append [first] rest))
        cases earlier with
        | nil =>
            obtain ⟨rfl, -⟩ := List.cons_prefix_cons.mp before
            exact next
        | cons head earlier =>
            obtain ⟨rfl, inner⟩ := List.cons_prefix_cons.mp before
            have later := (ih (step.mpr next) (unregistered.perform head)).mp
              (fun more inside => all (head :: more) (List.cons_prefix_cons.mpr ⟨rfl, inside⟩))
            exact later earlier call inner
      · intro all earlier before
        have next := step.mpr (all [] first (List.prefix_append [first] rest))
        cases earlier with
        | nil => exact inStep
        | cons head earlier =>
            obtain ⟨rfl, inner⟩ := List.cons_prefix_cons.mp before
            exact (ih next (unregistered.perform head)).mpr
              (fun more call inside =>
                all (head :: more) call (List.cons_prefix_cons.mpr ⟨rfl, inside⟩))
              earlier inner

/-- A new object is in step all along its calls exactly when each `epoll_ctl` that is to modify
its registration succeeds.
-/
theorem calls_in_step_iff (fd : Int) (calls : List PollerCall)
    : (∀ earlier, earlier <+: calls → (PollerCall.after earlier (create fd)).InStep)
      ↔ ∀ earlier call, earlier ++ [call] <+: calls
          → call.Modifies (PollerCall.after earlier (create fd))
          → (PollerCall.after earlier (create fd)).kernel ≠ none → call.succeeds = true := by
  have inStep : (create fd).InStep := nofun
  exact inStep.after_iff (fun _ => rfl) calls

/-- One failure of `epoll_ctl` puts an object out of step. -/
theorem failed_modification_out_of_step
    : ¬∀ (fd : Int) (calls : List PollerCall), (PollerCall.after calls (create fd)).InStep := by
  intro always
  have inStep := always 5
    [.ask ⟨true, false⟩, .attachPoller (some 0) true, .ask ⟨true, true⟩, .applyEvents false]
  exact absurd (inStep rfl ⟨true, false⟩ 1 rfl) (by decide)

end PollerObject

end ProxyServer.Units
