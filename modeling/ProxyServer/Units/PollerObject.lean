import ProxyServer.Units.Defs

/-! A descriptor's registration with epoll: `CPollerObject` over one slot of `CPollerUnit`.
The sequence number of a slot is kept as the number of its moves; the code compares the low
32 bits of it.
-/

namespace ProxyServer.Units

/-- The `EPOLLIN` and `EPOLLOUT` bits of an event mask. -/
structure Interest where
  input : Bool
  output : Bool
  deriving DecidableEq, Repr

def Interest.none : Interest := ⟨false, false⟩

/-- Two sequence numbers that the code cannot tell apart. -/
def SameSeq (first second : Nat) : Prop :=
  first % 2 ^ 32 = second % 2 ^ 32

instance (first second : Nat) : Decidable (SameSeq first second) :=
  inferInstanceAs (Decidable (_ = _))

/-- The data members of `CPollerObject`, with the slot's sequence number and what epoll
holds for the descriptor: the mask and sequence number of the last successful `epoll_ctl`.
-/
structure PollerObject where
  netfd : Int
  newEvents : Interest
  oldEvents : Interest
  attached : Bool
  seq : Nat
  kernel : Option (Interest × Nat)
  deriving DecidableEq, Repr

namespace PollerObject

/-- `CPollerObject(o, fd)`. -/
def create (fd : Int) : PollerObject where
  netfd := fd
  newEvents := Interest.none
  oldEvents := Interest.none
  attached := false
  seq := 0
  kernel := none

def enableInput (poller : PollerObject) : PollerObject :=
  { poller with newEvents := { poller.newEvents with input := true } }

def enableOutput (poller : PollerObject) : PollerObject :=
  { poller with newEvents := { poller.newEvents with output := true } }

def disableInput (poller : PollerObject) : PollerObject :=
  { poller with newEvents := { poller.newEvents with input := false } }

def disableOutput (poller : PollerObject) : PollerObject :=
  { poller with newEvents := { poller.newEvents with output := false } }

/-- `ApplyEvents`, given whether `epoll_ctl` succeeds. The sequence number moves on before
the call, also when it fails.
-/
def applyEvents (ctl : Bool) (poller : PollerObject) : Int × PollerObject :=
  if poller.attached = false ∨ poller.oldEvents = poller.newEvents then (0, poller)
  else if ctl then
    (0,
      { poller with
        seq := poller.seq + 1
        oldEvents := poller.newEvents
        kernel := some (poller.newEvents, poller.seq + 1) })
  else (-1, { poller with seq := poller.seq + 1 })

/-- `AttachPoller()`, given the sequence number of the slot that is free, if any. -/
def attachPoller (slot : Option Nat) (ctl : Bool) (poller : PollerObject)
    : Int × PollerObject :=
  if poller.netfd < 0 then (-1, poller)
  else if poller.attached then poller.applyEvents ctl
  else
    match slot with
    | none => (-1, poller)
    | some seq =>
        if ctl then
          (0,
            { poller with
              attached := true
              seq := seq + 1
              oldEvents := poller.newEvents
              kernel := some (poller.newEvents, seq + 1) })
        else (-1, { poller with attached := true, seq := seq + 1 })

/-- `DetachPoller`. -/
def detachPoller (ctl : Bool) (poller : PollerObject) : PollerObject :=
  if poller.attached then
    { poller with
      attached := false
      seq := poller.seq + 1
      oldEvents := if ctl then poller.newEvents else poller.oldEvents
      kernel := if ctl then none else poller.kernel }
  else poller

/-- `~CPollerObject`: the slot is freed, and closing the descriptor ends its registration. -/
def destroy (poller : PollerObject) : PollerObject :=
  { poller with
    netfd := 0
    attached := false
    seq := if poller.attached then poller.seq + 1 else poller.seq
    kernel := none }

/-- What `ProcessPollerEvents` does to the object before its callbacks. -/
def beginEvent (poller : PollerObject) : PollerObject :=
  { poller with newEvents := poller.oldEvents }

/-- The events that epoll can report and `VerifyEvents` lets through: the mask of the
current registration.
-/
def deliverable (poller : PollerObject) : Interest :=
  match poller.kernel with
  | some (mask, seq) => if poller.attached ∧ SameSeq seq poller.seq then mask else Interest.none
  | none => Interest.none

-----------------------------------------------------------------------------------------
-- Small facts
-----------------------------------------------------------------------------------------

@[simp]
theorem applyEvents_netfd (ctl : Bool) (poller : PollerObject)
    : (poller.applyEvents ctl).2.netfd = poller.netfd := by
  unfold applyEvents
  split_ifs <;> rfl

@[simp]
theorem applyEvents_newEvents (ctl : Bool) (poller : PollerObject)
    : (poller.applyEvents ctl).2.newEvents = poller.newEvents := by
  unfold applyEvents
  split_ifs <;> rfl

@[simp]
theorem applyEvents_attached (ctl : Bool) (poller : PollerObject)
    : (poller.applyEvents ctl).2.attached = poller.attached := by
  unfold applyEvents
  split_ifs <;> rfl

@[simp]
theorem attachPoller_netfd (slot : Option Nat) (ctl : Bool) (poller : PollerObject)
    : (poller.attachPoller slot ctl).2.netfd = poller.netfd := by
  unfold attachPoller
  split_ifs
  · rfl
  · exact applyEvents_netfd ctl poller
  all_goals cases slot <;> rfl

@[simp]
theorem detachPoller_attached (ctl : Bool) (poller : PollerObject)
    : (poller.detachPoller ctl).attached = false := by
  unfold detachPoller
  split
  · rfl
  · rename_i detached
    exact eq_false_of_ne_true detached

-----------------------------------------------------------------------------------------
-- What epoll reports
-----------------------------------------------------------------------------------------

/-- The kernel's registration is not ahead of the slot, and its mask is the one the object
remembers.
-/
def Registered (poller : PollerObject) : Prop :=
  ∀ mask seq, poller.kernel = some (mask, seq) → seq ≤ poller.seq ∧ mask = poller.oldEvents

/-- The slot's number has not come round to the one that epoll holds: fewer than 2^32 calls of
`epoll_ctl` have failed since it last told epoll.
-/
def NotRound (poller : PollerObject) : Prop :=
  ∀ mask seq, poller.kernel = some (mask, seq) → poller.seq < seq + 2 ^ 32

variable {poller : PollerObject}

theorem notRound_of_unregistered (unregistered : poller.kernel = none) : poller.NotRound := by
  intro mask seq held
  rw [unregistered] at held
  cases held

/-- Asking for other events does not change the registration. -/
theorem Registered.ask (registered : poller.Registered) (events : Interest)
    : { poller with newEvents := events }.Registered :=
  registered

theorem Registered.applyEvents (registered : poller.Registered) (ctl : Bool)
    : (poller.applyEvents ctl).2.Registered := by
  unfold PollerObject.applyEvents
  split_ifs
  · exact registered
  · rintro mask seq ⟨⟩
    exact ⟨Nat.le_refl _, rfl⟩
  · intro mask seq held
    obtain ⟨older, same⟩ := registered mask seq held
    exact ⟨Nat.le_succ_of_le older, same⟩

theorem Registered.attachPoller (fresh : poller.kernel = none) (slot : Option Nat)
    (ctl : Bool)
    : (poller.attachPoller slot ctl).2.Registered := by
  have registered : poller.Registered := by
    intro mask seq held
    rw [fresh] at held
    cases held
  unfold PollerObject.attachPoller
  split_ifs
  · exact registered
  · exact registered.applyEvents ctl
  · cases slot with
    | none => exact registered
    | some seq =>
        rintro mask seq' ⟨⟩
        exact ⟨Nat.le_refl _, rfl⟩
  · cases slot with
    | none => exact registered
    | some seq =>
        intro mask seq' held
        rw [fresh] at held
        cases held

/-- Epoll reports only events that the object remembers having asked for. -/
theorem Registered.deliverable_eq (registered : poller.Registered)
    : poller.deliverable = poller.oldEvents ∨ poller.deliverable = Interest.none := by
  unfold deliverable
  cases held : poller.kernel with
  | none => exact Or.inr rfl
  | some registration =>
      obtain ⟨mask, seq⟩ := registration
      dsimp only
      split
      · exact Or.inl (registered mask seq held).2
      · exact Or.inr rfl

/-- Behind `ApplyEvents` epoll reports what was asked for, or nothing when it failed. -/
theorem Registered.deliverable_applyEvents (registered : poller.Registered) {ctl : Bool}
    (notRound : (poller.applyEvents ctl).2.NotRound)
    : (poller.applyEvents ctl).2.deliverable = poller.newEvents
      ∨ (poller.applyEvents ctl).2.deliverable = Interest.none := by
  unfold PollerObject.applyEvents at notRound ⊢
  split_ifs at notRound ⊢ with settled ctl'
  · rcases settled with detached | same
    · exact Or.inr (by simp only [deliverable, detached]; split <;> simp)
    · rw [← same]
      exact registered.deliverable_eq
  · have attached : poller.attached = true := by simpa using (not_or.mp settled).1
    exact Or.inl (by simp [deliverable, SameSeq, attached])
  · refine Or.inr ?_
    unfold deliverable
    cases held : poller.kernel with
    | none => rfl
    | some registration =>
        obtain ⟨mask, seq⟩ := registration
        have older := (registered mask seq held).1
        have near : poller.seq + 1 < seq + 2 ^ 32 := notRound mask seq held
        have moved : ¬SameSeq seq (poller.seq + 1) := by
          unfold SameSeq
          omega
        dsimp only
        rw [if_neg (fun current => moved current.2)]

@[simp]
theorem attachPoller_newEvents (slot : Option Nat) (ctl : Bool) (poller : PollerObject)
    : (poller.attachPoller slot ctl).2.newEvents = poller.newEvents := by
  unfold attachPoller
  split_ifs
  · rfl
  · exact applyEvents_newEvents ctl poller
  all_goals cases slot <;> rfl

/-- A new registration reports what was asked for, or nothing when it failed. -/
theorem deliverable_attachPoller (fresh : poller.kernel = none) (slot : Option Nat)
    (ctl : Bool)
    : (poller.attachPoller slot ctl).2.deliverable = poller.newEvents
      ∨ (poller.attachPoller slot ctl).2.deliverable = Interest.none := by
  have silent : poller.deliverable = Interest.none := by
    rw [deliverable, fresh]
  have registered : poller.Registered := by
    intro mask seq held
    rw [fresh] at held
    cases held
  unfold PollerObject.attachPoller
  split_ifs
  · exact Or.inr silent
  · refine registered.deliverable_applyEvents ?_
    unfold PollerObject.applyEvents
    split_ifs
    · exact notRound_of_unregistered fresh
    · rintro mask seq ⟨⟩
      exact Nat.lt_add_of_pos_right (Nat.two_pow_pos 32)
    · exact notRound_of_unregistered fresh
  · cases slot with
    | none => exact Or.inr silent
    | some seq => exact Or.inl (by simp [deliverable, SameSeq])
  · cases slot with
    | none => exact Or.inr silent
    | some seq => exact Or.inr (by simp [deliverable, fresh])

end PollerObject

end ProxyServer.Units
