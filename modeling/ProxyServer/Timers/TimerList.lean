import ProxyServer.Library.Draining
import ProxyServer.Runtime

/-! The timer lists: `CTimerObject`, `CTimerList` and what keeps a list sorted by deadline.
Each list is a ring through the objects themselves, so an object is in one list at most and
`ListMoveTail` takes it out of the list it is in. Times are microseconds.
-/

namespace ProxyServer.Timers

/-- A `CTimerObject`, by its address. -/
abbrev TimerObject := Nat

/-- A `CTimerList`, by its address. -/
abbrev TimerListId := Nat

/-- Conversion to `int64_t`. -/
def toInt64 (value : Int) : Int :=
  Int.bmod value 18446744073709551616

/-- What `GET_TIMESTAMP` can return: microseconds since 1970, up to the year 146000. -/
abbrev Timestamp := { time : Int // 0 ≤ time ∧ time < 4611686018427387904 }

/-- The timer lists, the deadlines in their objects, and the present time. -/
structure TimerState where
  timeout : TimerListId → Int32
  tlist : TimerListId → List TimerObject
  objexp : TimerObject → Int
  clock : Timestamp

namespace TimerState

/-- No object is attached; the deadlines are not initialised. -/
def initial (timeout : TimerListId → Int32) (objexp : TimerObject → Int) (clock : Timestamp)
    : TimerState :=
  { timeout := timeout, tlist := fun _ => [], objexp := objexp, clock := clock }

/-- `ResetList` and `ListDel`. -/
def resetList (timers : TimerState) (obj : TimerObject) : TimerState :=
  { timers with tlist := fun lst => (timers.tlist lst).filter (· ≠ obj) }

/-- `ListMoveTail`. -/
def listMoveTail (timers : TimerState) (obj : TimerObject) (lst : TimerListId) : TimerState :=
  let out := timers.resetList obj
  { out with tlist := Function.update out.tlist lst (out.tlist lst ++ [obj]) }

/-- The deadline that `AttachTimer` sets now. -/
def deadline (timers : TimerState) (lst : TimerListId) : Int :=
  toInt64 (timers.clock.val + (timers.timeout lst).toInt * 1000000)

/-- `AttachTimer`; a list without a positive timeout leaves the deadline as it is. -/
def attachTimer (timers : TimerState) (obj : TimerObject) (lst : TimerListId) : TimerState :=
  let armed :=
    if 0 < (timers.timeout lst).toInt then
      { timers with objexp := Function.update timers.objexp obj (timers.deadline lst) }
    else
      timers
  armed.listMoveTail obj lst

/-- `DisableTimer`. -/
def disableTimer (timers : TimerState) (obj : TimerObject) : TimerState :=
  timers.resetList obj

/-- `~CTimerObject`: its base takes it out of its list. -/
def destroy (timers : TimerState) (obj : TimerObject) : TimerState :=
  timers.resetList obj

/-- `CTimerObject()`: in no list, with whatever deadline the memory holds. -/
def create (timers : TimerState) (obj : TimerObject) (garbage : Int) : TimerState :=
  { timers.resetList obj with objexp := Function.update timers.objexp obj garbage }

end TimerState

/-- What can happen to the timers between two calls of `CheckExpired`, and in a callback. -/
inductive TimerOp
  | pass (reading : Timestamp)
  | create (obj : TimerObject) (garbage : Int)
  | attachTimer (obj : TimerObject) (lst : TimerListId)
  | disableTimer (obj : TimerObject)
  | destroy (obj : TimerObject)

namespace TimerOp

def perform (timers : TimerState) : TimerOp → TimerState
  | pass reading => { timers with clock := reading }
  | create obj garbage => timers.create obj garbage
  | attachTimer obj lst => timers.attachTimer obj lst
  | disableTimer obj => timers.disableTimer obj
  | destroy obj => timers.destroy obj

/-- The object an operation is called on. -/
def touched : TimerOp → List TimerObject
  | pass _ => []
  | create obj _ => [obj]
  | attachTimer obj _ => [obj]
  | disableTimer obj => [obj]
  | destroy obj => [obj]

/-- Time does not run backwards. -/
def Forward (timers : TimerState) : TimerOp → Prop
  | pass reading => timers.clock.val ≤ reading.val
  | _ => True

end TimerOp

/-- The operations in order. -/
def performAll (timers : TimerState) (ops : List TimerOp) : TimerState :=
  ops.foldl TimerOp.perform timers

/-- `GET_TIMESTAMP` never decreases while the operations are performed. -/
def NeverDecreases : TimerState → List TimerOp → Prop
  | _, [] => True
  | timers, op :: rest => op.Forward timers ∧ NeverDecreases (op.perform timers) rest

/-- The objects that any of the operations is called on. -/
def touchedBy (ops : List TimerOp) : List TimerObject :=
  ops.flatMap TimerOp.touched

-----------------------------------------------------------------------------------------
-- What one operation does to a list
-----------------------------------------------------------------------------------------

variable {timers : TimerState} {lst : TimerListId}

/-- A list of positive timeout sets deadlines that no clock has reached. -/
theorem deadline_eq (positive : 0 < (timers.timeout lst).toInt)
    : timers.deadline lst = timers.clock.val + (timers.timeout lst).toInt * 1000000 := by
  have early := timers.clock.property
  have small := (timers.timeout lst).toInt_lt
  exact Int.bmod_eq_of_le (by omega) (by omega)

theorem perform_timeout (op : TimerOp) : (op.perform timers).timeout = timers.timeout := by
  cases op with
  | attachTimer obj other =>
      simp only [TimerOp.perform, TimerState.attachTimer, TimerState.listMoveTail,
        TimerState.resetList]
      split <;> rfl
  | _ => rfl

theorem perform_clock_le {op : TimerOp} (forward : op.Forward timers)
    : timers.clock.val ≤ (op.perform timers).clock.val := by
  cases op with
  | pass reading => exact forward
  | attachTimer obj other =>
      simp only [TimerOp.perform, TimerState.attachTimer, TimerState.listMoveTail,
        TimerState.resetList]
      split <;> exact Int.le_refl _
  | _ => exact Int.le_refl _

/-- An object that an operation is not called on keeps its deadline. -/
theorem perform_objexp {op : TimerOp} {obj : TimerObject} (alone : obj ∉ op.touched)
    : (op.perform timers).objexp obj = timers.objexp obj := by
  cases op with
  | pass reading => rfl
  | create other garbage =>
      exact Function.update_of_ne (by simpa [TimerOp.touched] using alone) _ _
  | attachTimer other target =>
      simp only [TimerOp.perform, TimerState.attachTimer, TimerState.listMoveTail,
        TimerState.resetList]
      split
      · exact Function.update_of_ne (by simpa [TimerOp.touched] using alone) _ _
      · rfl
  | disableTimer other => rfl
  | destroy other => rfl

/-- The objects that an operation puts into a list: one that it has attached there. -/
def attached (lst : TimerListId) : TimerOp → List TimerObject
  | .attachTimer obj target => if target = lst then [obj] else []
  | _ => []

/-- An operation takes its object out of a list, and may put it back at the end. -/
theorem perform_tlist (op : TimerOp) (lst : TimerListId)
    : (op.perform timers).tlist lst
      = (timers.tlist lst).filter (· ∉ op.touched) ++ attached lst op := by
  have single : ∀ obj, (timers.tlist lst).filter (· ∉ [obj])
      = (timers.tlist lst).filter (· ≠ obj) := by
    intro obj
    exact List.filter_congr (fun other _ => by simp)
  cases op with
  | pass reading => simp [TimerOp.perform, TimerOp.touched, attached]
  | create obj garbage =>
      simp only [TimerOp.touched, attached, List.append_nil]
      exact (single obj).symm
  | attachTimer obj target =>
      have moved : (timers.attachTimer obj target).tlist lst
          = Function.update (timers.resetList obj).tlist target
            ((timers.resetList obj).tlist target ++ [obj]) lst := by
        simp only [TimerState.attachTimer, TimerState.listMoveTail, TimerState.resetList]
        split <;> rfl
      rw [TimerOp.perform, moved, TimerOp.touched, single, attached]
      by_cases same : target = lst
      · rw [if_pos same, same, Function.update_self]
        rfl
      · rw [if_neg same, List.append_nil, Function.update_of_ne (fun eq => same eq.symm)]
        rfl
  | disableTimer obj =>
      simp only [TimerOp.touched, attached, List.append_nil]
      exact (single obj).symm
  | destroy obj =>
      simp only [TimerOp.touched, attached, List.append_nil]
      exact (single obj).symm

/-- An operation puts only its own object into a list. -/
theorem attached_touched {op : TimerOp} {obj : TimerObject} (member : obj ∈ attached lst op)
    : obj ∈ op.touched := by
  cases op with
  | attachTimer other target =>
      rw [attached] at member
      split at member
      · exact member
      · cases member
  | _ => cases member

/-- An operation puts at most one object into a list. -/
theorem attached_single (lst : TimerListId) (op : TimerOp)
    : attached lst op = [] ∨ ∃ obj, attached lst op = [obj] := by
  cases op with
  | attachTimer obj target =>
      rw [attached]
      split
      · exact Or.inr ⟨obj, rfl⟩
      · exact Or.inl rfl
  | _ => exact Or.inl rfl

/-- An object that is put into a list of positive timeout gets a deadline from the clock. -/
theorem attached_objexp {op : TimerOp} {obj : TimerObject}
    (positive : 0 < (timers.timeout lst).toInt) (member : obj ∈ attached lst op)
    : (op.perform timers).objexp obj
      = timers.clock.val + (timers.timeout lst).toInt * 1000000 := by
  cases op with
  | attachTimer other target =>
      rw [attached] at member
      split at member
      · next same =>
          subst same
          obtain rfl := List.mem_singleton.mp member
          simp only [TimerOp.perform, TimerState.attachTimer, TimerState.listMoveTail,
            TimerState.resetList, if_pos positive, Function.update_self, deadline_eq positive]
      · cases member
  | _ => cases member

-----------------------------------------------------------------------------------------
-- The order of a list
-----------------------------------------------------------------------------------------

/-- A list is sorted by deadline, and no deadline is later than one set now. -/
structure TimerState.Sorted (timers : TimerState) (lst : TimerListId) : Prop where
  nodup : (timers.tlist lst).Nodup
  ascending
    : (timers.tlist lst).Pairwise
      (fun front behind => timers.objexp front ≤ timers.objexp behind)
  latest
    : ∀ obj ∈ timers.tlist lst,
        timers.objexp obj ≤ timers.clock.val + (timers.timeout lst).toInt * 1000000

theorem initial_sorted (timeout : TimerListId → Int32) (objexp : TimerObject → Int)
    (clock : Timestamp) (lst : TimerListId)
    : (TimerState.initial timeout objexp clock).Sorted lst where
  nodup := List.nodup_nil
  ascending := List.Pairwise.nil
  latest := fun _ member => nomatch member

/-- Any operation keeps a list of positive timeout sorted: the objects that stay keep their
deadlines, and one that comes in gets the latest deadline so far.
-/
theorem TimerState.Sorted.perform (sorted : timers.Sorted lst)
    (positive : 0 < (timers.timeout lst).toInt) {op : TimerOp} (forward : op.Forward timers)
    : (op.perform timers).Sorted lst := by
  have same : (op.perform timers).timeout = timers.timeout := perform_timeout op
  have later := perform_clock_le forward
  have listed := @perform_tlist timers op lst
  have stays : ∀ obj ∈ (timers.tlist lst).filter (· ∉ op.touched),
      obj ∈ timers.tlist lst ∧ (op.perform timers).objexp obj = timers.objexp obj := by
    intro obj member
    obtain ⟨inside, alone⟩ := List.mem_filter.mp member
    exact ⟨inside, perform_objexp (by simpa using alone)⟩
  have kept : ((timers.tlist lst).filter (· ∉ op.touched)).Pairwise
      (fun front behind => timers.objexp front ≤ timers.objexp behind) :=
    sorted.ascending.sublist List.filter_sublist
  refine ⟨?_, ?_, ?_⟩
  · rw [listed]
    have once : (attached lst op).Nodup := by
      rcases attached_single lst op with none | ⟨obj, one⟩
      · rw [none]
        exact List.nodup_nil
      · rw [one]
        exact List.nodup_singleton obj
    refine List.Nodup.append (sorted.nodup.sublist List.filter_sublist) once ?_
    intro obj member member'
    obtain ⟨_, alone⟩ := List.mem_filter.mp member
    exact absurd (attached_touched member') (by simpa using alone)
  · rw [listed]
    refine List.pairwise_append.mpr ⟨?_, ?_, ?_⟩
    · refine List.Pairwise.imp_of_mem (fun front behind order => ?_) kept
      rw [(stays _ front).2, (stays _ behind).2]
      exact order
    · rcases attached_single lst op with none | ⟨obj, one⟩
      · rw [none]
        exact List.Pairwise.nil
      · rw [one]
        exact List.pairwise_singleton _ obj
    · intro front inside behind added
      rw [(stays _ inside).2, attached_objexp positive added]
      exact sorted.latest front (stays _ inside).1
  · intro obj member
    rw [listed] at member
    rw [same]
    rcases List.mem_append.mp member with inside | added
    · rw [(stays _ inside).2]
      have bound := sorted.latest obj (stays _ inside).1
      omega
    · rw [attached_objexp positive added]
      omega

/-- A whole run keeps a list of positive timeout sorted, by induction over its operations. -/
theorem TimerState.Sorted.performAll {ops : List TimerOp} (sorted : timers.Sorted lst)
    (positive : 0 < (timers.timeout lst).toInt) (forward : NeverDecreases timers ops)
    : (performAll timers ops).Sorted lst := by
  induction ops generalizing timers with
  | nil => exact sorted
  | cons op rest ih =>
      obtain ⟨now, later⟩ := forward
      exact ih (sorted.perform positive now) (by rwa [perform_timeout]) later

theorem performAll_timeout (ops : List TimerOp)
    : (performAll timers ops).timeout = timers.timeout := by
  induction ops generalizing timers with
  | nil => rfl
  | cons op rest ih => exact ih.trans (perform_timeout op)

theorem performAll_clock_le {ops : List TimerOp} (forward : NeverDecreases timers ops)
    : timers.clock.val ≤ (performAll timers ops).clock.val := by
  induction ops generalizing timers with
  | nil => exact Int.le_refl _
  | cons op rest ih =>
      obtain ⟨now, later⟩ := forward
      exact (perform_clock_le now).trans (ih later)

/-- An object that no operation is called on keeps its deadline. -/
theorem performAll_objexp {ops : List TimerOp} {obj : TimerObject}
    (alone : obj ∉ touchedBy ops)
    : (performAll timers ops).objexp obj = timers.objexp obj := by
  induction ops generalizing timers with
  | nil => rfl
  | cons op rest ih =>
      rw [touchedBy, List.flatMap_cons, List.mem_append, not_or] at alone
      exact (ih alone.2).trans (perform_objexp alone.1)

/-- A run takes the objects it touches out of a list, and puts objects behind the others
whose deadlines the clock has not reached when they come in, by induction over its
operations.
-/
theorem performAll_tlist {ops : List TimerOp} {now : Int}
    (positive : 0 < (timers.timeout lst).toInt) (forward : NeverDecreases timers ops)
    (past : now ≤ timers.clock.val)
    : ∃ fresh,
        (performAll timers ops).tlist lst
          = (timers.tlist lst).filter (· ∉ touchedBy ops) ++ fresh
        ∧ ∀ obj ∈ fresh, now < (performAll timers ops).objexp obj := by
  induction ops generalizing timers with
  | nil => exact ⟨[], by simp [performAll, touchedBy], fun _ member => nomatch member⟩
  | cons op rest ih =>
      obtain ⟨here, later⟩ := forward
      have passed := perform_clock_le here
      obtain ⟨fresh, listed, after⟩ :=
        ih (by rwa [perform_timeout]) later (past.trans passed)
      refine ⟨(attached lst op).filter (· ∉ touchedBy rest) ++ fresh, ?_, ?_⟩
      · have both : ∀ obj ∈ timers.tlist lst,
            (decide (obj ∉ touchedBy rest) && decide (obj ∉ op.touched))
              = decide (obj ∉ touchedBy (op :: rest)) := by
          intro obj _
          simp only [touchedBy, List.flatMap_cons, List.mem_append, not_or, Bool.decide_and]
          exact Bool.and_comm _ _
        refine listed.trans ?_
        rw [perform_tlist, List.filter_append, List.filter_filter, ← List.append_assoc,
          List.filter_congr both]
      · intro obj member
        rcases List.mem_append.mp member with here' | fresh'
        · obtain ⟨added, alone⟩ := List.mem_filter.mp here'
          have kept : (performAll timers (op :: rest)).objexp obj
              = (op.perform timers).objexp obj :=
            performAll_objexp (by simpa using alone)
          rw [kept, attached_objexp positive added]
          omega
        · exact after obj fresh'

end ProxyServer.Timers
