import ProxyServer.Timers.TimerList

/-! `CTimerList::CheckExpired`: the expired objects of a list are notified in order.
The loop stops at the first object that has not expired, so it finds them all because the
list is sorted; it ends because a callback can only put unexpired objects into the list.
-/

namespace ProxyServer.Timers

/-- The operations that the callback of an object performs, called in a given state. -/
abbrev TimerNotify := TimerObject → TimerState → List TimerOp

/-- `GET_TIMESTAMP` never decreases while a callback runs. -/
def TimerNotify.Steady (timerNotify : TimerNotify) : Prop :=
  ∀ tobj timers, NeverDecreases timers (timerNotify tobj timers)

/-- The loop of `CheckExpired`: the front object is taken out and notified while its deadline
is not later than `now`.
-/
def expiry (timerNotify : TimerNotify) (lst : TimerListId) (now : Int)
    : Draining.Service TimerState TimerObject where
  queue := fun timers => timers.tlist lst
  due := fun timers tobj => !decide (now < timers.objexp tobj)
  serve := fun tobj timers =>
    let removed := timers.resetList tobj
    performAll removed (timerNotify tobj removed)
  touched := fun tobj timers => touchedBy (timerNotify tobj (timers.resetList tobj))

/-- The local `now` of `CheckExpired`. -/
def localNow (now : Int) (timers : TimerState) : Int :=
  if now = 0 then timers.clock.val else now

/-- `CheckExpired`: its result, the objects notified, each with the state in which the loop
found it, and the state it leaves.
-/
def checkExpired (timerNotify : TimerNotify) (lst : TimerListId) (now : Int) (fuel : Nat)
    (timers : TimerState)
    : Option (Int × List (TimerObject × TimerState) × TimerState) :=
  ((expiry timerNotify lst (localNow now timers)).drain fuel timers).map
    (fun (notified, final) => (notified.length, notified, final))

variable {timerNotify : TimerNotify} {lst : TimerListId} {now : Int} {timers : TimerState}

/-- An object has expired when its deadline is not later than `now`. -/
theorem due_iff {tobj : TimerObject}
    : (expiry timerNotify lst now).due timers tobj ↔ timers.objexp tobj ≤ now := by
  simp [expiry]

/-- What the loop keeps: a sorted list of positive timeout, and a `now` that has passed. -/
structure Expiring (lst : TimerListId) (now : Int) (timers : TimerState) : Prop where
  sorted : timers.Sorted lst
  positive : 0 < (timers.timeout lst).toInt
  past : now ≤ timers.clock.val

/-- The front of a list is taken out of it. -/
theorem resetList_front {front : TimerObject} {rest : List TimerObject}
    (sorted : timers.Sorted lst) (queued : timers.tlist lst = front :: rest)
    : (timers.resetList front).tlist lst = rest := by
  have nodup := sorted.nodup
  rw [queued] at nodup
  have absent := (List.nodup_cons.mp nodup).1
  have listed : (timers.resetList front).tlist lst
      = (timers.tlist lst).filter (· ≠ front) := rfl
  rw [listed, queued, List.filter_cons_of_neg (by simp), List.filter_eq_self]
  intro obj member
  exact decide_eq_true (fun same => absent (same ▸ member))

/-- Expired objects come first, and notifying one leaves the others as they are, up to what
its callback touches and to unexpired objects behind them.
-/
theorem expiry_orderly (steady : timerNotify.Steady)
    : (expiry timerNotify lst now).Orderly (Expiring lst now) where
  nodup := fun expiring => expiring.sorted.nodup
  dueFirst := by
    intro state expiring
    refine expiring.sorted.ascending.imp (fun order expired => ?_)
    rw [due_iff] at expired ⊢
    omega
  serves := by
    intro state front rest expiring queued _
    let removed := state.resetList front
    have listed : removed.tlist lst = rest := resetList_front expiring.sorted queued
    have disabled : (TimerOp.disableTimer front).Forward state := trivial
    have sorted : removed.Sorted lst := expiring.sorted.perform expiring.positive disabled
    have positive : 0 < (removed.timeout lst).toInt := expiring.positive
    have forward := steady front removed
    obtain ⟨fresh, changed, later⟩ := performAll_tlist positive forward expiring.past
    refine ⟨⟨sorted.performAll expiring.positive forward, ?_, ?_⟩, fresh, ?_, ?_, ?_⟩
    · exact (performAll_timeout _).symm ▸ expiring.positive
    · exact expiring.past.trans (performAll_clock_le forward)
    · exact changed.trans (by rw [listed]; rfl)
    · intro obj member expired
      have bound := later obj member
      exact absurd (due_iff.mp expired) (Int.not_le.mpr bound)
    · intro obj _ alone
      have kept : (performAll removed (timerNotify front removed)).objexp obj
          = removed.objexp obj := performAll_objexp alone
      rw [due_iff, due_iff]
      exact Eq.to_iff (congrArg (· ≤ now) kept)

/-- `CheckExpired` has notified exactly the objects that had expired and that no earlier
callback was called on, once each and in deadline order; the list is sorted before and
after, and nothing expired is left in it.
-/
structure NotifiesExpired (timerNotify : TimerNotify) (lst : TimerListId) (now : Int)
    (before : TimerState) (notified : List (TimerObject × TimerState)) (after : TimerState)
    : Prop where
  sorted : before.Sorted lst
  inOrder
    : (notified.map Prod.fst).Sublist
      ((before.tlist lst).filter (fun tobj => before.objexp tobj ≤ now))
  once : (notified.map Prod.fst).Nodup
  untouched
    : notified.Pairwise (fun earlier later =>
      later.1 ∉ touchedBy (timerNotify earlier.1 (earlier.2.resetList earlier.1)))
  complete
    : ∀ tobj ∈ before.tlist lst,
        before.objexp tobj ≤ now
        → tobj ∉ notified.map Prod.fst
        → ∃ earlier ∈ notified,
            tobj ∈ touchedBy (timerNotify earlier.1 (earlier.2.resetList earlier.1))
            ∧ [earlier.1, tobj].Sublist (before.tlist lst)
  left : ∀ tobj ∈ after.tlist lst, now < after.objexp tobj
  sortedAfter : after.Sorted lst

/-- What a drained list of expired objects says in the words of the timers. -/
theorem notifiesExpired_of_drained {notified : List (TimerObject × TimerState)}
    {after : TimerState} (sorted : timers.Sorted lst) (sortedAfter : after.Sorted lst)
    (drained : (expiry timerNotify lst now).Drained timers notified after)
    : NotifiesExpired timerNotify lst now timers notified after where
  sorted := sorted
  inOrder := by
    have same : (timers.tlist lst).filter ((expiry timerNotify lst now).due timers)
        = (timers.tlist lst).filter (fun tobj => timers.objexp tobj ≤ now) := by
      apply List.filter_congr
      intro tobj _
      exact Bool.eq_iff_iff.mpr (due_iff.trans decide_eq_true_iff.symm)
    rw [← same]
    exact drained.inOrder
  once := (sorted.nodup.sublist List.filter_sublist).sublist drained.inOrder
  untouched := drained.untouched
  complete := fun tobj member expired =>
    drained.complete tobj member (due_iff.mpr expired)
  left := fun tobj member => by
    have alive := drained.left tobj member
    rw [due_iff] at alive
    omega
  sortedAfter := sortedAfter

/-- After any run of timer operations in which `GET_TIMESTAMP` never decreases,
`CheckExpired` of a list of positive timeout ends, whatever its callbacks do to the timers,
and has notified the expired objects in order.
-/
theorem checkExpired_notifies_expired (timeout : TimerListId → Int32)
    (objexp : TimerObject → Int) (start : Timestamp) (history : List TimerOp)
    (forward : NeverDecreases (TimerState.initial timeout objexp start) history)
    (lst : TimerListId) (positive : 0 < (timeout lst).toInt) (timerNotify : TimerNotify)
    (steady : timerNotify.Steady) (now : Int)
    (past
      : now ≤ (performAll (TimerState.initial timeout objexp start) history).clock.val)
    : ∃ notified after,
        (∀ fuel,
          ((performAll (TimerState.initial timeout objexp start) history).tlist lst).length
            < fuel
          → checkExpired timerNotify lst now fuel
              (performAll (TimerState.initial timeout objexp start) history)
            = some (notified.length, notified, after))
        ∧ NotifiesExpired timerNotify lst
          (localNow now (performAll (TimerState.initial timeout objexp start) history))
          (performAll (TimerState.initial timeout objexp start) history) notified after := by
  have sorted := (initial_sorted timeout objexp start lst).performAll positive forward
  have same : (performAll (TimerState.initial timeout objexp start) history).timeout = timeout :=
    performAll_timeout history
  generalize performAll (TimerState.initial timeout objexp start) history = before
    at sorted same past ⊢
  have passed : localNow now before ≤ before.clock.val := by
    rw [localNow]
    split
    · exact Int.le_refl _
    · exact past
  have expiring : Expiring lst (localNow now before) before :=
    ⟨sorted, by rw [same]; exact positive, passed⟩
  have enough : ((before.tlist lst).filter
      ((expiry timerNotify lst (localNow now before)).due before)).length
        < (before.tlist lst).length + 1 :=
    Nat.lt_succ_of_le (List.length_filter_le _ _)
  obtain ⟨notified, after, run, expiringAfter, drained⟩ :=
    (expiry_orderly steady).drain_ends expiring enough
  refine ⟨notified, after, ?_, notifiesExpired_of_drained sorted expiringAfter.sorted drained⟩
  intro fuel large
  obtain ⟨extra, rfl⟩ := Nat.exists_eq_add_of_le (Nat.succ_le_of_lt large)
  rw [checkExpired, Draining.Service.drain_more run extra, Option.map_some]

/-- Two objects expire. The callback of the first puts it back and takes the second out, so
only the first is notified.
-/
theorem checkExpired_notifies_expired_first
    : let start := TimerState.initial (fun _ => 60) (fun _ => 0) ⟨5000000, by decide⟩
      let history := [.attachTimer 7 0, .attachTimer 8 0, .pass ⟨95000000, by decide⟩]
      let timerNotify : TimerNotify := fun tobj _ => [.attachTimer tobj 0, .disableTimer 8]
      ∃ notified after,
        (∀ fuel,
          ((performAll start history).tlist 0).length < fuel
          → checkExpired timerNotify 0 0 fuel (performAll start history)
            = some (notified.length, notified, after))
        ∧ NotifiesExpired timerNotify 0 (localNow 0 (performAll start history))
          (performAll start history) notified after := by
  intro start history timerNotify
  have steady : timerNotify.Steady := fun _ _ => ⟨trivial, trivial, trivial⟩
  refine checkExpired_notifies_expired (fun _ => 60) (fun _ => 0) ⟨5000000, by decide⟩ history
    ?_ 0 (by decide) timerNotify steady 0 (performAll start history).clock.property.1
  simp [history, NeverDecreases, TimerOp.Forward, TimerOp.perform, TimerState.attachTimer,
    TimerState.listMoveTail, TimerState.resetList, TimerState.initial]

end ProxyServer.Timers
