import ProxyServer.Timers.CheckExpired

/-! `CTimerUnit` in the main loop: `CheckPending` and `CheckExpired` over all lists, and the turns
of `CIncoming::run`. A callback that runs for one list may move objects in and out of the others,
also of those that were checked before.
-/

namespace ProxyServer.Timers

/-- `CTimerUnit`: the pending list, and the other lists as `next` links them. -/
structure TimerUnit where
  pending : TimerListId
  next : List TimerListId

/-- The loop of `CheckPending`: every object is due. -/
def pendingExpiry (timerNotify : TimerNotify) (pending : TimerListId)
    : Draining.Service TimerState TimerObject where
  queue := fun timers => timers.tlist pending
  due := fun _ _ => true
  serve := fun tobj timers =>
    let removed := timers.resetList tobj
    performAll removed (timerNotify tobj removed)
  touched := fun tobj timers => touchedBy (timerNotify tobj (timers.resetList tobj))

namespace TimerUnit

/-- `CheckPending`. -/
def checkPending (unit : TimerUnit) (timerNotify : TimerNotify) (fuel : Nat) (timers : TimerState)
    : Option (Int × TimerState) :=
  ((pendingExpiry timerNotify unit.pending).drain fuel timers).map
    (fun (notified, final) => (notified.length, final))

/-- The loop of `CheckExpired` over the lists. -/
def checkLists (timerNotify : TimerNotify) (now : Int) (fuel : Nat)
    : List TimerListId → TimerState → Option (Int × TimerState)
  | [], timers => some (0, timers)
  | tl :: next, timers => do
      let (n, _, timers) ← checkExpired timerNotify tl now fuel timers
      let (more, timers) ← checkLists timerNotify now fuel next timers
      return (n + more, timers)

/-- `CheckExpired`. -/
def checkExpired (unit : TimerUnit) (timerNotify : TimerNotify) (now : Int) (fuel : Nat)
    (timers : TimerState)
    : Option (Int × TimerState) := do
  let now := localNow now timers
  let (n, timers) ← unit.checkPending timerNotify fuel timers
  let (more, timers) ← checkLists timerNotify now fuel unit.next timers
  return (n + more, timers)

/-- A turn of `CIncoming::run`: the clock after the wait, and what the fetched events do to the
timers.
-/
def turn (unit : TimerUnit) (timerNotify : TimerNotify) (fuel : Nat) (reading : Timestamp)
    (events : List TimerOp) (timers : TimerState)
    : Option TimerState := do
  let waited := TimerOp.perform timers (.pass reading)
  let served := performAll waited events
  let (_, checked) ← unit.checkExpired timerNotify waited.clock.val fuel served
  let (_, after) ← unit.checkPending timerNotify fuel checked
  return after

/-- As the unit is built: the pending list has no timeout, the lists of `GetTimerList` have one. -/
structure WellFormed (unit : TimerUnit) (timeout : TimerListId → Int32) : Prop where
  pending : (timeout unit.pending).toInt ≤ 0
  positive : ∀ lst ∈ unit.next, 0 < (timeout lst).toInt

end TimerUnit

/-- The operation is no `AttachZeroTimer`. -/
def TimerOp.Quiet (pending : TimerListId) (op : TimerOp) : Prop :=
  attached pending op = []

/-- No callback calls `AttachZeroTimer`. -/
def TimerNotify.Quiet (pending : TimerListId) (timerNotify : TimerNotify) : Prop :=
  ∀ tobj timers, ∀ op ∈ timerNotify tobj timers, op.Quiet pending

/-- What holds while the lists are checked: those in `done` have nothing expired left. -/
structure Checking (unit : TimerUnit) (now : Int) (done : List TimerListId) (timers : TimerState)
    : Prop where
  wellFormed : unit.WellFormed timers.timeout
  sorted : ∀ lst ∈ unit.next, timers.Sorted lst
  past : now ≤ timers.clock.val
  once : (timers.tlist unit.pending).Nodup
  unexpired : ∀ lst ∈ done, lst ∈ unit.next ∧ ∀ obj ∈ timers.tlist lst, now < timers.objexp obj

variable {unit : TimerUnit} {timerNotify : TimerNotify} {now : Int} {done : List TimerListId}
  {timers : TimerState}

/-- No operation puts an object into a list twice. -/
theorem perform_once {op : TimerOp} {lst : TimerListId} (once : (timers.tlist lst).Nodup)
    : ((op.perform timers).tlist lst).Nodup := by
  rw [perform_tlist]
  have single : (attached lst op).Nodup := by
    rcases attached_single lst op with none | ⟨obj, one⟩
    · rw [none]
      exact List.nodup_nil
    · rw [one]
      exact List.nodup_singleton obj
  refine List.Nodup.append (once.sublist List.filter_sublist) single ?_
  intro obj member member'
  obtain ⟨-, alone⟩ := List.mem_filter.mp member
  exact absurd (attached_touched member') (by simpa using alone)

/-- Any operation keeps what has been checked: an object that comes into a list expires later. -/
theorem Checking.perform {op : TimerOp} (checking : Checking unit now done timers)
    (forward : op.Forward timers)
    : Checking unit now done (op.perform timers) where
  wellFormed := by
    rw [perform_timeout]
    exact checking.wellFormed
  sorted := fun lst listed =>
    (checking.sorted lst listed).perform (checking.wellFormed.positive lst listed) forward
  past := checking.past.trans (perform_clock_le forward)
  once := perform_once checking.once
  unexpired := by
    intro lst inDone
    obtain ⟨listed, later⟩ := checking.unexpired lst inDone
    have positive := checking.wellFormed.positive lst listed
    refine ⟨listed, ?_⟩
    intro obj member
    rw [perform_tlist, List.mem_append] at member
    rcases member with stays | comes
    · obtain ⟨inside, alone⟩ := List.mem_filter.mp stays
      rw [perform_objexp (by simpa using alone)]
      exact later obj inside
    · rw [attached_objexp positive comes]
      have := checking.past
      omega

theorem Checking.performAll {ops : List TimerOp} (checking : Checking unit now done timers)
    (forward : NeverDecreases timers ops)
    : Checking unit now done (performAll timers ops) := by
  induction ops generalizing timers with
  | nil => exact checking
  | cons op rest ih =>
      obtain ⟨here, later⟩ := forward
      exact ih (checking.perform here) later

/-- Taking an object out and notifying it keeps what has been checked. -/
theorem Checking.notified (checking : Checking unit now done timers) (steady : timerNotify.Steady)
    (tobj : TimerObject)
    : Checking unit now done
        (Timers.performAll (timers.resetList tobj)
          (timerNotify tobj (timers.resetList tobj))) :=
  Checking.performAll (checking.perform (by exact trivial : (TimerOp.disableTimer tobj).Forward _))
    (steady tobj _)

/-- Quiet operations put nothing into the pending list. -/
theorem performAll_quiet {ops : List TimerOp} {pending : TimerListId}
    (quiet : ∀ op ∈ ops, op.Quiet pending)
    : (performAll timers ops).tlist pending
      = (timers.tlist pending).filter (· ∉ touchedBy ops) := by
  induction ops generalizing timers with
  | nil => simp [performAll, touchedBy]
  | cons op rest ih =>
      have here := @perform_tlist timers op pending
      rw [quiet op List.mem_cons_self, List.append_nil] at here
      refine (ih (fun other member => quiet other (List.mem_cons_of_mem _ member))).trans ?_
      rw [here, List.filter_filter]
      refine List.filter_congr (fun obj _ => ?_)
      simp only [touchedBy, List.flatMap_cons, List.mem_append, not_or, Bool.decide_and]
      exact Bool.and_comm _ _

-----------------------------------------------------------------------------------------
-- The loops
-----------------------------------------------------------------------------------------

/-- Notifying a pending object takes out what its callback touches, and puts nothing in. -/
theorem pending_orderly (steady : timerNotify.Steady) (quiet : timerNotify.Quiet unit.pending)
    : (pendingExpiry timerNotify unit.pending).Orderly (Checking unit now done) where
  nodup := fun checking => checking.once
  dueFirst := fun _ => List.pairwise_of_forall (fun _ _ _ => rfl)
  serves := by
    intro state front rest checking queued _
    refine ⟨checking.notified steady front, [], ?_, by simp, fun _ _ _ => Iff.rfl⟩
    have nodup := checking.once
    have queue : state.tlist unit.pending = front :: rest := queued
    rw [queue] at nodup
    have removed : (state.resetList front).tlist unit.pending = rest := by
      simp only [TimerState.resetList, queue]
      rw [List.filter_cons_of_neg (by simp), List.filter_eq_self]
      intro obj member
      exact decide_eq_true (fun same => (List.nodup_cons.mp nodup).1 (same ▸ member))
    rw [List.append_nil]
    refine (performAll_quiet (quiet front (state.resetList front))).trans ?_
    rw [removed]
    rfl

/-- `CheckPending` ends, leaves nothing pending and keeps what has been checked. -/
theorem checkPending_ends (checking : Checking unit now done timers)
    (steady : timerNotify.Steady) (quiet : timerNotify.Quiet unit.pending)
    : ∃ bound n after, (∀ fuel, bound ≤ fuel
        → unit.checkPending timerNotify fuel timers = some (n, after))
      ∧ after.tlist unit.pending = [] ∧ Checking unit now done after := by
  obtain ⟨bound, enough⟩ := exists_gt
    (((pendingExpiry timerNotify unit.pending).queue timers).filter
      ((pendingExpiry timerNotify unit.pending).due timers)).length
  obtain ⟨notified, after, drains, kept, drained⟩ :=
    (pending_orderly steady quiet).drain_ends checking enough
  refine ⟨bound, notified.length, after, ?_, ?_, kept⟩
  · intro fuel large
    obtain ⟨extra, rfl⟩ := Nat.exists_eq_add_of_le large
    rw [TimerUnit.checkPending, Draining.Service.drain_more drains extra, Option.map_some]
  · rw [List.eq_nil_iff_forall_not_mem]
    intro obj member
    exact drained.left obj member rfl

/-- Nothing is pending while the lists are checked. -/
theorem notified_pending (quiet : timerNotify.Quiet unit.pending)
    (empty : timers.tlist unit.pending = []) (tobj : TimerObject)
    : (performAll (timers.resetList tobj)
        (timerNotify tobj (timers.resetList tobj))).tlist unit.pending = [] := by
  rw [performAll_quiet (quiet tobj _)]
  simp [TimerState.resetList, empty]

/-- `CheckExpired` of a list ends, leaves nothing expired in it and keeps what has been checked. -/
theorem checkExpired_ends {tl : TimerListId} (checking : Checking unit now done timers)
    (empty : timers.tlist unit.pending = []) (listed : tl ∈ unit.next)
    (steady : timerNotify.Steady) (quiet : timerNotify.Quiet unit.pending) (set : now ≠ 0)
    : ∃ bound n notified after, (∀ fuel, bound ≤ fuel
        → checkExpired timerNotify tl now fuel timers = some (n, notified, after))
      ∧ after.tlist unit.pending = [] ∧ Checking unit now (tl :: done) after := by
  have orderly : (expiry timerNotify tl now).Orderly (fun state => Expiring tl now state
      ∧ (Checking unit now done state ∧ state.tlist unit.pending = [])) := by
    refine (expiry_orderly steady).and ?_
    intro state front rest _ kept _
    exact ⟨kept.1.notified steady front, notified_pending quiet kept.2 front⟩
  have expiring : Expiring tl now timers :=
    ⟨checking.sorted tl listed, checking.wellFormed.positive tl listed, checking.past⟩
  obtain ⟨bound, enough⟩ := exists_gt (((expiry timerNotify tl now).queue timers).filter
    ((expiry timerNotify tl now).due timers)).length
  obtain ⟨notified, after, drains, kept, drained⟩ :=
    orderly.drain_ends ⟨expiring, checking, empty⟩ enough
  refine ⟨bound, notified.length, notified, after, ?_, kept.2.2, ?_⟩
  · intro fuel large
    obtain ⟨extra, rfl⟩ := Nat.exists_eq_add_of_le large
    rw [checkExpired, localNow, if_neg set, Draining.Service.drain_more drains extra,
      Option.map_some]
  · refine { kept.2.1 with unexpired := ?_ }
    intro lst inDone
    rcases List.mem_cons.mp inDone with rfl | before
    · refine ⟨listed, ?_⟩
      intro obj member
      have alive := drained.left obj member
      rw [due_iff] at alive
      omega
    · exact kept.2.1.unexpired lst before

/-- The loop over the lists ends, and leaves nothing expired in any, by induction on them. -/
theorem checkLists_ends {lists : List TimerListId} (checking : Checking unit now done timers)
    (empty : timers.tlist unit.pending = []) (listed : ∀ tl ∈ lists, tl ∈ unit.next)
    (steady : timerNotify.Steady) (quiet : timerNotify.Quiet unit.pending) (set : now ≠ 0)
    : ∃ bound n after, (∀ fuel, bound ≤ fuel
        → TimerUnit.checkLists timerNotify now fuel lists timers = some (n, after))
      ∧ after.tlist unit.pending = [] ∧ Checking unit now (lists ++ done) after := by
  induction lists generalizing done timers with
  | nil => exact ⟨0, 0, timers, fun _ _ => rfl, empty, checking⟩
  | cons tl next ih =>
      obtain ⟨bound, n, notified, between, ends, still, checked⟩ :=
        checkExpired_ends checking empty (listed tl List.mem_cons_self) steady quiet set
      obtain ⟨bound', more, after, ends', last, checked'⟩ :=
        ih checked still (fun other member => listed other (List.mem_cons_of_mem _ member))
      refine ⟨max bound bound', n + more, after, ?_, last, ?_⟩
      · intro fuel large
        rw [TimerUnit.checkLists, ends fuel (le_trans (le_max_left _ _) large)]
        simp only [Option.bind_eq_bind, Option.bind_some]
        rw [ends' fuel (le_trans (le_max_right _ _) large)]
        rfl
      · refine { checked' with unexpired := ?_ }
        intro lst member
        refine checked'.unexpired lst ?_
        simp only [List.mem_append, List.mem_cons] at member ⊢
        tauto

-----------------------------------------------------------------------------------------
-- Turns
-----------------------------------------------------------------------------------------

/-- A turn comes to its end: with enough fuel for its loops. -/
def TimerUnit.Turns (unit : TimerUnit) (timerNotify : TimerNotify) (reading : Timestamp)
    (events : List TimerOp) (timers after : TimerState) : Prop :=
  ∃ bound, ∀ fuel, bound ≤ fuel → unit.turn timerNotify fuel reading events timers = some after

/-- The states that turns of the main loop lead to, behind what the set-up does. -/
inductive TurnsTo (unit : TimerUnit) (timerNotify : TimerNotify) : TimerState → Prop
  | start {timeout objexp clock ops} (wellFormed : unit.WellFormed timeout)
    (forward : NeverDecreases (TimerState.initial timeout objexp clock) ops)
    : TurnsTo unit timerNotify (performAll (TimerState.initial timeout objexp clock) ops)
  | turn {timers after reading events} (reached : TurnsTo unit timerNotify timers)
    (passes : timers.clock.val ≤ reading.val) (set : 0 < reading.val)
    (forward : NeverDecreases (TimerOp.perform timers (.pass reading)) events)
    (turns : unit.Turns timerNotify reading events timers after)
    : TurnsTo unit timerNotify after

/-- A turn ends and leaves nothing expired, and nothing pending. -/
theorem turn_ends {reading : Timestamp} {events : List TimerOp}
    (checking : Checking unit now done timers) (passes : timers.clock.val ≤ reading.val)
    (forward : NeverDecreases (TimerOp.perform timers (.pass reading)) events)
    (steady : timerNotify.Steady) (quiet : timerNotify.Quiet unit.pending)
    (set : 0 < reading.val)
    : ∃ after, unit.Turns timerNotify reading events timers after
      ∧ after.tlist unit.pending = [] ∧ Checking unit reading.val unit.next after := by
  have waited : Checking unit reading.val [] (TimerOp.perform timers (.pass reading)) := {
    checking.perform (by exact passes : (TimerOp.pass reading).Forward timers) with
    past := Int.le_refl _
    unexpired := by simp
  }
  have served := waited.performAll forward
  obtain ⟨bound, n, between, ends, empty, checked⟩ := checkPending_ends served steady quiet
  obtain ⟨bound', more, between', ends', empty', checked'⟩ :=
    checkLists_ends checked empty (fun _ member => member) steady quiet (ne_of_gt set)
  obtain ⟨bound'', last, after, ends'', empty'', checked''⟩ :=
    checkPending_ends checked' steady quiet
  rw [List.append_nil] at checked''
  refine ⟨after, ⟨max bound (max bound' bound''), ?_⟩, empty'', checked''⟩
  intro fuel large
  have clock : (TimerOp.perform timers (.pass reading)).clock.val = reading.val := rfl
  simp only [TimerUnit.turn, TimerUnit.checkExpired, clock, localNow, if_neg (ne_of_gt set)]
  rw [ends fuel (le_trans (le_max_left _ _) large)]
  simp only [Option.bind_eq_bind, Option.bind_some, Option.pure_def]
  rw [ends' fuel (le_trans (le_trans (le_max_left _ _) (le_max_right _ _)) large)]
  simp only [Option.bind_some]
  rw [ends'' fuel (le_trans (le_trans (le_max_right _ _) (le_max_right _ _)) large)]
  rfl

theorem TimerUnit.Turns.unique {reading : Timestamp} {events : List TimerOp}
    {after after' : TimerState} (left : unit.Turns timerNotify reading events timers after)
    (right : unit.Turns timerNotify reading events timers after')
    : after = after' := by
  obtain ⟨bound, ends⟩ := left
  obtain ⟨bound', ends'⟩ := right
  have both := ends (max bound bound') (le_max_left _ _)
  rw [ends' (max bound bound') (le_max_right _ _)] at both
  exact (Option.some.inj both).symm

theorem performAll_once {ops : List TimerOp} {lst : TimerListId} (once : (timers.tlist lst).Nodup)
    : ((performAll timers ops).tlist lst).Nodup := by
  induction ops generalizing timers with
  | nil => exact once
  | cons op rest ih => exact ih (perform_once once)

/-- What the turns rely on holds in every state they lead to, by induction over them. -/
theorem TurnsTo.checking (reached : TurnsTo unit timerNotify timers) (steady : timerNotify.Steady)
    (quiet : timerNotify.Quiet unit.pending)
    : ∃ now, Checking unit now [] timers := by
  induction reached with
  | @start timeout objexp clock ops wellFormed forward =>
      refine ⟨_, ?_, ?_, Int.le_refl _, ?_, by simp⟩
      · rw [performAll_timeout]
        exact wellFormed
      · intro lst listed
        exact (initial_sorted timeout objexp clock lst).performAll
          (wellFormed.positive lst listed) forward
      · exact performAll_once List.nodup_nil
  | @turn timers after reading events reached passes set forward turns ih =>
      obtain ⟨now, checking⟩ := ih
      obtain ⟨after', turns', -, checked⟩ :=
        turn_ends checking passes forward steady quiet set
      rw [turns.unique turns']
      exact ⟨reading.val, { checked with unexpired := by simp }⟩

/-- In every run of the main loop every turn ends, whatever the events and the callbacks do to the
timers, and behind it no list holds an object that had expired when the wait was over.
-/
theorem turns_leave_nothing_expired (reached : TurnsTo unit timerNotify timers)
    (steady : timerNotify.Steady) (quiet : timerNotify.Quiet unit.pending) (reading : Timestamp)
    (events : List TimerOp) (passes : timers.clock.val ≤ reading.val) (set : 0 < reading.val)
    (forward : NeverDecreases (TimerOp.perform timers (.pass reading)) events)
    : ∃ after, unit.Turns timerNotify reading events timers after
      ∧ after.tlist unit.pending = []
      ∧ ∀ lst ∈ unit.next, after.Sorted lst
        ∧ ∀ obj ∈ after.tlist lst, reading.val < after.objexp obj := by
  obtain ⟨now, checking⟩ := reached.checking steady quiet
  obtain ⟨after, turns, empty, checked⟩ := turn_ends checking passes forward steady quiet set
  refine ⟨after, turns, empty, ?_⟩
  intro lst listed
  exact ⟨checked.sorted lst listed, (checked.unexpired lst listed).2⟩

/-- An object of one list expires and is put into the other one by its callback. -/
theorem turns_leave_nothing_expired_moved
    : let unit : TimerUnit := ⟨9, [0, 1]⟩
      let timeout : TimerListId → Int32 := fun lst => if lst = 9 then 0 else 60
      let timerNotify : TimerNotify := fun tobj _ => [.attachTimer tobj 1]
      let timers := performAll (TimerState.initial timeout (fun _ => 0) ⟨5000000, by decide⟩)
        [.attachTimer 7 0]
      ∃ after, unit.Turns timerNotify ⟨70000000, by decide⟩ [.attachTimer 8 1] timers after
        ∧ after.tlist unit.pending = []
        ∧ ∀ lst ∈ unit.next, after.Sorted lst
          ∧ ∀ obj ∈ after.tlist lst, 70000000 < after.objexp obj := by
  intro unit timeout timerNotify timers
  have wellFormed : unit.WellFormed timeout := ⟨by decide, by decide⟩
  have forward : NeverDecreases (TimerState.initial timeout (fun _ => 0) ⟨5000000, by decide⟩)
      [.attachTimer 7 0] :=
    ⟨trivial, trivial⟩
  have steady : timerNotify.Steady := fun _ _ => ⟨trivial, trivial⟩
  have quiet : timerNotify.Quiet unit.pending := by
    intro tobj timers op member
    rw [List.mem_singleton.mp member]
    rfl
  exact turns_leave_nothing_expired (.start wellFormed forward) steady quiet
    ⟨70000000, by decide⟩ [.attachTimer 8 1] (by decide +kernel) (by decide) ⟨trivial, trivial⟩

end ProxyServer.Timers
