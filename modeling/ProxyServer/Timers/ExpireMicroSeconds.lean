import ProxyServer.Timers.TimerList

/-! `CTimerUnit`: the chain of timer lists and how long the event loop may sleep.
`ExpireMicroSeconds` looks at the front of each list only, which holds the earliest deadline
of a sorted list. Objects of the `pending` list have no deadline: `CheckPending` has emptied
it before the loop sleeps.
-/

namespace ProxyServer.Timers

/-- One round of the loop of `ExpireMicroSeconds`. -/
def earlier (timers : TimerState) (exp : Int) (tl : TimerListId) : Int :=
  match timers.tlist tl with
  | [] => exp
  | o :: _ => if timers.objexp o < exp then timers.objexp o else exp

/-- `ExpireMicroSeconds` over the chain `next`. -/
def expireMicroSeconds (timers : TimerState) (next : List TimerListId) (msec : Int32) : Int :=
  let now := timers.clock.val
  let exp := next.foldl (earlier timers) (toInt64 (now + msec.toInt * 1000))
  let left := toInt64 (exp - now)
  if left ≤ 0 then 0 else toInt32 (left / 1000)

variable {timers : TimerState} {next : List TimerListId}

/-- A time that is not later than every deadline: no attached object expires before it. -/
def NothingBefore (timers : TimerState) (next : List TimerListId) (time : Int) : Prop :=
  ∀ tl ∈ next, ∀ obj ∈ timers.tlist tl, time ≤ timers.objexp obj

/-- A round takes the front of a sorted list into account, and with it the whole list. -/
theorem le_earlier_iff {tl : TimerListId} {exp time : Int}
    (ascending
      : (timers.tlist tl).Pairwise
        (fun front behind => timers.objexp front ≤ timers.objexp behind))
    : time ≤ earlier timers exp tl
      ↔ time ≤ exp ∧ ∀ obj ∈ timers.tlist tl, time ≤ timers.objexp obj := by
  rw [earlier]
  cases listed : timers.tlist tl with
  | nil => simp
  | cons front rest =>
      rw [listed] at ascending
      obtain ⟨first, _⟩ := List.pairwise_cons.mp ascending
      have whole : (∀ obj ∈ front :: rest, time ≤ timers.objexp obj)
          ↔ time ≤ timers.objexp front := by
        refine ⟨fun all => all front List.mem_cons_self, fun early obj member => ?_⟩
        rcases List.mem_cons.mp member with rfl | behind
        · exact early
        · exact early.trans (first obj behind)
      rw [whole]
      dsimp only
      split <;> omega

/-- The loop finds the earliest of its start and all the deadlines, by induction over the
chain.
-/
theorem le_rounds_iff {exp time : Int}
    (ascending
      : ∀ tl ∈ next,
          (timers.tlist tl).Pairwise
            (fun front behind => timers.objexp front ≤ timers.objexp behind))
    : time ≤ next.foldl (earlier timers) exp
      ↔ time ≤ exp ∧ NothingBefore timers next time := by
  induction next generalizing exp with
  | nil => simp [NothingBefore]
  | cons tl rest ih =>
      have here := ascending tl List.mem_cons_self
      have later : ∀ other ∈ rest, (timers.tlist other).Pairwise
          (fun front behind => timers.objexp front ≤ timers.objexp behind) :=
        fun other member => ascending other (List.mem_cons_of_mem tl member)
      rw [List.foldl_cons, ih later, le_earlier_iff here, NothingBefore, NothingBefore,
        List.forall_mem_cons, and_assoc]

/-- Sleeping `msec` milliseconds oversleeps no deadline. -/
def MayWait (timers : TimerState) (next : List TimerListId) (msec : Int) : Prop :=
  msec = 0 ∨ NothingBefore timers next (timers.clock.val + msec * 1000)

/-- A deadline that `int64_t` can subtract the present time from: no deadline is 292000 years
in the past.
-/
def Subtractable (timers : TimerState) (next : List TimerListId) : Prop :=
  NothingBefore timers next (timers.clock.val - 9223372036854775808)

/-- Deadlines that `AttachTimer` has set can be subtracted from, by induction over the
operations that set them: they are later than the clock was then.
-/
theorem performAll_subtractable {ops : List TimerOp}
    (positive : ∀ tl ∈ next, 0 < (timers.timeout tl).toInt)
    (after : NothingBefore timers next 0)
    : Subtractable (performAll timers ops) next := by
  induction ops generalizing timers with
  | nil =>
      intro tl member obj attached
      have early := timers.clock.property
      have since := after tl member obj attached
      simp only [performAll, List.foldl_nil]
      omega
  | cons op rest ih =>
      refine ih (fun tl member => ?_) (fun tl member obj inside => ?_)
      · rw [perform_timeout]
        exact positive tl member
      · rw [perform_tlist] at inside
        rcases List.mem_append.mp inside with kept | added
        · obtain ⟨stays, alone⟩ := List.mem_filter.mp kept
          rw [perform_objexp (by simpa using alone)]
          exact after tl member obj stays
        · have early := timers.clock.property
          have late := positive tl member
          rw [attached_objexp late added]
          omega

/-- For sorted lists `ExpireMicroSeconds` is the greatest whole number of milliseconds up to
`msec` that oversleeps no deadline.
-/
theorem expireMicroSeconds_greatest (timers : TimerState) (next : List TimerListId)
    (msec : Int32) (nonneg : 0 ≤ msec.toInt)
    (ascending
      : ∀ tl ∈ next,
          (timers.tlist tl).Pairwise
            (fun front behind => timers.objexp front ≤ timers.objexp behind))
    (subtractable : Subtractable timers next)
    : (0 ≤ expireMicroSeconds timers next msec
        ∧ expireMicroSeconds timers next msec ≤ msec.toInt
        ∧ MayWait timers next (expireMicroSeconds timers next msec))
      ∧ ∀ longer : Int, 0 ≤ longer → longer ≤ msec.toInt → MayWait timers next longer
        → longer ≤ expireMicroSeconds timers next msec := by
  have early := timers.clock.property
  have small := msec.toInt_lt
  have bounds : ∀ time, time ≤ next.foldl (earlier timers)
        (timers.clock.val + msec.toInt * 1000)
      ↔ time ≤ timers.clock.val + msec.toInt * 1000 ∧ NothingBefore timers next time :=
    fun time => le_rounds_iff ascending
  have starts : toInt64 (timers.clock.val + msec.toInt * 1000)
      = timers.clock.val + msec.toInt * 1000 :=
    Int.bmod_eq_of_le (by omega) (by omega)
  rw [expireMicroSeconds, starts]
  generalize next.foldl (earlier timers) (timers.clock.val + msec.toInt * 1000) = exp
    at bounds ⊢
  have atMost := ((bounds exp).mp (Int.le_refl exp)).1
  have atLeast := (bounds (timers.clock.val - 9223372036854775808)).mpr
    ⟨by omega, subtractable⟩
  have exact : toInt64 (exp - timers.clock.val) = exp - timers.clock.val :=
    Int.bmod_eq_of_le (by omega) (by omega)
  rw [exact]
  split
  · next expired =>
      refine ⟨⟨Int.le_refl 0, nonneg, Or.inl rfl⟩, ?_⟩
      intro longer _ below wait
      rcases wait with rfl | sleeps
      · exact Int.le_refl 0
      · have reached := (bounds _).mpr ⟨by omega, sleeps⟩
        omega
  · next waits =>
      have whole : toInt32 ((exp - timers.clock.val) / 1000)
          = (exp - timers.clock.val) / 1000 :=
        toInt32_of_range (by omega) (by omega)
      rw [whole]
      refine ⟨⟨by omega, by omega, Or.inr ?_⟩, ?_⟩
      · exact ((bounds _).mp (by omega)).2
      · intro longer _ below wait
        rcases wait with rfl | sleeps
        · omega
        · have reached := (bounds _).mpr ⟨by omega, sleeps⟩
          omega

/-- Two objects are attached to lists of 60 and 3 seconds, and 2 seconds pass: the loop sleeps
the second that the 3 leave.
-/
theorem expireMicroSeconds_greatest_second
    : let timers := performAll (TimerState.initial (fun tl => if tl = 0 then 60 else 3)
          (fun _ => 0) ⟨5000000, by decide⟩)
        [.attachTimer 7 0, .attachTimer 8 1, .pass ⟨7000400, by decide⟩]
      (0 ≤ expireMicroSeconds timers [0, 1] 1500
        ∧ expireMicroSeconds timers [0, 1] 1500 ≤ (1500 : Int32).toInt
        ∧ MayWait timers [0, 1] (expireMicroSeconds timers [0, 1] 1500))
      ∧ ∀ longer : Int, 0 ≤ longer → longer ≤ (1500 : Int32).toInt
        → MayWait timers [0, 1] longer
        → longer ≤ expireMicroSeconds timers [0, 1] 1500 := by
  intro timers
  refine expireMicroSeconds_greatest timers [0, 1] 1500 (by decide) ?_ ?_
  · intro tl member
    have forward : NeverDecreases (TimerState.initial (fun tl => if tl = 0 then 60 else 3)
        (fun _ => 0) ⟨5000000, by decide⟩)
        [.attachTimer 7 0, .attachTimer 8 1, .pass ⟨7000400, by decide⟩] := by
      simp [NeverDecreases, TimerOp.Forward, TimerOp.perform, TimerState.attachTimer,
        TimerState.listMoveTail, TimerState.resetList, TimerState.initial]
    have positive : 0 < (if tl = 0 then (60 : Int32) else 3).toInt := by
      split <;> decide
    have sorted := initial_sorted (fun tl => if tl = 0 then 60 else 3) (fun _ => 0)
      ⟨5000000, by decide⟩ tl
    exact (sorted.performAll positive forward).ascending
  · refine performAll_subtractable ?_ ?_
    · intro tl _
      change 0 < (if tl = 0 then (60 : Int32) else 3).toInt
      split <;> decide
    · intro tl member obj attached
      cases attached

end ProxyServer.Timers
