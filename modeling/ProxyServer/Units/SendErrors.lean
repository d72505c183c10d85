import ProxyServer.Units.BackendUnit

/-! The counter of transient send errors of a back-end unit. `send_to_cgi` gives up at the
fiftieth error that it has counted; the counter is part of the unit and outlives its connections.
-/

namespace ProxyServer.Units

-----------------------------------------------------------------------------------------
-- Attempts on a connection
-----------------------------------------------------------------------------------------

/-- The answers of `::send` on one connection, the latest first, and the counter that the unit
had when it opened the connection.
-/
structure SendHistory where
  carried : Int
  attempts : List SendAnswer
  deriving DecidableEq

namespace SendHistory

def attempt (answer : SendAnswer) (history : SendHistory) : SendHistory :=
  { history with attempts := answer :: history.attempts }

/-- The 50 most recent attempts on the connection failed with transient errors. -/
def Exhausted (history : SendHistory) : Prop :=
  List.replicate 50 .transient <+: history.attempts

/-- The counter says nothing of earlier connections: it was not positive when the connection was
opened, the first error made the 16-bit value negative, or a send was accepted since.
-/
def OwnCount (history : SendHistory) : Prop :=
  history.carried ≤ 0 ∨ history.carried = 32767 ∨ ∃ count, .accepted count ∈ history.attempts

end SendHistory

namespace BackendCall

/-- The unit that calls `send_to_cgi` in a call, with the answers it gets. -/
def sender (unit : BackendUnit) : BackendCall → Option (BackendAnswers × BackendUnit)
  | .sendToLogic answers =>
      let (connected, dialled) := (unit.withPoller PollerObject.enableInput).connect answers
      if connected < 0 then none else some (answers, dialled)
  | .outputNotify answers => some (answers, unit)
  | _ => none

/-- The history of the connection as `send_to_cgi` finds it. -/
def opening (unit : BackendUnit) (history : SendHistory) : BackendCall → SendHistory
  | .sendToLogic answers =>
      if unit.opens answers then ⟨unit.sendErrorTimes, []⟩ else history
  | _ => history

end BackendCall

namespace BackendUnit

/-- `send_to_cgi` gives up on a transient error. -/
def GivesUp (answers : BackendAnswers) (unit : BackendUnit) : Prop :=
  unit.w ≠ [] ∧ answers.send = .transient
    ∧ (unit.sendToCgi answers).1 = -1 ∧ (unit.sendToCgi answers).2.stage = .fatalError

end BackendUnit

/-- The runs of a unit, with the history of its latest connection and of each connection that
it gave up on.
-/
inductive SendRun (kind : BackendKind) : BackendUnit → SendHistory → List SendHistory → Prop
  | start (addr : List UInt8) (port : Int)
    : SendRun kind (BackendUnit.create kind addr port) ⟨0, []⟩ []
  | quiet {unit : BackendUnit} {history : SendHistory} {givenUp : List SendHistory}
    {call : BackendCall} (earlier : SendRun kind unit history givenUp)
    (enabled : call.Enabled unit)
    (nothing : ∀ answers sender, call.sender unit = some (answers, sender) → sender.w = [])
    : SendRun kind (call.perform unit) (call.opening unit history) givenUp
  | sent {unit sender : BackendUnit} {history : SendHistory} {givenUp : List SendHistory}
    {call : BackendCall} {answers : BackendAnswers} (earlier : SendRun kind unit history givenUp)
    (enabled : call.Enabled unit) (sends : call.sender unit = some (answers, sender))
    (queued : sender.w ≠ []) (kept : ¬sender.GivesUp answers)
    : SendRun kind (call.perform unit) ((call.opening unit history).attempt answers.send) givenUp
  | gaveUp {unit sender : BackendUnit} {history : SendHistory} {givenUp : List SendHistory}
    {call : BackendCall} {answers : BackendAnswers} (earlier : SendRun kind unit history givenUp)
    (enabled : call.Enabled unit) (sends : call.sender unit = some (answers, sender))
    (gives : sender.GivesUp answers)
    : SendRun kind (call.perform unit) ((call.opening unit history).attempt answers.send)
        ((call.opening unit history).attempt answers.send :: givenUp)

theorem SendRun.backendRun {kind : BackendKind} {unit : BackendUnit} {history : SendHistory}
    {givenUp : List SendHistory} (run : SendRun kind unit history givenUp)
    : BackendRun kind unit := by
  induction run with
  | start addr port => exact BackendRun.start addr port
  | quiet _ enabled _ ih => exact BackendRun.step ih enabled
  | sent _ enabled _ _ _ ih => exact BackendRun.step ih enabled
  | gaveUp _ enabled _ _ ih => exact BackendRun.step ih enabled

-----------------------------------------------------------------------------------------
-- The counter and the attempts
-----------------------------------------------------------------------------------------

/-- What the counter is behind some attempts on a connection that it has not given up on. -/
inductive Counted (carried : Int) : List SendAnswer → Int → Prop
  | opened : Counted carried [] carried
  | failed {attempts : List SendAnswer} {times : Int} (earlier : Counted carried attempts times)
    (few : toInt16 (times + 1) < 50)
    : Counted carried (.transient :: attempts) (toInt16 (times + 1))
  | accepted {attempts : List SendAnswer} {times : Int} (count : Nat)
    (earlier : Counted carried attempts times)
    : Counted carried (.accepted count :: attempts) 0

/-- A `short`. -/
def IsShort (value : Int) : Prop :=
  -32768 ≤ value ∧ value < 32768

theorem isShort_toInt16 (value : Int) : IsShort (toInt16 value) :=
  ⟨@Int.le_bmod value 65536 (by decide), @Int.bmod_lt value 65536 (by decide)⟩

/-- One more error counts on, or makes the largest `short` the smallest. -/
theorem toInt16_succ {times : Int} (short : IsShort times)
    : times ≠ 32767 ∧ toInt16 (times + 1) = times + 1
      ∨ times = 32767 ∧ toInt16 (times + 1) = -32768 := by
  obtain ⟨low, high⟩ := short
  by_cases largest : times = 32767
  · exact Or.inr ⟨largest, by rw [largest]; rfl⟩
  · exact Or.inl ⟨largest, toInt16_of_range (by omega) (by omega)⟩

/-- The errors at the end of the attempts and what was before them: an accepted send, nothing, or
nothing with a counter that the first error made negative.
-/
theorem Counted.errors {carried times : Int} {attempts : List SendAnswer}
    (counted : Counted carried attempts times) (short : IsShort carried)
    : (∃ errors : Nat, ∃ count rest,
        attempts = List.replicate errors .transient ++ .accepted count :: rest
          ∧ times = errors ∧ times < 50)
      ∨ ∃ errors : Nat, attempts = List.replicate errors .transient
          ∧ (times = carried + errors ∧ (errors = 0 ∨ times < 50)
            ∨ carried = 32767 ∧ times = errors - 32769 ∧ errors ≠ 0 ∧ times < 50) := by
  induction counted with
  | opened => exact Or.inr ⟨0, rfl, Or.inl ⟨by simp, Or.inl rfl⟩⟩
  | accepted count earlier ih => exact Or.inl ⟨0, count, _, rfl, rfl, by decide⟩
  | @failed attempts times earlier few ih =>
      rcases ih with ⟨errors, count, rest, rfl, same, small⟩ | ⟨errors, rfl, counts⟩
      · have next : toInt16 (times + 1) = times + 1 :=
          toInt16_of_range (by omega) (by omega)
        exact Or.inl ⟨errors + 1, count, rest, rfl, by rw [next]; omega, few⟩
      · refine Or.inr ⟨errors + 1, rfl, ?_⟩
        have range : IsShort times := by
          rcases counts with ⟨same, rfl | small⟩ | ⟨_, same, _, small⟩
          · simpa [same] using short
          · exact ⟨by have := short.1; omega, by omega⟩
          · exact ⟨by omega, by omega⟩
        rcases toInt16_succ range with ⟨_, next⟩ | ⟨largest, next⟩
        · rcases counts with ⟨same, _⟩ | ⟨largest, same, _, _⟩
          · exact Or.inl ⟨by rw [next]; omega, Or.inr few⟩
          · exact Or.inr ⟨largest, by rw [next]; omega, by omega, few⟩
        · rcases counts with ⟨same, first⟩ | ⟨_, same, _, small⟩
          · have first : errors = 0 := by omega
            exact Or.inr ⟨by omega, by omega, by omega, few⟩
          · omega

theorem replicate_prefix_iff {errors : Nat} {rest : List SendAnswer}
    (other : rest.head? ≠ some .transient)
    : List.replicate 50 .transient <+: List.replicate errors .transient ++ rest
      ↔ 50 ≤ errors := by
  constructor
  · intro within
    by_contra few
    have few : errors < 50 := by omega
    obtain ⟨more, split⟩ : ∃ more, 50 = errors + (more + 1) := ⟨50 - errors - 1, by omega⟩
    rw [split, List.replicate_add, List.prefix_append_right_inj] at within
    cases rest with
    | nil => exact absurd within (by simp [List.replicate_succ])
    | cons head tail =>
        rw [List.replicate_succ, List.cons_prefix_cons] at within
        exact other (congrArg some within.1.symm)
  · intro many
    obtain ⟨more, split⟩ := Nat.exists_eq_add_of_le many
    rw [split, List.replicate_add, List.append_assoc]
    exact List.prefix_append _ _

/-- Where the counter reaches 50, the attempts on the connection are exhausted exactly when the
counter says nothing of earlier connections.
-/
theorem Counted.exhausted_iff {carried times : Int} {attempts : List SendAnswer}
    (counted : Counted carried attempts times) (short : IsShort carried)
    (many : 50 ≤ toInt16 (times + 1))
    : (SendHistory.attempt .transient ⟨carried, attempts⟩).Exhausted
      ↔ (SendHistory.attempt .transient ⟨carried, attempts⟩).OwnCount := by
  unfold SendHistory.Exhausted SendHistory.OwnCount SendHistory.attempt
  rcases counted.errors short with ⟨errors, count, rest, rfl, same, small⟩ | ⟨errors, rfl, counts⟩
  · have next : toInt16 (times + 1) = times + 1 := toInt16_of_range (by omega) (by omega)
    rw [next] at many
    refine iff_of_true ?_ (Or.inr (Or.inr ⟨count, by simp⟩))
    exact (@replicate_prefix_iff (errors + 1) (.accepted count :: rest) nofun).mpr (by omega)
  · have all : List.replicate 50 SendAnswer.transient
          <+: .transient :: List.replicate errors .transient
        ↔ 50 ≤ errors + 1 := by
      have found := @replicate_prefix_iff (errors + 1) [] nofun
      rwa [List.append_nil, List.replicate_succ] at found
    have none : ¬∃ count, SendAnswer.accepted count
        ∈ .transient :: List.replicate errors .transient := by
      simp [List.mem_replicate]
    rw [all]
    simp only [none, or_false]
    have range : IsShort times := by
      rcases counts with ⟨same, rfl | small⟩ | ⟨_, same, _, small⟩
      · simpa [same] using short
      · exact ⟨by have := short.1; omega, by omega⟩
      · exact ⟨by omega, by omega⟩
    rcases toInt16_succ range with ⟨below, next⟩ | ⟨_, next⟩
    · rw [next] at many
      rcases counts with ⟨same, rfl | small⟩ | ⟨largest, same, _, small⟩ <;> omega
    · omega

-----------------------------------------------------------------------------------------
-- Calls
-----------------------------------------------------------------------------------------

namespace BackendUnit

variable {unit : BackendUnit} {history : SendHistory}

theorem givesUp_iff (answers : BackendAnswers) (unit : BackendUnit)
    : unit.GivesUp answers
      ↔ unit.w ≠ [] ∧ answers.send = .transient ∧ 50 ≤ toInt16 (unit.sendErrorTimes + 1) := by
  refine and_congr_right (fun queued => and_congr_right (fun failed => ?_))
  rw [sendToCgi, if_neg queued, failed]
  dsimp only
  split
  · rename_i many
    exact iff_of_true ⟨rfl, rfl⟩ many
  · rename_i few
    have code : ConnState.dataSending.code ≠ -1 := by decide
    exact iff_of_false (fun gives => code gives.1) few

/-- The counter is a `short` and counts the errors on the open connection. -/
structure Tracks (history : SendHistory) (unit : BackendUnit) : Prop where
  times : IsShort unit.sendErrorTimes
  carried : IsShort history.carried
  counted
    : 0 ≤ unit.poller.netfd
      → Counted history.carried history.attempts unit.sendErrorTimes

/-- A unit without a connection only keeps its counter. -/
theorem Tracks.closed {next : BackendUnit} (tracks : unit.Tracks history)
    {history' : SendHistory} (carried : IsShort history'.carried)
    (times : next.sendErrorTimes = unit.sendErrorTimes) (netfd : next.poller.netfd = -1)
    : next.Tracks history' where
  times := times ▸ tracks.times
  carried := carried
  counted := fun isOpen => by omega

/-- Nothing happened to the connection. -/
theorem Tracks.same {next : BackendUnit} (tracks : unit.Tracks history)
    (times : next.sendErrorTimes = unit.sendErrorTimes)
    (netfd : next.poller.netfd = unit.poller.netfd)
    : next.Tracks history where
  times := times ▸ tracks.times
  carried := tracks.carried
  counted := fun isOpen => times ▸ tracks.counted (netfd ▸ isOpen)

@[simp]
theorem connect_sendErrorTimes (answers : BackendAnswers) (unit : BackendUnit)
    : (unit.connect answers).2.sendErrorTimes = unit.sendErrorTimes := by
  unfold connect tcpConnect
  split_ifs
  · cases answers.connect <;> rfl
  · rfl

/-- A unit that has connected has a new connection or the one it had. -/
theorem connect_connection (answers : BackendAnswers) (unit : BackendUnit)
    (connected : 0 ≤ (unit.connect answers).1)
    : unit.opens answers = true
      ∨ unit.opens answers = false
        ∧ (unit.connect answers).2.poller.netfd = unit.poller.netfd := by
  unfold connect tcpConnect at *
  unfold opens
  split_ifs at connected ⊢ with dials
  · cases answered : answers.connect with
    | noSocket => simp [answered] at connected
    | refused fd => simp [answered] at connected
    | connected fd => exact Or.inl (decide_eq_true dials)
  · refine Or.inr ⟨?_, by simp⟩
    cases answers.connect with
    | noSocket => rfl
    | refused fd => rfl
    | connected fd => exact decide_eq_false dials

/-- `connect` starts a new count or goes on with the one of the open connection. -/
theorem Tracks.connect (tracks : unit.Tracks history) (answers : BackendAnswers)
    (connected : 0 ≤ (unit.connect answers).1)
    : (unit.connect answers).2.Tracks
        (if unit.opens answers then ⟨unit.sendErrorTimes, []⟩ else history) := by
  rcases connect_connection answers unit connected with opens | ⟨opens, netfd⟩
  · rw [if_pos opens]
    refine ⟨?_, tracks.times, fun _ => ?_⟩
    · rw [connect_sendErrorTimes]
      exact tracks.times
    · rw [connect_sendErrorTimes]
      exact Counted.opened
  · rw [if_neg (by rw [opens]; exact Bool.false_ne_true)]
    exact tracks.same (connect_sendErrorTimes answers unit) netfd

/-- A `send_to_cgi` that does not give up counts its answer or closes the connection. -/
theorem Tracks.sendToCgi (tracks : unit.Tracks history) {answers : BackendAnswers}
    (queued : unit.w ≠ []) (kept : ¬unit.GivesUp answers)
    : (unit.sendToCgi answers).2.Tracks (history.attempt answers.send) := by
  rw [givesUp_iff] at kept
  rw [BackendUnit.sendToCgi, if_neg queued]
  cases answered : answers.send with
  | transient =>
      have few : ¬50 ≤ toInt16 (unit.sendErrorTimes + 1) := fun many =>
        kept ⟨queued, answered, many⟩
      dsimp only
      rw [if_neg few]
      refine ⟨isShort_toInt16 _, tracks.carried, fun isOpen => ?_⟩
      rw [PollerObject.applyEvents_netfd] at isOpen
      exact Counted.failed (tracks.counted isOpen) (not_le.mp few)
  | error => exact tracks.closed tracks.carried rfl rfl
  | accepted count =>
      have none : IsShort 0 := ⟨by decide, by decide⟩
      dsimp only
      split
      all_goals
        refine ⟨none, tracks.carried, fun isOpen => ?_⟩
        rw [PollerObject.applyEvents_netfd] at isOpen
        exact Counted.accepted count (tracks.counted isOpen)

/-- A `send_to_cgi` that gives up has counted to 50 and closes the connection. -/
theorem Tracks.giveUp (tracks : unit.Tracks history) {answers : BackendAnswers}
    (gives : unit.GivesUp answers) (isOpen : 0 ≤ unit.poller.netfd)
    : (unit.sendToCgi answers).2.Tracks (history.attempt answers.send)
      ∧ ((history.attempt answers.send).Exhausted
        ↔ (history.attempt answers.send).OwnCount) := by
  obtain ⟨queued, answered, many⟩ := (givesUp_iff answers unit).mp gives
  constructor
  · rw [BackendUnit.sendToCgi, if_neg queued, answered]
    dsimp only
    rw [if_pos many]
    refine ⟨isShort_toInt16 _, tracks.carried, fun isOpen => ?_⟩
    cases isOpen
  · rw [answered]
    exact (tracks.counted isOpen).exhausted_iff tracks.carried many

end BackendUnit

namespace BackendCall

open BackendUnit

variable {unit : BackendUnit} {history : SendHistory} {call : BackendCall}
  {answers : BackendAnswers} {sender : BackendUnit}

/-- The unit that is about to send counts the errors on its open connection. -/
theorem tracks_sender (tracks : unit.Tracks history) (inStep : unit.InStep)
    (enabled : call.Enabled unit) (sends : call.sender unit = some (answers, sender))
    : sender.Tracks (call.opening unit history) ∧ 0 ≤ sender.poller.netfd := by
  cases call with
  | sendToLogic given =>
      have listening : (unit.withPoller PollerObject.enableInput).InStep :=
        inStep.restage rfl rfl rfl rfl rfl (Or.inl rfl)
      have asking : (unit.withPoller PollerObject.enableInput).Tracks history :=
        tracks.same rfl rfl
      unfold BackendCall.sender at sends
      dsimp only at sends
      split at sends
      · cases sends
      · rename_i connected
        cases sends
        have connected := not_lt.mp connected
        exact ⟨asking.connect answers connected, ((listening.connect answers).2 connected).2⟩
  | outputNotify given =>
      cases sends
      exact ⟨tracks, (inStep.attached enabled).2⟩
  | _ => cases sends

/-- What a call that sends leaves: what `send_to_cgi` left, or a game unit without connection. -/
theorem perform_sender (sends : call.sender unit = some (answers, sender))
    : call.perform unit = (sender.sendToCgi answers).2
      ∨ (call.perform unit).sendErrorTimes = (sender.sendToCgi answers).2.sendErrorTimes
        ∧ (call.perform unit).poller.netfd = -1 ∧ sender.kind = .game := by
  cases call with
  | sendToLogic given =>
      unfold BackendCall.sender at sends
      dsimp only at sends
      split at sends
      · cases sends
      · rename_i connected
        cases sends
        refine Or.inl ?_
        unfold perform BackendUnit.sendToLogic
        dsimp only
        rw [if_neg connected]
  | outputNotify given =>
      cases sends
      unfold perform BackendUnit.outputNotify
      dsimp only
      split
      · rename_i failed
        exact Or.inr ⟨rfl, rfl, failed.2⟩
      · exact Or.inl rfl
  | _ => cases sends

theorem Tracks.afterSend (left : (sender.sendToCgi answers).2.Tracks history)
    (sends : call.sender unit = some (answers, sender))
    : (call.perform unit).Tracks history := by
  rcases perform_sender sends with same | ⟨times, netfd, -⟩
  · rw [same]
    exact left
  · exact left.closed left.carried times netfd

/-- A call without an attempt leaves the count alone, closes the connection or opens one. -/
theorem tracks_quiet (tracks : unit.Tracks history) (inStep : unit.InStep)
    (enabled : call.Enabled unit)
    (nothing : ∀ answers sender, call.sender unit = some (answers, sender) → sender.w = [])
    : (call.perform unit).Tracks (call.opening unit history) := by
  cases sends : call.sender unit with
  | some sending =>
      obtain ⟨answers, sender⟩ := sending
      have tracked := (tracks_sender tracks inStep enabled sends).1
      refine Tracks.afterSend ?_ sends
      rw [BackendUnit.sendToCgi, if_pos (nothing answers sender sends)]
      exact tracked
  | none =>
      cases call with
      | appendPkg buf => exact tracks.same rfl rfl
      | sendToLogic given =>
          unfold BackendCall.sender at sends
          dsimp only at sends
          split at sends
          · rename_i failed
            unfold perform BackendUnit.sendToLogic opening
            dsimp only
            rw [if_pos failed]
            refine tracks.closed ?_ (connect_sendErrorTimes given _) rfl
            split
            · exact tracks.times
            · exact tracks.carried
          · cases sends
      | inputNotify recv processed given =>
          unfold perform BackendUnit.inputNotify
          dsimp only
          have received : (unit.recvFromCgi recv processed).2.Tracks history := by
            refine tracks.same ?_ ?_
            all_goals
              unfold recvFromCgi
              cases recv with
              | data chunk => dsimp only; split <;> rfl
              | _ => rfl
          split
          · exact received.closed received.carried rfl rfl
          · exact received
      | outputNotify given => cases sends
      | hangupNotify given => exact tracks.closed tracks.carried rfl rfl
      | timerNotify given => exact tracks.closed tracks.carried rfl rfl
      | resetHelper given => exact tracks.closed tracks.carried rfl rfl

end BackendCall

-----------------------------------------------------------------------------------------
-- Runs
-----------------------------------------------------------------------------------------

namespace SendRun

variable {kind : BackendKind} {unit : BackendUnit} {history : SendHistory}
  {givenUp : List SendHistory}

/-- The counter follows the connection all along a run, and each connection that was given up on
was exhausted exactly when the counter said nothing of earlier ones.
-/
theorem tracks (run : SendRun kind unit history givenUp)
    : unit.Tracks history ∧ ∀ last ∈ givenUp, last.Exhausted ↔ last.OwnCount := by
  induction run with
  | start addr port =>
      have none : IsShort 0 := ⟨by decide, by decide⟩
      exact ⟨⟨none, none, fun _ => Counted.opened⟩, nofun⟩
  | quiet earlier enabled nothing ih =>
      exact ⟨BackendCall.tracks_quiet ih.1 earlier.backendRun.inStep enabled nothing, ih.2⟩
  | sent earlier enabled sends queued kept ih =>
      obtain ⟨tracked, -⟩ :=
        BackendCall.tracks_sender ih.1 earlier.backendRun.inStep enabled sends
      exact ⟨BackendCall.Tracks.afterSend (tracked.sendToCgi queued kept) sends, ih.2⟩
  | gaveUp earlier enabled sends gives ih =>
      obtain ⟨tracked, isOpen⟩ :=
        BackendCall.tracks_sender ih.1 earlier.backendRun.inStep enabled sends
      obtain ⟨left, exactly⟩ := tracked.giveUp gives isOpen
      refine ⟨BackendCall.Tracks.afterSend left sends, fun last member => ?_⟩
      rcases List.mem_cons.mp member with rfl | old
      · exact exactly
      · exact ih.2 last old

/-- In every run, a connection that the unit gave up on had 50 transient errors in a row exactly
when the counter said nothing of earlier connections.
-/
theorem given_up_exhausted_iff (run : SendRun kind unit history givenUp)
    : ∀ last ∈ givenUp, last.Exhausted ↔ last.OwnCount :=
  run.tracks.2

-----------------------------------------------------------------------------------------
-- Connections that are given up on
-----------------------------------------------------------------------------------------

/-- Answers that open descriptor 7 and then always fail transiently. -/
def failing : BackendAnswers where
  connect := .connected 7
  slot := some 0
  attachCtl := true
  send := .transient
  applyCtl := true
  detachCtl := true

/-- A call that does not get to `send_to_cgi`. -/
theorem silent {call : BackendCall} (run : SendRun kind unit history givenUp)
    (enabled : call.Enabled unit) (silent : call.sender unit = none)
    : SendRun kind (call.perform unit) (call.opening unit history) givenUp := by
  refine SendRun.quiet run enabled (fun answers sender sends => ?_)
  rw [silent] at sends
  cases sends

/-- The first call that sends on a new connection. -/
theorem sender_failing (idle : unit.stage = .idle) (detached : unit.poller.attached = false)
    : ∃ sender, (BackendCall.sendToLogic failing).sender unit = some (failing, sender)
        ∧ sender.poller.attached = true ∧ sender.w = unit.w
        ∧ sender.sendErrorTimes = unit.sendErrorTimes ∧ sender.kind = unit.kind
        ∧ ∀ history, (BackendCall.sendToLogic failing).opening unit history
          = ⟨unit.sendErrorTimes, []⟩ := by
  have opens : unit.opens failing = true := by
    simp [BackendUnit.opens, failing, idle]
  refine ⟨((unit.withPoller PollerObject.enableInput).connect failing).2, ?_, ?_, ?_, ?_, ?_, ?_⟩
  · simp [BackendCall.sender, BackendUnit.connect, BackendUnit.tcpConnect, failing, idle,
      BackendUnit.withPoller, PollerObject.attachPoller, PollerObject.enableInput, detached]
  all_goals
    simp [BackendUnit.connect, BackendUnit.tcpConnect, failing, idle, BackendUnit.withPoller,
      PollerObject.attachPoller, PollerObject.enableInput, detached, BackendCall.opening]
  simp [BackendUnit.opens, idle]

/-- One more transient error. -/
theorem fail_once {call : BackendCall} {sender : BackendUnit}
    (run : SendRun .helper unit history givenUp) (enabled : call.Enabled unit)
    (sends : call.sender unit = some (failing, sender)) (helper : sender.kind = .helper)
    (attached : sender.poller.attached = true) (queued : sender.w ≠ [])
    (few : toInt16 (sender.sendErrorTimes + 1) < 50)
    : ∃ next, SendRun .helper next ((call.opening unit history).attempt .transient) givenUp
        ∧ next.poller.attached = true ∧ next.w = sender.w
        ∧ next.sendErrorTimes = toInt16 (sender.sendErrorTimes + 1)
        ∧ next.kind = .helper := by
  have kept : ¬sender.GivesUp failing := by
    rw [BackendUnit.givesUp_iff]
    exact fun gives => absurd few (not_lt.mpr gives.2.2)
  refine ⟨_, SendRun.sent run enabled sends queued kept, ?_⟩
  rcases BackendCall.perform_sender sends with same | ⟨-, -, game⟩
  · rw [same, BackendUnit.sendToCgi, if_neg queued]
    dsimp only [failing]
    rw [if_neg (not_le.mpr few)]
    exact ⟨by simpa [PollerObject.enableOutput] using attached, rfl, rfl, helper⟩
  · rw [helper] at game
    cases game

/-- A helper unit whose server takes nothing any more counts up to 49. -/
theorem fail_often (errors : Nat) (few : errors < 49)
    : ∃ unit, SendRun .helper unit ⟨0, List.replicate (errors + 1) .transient⟩ []
        ∧ unit.poller.attached = true ∧ unit.w = [1]
        ∧ unit.sendErrorTimes = errors + 1 ∧ unit.kind = .helper := by
  induction errors with
  | zero =>
      have start : SendRun .helper _ ⟨0, []⟩ [] := SendRun.start [] 0
      have queued := @silent _ _ _ _ (.appendPkg [1]) start trivial rfl
      obtain ⟨sender, sends, attached, queue, times, helper, opening⟩ :=
        @sender_failing (BackendCall.perform (.appendPkg [1]) (BackendUnit.create .helper [] 0))
          rfl rfl
      have enabled : (BackendCall.sendToLogic failing).Enabled
          (BackendCall.perform (.appendPkg [1]) (BackendUnit.create .helper [] 0)) := trivial
      obtain ⟨next, run, attached', queue', times', helper'⟩ :=
        fail_once queued enabled sends helper attached (by rw [queue]; exact List.cons_ne_nil 1 [])
          (by rw [times]; decide)
      refine ⟨next, ?_, attached', queue'.trans queue, ?_, helper'⟩
      · rw [opening] at run
        exact run
      · rw [times', times]
        rfl
  | succ errors ih =>
      obtain ⟨unit, run, attached, queue, times, helper⟩ := ih (by omega)
      have next : toInt16 (unit.sendErrorTimes + 1) = errors + 1 + 1 := by
        rw [times]
        exact toInt16_of_range (by omega) (by omega)
      obtain ⟨unit', run', attached', queue', times', helper'⟩ :=
        @fail_once _ _ _ (.outputNotify failing) unit run attached rfl helper attached
          (by rw [queue]; exact nofun) (by omega)
      exact ⟨unit', run', attached', queue'.trans queue,
        by rw [times', next]; push_cast; rfl, helper'⟩

/-- The fiftieth error in a row on one connection makes the unit give up. -/
theorem given_up_exhausted_iff_fifty
    : ∃ unit history last, SendRun .helper unit history [last] ∧ last.Exhausted := by
  obtain ⟨unit, run, attached, queue, times, -⟩ := fail_often 48 (by decide)
  have gives : unit.GivesUp failing := by
    rw [BackendUnit.givesUp_iff, queue, times]
    exact ⟨List.cons_ne_nil 1 [], rfl, by decide⟩
  have gaveUp := @SendRun.gaveUp _ _ _ _ _ (.outputNotify failing) _ run attached rfl gives
  have own : SendHistory.OwnCount (SendHistory.attempt .transient
      ⟨0, List.replicate 49 .transient⟩) := Or.inl (le_refl 0)
  exact ⟨_, _, _, gaveUp,
    (given_up_exhausted_iff gaveUp _ (List.mem_singleton_self _)).mpr own⟩

/-- The timeout of a connection with 49 errors leaves the counter, and one error on the next
connection makes the unit give up.
-/
theorem given_up_after_one_error
    : ¬∀ unit history givenUp, SendRun .helper unit history givenUp
        → ∀ last ∈ givenUp, last.Exhausted := by
  intro always
  obtain ⟨unit, run, attached, queue, times, kind⟩ := fail_often 48 (by decide)
  have closed := @silent _ _ _ _ (.timerNotify failing) run trivial rfl
  have queued := @silent _ _ _ _ (.appendPkg [2]) closed trivial rfl
  obtain ⟨sender, sends, attached, queue, times', helper, opening⟩ :=
    @sender_failing (BackendCall.perform (.appendPkg [2])
      (BackendCall.perform (.timerNotify failing) unit)) rfl
      (PollerObject.detachPoller_attached _ _)
  have enabled : (BackendCall.sendToLogic failing).Enabled (BackendCall.perform (.appendPkg [2])
      (BackendCall.perform (.timerNotify failing) unit)) := trivial
  have counted : sender.sendErrorTimes = 49 := times'.trans times
  have gives : sender.GivesUp failing := by
    rw [BackendUnit.givesUp_iff, queue, counted]
    exact ⟨List.cons_ne_nil 2 [], rfl, by decide⟩
  have gaveUp := SendRun.gaveUp queued enabled sends gives
  have exhausted := always _ _ _ gaveUp _ (List.mem_singleton_self _)
  rw [SendHistory.Exhausted, opening] at exhausted
  exact absurd (show List.replicate 50 SendAnswer.transient <+: [.transient] from exhausted)
    (by decide)

end SendRun

end ProxyServer.Units
