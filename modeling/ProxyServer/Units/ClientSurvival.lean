import ProxyServer.Units.ClientConnection

/-! Whether a healthy connection is kept: whether `web_input` and `web_output` complete a
session only when a socket call or a frame failed. One event can carry `EPOLLIN` and
`EPOLLOUT`; the second callback finds what the first one left.
-/

namespace ProxyServer.Units

open FaultState Reachability

-----------------------------------------------------------------------------------------
-- Healthy inputs
-----------------------------------------------------------------------------------------

namespace ClientUnit

/-- A `::send` of what is queued, if anything, takes some of it, or it fails transiently for
less than the fiftieth time in a row.
-/
def Accepts (answers : ClientAnswers) (unit : ClientUnit) : Prop :=
  unit.w ≠ [] →
    match answers.send with
    | .accepted count => 0 < count
    | .transient => toInt16 (unit.sendErrorTimes + 1) < 50
    | .error => False

end ClientUnit

/-- A frame is handled successfully, and the `::send` of its response works. -/
def HandledWell (unit : ClientUnit) (effect : FrameEffect) : Prop :=
  0 ≤ (effect.perform unit).1
    ∧ match effect with
      | .reply response answers => (unit.addRspBuf response).Accepts answers
      | .broadcast response answers => (unit.addRspBuf response).Accepts answers
      | _ => True

/-- No frame of the buffered bytes is invalid. -/
def FramesValid (buffered : List UInt8) : Prop :=
  (clientSplitter.split (fun _ _ => true) [] buffered).2 ≠ .failed

/-- The socket calls of a step report no fatal error, and its frames are valid and handled
successfully.
-/
def ConnectionEvent.Healthy (connection : ClientConnection) : ConnectionEvent → Prop
  | .input _ recv script _ _ =>
      (match recv with
        | .data chunk => FramesValid (connection.unit.r ++ chunk)
        | .transient => True
        | _ => False)
      ∧ AlongScript HandledWell script connection.unit.beginEvent
  | .output first second =>
      connection.served.Accepts first ∧ (connection.served.send first).2.Accepts second
  | .helperPacket packet answers | .gamePacket packet answers
  | .broadcast packet answers | .kick packet answers =>
      (connection.unit.addRspBuf packet).Accepts answers
  | .close => True

/-- The step does not mistake an event: no chunk looks like a policy request, an `EPOLLOUT`
served behind the `EPOLLIN` of the same event finds something to send, and no event is that of
an old registration whose number the slot has come round to.
-/
def ConnectionEvent.FindsWork (connection : ClientConnection) (event : ConnectionEvent) : Prop :=
  connection.unit.poller.NotRound
    ∧ match event with
      | .input _ (.data chunk) _ _ _ => looksLikePolicy chunk = false
      | .output _ _ => connection.outputDue = true → connection.unit.w ≠ []
      | _ => True

-----------------------------------------------------------------------------------------
-- Responsive units
-----------------------------------------------------------------------------------------

namespace ClientUnit

/-- The unit waits for more of a frame, and it asks for `EPOLLOUT`, and epoll reports it,
only while something is queued.
-/
structure Responsive (unit : ClientUnit) : Prop where
  registered : unit.poller.Registered
  asked : unit.poller.newEvents.output = true → unit.w ≠ []
  reported : unit.poller.NotRound → unit.poller.deliverable.output = true → unit.w ≠ []
  decoding : unit.decodeStatus = .waitHead ∨ unit.decodeStatus = .waitContent

variable {unit : ClientUnit}

/-- `ApplyEvents` keeps a unit responsive that asks for output only while something is
queued.
-/
theorem Responsive.apply (responsive : unit.Responsive) (events : Interest) {ctl : Bool}
    {next : ClientUnit}
    (applied
      : next.poller = ({ unit.poller with newEvents := events }.applyEvents ctl).2)
    (asked : events.output = true → next.w ≠ [])
    (decoding : next.decodeStatus = unit.decodeStatus)
    : next.Responsive := by
  have registered := responsive.registered.ask events
  refine ⟨applied ▸ registered.applyEvents ctl, ?_, fun notRound reported => ?_,
    decoding ▸ responsive.decoding⟩
  · rw [applied, PollerObject.applyEvents_newEvents]
    exact asked
  · rw [applied] at notRound reported
    rcases registered.deliverable_applyEvents notRound with same | silent
    · rw [same] at reported
      exact asked reported
    · simp [silent, Interest.none] at reported

/-- What a working `send` leaves: either nothing was queued, or it reports success, and the
stage tells whether something is still queued.
-/
theorem Responsive.send (responsive : unit.Responsive) {answers : ClientAnswers}
    (accepts : unit.Accepts answers)
    : (unit.send answers).2.Responsive
      ∧ (unit.send answers).2.r = unit.r
      ∧ (unit.w ≠ []
        → 0 ≤ (unit.send answers).1
          ∧ ((unit.send answers).2.stage = .sendDone
            ∨ (unit.send answers).2.stage = .dataSending
              ∧ (unit.send answers).2.w ≠ [])) := by
  unfold ClientUnit.send
  split
  · rename_i empty
    exact ⟨responsive.apply unit.poller.disableOutput.newEvents rfl nofun rfl, rfl,
      fun queued => (queued empty).elim⟩
  · rename_i queued
    have works := accepts queued
    cases answer : answers.send with
    | accepted count =>
        dsimp only
        split
        · exact ⟨responsive.apply unit.poller.disableOutput.newEvents rfl nofun rfl, rfl,
            fun _ => ⟨Int.natCast_nonneg _, Or.inl rfl⟩⟩
        · rename_i partly
          have left : unit.w.drop (min count unit.w.length) ≠ [] := by
            rw [Ne, List.drop_eq_nil_iff]
            omega
          exact ⟨responsive.apply unit.poller.enableOutput.newEvents rfl (fun _ => left) rfl,
            rfl, fun _ => ⟨Int.natCast_nonneg _, Or.inr ⟨rfl, left⟩⟩⟩
    | transient =>
        rw [answer] at works
        dsimp only at works ⊢
        rw [if_neg (by omega)]
        have success : 0 ≤ ConnState.dataSending.code := by decide
        exact ⟨responsive.apply unit.poller.enableOutput.newEvents rfl (fun _ => queued) rfl,
          rfl, fun _ => ⟨success, Or.inr ⟨rfl, queued⟩⟩⟩
    | error =>
        rw [answer] at works
        exact works.elim

theorem Responsive.addRspBuf (responsive : unit.Responsive) (data : List UInt8)
    : (unit.addRspBuf data).Responsive where
  registered := responsive.registered
  asked := fun asked empty => responsive.asked asked (List.append_eq_nil_iff.mp empty).1
  reported := fun notRound reported empty =>
    responsive.reported notRound reported (List.append_eq_nil_iff.mp empty).1
  decoding := responsive.decoding

theorem Responsive.respond (responsive : unit.Responsive) {data : List UInt8}
    {answers : ClientAnswers} (accepts : (unit.addRspBuf data).Accepts answers)
    : (unit.respond data answers).2.Responsive
      ∧ (unit.respond data answers).2.r = unit.r :=
  have sent := (responsive.addRspBuf data).send accepts
  ⟨sent.1, sent.2.1⟩

theorem Responsive.read (responsive : unit.Responsive) (bytes : List UInt8)
    : { unit with r := bytes }.Responsive :=
  ⟨responsive.registered, responsive.asked, responsive.reported, responsive.decoding⟩

/-- A new event starts from what the object remembers having asked for. -/
theorem Responsive.beginEvent (responsive : unit.Responsive)
    (notRound : unit.poller.NotRound)
    (reported
      : unit.poller.deliverable.input = true ∨ unit.poller.deliverable.output = true)
    : unit.beginEvent.Responsive where
  registered := responsive.registered.ask _
  asked := by
    intro asked
    refine responsive.reported notRound ?_
    rcases responsive.registered.deliverable_eq with same | silent
    · rw [same]
      exact asked
    · simp [silent, Interest.none] at reported
  reported := responsive.reported
  decoding := responsive.decoding

/-- With something queued, working sends complete the output callback without completing
the session.
-/
theorem Responsive.outputNotify (responsive : unit.Responsive) {first second : ClientAnswers}
    (queued : unit.w ≠ []) (accepts : unit.Accepts first)
    (acceptsNext : (unit.send first).2.Accepts second)
    : (unit.outputNotify first second).1 = false
      ∧ (unit.outputNotify first second).2.Responsive := by
  obtain ⟨sent, _, reports⟩ := responsive.send accepts
  obtain ⟨again, _, reportsNext⟩ := sent.send acceptsNext
  unfold ClientUnit.outputNotify ClientUnit.webOutput
  rcases (reports queued).2 with done | ⟨sending, left⟩
  · rw [done]
    exact ⟨rfl, sent⟩
  · obtain ⟨success, stage⟩ := reportsNext left
    rw [sending]
    dsimp only
    rw [if_neg (by omega)]
    rcases stage with done | ⟨still, _⟩
    · rw [done]
      exact ⟨rfl, again⟩
    · rw [still]
      exact ⟨rfl, again⟩

end ClientUnit

-----------------------------------------------------------------------------------------
-- Callbacks
-----------------------------------------------------------------------------------------

open ClientUnit

/-- A frame that is handled well leaves a responsive unit and what is still to be read. -/
theorem FrameEffect.perform_responsive {unit : ClientUnit} (responsive : unit.Responsive)
    {effect : FrameEffect} (well : HandledWell unit effect)
    : (effect.perform unit).2.Responsive ∧ (effect.perform unit).2.r = unit.r := by
  cases effect with
  | reply response answers => exact responsive.respond well.2
  | broadcast response answers =>
      unfold perform
      dsimp only
      split
      · exact ⟨responsive, rfl⟩
      · exact responsive.respond well.2
  | login uid api ret =>
      exact ⟨⟨responsive.registered, responsive.asked, responsive.reported,
        responsive.decoding⟩, rfl⟩
  | elsewhere ret => exact ⟨responsive, rfl⟩

theorem HandledWell.read (unit : ClientUnit) (effect : FrameEffect) (bytes : List UInt8)
    (well : HandledWell unit effect)
    : HandledWell { unit with r := bytes } effect := by
  obtain ⟨bytes', same⟩ := effect.perform_r unit bytes
  refine ⟨by rw [same]; exact well.1, ?_⟩
  cases effect <;> exact well.2

/-- Reading valid frames that are handled well leaves a responsive unit that waits for more.
-/
theorem Callback.reads_responsive {callback read : Callback} {answers : ClientAnswers}
    {chunk : List UInt8} {status : DecodeStatus}
    (reads : callback.Reads answers (.data chunk) status read)
    (responsive : callback.unit.Responsive) (plain : looksLikePolicy chunk = false)
    (valid : FramesValid (callback.unit.r ++ chunk))
    (well : AlongScript HandledWell callback.script callback.unit)
    : read.unit.Responsive ∧ (status = .waitHead ∨ status = .waitContent) := by
  cases reads with
  | policy looks answered => simp [plain] at looks
  | frames plain looped =>
      refine procPkgLoop_holds
        (fun callback =>
          callback.unit.Responsive
            ∧ AlongScript HandledWell callback.script callback.unit
            ∧ ∃ taken,
                (clientSplitter.split (fun _ _ => true) taken callback.unit.r).2 ≠ .failed)
        (fun status callback =>
          callback.unit.Responsive ∧ (status = .waitHead ∨ status = .waitContent))
        ?_ ?_ ?_ ?_ _ ?_ looped
      · exact fun state before _ => ⟨before.1, Or.inl rfl⟩
      · rintro state ⟨_, _, taken, valid⟩ rejected
        change handleInput state.unit.r < 0 at rejected
        rw [StreamSplitter.split_reject (clientVerdict_reject.mpr rejected)] at valid
        exact (valid rfl).elim
      · exact fun state before _ => ⟨before.1, Or.inr rfl⟩
      · rintro state ⟨responsive, well, taken, valid⟩ whole ret next handled
        change 0 < handleInput state.unit.r at whole
        have behind
            : (clientSplitter.split (fun _ _ => true)
                (taken ++ [state.unit.r.take (handleInput state.unit.r).toNat])
                (state.unit.r.drop (handleInput state.unit.r).toNat)).2 ≠ .failed := by
          rw [← StreamSplitter.split_accepted (clientVerdict_frame whole) rfl]
          exact valid
        obtain ⟨done, rfl, rfl⟩ | ⟨effect, rest, script, rfl, rfl⟩ :=
          Callback.handleInputBuf_cases handled
        · exact ⟨nofun, fun _ =>
            ⟨responsive.read _, well.read HandledWell.read _, _, behind⟩⟩
        · rw [script] at well
          obtain ⟨handledWell, unread⟩ := FrameEffect.perform_responsive responsive well.1
          have skipped
              : (effect.perform state.unit).2.r.drop (handleInput state.unit.r).toNat
                = state.unit.r.drop (handleInput state.unit.r).toNat := by
            rw [unread]
          rw [← skipped] at behind
          refine ⟨fun failed => ?_, fun _ =>
            ⟨handledWell.read _, well.2.read HandledWell.read _, _, behind⟩⟩
          have := well.1.1
          omega
      · exact ⟨responsive.read _, well.read HandledWell.read _, [], valid⟩

-----------------------------------------------------------------------------------------
-- Runs
-----------------------------------------------------------------------------------------

/-- The session was not completed by its readiness callbacks, and goes on responsive. -/
structure ClientConnection.Kept (connection : ClientConnection) : Prop where
  kept : connection.completed ≠ some .readiness
  going : connection.completed = none → connection.unit.Responsive

theorem ClientConnection.Kept.of_responsive {connection : ClientConnection}
    (responsive : connection.unit.Responsive)
    (kept : connection.completed ≠ some .readiness)
    : connection.Kept :=
  ⟨kept, fun _ => responsive⟩

/-- A new unit asks for input only. -/
theorem ClientUnit.attach_responsive (fd : Int) (slot : Option Nat) (ctl : Bool)
    : ((ClientUnit.create fd).attach slot ctl).2.Responsive := by
  let asking := (create fd).poller.enableInput
  have registered : (asking.attachPoller slot ctl).2.Registered := .attachPoller rfl slot ctl
  have asked : (asking.attachPoller slot ctl).2.newEvents.output ≠ true := by
    rw [PollerObject.attachPoller_newEvents]
    nofun
  have reported : (asking.attachPoller slot ctl).2.deliverable.output ≠ true := by
    have possible : (asking.attachPoller slot ctl).2.deliverable = asking.newEvents
        ∨ (asking.attachPoller slot ctl).2.deliverable = Interest.none :=
      PollerObject.deliverable_attachPoller rfl slot ctl
    rcases possible with same | silent
    · rw [same]
      nofun
    · rw [silent]
      nofun
  unfold ClientUnit.attach
  dsimp only
  split
  all_goals exact ⟨registered, fun asks => (asked asks).elim,
    fun _ reports => (reported reports).elim, Or.inl rfl⟩

theorem ClientConnection.accepted_kept {connection : ClientConnection}
    (accepted : connection.Accepted)
    : connection.Kept := by
  obtain ⟨fd, slot, ctl, attached, -, fresh⟩ := accepted
  have responsive := ClientUnit.attach_responsive fd slot ctl
  rw [attached] at responsive
  exact .of_responsive responsive (by rw [fresh]; nofun)

/-- A healthy step that finds work keeps the session, by cases on the event. -/
theorem ConnectionEvent.step_kept {connection next : ClientConnection}
    {event : ConnectionEvent} (kept : connection.Kept) (healthy : event.Healthy connection)
    (finds : event.FindsWork connection) (step : event.Step connection next)
    : next.Kept := by
  obtain ⟨⟨going, enabled⟩, performed⟩ := step
  have responsive := kept.going going
  obtain ⟨notRound, finds⟩ := finds
  have notEnded : connection.completed ≠ some .readiness := kept.kept
  cases event with
  | input alsoOutput recv script policyAnswers applyCtl =>
      have begun : connection.unit.beginEvent.Responsive :=
        responsive.beginEvent notRound (Or.inl enabled.2.1)
      obtain ⟨completes, after, yields, rfl⟩ := perform_input performed
      obtain ⟨status, read, reads, settled, rfl⟩ := Callback.inputNotify_reads yields
      have waits : read.unit.Responsive ∧ (status = .waitHead ∨ status = .waitContent) := by
        cases recv with
        | data chunk =>
            exact Callback.reads_responsive reads begun finds healthy.1 healthy.2
        | transient =>
            cases reads
            exact ⟨begun, begun.decoding⟩
        | closed => exact healthy.1.elim
        | error => exact healthy.1.elim
      obtain ⟨waiting, decoded⟩ := waits
      have after_eq : after.unit = {
          { read.unit with decodeStatus := status } with stage := .dataRecving } := by
        rw [settled]
        rcases decoded with rfl | rfl <;> rfl
      have goesOn : after.unit.webInput = false := by
        rw [after_eq]
        rfl
      have behind : after.unit.Responsive := by
        rw [after_eq]
        exact ⟨waiting.registered, waiting.asked, waiting.reported, decoded⟩
      rw [goesOn, if_neg (by decide)]
      split
      · exact .of_responsive behind (by simp)
      · exact .of_responsive
          (behind.apply after.unit.poller.newEvents rfl behind.asked rfl) (by simp)
  | output first second =>
      have served : connection.served.Responsive ∧ connection.served.w ≠ [] := by
        unfold ClientConnection.served
        split
        · rename_i due
          exact ⟨responsive, finds due⟩
        · rename_i notDue
          have reported := enabled.resolve_left notDue
          exact ⟨responsive.beginEvent notRound (Or.inr reported),
            responsive.reported notRound reported⟩
      obtain ⟨goesOn, behind⟩ :=
        served.1.outputNotify served.2 healthy.1 healthy.2
      simp only [perform] at performed
      cases performed
      rw [goesOn, if_neg (by decide)]
      exact .of_responsive behind (by simp)
  | helperPacket packet answers =>
      simp only [perform] at performed
      split at performed
      · cases performed
        exact ⟨by simp, by simp⟩
      · cases performed
        exact .of_responsive (responsive.respond healthy).1 notEnded
  | gamePacket packet answers =>
      simp only [perform] at performed
      split at performed
      · cases performed
        exact ⟨by simp, by simp⟩
      · cases performed
        exact .of_responsive (responsive.respond healthy).1 (by split <;> simp)
  | broadcast packet answers =>
      simp only [perform] at performed
      split at performed
      · cases performed
        exact kept
      · cases performed
        exact .of_responsive (responsive.respond healthy).1 notEnded
  | kick packet answers =>
      cases performed
      exact ⟨by simp, by simp⟩
  | close =>
      cases performed
      exact ⟨by simp, by simp⟩

/-- A healthy session is never completed by its readiness callbacks, in every run in which
each event finds work: no chunk looks like a policy request, no `EPOLLOUT` is served behind an
`EPOLLIN` that has emptied the queue, and no event is that of an old registration.
-/
theorem healthy_session_kept {connection : ClientConnection}
    (reached
      : connection.ReachedWhile
          (fun before event => event.Healthy before ∧ event.FindsWork before))
    : connection.completed ≠ some .readiness := by
  have kept : connection.Kept :=
    reached.invariant ClientConnection.Kept
      (fun _ accepted => ClientConnection.accepted_kept accepted)
      (fun _ _ _ kept taken =>
        ConnectionEvent.step_kept kept taken.1.1 taken.1.2 taken.2)
  exact kept.kept

/-- A keep-alive request, and the answer to it. -/
def breakTimeRequest : List UInt8 := [0, 7, 66, 89, 1, 1, 0x10, 0x16, 0]

def breakTimeAnswer : List UInt8 := [0, 7, 66, 89, 1, 1, 0x20, 0x17, 0]

theorem breakTimeRequest_valid : FramesValid breakTimeRequest := by
  unfold FramesValid
  decide +kernel

/-- A packet of which half is accepted, a keep-alive request behind it of which the answer
has to wait, and the `EPOLLOUT` of the same event that sends both.
-/
theorem healthy_session_kept_behind_partial_send
    : ∃ connection : ClientConnection,
        connection.ReachedWhile
          (fun before event => event.Healthy before ∧ event.FindsWork before)
        ∧ connection.unit.link.delivered = [1, 2, 3, 4] ++ breakTimeAnswer
        ∧ connection.completed ≠ some .readiness := by
  have started : ClientConnection.fresh.ReachedWhile
      (fun before event => event.Healthy before ∧ event.FindsWork before) :=
    .start ClientConnection.fresh_accepted
  have pushed := started.next (.helperPacket [1, 2, 3, 4] ⟨.accepted 2, true⟩)
    ⟨fun _ => by decide, by rintro _ _ ⟨⟩; decide, trivial⟩ ⟨rfl, rfl⟩ rfl
  have answered := pushed.next
    (.input true (.data breakTimeRequest) [.reply breakTimeAnswer ⟨.transient, true⟩]
      ⟨.error, true⟩ true)
    ⟨⟨breakTimeRequest_valid, ⟨by decide, fun _ => by decide⟩, trivial⟩,
      by rintro _ _ ⟨⟩; decide, rfl⟩
    ⟨rfl, rfl, rfl, fun _ => rfl⟩ rfl
  have sent := answered.next (.output ⟨.accepted 11, true⟩ ⟨.error, true⟩)
    ⟨⟨fun _ => by decide, fun queued => (queued rfl).elim⟩,
      by rintro _ _ ⟨⟩; decide, nofun⟩ ⟨rfl, Or.inl rfl⟩ rfl
  exact ⟨_, sent, rfl, healthy_session_kept sent⟩

/-- A chunk that looks like a policy request completes the session, wherever it is cut. -/
theorem policy_like_chunk_completes {chunk : List UInt8}
    (looks : looksLikePolicy chunk = true) (connection : ClientConnection)
    (alsoOutput applyCtl : Bool) (script : List FrameEffect) (answers : ClientAnswers)
    : ∃ next,
        (ConnectionEvent.input alsoOutput (.data chunk) script answers applyCtl).perform
          connection = .ok next
        ∧ next.completed = some .readiness := by
  simp only [ConnectionEvent.perform, Callback.inputNotify, ClientPlace.inputNotify,
    ClientPlace.procPkg, ClientPlace.decode, procChunk, looks, if_true]
  by_cases request : chunk = policy
  · simp only [if_pos request]
    exact ⟨_, rfl, rfl⟩
  · simp only [if_neg request]
    exact ⟨_, rfl, rfl⟩

/-- Healthy sessions completed by their readiness callbacks. In the first run the answer to
a keep-alive request takes all that was queued along, and the `EPOLLOUT` of the same event
finds an empty queue. In the second a valid frame is cut where 23 bytes of its payload
look like the begin of a policy request.
-/
theorem healthy_session_dropped
    : (∃ connection : ClientConnection,
        connection.ReachedWhile (fun before event => event.Healthy before)
        ∧ connection.unit.link.delivered = [1, 2, 3, 4] ++ breakTimeAnswer
        ∧ connection.completed = some .readiness)
      ∧ ∃ connection : ClientConnection,
        connection.ReachedWhile
          (fun before event => event.Healthy before
            ∧ ∀ first second, event ≠ .output first second)
        ∧ connection.completed = some .readiness := by
  constructor
  · have started : ClientConnection.fresh.ReachedWhile
        (fun before event => event.Healthy before) :=
      .start ClientConnection.fresh_accepted
    have pushed := started.next (.helperPacket [1, 2, 3, 4] ⟨.accepted 2, true⟩)
      (fun _ => by decide) ⟨rfl, rfl⟩ rfl
    have answered := pushed.next
      (.input true (.data breakTimeRequest) [.reply breakTimeAnswer ⟨.accepted 11, true⟩]
        ⟨.error, true⟩ true)
      ⟨breakTimeRequest_valid, ⟨by decide, fun _ => by decide⟩, trivial⟩
      ⟨rfl, rfl, rfl, fun _ => rfl⟩ rfl
    have dropped := answered.next (.output ⟨.accepted 1, true⟩ ⟨.accepted 1, true⟩)
      ⟨fun queued => (queued rfl).elim, fun queued => (queued rfl).elim⟩
      ⟨rfl, Or.inl rfl⟩ rfl
    exact ⟨_, dropped, rfl, rfl⟩
  · let header : List UInt8 := [0, 30, 66, 89, 1, 1, 0x10, 0x16, 0]
    let payload : List UInt8 := 60 :: 112 :: List.replicate 21 7
    have headerValid : FramesValid header := by
      unfold FramesValid
      decide +kernel
    have frameValid : FramesValid (header ++ payload) := by
      unfold FramesValid
      decide +kernel
    have started : ClientConnection.fresh.ReachedWhile
        (fun before event => event.Healthy before
          ∧ ∀ first second, event ≠ .output first second) :=
      .start ClientConnection.fresh_accepted
    have begun := started.next (.input false (.data header) [] ⟨.error, true⟩ true)
      ⟨⟨headerValid, trivial⟩, nofun⟩ ⟨rfl, rfl, rfl, nofun⟩ rfl
    have looks : looksLikePolicy payload = true := by decide
    obtain ⟨next, performed, completed⟩ :=
      policy_like_chunk_completes looks _ false true [] ⟨.error, true⟩
    have dropped := begun.next (.input false (.data payload) [] ⟨.error, true⟩ true)
      ⟨⟨frameValid, trivial⟩, nofun⟩ ⟨rfl, rfl, rfl, nofun⟩ performed
    exact ⟨next, dropped, completed⟩

end ProxyServer.Units
