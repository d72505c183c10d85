import ProxyServer.Units.ClientConnection

/-! Whether a client is sent what was queued for it, in order and without a gap.
A failed `send` discards the queue and marks the unit by its stage. Most callers that queue
a response look for the mark first.
-/

namespace ProxyServer.Units

open FaultState Reachability

-----------------------------------------------------------------------------------------
-- Intact and spent units
-----------------------------------------------------------------------------------------

namespace ClientUnit

/-- Nothing was discarded: the queue is what the socket has not accepted yet. -/
structure Intact (unit : ClientUnit) : Prop where
  gapless : unit.link.Gapless unit.w
  registered : unit.poller.Registered

/-- The queue was discarded; the unit is marked, and epoll reports nothing for it. -/
structure Spent (unit : ClientUnit) : Prop where
  inOrder : unit.link.InOrder
  marked : unit.stage = .fatalError
  silent : unit.poller.NotRound → unit.poller.deliverable = Interest.none

/-- The answers make `send` give the connection up. -/
def Discards (answers : ClientAnswers) (unit : ClientUnit) : Prop :=
  unit.w ≠ []
    ∧ (answers.send = .error
      ∨ answers.send = .transient ∧ 50 ≤ toInt16 (unit.sendErrorTimes + 1))

variable {unit : ClientUnit}

theorem Intact.addRspBuf (intact : unit.Intact) (data : List UInt8)
    : (unit.addRspBuf data).Intact where
  gapless := intact.gapless.offer data
  registered := intact.registered

theorem Intact.giveUp (intact : unit.Intact) (answers : ClientAnswers)
    : (unit.giveUp answers).Spent where
  inOrder := intact.gapless.discard_inOrder
  marked := rfl
  silent := by
    intro notRound
    have silenced : unit.poller.disableInput.disableOutput.Registered :=
      intact.registered.ask _
    have asked : unit.poller.disableInput.disableOutput.newEvents = Interest.none := rfl
    have applied := silenced.deliverable_applyEvents notRound
    rwa [asked, or_self] at applied

/-- `send` keeps an intact unit intact, or discards its queue and returns -1. -/
theorem Intact.send (intact : unit.Intact) (answers : ClientAnswers)
    : (¬unit.Discards answers ∧ (unit.send answers).2.Intact)
      ∨ (unit.Discards answers ∧ (unit.send answers).1 = -1
        ∧ (unit.send answers).2.Spent) := by
  have registered (poller : PollerObject) (kept : poller.Registered)
      : (poller.applyEvents answers.applyCtl).2.Registered := kept.applyEvents _
  unfold ClientUnit.send
  split
  · rename_i empty
    exact Or.inl ⟨fun discards => discards.1 empty, intact.gapless,
      registered _ (intact.registered.ask _)⟩
  · rename_i queued
    cases answer : answers.send with
    | accepted count =>
        refine Or.inl ⟨fun discards => ?_, ?_⟩
        · rcases discards.2 with failed | failed <;> simp [answer] at failed
        · dsimp only
          split
          · exact ⟨intact.gapless.deliver _, registered _ (intact.registered.ask _)⟩
          · exact ⟨intact.gapless.deliver _, registered _ (intact.registered.ask _)⟩
    | transient =>
        dsimp only
        split
        · rename_i often
          have counted : { unit with
              sendErrorTimes := toInt16 (unit.sendErrorTimes + 1) }.Intact :=
            ⟨intact.gapless, intact.registered⟩
          exact Or.inr ⟨⟨queued, Or.inr ⟨answer, often⟩⟩, rfl, counted.giveUp answers⟩
        · rename_i seldom
          refine Or.inl ⟨fun discards => ?_, intact.gapless,
            registered _ (intact.registered.ask _)⟩
          rcases discards.2 with failed | often
          · simp [answer] at failed
          · exact seldom often.2
    | error => exact Or.inr ⟨⟨queued, Or.inl answer⟩, rfl, intact.giveUp answers⟩

theorem Intact.respond (intact : unit.Intact) (data : List UInt8) (answers : ClientAnswers)
    : (¬(unit.addRspBuf data).Discards answers ∧ (unit.respond data answers).2.Intact)
      ∨ ((unit.addRspBuf data).Discards answers ∧ (unit.respond data answers).1 = -1
        ∧ (unit.respond data answers).2.Spent) :=
  (intact.addRspBuf data).send answers

theorem Intact.inOrder (intact : unit.Intact) : unit.link.InOrder :=
  intact.gapless.inOrder

theorem Intact.settle (intact : unit.Intact) (status : DecodeStatus)
    : (ClientUnit.settle status { unit with decodeStatus := status }).Intact := by
  unfold ClientUnit.settle
  split <;> exact ⟨intact.gapless, intact.registered⟩

theorem link_settle (status : DecodeStatus) (unit : ClientUnit)
    : (ClientUnit.settle status { unit with decodeStatus := status }).link = unit.link := by
  unfold ClientUnit.settle
  split <;> rfl

/-- An output callback that does not complete the session leaves it intact: `web_output`
looks at the stage behind each `send`.
-/
theorem Intact.outputNotify (intact : unit.Intact) (first second : ClientAnswers)
    : (unit.outputNotify first second).2.link.InOrder
      ∧ ((unit.outputNotify first second).1 = false
        → (unit.outputNotify first second).2.Intact) := by
  unfold ClientUnit.outputNotify
  rcases intact.send first with ⟨_, sent⟩ | ⟨_, _, spent⟩
  · unfold ClientUnit.webOutput
    split
    · exact ⟨sent.inOrder, fun _ => sent⟩
    all_goals try
      rcases sent.send second with ⟨_, again⟩ | ⟨_, refused, gone⟩
      · dsimp only
        split
        · exact ⟨again.inOrder, nofun⟩
        · split <;> exact ⟨again.inOrder, fun _ => again⟩
      · dsimp only
        rw [if_pos (by omega)]
        exact ⟨gone.inOrder, nofun⟩
    exact ⟨sent.inOrder, nofun⟩
  · unfold ClientUnit.webOutput
    rw [spent.marked]
    exact ⟨spent.inOrder, nofun⟩

end ClientUnit

-----------------------------------------------------------------------------------------
-- Callbacks
-----------------------------------------------------------------------------------------

/-- A broadcast that the connection's own frame causes does not give the connection up. -/
def BroadcastKept (unit : ClientUnit) : FrameEffect → Prop
  | .broadcast response answers =>
      unit.stage = .fatalError ∨ ¬(unit.addRspBuf response).Discards answers
  | _ => True

open ClientUnit

/-- A frame keeps an intact unit intact, or its response fails and it returns -1. -/
theorem FrameEffect.perform_intact {unit : ClientUnit} (intact : unit.Intact)
    {effect : FrameEffect} (kept : BroadcastKept unit effect)
    : (effect.perform unit).2.Intact
      ∨ (effect.perform unit).1 = -1 ∧ (effect.perform unit).2.Spent := by
  cases effect with
  | reply response answers =>
      rcases intact.respond response answers with ⟨_, sent⟩ | ⟨_, failed⟩
      · exact Or.inl sent
      · exact Or.inr failed
  | broadcast response answers =>
      refine Or.inl ?_
      unfold perform
      dsimp only
      split
      · exact intact
      · rename_i unmarked
        rcases intact.respond response answers with ⟨_, sent⟩ | ⟨discards, _⟩
        · exact sent
        · rcases kept with marked | keeps
          · exact (unmarked marked).elim
          · exact (keeps discards).elim
  | login uid api ret => exact Or.inl ⟨intact.gapless, intact.registered⟩
  | elsewhere ret => exact Or.inl intact

theorem BroadcastKept.read (unit : ClientUnit) (effect : FrameEffect) (bytes : List UInt8)
    (kept : BroadcastKept unit effect)
    : BroadcastKept { unit with r := bytes } effect := by
  cases effect <;> exact kept

theorem ClientUnit.Intact.read {unit : ClientUnit} (intact : unit.Intact) (bytes : List UInt8)
    : { unit with r := bytes }.Intact :=
  ⟨intact.gapless, intact.registered⟩

/-- Reading leaves an intact unit intact, or ends in a fatal error. -/
theorem Callback.reads_intact {callback read : Callback} {answers : ClientAnswers}
    {recv : RecvAnswer} {status : DecodeStatus}
    (reads : callback.Reads answers recv status read) (intact : callback.unit.Intact)
    (kept : AlongScript BroadcastKept callback.script callback.unit)
    : read.unit.link.InOrder
      ∧ (status ≠ .fatalError → read.unit.Intact) := by
  cases reads with
  | error => exact ⟨intact.inOrder, nofun⟩
  | transient => exact ⟨intact.inOrder, fun _ => intact⟩
  | closed => exact ⟨intact.inOrder, fun _ => intact⟩
  | policy looks answered =>
      refine ⟨?_, fun running => (running rfl).elim⟩
      rw [answered]
      split
      · rcases intact.respond resPolicy answers with ⟨_, sent⟩ | ⟨_, _, spent⟩
        · exact sent.inOrder
        · exact spent.inOrder
      · exact intact.inOrder
  | frames plain looped =>
      refine procPkgLoop_holds
        (fun callback =>
          callback.unit.Intact ∧ AlongScript BroadcastKept callback.script callback.unit)
        (fun status callback =>
          callback.unit.link.InOrder
            ∧ (status ≠ .fatalError → callback.unit.Intact))
        ?_ ?_ ?_ ?_ _ ?_ looped
      · exact fun state before _ => ⟨before.1.inOrder, fun _ => before.1⟩
      · exact fun state before _ => ⟨before.1.inOrder, nofun⟩
      · exact fun state before _ => ⟨before.1.inOrder, fun _ => before.1⟩
      · intro state before _ ret next handled
        obtain ⟨done, rfl, rfl⟩ | ⟨effect, rest, script, rfl, rfl⟩ :=
          Callback.handleInputBuf_cases handled
        · refine ⟨nofun, fun _ => ⟨before.1.read _, ?_⟩⟩
          exact before.2.read BroadcastKept.read _
        · have along := before.2
          rw [script] at along
          rcases FrameEffect.perform_intact before.1 along.1 with sent | ⟨refused, spent⟩
          · exact ⟨fun _ => ⟨sent.inOrder, nofun⟩,
              fun _ => ⟨sent.read _, along.2.read BroadcastKept.read _⟩⟩
          · exact ⟨fun _ => ⟨spent.inOrder, nofun⟩, fun accepted => by omega⟩
      · exact ⟨intact.read _, kept.read BroadcastKept.read _⟩

-----------------------------------------------------------------------------------------
-- Runs
-----------------------------------------------------------------------------------------

/-- The step does not write behind a loss: a broadcast that the connection's own frame
causes does not give the connection up, and a kick finds the unit unmarked. Nor has the
slot's number come round to the one of an old registration.
-/
def ConnectionEvent.RespectsLoss (connection : ClientConnection) (event : ConnectionEvent)
    : Prop :=
  connection.unit.poller.NotRound
    ∧ match event with
      | .input _ _ script _ _ => AlongScript BroadcastKept script connection.unit.beginEvent
      | .kick _ _ => connection.unit.stage ≠ .fatalError
      | _ => True

/-- The socket has accepted what was queued, in order, and a session that goes on is intact
or, between two events, spent.
-/
structure ClientConnection.Ordered (connection : ClientConnection) : Prop where
  order : connection.unit.link.InOrder
  going
    : connection.completed = none
      → connection.unit.Intact ∨ connection.outputDue = false ∧ connection.unit.Spent

theorem ClientConnection.Ordered.of_intact {connection : ClientConnection}
    (intact : connection.unit.Intact)
    : connection.Ordered :=
  ⟨intact.inOrder, fun _ => Or.inl intact⟩

theorem ClientConnection.Ordered.of_completed {connection : ClientConnection}
    (order : connection.unit.link.InOrder)
    (completed : connection.completed ≠ none)
    : connection.Ordered :=
  ⟨order, fun going => (completed going).elim⟩

/-- A response to a unit that is not marked, between two events. -/
theorem ClientConnection.Ordered.respond {connection : ClientConnection}
    (intact : connection.unit.Intact) (resting : connection.outputDue = false)
    (data : List UInt8) (answers : ClientAnswers) (completed : Option Completion)
    : (ClientConnection.mk (connection.unit.respond data answers).2 connection.outputDue
        completed).Ordered := by
  rcases intact.respond data answers with ⟨_, sent⟩ | ⟨_, _, spent⟩
  · exact .of_intact sent
  · exact ⟨spent.inOrder, fun _ => Or.inr ⟨resting, spent⟩⟩

theorem ClientUnit.attach_intact (fd : Int) (slot : Option Nat) (ctl : Bool)
    : ((ClientUnit.create fd).attach slot ctl).2.Intact := by
  have registered
      : ((ClientUnit.create fd).poller.enableInput.attachPoller slot ctl).2.Registered :=
    PollerObject.Registered.attachPoller rfl slot ctl
  unfold ClientUnit.attach
  dsimp only
  split <;> exact ⟨OutputLink.gapless_fresh, registered⟩

theorem ClientConnection.accepted_ordered {connection : ClientConnection}
    (accepted : connection.Accepted)
    : connection.Ordered := by
  obtain ⟨fd, slot, ctl, attached, -, -⟩ := accepted
  have intact := ClientUnit.attach_intact fd slot ctl
  rw [attached] at intact
  exact .of_intact intact

/-- Epoll reports nothing for a spent unit. -/
theorem ClientUnit.Spent.not_reported {unit : ClientUnit} (spent : unit.Spent)
    (notRound : unit.poller.NotRound)
    : unit.poller.deliverable.input = false ∧ unit.poller.deliverable.output = false := by
  rw [spent.silent notRound]
  exact ⟨rfl, rfl⟩

/-- A step that respects losses keeps the order, by cases on the event. -/
theorem ConnectionEvent.step_ordered {connection next : ClientConnection}
    {event : ConnectionEvent} (ordered : connection.Ordered)
    (respects : event.RespectsLoss connection) (step : event.Step connection next)
    : next.Ordered := by
  obtain ⟨⟨going, enabled⟩, performed⟩ := step
  obtain ⟨notRound, respects⟩ := respects
  have state := ordered.going going
  have unmarked (other : connection.unit.stage ≠ .fatalError) : connection.unit.Intact := by
    rcases state with intact | ⟨_, spent⟩
    · exact intact
    · exact (other spent.marked).elim
  cases event with
  | input alsoOutput recv script policyAnswers applyCtl =>
      have intact : connection.unit.beginEvent.Intact := by
        rcases state with intact | ⟨_, spent⟩
        · exact ⟨intact.gapless, intact.registered.ask _⟩
        · simp [spent.not_reported notRound] at enabled
      obtain ⟨completes, after, yields, rfl⟩ := perform_input performed
      obtain ⟨status, read, reads, settled, rfl⟩ := Callback.inputNotify_reads yields
      obtain ⟨order, running⟩ := Callback.reads_intact reads intact respects
      have ordered' : after.unit.link.InOrder := by
        rw [settled, link_settle]
        exact order
      split_ifs with completes due
      · exact .of_completed ordered' (by simp)
      all_goals
        have alive : after.unit.Intact := by
          rw [settled]
          refine (running ?_).settle status
          rintro rfl
          rw [settled] at completes
          exact completes rfl
      · exact .of_intact alive
      · exact .of_intact ⟨alive.gapless, alive.registered.applyEvents _⟩
  | output first second =>
      have intact : connection.unit.Intact := by
        rcases state with intact | ⟨resting, spent⟩
        · exact intact
        · simp [resting, spent.not_reported notRound] at enabled
      have begun : connection.served.Intact := by
        unfold ClientConnection.served
        split
        · exact intact
        · exact ⟨intact.gapless, intact.registered.ask _⟩
      obtain ⟨order, alive⟩ := begun.outputNotify first second
      simp only [perform] at performed
      cases performed
      split_ifs with completes
      · exact .of_completed order (by simp)
      · exact .of_intact (alive (eq_false_of_ne_true completes))
  | helperPacket szTemp answers =>
      simp only [perform] at performed
      split at performed
      · cases performed
        exact .of_completed ordered.order (by simp)
      · rename_i other
        cases performed
        exact .respond (unmarked other) enabled szTemp answers _
  | gamePacket packet answers =>
      simp only [perform] at performed
      split at performed
      · cases performed
        exact .of_completed ordered.order (by simp)
      · rename_i other
        cases performed
        exact .respond (unmarked other) enabled packet answers _
  | broadcast packet answers =>
      simp only [perform] at performed
      split at performed
      · cases performed
        exact ordered
      · rename_i other
        cases performed
        exact .respond (unmarked other) enabled packet answers _
  | kick packet answers =>
      cases performed
      exact .respond (unmarked respects) enabled packet answers _
  | close =>
      cases performed
      exact .of_completed ordered.order (by simp)

/-- What the socket of a client accepts over the life of the connection is a prefix of what
was queued for it, and nothing is sent once queued bytes were discarded, in every run whose
steps respect losses.
-/
theorem accepted_bytes_in_order {connection : ClientConnection}
    (reached : connection.ReachedWhile (fun before event => event.RespectsLoss before))
    : connection.unit.link.delivered <+: connection.unit.link.offered
      ∧ connection.unit.link.late = [] := by
  have ordered : connection.Ordered :=
    reached.invariant ClientConnection.Ordered
      (fun _ accepted => ClientConnection.accepted_ordered accepted)
      (fun _ _ _ ordered taken => ConnectionEvent.step_ordered ordered taken.1 taken.2)
  exact ⟨ordered.order.delivered_prefix, ordered.order.prompt⟩

/-- The packet that the login handler sends to the session it kicks. -/
def kickPacket : List UInt8 := [0, 7, 66, 89, 1, 1, 2, 3, 0]

/-- A four-byte packet of which two bytes are accepted, and then the kick. -/
theorem accepted_bytes_in_order_behind_partial_send
    : ∃ connection : ClientConnection,
        connection.ReachedWhile (fun before event => event.RespectsLoss before)
        ∧ connection.unit.link.delivered = [1, 2, 3, 4, 0]
        ∧ connection.unit.link.delivered <+: connection.unit.link.offered
        ∧ connection.unit.link.late = [] := by
  have started : ClientConnection.fresh.ReachedWhile
      (fun before event => event.RespectsLoss before) :=
    .start ClientConnection.fresh_accepted
  have pushed := started.next (.helperPacket [1, 2, 3, 4] ⟨.accepted 2, true⟩)
    ⟨by rintro _ _ ⟨⟩; decide, trivial⟩ ⟨rfl, rfl⟩ rfl
  have kicked := pushed.next (.kick kickPacket ⟨.accepted 3, true⟩)
    ⟨by rintro _ _ ⟨⟩; decide, nofun⟩ ⟨rfl, rfl⟩ rfl
  exact ⟨_, kicked, rfl, accepted_bytes_in_order kicked⟩

/-- Writing behind a loss: two of four bytes are accepted, the next `::send` fails and all
that is queued is discarded, and then the packet of a kick is accepted. The same happens
when the failing `::send` is that of a broadcast by the client itself: reading on takes the
mark away, and the next packet of a helper is accepted.
-/
theorem accepted_bytes_out_of_order
    : (∃ connection : ClientConnection,
        connection.ReachedWhile (fun _ _ => True)
        ∧ connection.unit.link.offered = [1, 2, 3, 4, 5] ++ kickPacket
        ∧ connection.unit.link.delivered = [1, 2] ++ kickPacket
        ∧ ¬connection.unit.link.delivered <+: connection.unit.link.offered)
      ∧ ∃ connection : ClientConnection,
        connection.ReachedWhile
          (fun _ event => ∀ packet answers, event ≠ .kick packet answers)
        ∧ connection.unit.link.offered = [1, 2, 3, 4, 5, 6]
        ∧ connection.unit.link.delivered = [1, 2, 6]
        ∧ ¬connection.unit.link.delivered <+: connection.unit.link.offered := by
  constructor
  · have started : ClientConnection.fresh.ReachedWhile (fun _ _ => True) :=
      .start ClientConnection.fresh_accepted
    have pushed := started.next (.helperPacket [1, 2, 3, 4] ⟨.accepted 2, true⟩)
      trivial ⟨rfl, rfl⟩ rfl
    have lost := pushed.next (.helperPacket [5] ⟨.error, true⟩) trivial ⟨rfl, rfl⟩ rfl
    have kicked := lost.next (.kick kickPacket ⟨.accepted 9, true⟩) trivial ⟨rfl, rfl⟩ rfl
    exact ⟨_, kicked, rfl, rfl, by decide⟩
  · have started : ClientConnection.fresh.ReachedWhile
        (fun _ event => ∀ packet answers, event ≠ .kick packet answers) :=
      .start ClientConnection.fresh_accepted
    have pushed := started.next (.helperPacket [1, 2, 3, 4] ⟨.accepted 2, true⟩)
      nofun ⟨rfl, rfl⟩ rfl
    have lost := pushed.next
      (.input false (.data [0, 7, 66, 89, 1, 1, 0x70, 0x55, 0])
        [.broadcast [5] ⟨.error, true⟩] ⟨.error, true⟩ true)
      nofun ⟨rfl, rfl, rfl, nofun⟩ rfl
    have sent := lost.next (.helperPacket [6] ⟨.accepted 1, true⟩) nofun ⟨rfl, rfl⟩ rfl
    exact ⟨_, sent, rfl, rfl, by decide⟩

end ProxyServer.Units
