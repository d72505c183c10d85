import ProxyServer.Library.OutputLink
import ProxyServer.Units.PollerObject

/-! A connection to a back-end server: what `CHelperUnit` and `CGameUnit` have in common.
The history of the output queue is kept beside it, so that what was sent can be compared
with what was appended.
-/

namespace ProxyServer.Units

-----------------------------------------------------------------------------------------
-- Answers of the operating system
-----------------------------------------------------------------------------------------

/-- What `CNet::tcp_connect` answers. It stores the descriptor also when it fails. -/
inductive ConnectAnswer
  | noSocket
  | refused (fd : Nat)
  | connected (fd : Nat)
  deriving DecidableEq, Repr

/-- The answers one operation of a unit can ask for. `attachCtl`, `applyCtl` and `detachCtl`
are those of `epoll_ctl`, `slot` the sequence number of a free slot.
-/
structure BackendAnswers where
  connect : ConnectAnswer
  slot : Option Nat
  attachCtl : Bool
  send : SendAnswer
  applyCtl : Bool
  detachCtl : Bool

-----------------------------------------------------------------------------------------
-- The unit
-----------------------------------------------------------------------------------------

/-- Which of the two classes a unit is. -/
inductive BackendKind
  | helper
  | game
  deriving DecidableEq, Repr

/-- The address a game unit has without a room assignment. -/
def noAddress : List UInt8 := "0.0.0.0".toUTF8.toList

/-- The data members of both units; only a game unit uses `tid`. `link` is the history since the
last `reset_helper` or connect, `finished` are the histories before.
-/
structure BackendUnit where
  kind : BackendKind
  poller : PollerObject
  stage : ConnState
  sendErrorTimes : Int
  r : List UInt8
  w : List UInt8
  addr : List UInt8
  port : Int
  tid : Int
  link : OutputLink UInt8
  finished : List (OutputLink UInt8)

namespace BackendUnit

/-- The constructor; a `CPollerObject` without a descriptor has `netfd` 0. -/
def create (kind : BackendKind) (addr : List UInt8) (port : Int) : BackendUnit where
  kind := kind
  poller := PollerObject.create 0
  stage := .idle
  sendErrorTimes := 0
  r := []
  w := []
  addr := addr
  port := port
  tid := 0
  link := OutputLink.fresh
  finished := []

def withPoller (update : PollerObject → PollerObject) (unit : BackendUnit) : BackendUnit :=
  { unit with poller := update unit.poller }

/-- `append_pkg`. -/
def appendPkg (buf : List UInt8) (unit : BackendUnit) : BackendUnit :=
  { unit with w := unit.w ++ buf, link := unit.link.offer buf }

/-- `reset_helper`. A game unit forgets its room assignment, too. -/
def resetHelper (answers : BackendAnswers) (unit : BackendUnit) : BackendUnit :=
  let applied := (unit.poller.disableInput.disableOutput.applyEvents answers.applyCtl).2
  {
    unit with
    w := []
    r := []
    poller := { applied.detachPoller answers.detachCtl with netfd := -1 }
    stage := .idle
    addr := if unit.kind = .game then noAddress else unit.addr
    port := if unit.kind = .game then 0 else unit.port
    tid := if unit.kind = .game then 0 else unit.tid
    link := OutputLink.fresh
    finished := unit.link :: unit.finished
  }

/-- `CNet::tcp_connect(&netfd, ...)`. A new connection starts its history with what is
still queued.
-/
def tcpConnect (answers : BackendAnswers) (unit : BackendUnit) : Int × BackendUnit :=
  match answers.connect with
  | .noSocket => (-2, unit.withPoller (fun poller => { poller with netfd := -1 }))
  | .refused fd => (-1, unit.withPoller (fun poller => { poller with netfd := fd }))
  | .connected fd =>
      (0,
        {
          unit with
          poller := { unit.poller with netfd := fd }
          link := { unit.link with delivered := [] }
          finished := unit.link :: unit.finished
        })

/-- `connect`. -/
def connect (answers : BackendAnswers) (unit : BackendUnit) : Int × BackendUnit :=
  let (ret, unit) :=
    if unit.stage = .idle ∨ unit.poller.netfd < 0 then unit.tcpConnect answers else (0, unit)
  if ret < 0 then (-1, unit)
  else
    let (attached, poller) := unit.poller.attachPoller answers.slot answers.attachCtl
    (attached, { unit with stage := .connected, poller := poller })

/-- Whether `connect` opens a new connection. -/
def opens (answers : BackendAnswers) (unit : BackendUnit) : Bool :=
  match answers.connect with
  | .connected _ => unit.stage = .idle ∨ unit.poller.netfd < 0
  | _ => false

/-- The address and port of a unit that has a connection. -/
def server (unit : BackendUnit) : Option (List UInt8 × Int) :=
  if 0 < unit.poller.netfd then some (unit.addr, unit.port) else none

/-- `send_to_cgi`. The counter of transient errors is not reset with the connection. -/
def sendToCgi (answers : BackendAnswers) (unit : BackendUnit) : Int × BackendUnit :=
  if unit.w = [] then (0, unit)
  else
    match answers.send with
    | .transient =>
        let errors := toInt16 (unit.sendErrorTimes + 1)
        if 50 ≤ errors then
          (-1,
            {
              { unit with sendErrorTimes := errors }.resetHelper answers with
              stage := .fatalError
            })
        else
          (ConnState.dataSending.code,
            {
              unit with
              sendErrorTimes := errors
              poller := (unit.poller.enableOutput.applyEvents answers.applyCtl).2
            })
    | .error => (-1, { unit.resetHelper answers with stage := .fatalError })
    | .accepted count =>
        let sent := min count unit.w.length
        if sent = unit.w.length then
          (sent,
            {
              unit with
              w := unit.w.drop sent
              poller := (unit.poller.disableOutput.applyEvents answers.applyCtl).2
              stage := .sendDone
              sendErrorTimes := 0
              link := unit.link.deliver (unit.w.take sent)
            })
        else
          (sent,
            {
              unit with
              w := unit.w.drop sent
              poller := (unit.poller.enableOutput.applyEvents answers.applyCtl).2
              stage := .dataSending
              sendErrorTimes := 0
              link := unit.link.deliver (unit.w.take sent)
            })

/-- `send_to_logic`, without the timer. -/
def sendToLogic (answers : BackendAnswers) (unit : BackendUnit) : Int × BackendUnit :=
  let (connected, unit) := (unit.withPoller PollerObject.enableInput).connect answers
  if connected < 0 then (-1, unit.resetHelper answers)
  else unit.sendToCgi answers

-----------------------------------------------------------------------------------------
-- Callbacks of the poller and the timer
-----------------------------------------------------------------------------------------

/-- The stage and result of `recv_from_cgi`, given what `process_pkg` returned. -/
def recvFromCgi (recv : RecvAnswer) (processed : Int) (unit : BackendUnit)
    : Int × BackendUnit :=
  match recv with
  | .transient => (0, { unit with stage := .dataRecving })
  | .error => (-1, { unit with stage := .fatalError })
  | .closed => (-1, { unit with stage := .disconnect })
  | .data chunk =>
      if processed < 0 then (-1, unit)
      else (chunk.length, { unit with stage := .recvDone })

/-- `InputNotify`. The frames in between reach this unit's output only by its own calls. -/
def inputNotify (recv : RecvAnswer) (processed : Int) (answers : BackendAnswers)
    (unit : BackendUnit) : BackendUnit :=
  let (ret, unit) := unit.recvFromCgi recv processed
  if ret < 0 then unit.resetHelper answers else unit

/-- `OutputNotify`. A helper unit ignores the result; a game unit resets itself once more
before its session is completed.
-/
def outputNotify (answers : BackendAnswers) (unit : BackendUnit) : BackendUnit :=
  let (ret, sent) := unit.sendToCgi answers
  if ret < 0 ∧ unit.kind = .game then sent.resetHelper answers else sent

/-- `HangupNotify` behind `process_pkg`. -/
def hangupNotify (answers : BackendAnswers) (unit : BackendUnit) : BackendUnit :=
  unit.resetHelper answers

/-- `TimerNotify`. -/
def timerNotify (answers : BackendAnswers) (unit : BackendUnit) : BackendUnit :=
  unit.resetHelper answers

-----------------------------------------------------------------------------------------
-- What leaves the way to the server alone
-----------------------------------------------------------------------------------------

/-- The connection of a unit and where it leads. -/
def route (unit : BackendUnit) : Int × List UInt8 × Int × Int :=
  (unit.poller.netfd, unit.addr, unit.port, unit.tid)

/-- A unit stays on its way to the server or gives its connection up, a game unit with its
room. It is not given to the poller.
-/
structure Steady (unit next : BackendUnit) : Prop where
  kind : next.kind = unit.kind
  attached : next.poller.attached = true → unit.poller.attached = true
  route
    : next.route = unit.route
      ∨ next.poller.netfd = -1 ∧ (unit.kind = .game → next.tid = 0)

theorem steady_reset (answers : BackendAnswers) (stage : ConnState) (unit : BackendUnit)
    : unit.Steady { unit.resetHelper answers with stage := stage } where
  kind := rfl
  attached := by simp [resetHelper]
  route := Or.inr ⟨rfl, fun game => if_pos game⟩

theorem steady_appendPkg (buf : List UInt8) (unit : BackendUnit)
    : unit.Steady (unit.appendPkg buf) :=
  ⟨rfl, id, Or.inl rfl⟩

theorem steady_resetHelper (answers : BackendAnswers) (unit : BackendUnit)
    : unit.Steady (unit.resetHelper answers) :=
  steady_reset answers .idle unit

/-- A change of the events asked for. -/
theorem steady_withPoller {update : PollerObject → PollerObject} (unit : BackendUnit)
    (netfd : (update unit.poller).netfd = unit.poller.netfd)
    (attached : (update unit.poller).attached = unit.poller.attached)
    : unit.Steady (unit.withPoller update) where
  kind := rfl
  attached := fun isAttached => attached ▸ isAttached
  route := Or.inl (congrArg (fun netfd => (netfd, unit.addr, unit.port, unit.tid)) netfd)

theorem steady_applyEvents (ctl : Bool) (unit : BackendUnit)
    : unit.Steady (unit.withPoller (fun poller => (poller.applyEvents ctl).2)) :=
  unit.steady_withPoller (PollerObject.applyEvents_netfd ctl unit.poller)
    (PollerObject.applyEvents_attached ctl unit.poller)

theorem steady_sendToCgi (answers : BackendAnswers) (unit : BackendUnit)
    : unit.Steady (unit.sendToCgi answers).2 := by
  have applies : ∀ (poller : PollerObject) (next : BackendUnit),
      poller.netfd = unit.poller.netfd → poller.attached = unit.poller.attached
      → next.kind = unit.kind → next.poller = (poller.applyEvents answers.applyCtl).2
      → (next.addr, next.port, next.tid) = (unit.addr, unit.port, unit.tid)
      → unit.Steady next := by
    intro poller next netfd attached kind applied rest
    have netfd : next.poller.netfd = unit.poller.netfd := by
      rw [applied, PollerObject.applyEvents_netfd, netfd]
    have attached : next.poller.attached = unit.poller.attached := by
      rw [applied, PollerObject.applyEvents_attached, attached]
    refine ⟨kind, fun isAttached => attached ▸ isAttached, Or.inl ?_⟩
    rw [route, netfd]
    exact congrArg (Prod.mk unit.poller.netfd) rest
  rw [sendToCgi]
  split
  · exact ⟨rfl, id, Or.inl rfl⟩
  · cases answers.send with
    | transient =>
        dsimp only
        split
        · exact ⟨rfl, by simp [resetHelper], Or.inr ⟨rfl, fun game => if_pos game⟩⟩
        · exact applies unit.poller.enableOutput _ rfl rfl rfl rfl rfl
    | error => exact steady_reset answers .fatalError unit
    | accepted count =>
        dsimp only
        split
        · exact applies unit.poller.disableOutput _ rfl rfl rfl rfl rfl
        · exact applies unit.poller.enableOutput _ rfl rfl rfl rfl rfl

theorem steady_recvFromCgi (recv : RecvAnswer) (processed : Int) (unit : BackendUnit)
    : unit.Steady (unit.recvFromCgi recv processed).2 := by
  cases recv with
  | data chunk =>
      rw [recvFromCgi]
      split
      · exact ⟨rfl, id, Or.inl rfl⟩
      · exact ⟨rfl, id, Or.inl rfl⟩
  | closed => exact ⟨rfl, id, Or.inl rfl⟩
  | transient => exact ⟨rfl, id, Or.inl rfl⟩
  | error => exact ⟨rfl, id, Or.inl rfl⟩

/-- The way to the server behind `connect`: only the descriptor may be a new one. -/
theorem connect_way (answers : BackendAnswers) (unit : BackendUnit)
    : (unit.connect answers).2.kind = unit.kind
      ∧ ((unit.connect answers).2.addr, (unit.connect answers).2.port,
          (unit.connect answers).2.tid) = (unit.addr, unit.port, unit.tid)
      ∧ (0 ≤ (unit.connect answers).1
        → unit.opens answers = true
          ∨ (unit.connect answers).2.poller.netfd = unit.poller.netfd) := by
  rw [connect, opens]
  by_cases dials : unit.stage = .idle ∨ unit.poller.netfd < 0
  · rw [if_pos dials, tcpConnect]
    cases answers.connect with
    | noSocket => exact ⟨rfl, rfl, fun connected => by simp at connected⟩
    | refused fd => exact ⟨rfl, rfl, fun connected => by simp at connected⟩
    | connected fd => exact ⟨rfl, rfl, fun _ => Or.inl (decide_eq_true dials)⟩
  · rw [if_neg dials]
    exact ⟨rfl, rfl, fun _ => Or.inr (PollerObject.attachPoller_netfd ..)⟩

/-- Behind `send_to_logic` a unit goes the way it went, perhaps on a connection that was just
opened, or has given its connection up, a game unit with its room.
-/
structure Sent (answers : BackendAnswers) (unit next : BackendUnit) : Prop where
  kind : next.kind = unit.kind
  attached
    : next.poller.attached = true
      → 0 ≤ ((unit.withPoller PollerObject.enableInput).connect answers).1
  route
    : (next.addr, next.port, next.tid) = (unit.addr, unit.port, unit.tid)
        ∧ (unit.opens answers = true ∨ next.poller.netfd = unit.poller.netfd)
      ∨ next.poller.netfd = -1 ∧ (unit.kind = .game → next.tid = 0)

theorem sent_sendToLogic (answers : BackendAnswers) (unit : BackendUnit)
    : unit.Sent answers (unit.sendToLogic answers).2 := by
  obtain ⟨kind, way, opened⟩ := connect_way answers (unit.withPoller PollerObject.enableInput)
  rw [sendToLogic]
  generalize ends : (unit.withPoller PollerObject.enableInput).connect answers = dialled
    at kind way opened
  obtain ⟨connected, dialled⟩ := dialled
  dsimp only at kind way opened ⊢
  split
  · refine ⟨kind, fun attached => ?_, Or.inr ⟨rfl, fun game => if_pos (kind.trans game)⟩⟩
    simp [resetHelper] at attached
  · rename_i succeeded
    have steady := steady_sendToCgi answers dialled
    refine ⟨steady.kind.trans kind, fun _ => ?_, ?_⟩
    · rw [ends]
      exact not_lt.mp succeeded
    · rcases steady.route with same | ⟨netfd, tid⟩
      · rw [route, route, Prod.mk.injEq] at same
        refine Or.inl ⟨same.2.trans way, ?_⟩
        rcases opened (not_lt.mp succeeded) with isOpen | netfd
        · exact Or.inl isOpen
        · exact Or.inr (same.1.trans netfd)
      · exact Or.inr ⟨netfd, fun game => tid (kind.trans game)⟩

end BackendUnit

-----------------------------------------------------------------------------------------
-- Runs
-----------------------------------------------------------------------------------------

/-- The calls that reach a unit's connection and output queue. -/
inductive BackendCall
  | appendPkg (buf : List UInt8)
  | sendToLogic (answers : BackendAnswers)
  | inputNotify (recv : RecvAnswer) (processed : Int) (answers : BackendAnswers)
  | outputNotify (answers : BackendAnswers)
  | hangupNotify (answers : BackendAnswers)
  | timerNotify (answers : BackendAnswers)
  | resetHelper (answers : BackendAnswers)

namespace BackendCall

def perform : BackendCall → BackendUnit → BackendUnit
  | .appendPkg buf, unit => unit.appendPkg buf
  | .sendToLogic answers, unit => (unit.sendToLogic answers).2
  | .inputNotify recv processed answers, unit => unit.inputNotify recv processed answers
  | .outputNotify answers, unit => unit.outputNotify answers
  | .hangupNotify answers, unit => unit.hangupNotify answers
  | .timerNotify answers, unit => unit.timerNotify answers
  | .resetHelper answers, unit => unit.resetHelper answers

/-- The poller calls only the objects in its slots. `InputNotify` is a step of a run where it
ends, after the calls that its frames make; they may have reset the unit.
-/
def Enabled (unit : BackendUnit) : BackendCall → Prop
  | .outputNotify _ => unit.poller.attached = true
  | _ => True

end BackendCall

/-- The states a unit can reach, under any answers of the operating system. -/
inductive BackendRun (kind : BackendKind) : BackendUnit → Prop
  | start (addr : List UInt8) (port : Int) : BackendRun kind (BackendUnit.create kind addr port)
  | step {unit : BackendUnit} {call : BackendCall} (earlier : BackendRun kind unit)
    (enabled : call.Enabled unit)
    : BackendRun kind (call.perform unit)

-----------------------------------------------------------------------------------------
-- Queue and connection stay in step
-----------------------------------------------------------------------------------------

namespace BackendUnit

/-- The queue is what the current connection has not been given yet, and every earlier
connection was given a prefix.
-/
structure Linked (unit : BackendUnit) : Prop where
  gapless : unit.link.Gapless unit.w
  finished : ∀ link ∈ unit.finished, link.delivered <+: link.offered

/-- A linked unit between two calls: without a connection it has given nothing away. -/
structure InStep (unit : BackendUnit) : Prop extends Linked unit where
  closed : unit.stage = .idle ∨ unit.poller.netfd < 0 → unit.link.delivered = []
  attached
    : unit.poller.attached = true → unit.stage ≠ .idle ∧ 0 ≤ unit.poller.netfd

variable {unit : BackendUnit}

theorem inStep_create (kind : BackendKind) (addr : List UInt8) (port : Int)
    : (create kind addr port).InStep where
  gapless := OutputLink.gapless_fresh
  closed := fun _ => rfl
  attached := nofun
  finished := nofun

theorem InStep.append (inStep : unit.InStep) (buf : List UInt8)
    : (unit.appendPkg buf).InStep where
  gapless := inStep.gapless.offer buf
  closed := inStep.closed
  attached := inStep.attached
  finished := inStep.finished

/-- The current history, too, has a prefix delivered. -/
theorem Linked.all_prefix (linked : unit.Linked)
    : ∀ link ∈ unit.link :: unit.finished, link.delivered <+: link.offered := by
  intro link member
  rcases List.mem_cons.mp member with rfl | old
  · exact linked.gapless.inOrder.delivered_prefix
  · exact linked.finished link old

/-- A reset unit is in step again, whatever its stage is set to. -/
theorem Linked.reset (linked : unit.Linked) (answers : BackendAnswers) (stage : ConnState)
    : { unit.resetHelper answers with stage := stage }.InStep where
  gapless := OutputLink.gapless_fresh
  closed := fun _ => rfl
  attached := by
    intro attached
    simp [resetHelper] at attached
  finished := linked.all_prefix

theorem Linked.resetHelper (linked : unit.Linked) (answers : BackendAnswers)
    : (unit.resetHelper answers).InStep :=
  linked.reset answers .idle

/-- Changes of the stage and the event mask keep a unit in step. -/
theorem InStep.restage (inStep : unit.InStep) {next : BackendUnit}
    (link : next.link = unit.link) (w : next.w = unit.w)
    (finished : next.finished = unit.finished)
    (netfd : next.poller.netfd = unit.poller.netfd)
    (attached : next.poller.attached = unit.poller.attached)
    (stage : next.stage = unit.stage ∨ next.stage ≠ .idle)
    : next.InStep where
  gapless := by rw [link, w]; exact inStep.gapless
  closed := by
    intro closed
    rw [link]
    refine inStep.closed ?_
    rw [netfd] at closed
    rcases closed with idle | negative
    · rcases stage with same | busy
      · exact Or.inl (same ▸ idle)
      · exact (busy idle).elim
    · exact Or.inr negative
  attached := by
    intro isAttached
    obtain ⟨busy, open'⟩ := inStep.attached (attached ▸ isAttached)
    refine ⟨?_, netfd ▸ open'⟩
    rcases stage with same | busy'
    · exact same ▸ busy
    · exact busy'
  finished := by rw [finished]; exact inStep.finished

/-- Sending on an open connection takes bytes from the front of the queue. -/
theorem InStep.deliver (inStep : unit.InStep) {next : BackendUnit} {sent : Nat}
    (link : next.link = unit.link.deliver (unit.w.take sent)) (w : next.w = unit.w.drop sent)
    (finished : next.finished = unit.finished)
    (netfd : next.poller.netfd = unit.poller.netfd) (busy : next.stage ≠ .idle)
    (isOpen : 0 ≤ unit.poller.netfd)
    : next.InStep where
  gapless := by rw [link, w]; exact inStep.gapless.deliver sent
  closed := by
    rintro (idle | negative)
    · exact (busy idle).elim
    · rw [netfd] at negative
      omega
  attached := fun _ => ⟨busy, netfd ▸ isOpen⟩
  finished := by rw [finished]; exact inStep.finished

theorem InStep.sendToCgi (inStep : unit.InStep) (isOpen : 0 ≤ unit.poller.netfd)
    (answers : BackendAnswers)
    : (unit.sendToCgi answers).2.InStep := by
  unfold BackendUnit.sendToCgi
  split
  · exact inStep
  · split
    · dsimp only
      split
      · have counted : { unit with
            sendErrorTimes := toInt16 (unit.sendErrorTimes + 1) }.InStep :=
          inStep.restage rfl rfl rfl rfl rfl (Or.inl rfl)
        exact counted.toLinked.reset answers .fatalError
      · exact inStep.restage rfl rfl rfl (PollerObject.applyEvents_netfd _ _)
          (PollerObject.applyEvents_attached _ _) (Or.inl rfl)
    · exact inStep.toLinked.reset answers .fatalError
    · dsimp only
      split
      · exact inStep.deliver rfl rfl rfl (PollerObject.applyEvents_netfd _ _) nofun isOpen
      · exact inStep.deliver rfl rfl rfl (PollerObject.applyEvents_netfd _ _) nofun isOpen

/-- `connect` dials only where nothing was given away, so the new connection starts with the
whole queue; it succeeds only with an open descriptor.
-/
theorem InStep.connect (inStep : unit.InStep) (answers : BackendAnswers)
    : (unit.connect answers).2.Linked
      ∧ (0 ≤ (unit.connect answers).1
        → (unit.connect answers).2.stage = .connected
          ∧ 0 ≤ (unit.connect answers).2.poller.netfd) := by
  have attach {dialled : BackendUnit} (linked : dialled.Linked)
      : ({ dialled with
            stage := .connected
            poller := (dialled.poller.attachPoller answers.slot answers.attachCtl).2 }
          : BackendUnit).Linked
        ∧ (0 ≤ (dialled.poller.attachPoller answers.slot answers.attachCtl).1
          → ConnState.connected = .connected
            ∧ 0 ≤ (dialled.poller.attachPoller answers.slot answers.attachCtl).2.netfd) := by
    refine ⟨⟨linked.gapless, linked.finished⟩, fun attached => ⟨rfl, ?_⟩⟩
    rw [PollerObject.attachPoller_netfd]
    by_contra negative
    unfold PollerObject.attachPoller at attached
    rw [if_pos (by omega)] at attached
    simp at attached
  unfold BackendUnit.connect
  by_cases dials : unit.stage = .idle ∨ unit.poller.netfd < 0
  · have nothing := inStep.closed dials
    rw [if_pos dials]
    unfold tcpConnect
    cases answers.connect with
    | noSocket =>
        exact ⟨⟨inStep.gapless, inStep.finished⟩, fun ret => by simp at ret⟩
    | refused fd =>
        exact ⟨⟨inStep.gapless, inStep.finished⟩, fun ret => by simp at ret⟩
    | connected fd =>
        refine attach ⟨⟨inStep.gapless.kept, inStep.gapless.prompt, ?_⟩, inStep.all_prefix⟩
        rw [← nothing]
        exact inStep.gapless.offered_eq
  · rw [if_neg dials]
    exact attach inStep.toLinked

theorem InStep.sendToLogic (inStep : unit.InStep) (answers : BackendAnswers)
    : (unit.sendToLogic answers).2.InStep := by
  have listening : (unit.withPoller PollerObject.enableInput).InStep :=
    inStep.restage rfl rfl rfl rfl rfl (Or.inl rfl)
  obtain ⟨linked, opened⟩ := listening.connect answers
  unfold BackendUnit.sendToLogic
  generalize (unit.withPoller PollerObject.enableInput).connect answers = connected
    at linked opened ⊢
  obtain ⟨ret, dialled⟩ := connected
  dsimp only at linked opened ⊢
  split
  · exact linked.resetHelper answers
  · rename_i succeeded
    obtain ⟨stage, isOpen⟩ := opened (by omega)
    have ready : dialled.InStep := by
      refine ⟨linked, ?_, fun _ => ⟨by rw [stage]; exact nofun, isOpen⟩⟩
      rintro (idle | negative)
      · rw [stage] at idle
        cases idle
      · omega
    exact ready.sendToCgi isOpen answers

theorem InStep.inputNotify (inStep : unit.InStep) (recv : RecvAnswer) (processed : Int)
    (answers : BackendAnswers)
    : (unit.inputNotify recv processed answers).InStep := by
  have received : (unit.recvFromCgi recv processed).2.InStep := by
    cases recv with
    | data chunk =>
        unfold recvFromCgi
        dsimp only
        split
        · exact inStep
        · exact inStep.restage rfl rfl rfl rfl rfl (Or.inr nofun)
    | closed => exact inStep.restage rfl rfl rfl rfl rfl (Or.inr nofun)
    | transient => exact inStep.restage rfl rfl rfl rfl rfl (Or.inr nofun)
    | error => exact inStep.restage rfl rfl rfl rfl rfl (Or.inr nofun)
  unfold BackendUnit.inputNotify
  dsimp only
  split
  · exact received.toLinked.resetHelper answers
  · exact received

theorem InStep.outputNotify (inStep : unit.InStep) (attached : unit.poller.attached = true)
    (answers : BackendAnswers)
    : (unit.outputNotify answers).InStep := by
  have sent := inStep.sendToCgi (inStep.attached attached).2 answers
  unfold BackendUnit.outputNotify
  dsimp only
  split
  · exact sent.toLinked.resetHelper answers
  · exact sent

/-- Every enabled call keeps queue and connection in step. -/
theorem InStep.perform (inStep : unit.InStep) {call : BackendCall}
    (enabled : call.Enabled unit)
    : (call.perform unit).InStep := by
  cases call with
  | appendPkg buf => exact inStep.append buf
  | sendToLogic answers => exact inStep.sendToLogic answers
  | inputNotify recv processed answers => exact inStep.inputNotify recv processed answers
  | outputNotify answers => exact inStep.outputNotify enabled answers
  | hangupNotify answers => exact inStep.toLinked.resetHelper answers
  | timerNotify answers => exact inStep.toLinked.resetHelper answers
  | resetHelper answers => exact inStep.toLinked.resetHelper answers

end BackendUnit

theorem BackendRun.inStep {kind : BackendKind} {unit : BackendUnit}
    (run : BackendRun kind unit)
    : unit.InStep := by
  induction run with
  | start addr port => exact BackendUnit.inStep_create kind addr port
  | step _ enabled ih => exact ih.perform enabled

/-- On every connection of a helper or game unit, the bytes accepted are a prefix of the
packets appended since the reset before it: each connection starts at a packet boundary, and
nothing is duplicated, reordered or skipped. What the current connection was not given yet is
what is queued.
-/
theorem connections_start_at_packet_boundaries {kind : BackendKind} {unit : BackendUnit}
    (run : BackendRun kind unit)
    : (∀ link ∈ unit.link :: unit.finished, link.delivered <+: link.offered)
      ∧ unit.link.offered = unit.link.delivered ++ unit.w :=
  ⟨run.inStep.all_prefix, run.inStep.gapless.offered_eq⟩

/-- Answers that open descriptor 7 and then accept three bytes. -/
def acceptThree : BackendAnswers where
  connect := .connected 7
  slot := some 0
  attachCtl := true
  send := .accepted 3
  applyCtl := true
  detachCtl := true

/-- A packet is cut by a partial send, the connection fails, and the next connection starts
with the next packet.
-/
theorem connections_start_at_packet_boundaries_after_cut
    : ∃ unit, BackendRun .helper unit
        ∧ unit.link.delivered = [5, 6]
        ∧ unit.finished.map OutputLink.delivered = [[], [1, 2, 3], []]
        ∧ (∀ link ∈ unit.link :: unit.finished, link.delivered <+: link.offered)
        ∧ unit.link.offered = unit.link.delivered ++ unit.w := by
  let failing : BackendAnswers := { acceptThree with send := .error }
  have start : BackendRun .helper (BackendUnit.create .helper [] 0) := BackendRun.start [] 0
  have first : BackendRun .helper (BackendCall.perform (.appendPkg [1, 2, 3, 4]) _) :=
    BackendRun.step start trivial
  have sent : BackendRun .helper (BackendCall.perform (.sendToLogic acceptThree) _) :=
    BackendRun.step first trivial
  have failed : BackendRun .helper (BackendCall.perform (.outputNotify failing) _) :=
    BackendRun.step sent rfl
  have second : BackendRun .helper (BackendCall.perform (.appendPkg [5, 6]) _) :=
    BackendRun.step failed trivial
  have reconnected : BackendRun .helper (BackendCall.perform (.sendToLogic acceptThree) _) :=
    BackendRun.step second trivial
  exact ⟨_, reconnected, by decide, by decide,
    connections_start_at_packet_boundaries reconnected⟩

end ProxyServer.Units
