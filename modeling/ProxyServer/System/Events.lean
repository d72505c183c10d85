import ProxyServer.Library.Reachability
import ProxyServer.System.ClientFrames
import ProxyServer.System.ServerPackets

/-! The proxy at work: what the event loop calls, and the states it can reach.
A step is an accepted connection, an event that `ProcessPollerEvents` serves, or a timer that
`CheckExpired` finds expired.
-/

namespace ProxyServer.System

open Packets ProxyServer.Units
open Reachability
open FaultState Footprint

-----------------------------------------------------------------------------------------
-- Client units
-----------------------------------------------------------------------------------------

/-- Whether a session is to be completed; returns whether to go on with the event. -/
def completeIf (sid : SessionId) (completes : Bool) : ProxyM Bool := do
  if completes then do
    complete sid
    pure false
  else
    pure true

/-- `AttachTimer` and `ListDel` of a client unit. -/
def setWebTimer (sid : SessionId) (armed : Bool) : ProxyM Unit := do
  let _ ← useSession sid
  modify (Proxy.updateSession sid (Session.withWebTimer armed))

def updateWebTimer (sid : SessionId) : ProxyM Unit :=
  setWebTimer sid true

/-- What `proc_pkg` does with a frame; it goes on with the unit. -/
def handleFrame (sid : SessionId) (frame : List UInt8) : ProxyM Int := do
  let ret ← handleInputBuf sid frame
  let _ ← useSession sid
  pure ret

/-- What `proc_pkg` does first when a chunk looks like a policy request. -/
def onPolicy (sid : SessionId) : ProxyM Unit := do
  note (.policyAsked sid)
  setConnType sid .other

/-- `CClientUnit::InputNotify`: whether `web_input` is to complete the session. -/
def webRead (sid : SessionId) (recv : RecvAnswer) : ProxyM Bool := do
  updateWebTimer sid
  let answers ← ask
  (Proxy.web sid).inputNotify (handleFrame sid) (onPolicy sid) recv answers.client

/-- `CClientUnit::InputNotify` with the end of `web_input`. -/
def webInputNotify (sid : SessionId) (recv : RecvAnswer) : ProxyM Bool := do
  let completes ← webRead sid recv
  completeIf sid completes

/-- `CClientUnit::OutputNotify`; nothing follows it in an event. -/
def webOutputNotify (sid : SessionId) : ProxyM Bool := do
  updateWebTimer sid
  let first ← ask
  let second ← ask
  let completes ← callWeb sid (ClientUnit.outputNotify first.client second.client)
  discard (completeIf sid completes)
  pure false

/-- `CClientUnit::HangupNotify`. -/
def webHangupNotify (sid : SessionId) : ProxyM Unit := do
  updateWebTimer sid
  complete sid

/-- `CClientUnit::TimerNotify`, with the removal of the timer from its list. -/
def webTimerNotify (sid : SessionId) : ProxyM Unit := do
  setWebTimer sid false
  complete sid

-----------------------------------------------------------------------------------------
-- Back-end units
-----------------------------------------------------------------------------------------

/-- `process_pkg` of either class. -/
def processPkgOf : BackendId → ProxyM Int
  | .helper hid => helperProcessPkg hid
  | .game sid => gameProcessPkg sid

/-- A connection to a game server that fails takes its session with it. -/
def lose : BackendId → ProxyM Unit
  | .helper hid => resetHelper (.helper hid)
  | .game sid => do
      resetHelper (.game sid)
      complete sid

/-- What `recv_from_cgi` makes of the received bytes. -/
def processRecv (unit : BackendId) : RecvAnswer → ProxyM Int
  | .data chunk => do
      (Proxy.readCache unit).append chunk
      processPkgOf unit
  | _ => pure 0

/-- `InputNotify` of either class. The event goes on while the unit is in the slot that the
event was reported for.
-/
def backendInputNotify (unit : BackendId) (recv : RecvAnswer) : ProxyM Bool := do
  updateTimer unit
  let processed ← processRecv unit recv
  let ret ← callBackend unit (BackendUnit.recvFromCgi recv processed)
  if ret < 0 then do
    lose unit
    pure false
  else do
    let answers ← ask
    pure (((← get).backend unit).poller.attached && answers.sameSlot)

/-- `OutputNotify` of either class. A helper unit ignores the result. -/
def backendOutputNotify (unit : BackendId) : ProxyM Bool := do
  updateTimer unit
  let answers ← ask
  let ret ← callBackend unit (BackendUnit.sendToCgi answers.backend)
  match unit with
  | .helper _ => pure ((← get).backend unit).poller.attached
  | .game _ =>
      if ret < 0 then do
        lose unit
        pure false
      else
        pure ((← get).backend unit).poller.attached

/-- `HangupNotify` of either class. -/
def backendHangupNotify (unit : BackendId) : ProxyM Unit := do
  updateTimer unit
  discard (processPkgOf unit)
  lose unit

/-- `TimerNotify` of either class, behind the removal of the timer from its list. -/
def backendTimerNotify (unit : BackendId) : ProxyM Unit := do
  useUnit unit
  modify (Proxy.setTimer false unit)
  lose unit

-----------------------------------------------------------------------------------------
-- The poller
-----------------------------------------------------------------------------------------

/-- The bits of an event: `EPOLLHUP` or `EPOLLERR`, `EPOLLIN` and `EPOLLOUT`. -/
structure Ready where
  hangup : Bool
  input : Bool
  output : Bool

/-- Whether `epoll_wait` can report these bits and `VerifyEvents` lets them pass: the object's
registration is the current one, and asked for them.
-/
def Ready.ReportedFor (ready : Ready) (poller : PollerObject) : Prop :=
  poller.attached = true
    ∧ ∃ mask seq, poller.kernel = some (mask, seq) ∧ SameSeq seq poller.seq
      ∧ (ready.input = true → mask.input = true)
      ∧ (ready.output = true → mask.output = true)

instance (ready : Ready) (poller : PollerObject) : Decidable (ready.ReportedFor poller) :=
  match held : poller.kernel with
  | none => isFalse (fun reported => by simp [Ready.ReportedFor, held] at reported)
  | some (mask, seq) =>
      decidable_of_iff
        (poller.attached = true ∧ SameSeq seq poller.seq
          ∧ (ready.input = true → mask.input = true)
          ∧ (ready.output = true → mask.output = true))
        (by
          rw [Ready.ReportedFor, held]
          constructor
          · rintro ⟨attached, same, asked⟩
            exact ⟨attached, mask, seq, rfl, same, asked⟩
          · rintro ⟨attached, _, _, ⟨⟩, same, asked⟩
            exact ⟨attached, same, asked⟩)

/-- Runs a callback whose bit is set; an event without the bit goes on. -/
def whenReady (ready : Bool) (callback : ProxyM Bool) : ProxyM Bool :=
  if ready then callback else pure true

/-- The end of a turn of `ProcessPollerEvents` for a client unit. -/
def webApply (sid : SessionId) : ProxyM Unit := do
  let answers ← ask
  callWeb sid (fun unit => ((), unit.applyEvents answers.client.applyCtl))

/-- One turn of `ProcessPollerEvents` for a client unit. -/
def webEvent (sid : SessionId) (ready : Ready) (recv : RecvAnswer) : ProxyM Unit := do
  callWeb sid (fun unit => ((), unit.beginEvent))
  if ready.hangup then
    webHangupNotify sid
  else if ← whenReady ready.input (webInputNotify sid recv) then
    if ← whenReady ready.output (webOutputNotify sid) then
      webApply sid

/-- The end of a turn of `ProcessPollerEvents` for a back-end unit. -/
def backendApply (unit : BackendId) : ProxyM Unit := do
  let answers ← ask
  callBackend unit (fun backend =>
    ((), backend.withPoller (fun poller => (poller.applyEvents answers.backend.applyCtl).2)))

/-- One turn of `ProcessPollerEvents` for a back-end unit. -/
def backendEvent (unit : BackendId) (ready : Ready) (recv : RecvAnswer) : ProxyM Unit := do
  callBackend unit (fun backend => ((), backend.withPoller PollerObject.beginEvent))
  if ready.hangup then
    backendHangupNotify unit
  else if ← whenReady ready.input (backendInputNotify unit recv) then
    if ← whenReady ready.output (backendOutputNotify unit) then
      backendApply unit

-----------------------------------------------------------------------------------------
-- Accepting
-----------------------------------------------------------------------------------------

/-- What `proc_request` does with one accepted descriptor. Where `listener_input` fails, the
session is deleted and then used.
-/
def accept (sid : SessionId) (fd ip : Nat) : ProxyM Unit := do
  modify (Proxy.updateSession sid (fun _ => Session.create fd ip))
  note (.accepted sid)
  let answers ← ask
  let attached ←
    callWeb sid (ClientUnit.attach answers.backend.slot answers.backend.attachCtl)
  if attached = -1 then do
    deleteSession sid
    throw .memory
  else
    updateWebTimer sid

-----------------------------------------------------------------------------------------
-- Counting users
-----------------------------------------------------------------------------------------

/-- Writes a list of `short`s. -/
def writeShorts : List Int → StateM (OutputPacket 8192) Unit
  | [] => pure ()
  | value :: rest => do
      let _ ← OutputPacket.writeShort value
      writeShorts rest

/-- The inner packet of `SendGetLevelCount`. -/
def levelCountRequest (pool : HelperPool) : NETOutputPacket :=
  OutputPacket.build cmdGetRoomLeverNum do
    let _ ← OutputPacket.writeShort pool.levelmap.size
    writeShorts (pool.levelmap.keys.map toInt16)

/-- The outer packet of `SendGetLevelCount`. -/
def levelCountEnvelope (nUid svid : Int) (inner : List UInt8) : NETOutputPacket :=
  OutputPacket.build clientPacket do
    let _ ← OutputPacket.writeInt nUid
    let _ ← OutputPacket.writeInt svid
    let _ ← OutputPacket.writeBinary inner

/-- `RandomSvid` of `m_svidlist`. -/
def anySvid : ProxyM Int := do
  let proxy ← get
  randomSvid proxy.pool.svidlist

/-- `SendGetLevelCount`. -/
def sendGetLevelCount : ProxyM Unit := do
  let nUid := (← ask).random % 10
  let nSvid ← anySvid
  let proxy ← get
  let inner ← encrypted (levelCountRequest proxy.pool)
  let outPkg ← plain (levelCountEnvelope nUid proxy.global.svid inner)
  giveToHelperOf nSvid outPkg

-----------------------------------------------------------------------------------------
-- What callbacks can change
-----------------------------------------------------------------------------------------

section Within

variable {rules : Conduct Proxy Fault}

theorem whenReady_within (ready : Bool) {callback : ProxyM Bool}
    (calls : Within rules callback)
    : Within rules (whenReady ready callback) :=
  Within.ite calls (Within.pure _)

section Web

variable {sid : SessionId} (uses : Within rules (useSession sid))

theorem completeIf_within (completes : Within rules (complete sid)) (decision : Bool)
    : Within rules (completeIf sid decision) :=
  Within.ite (Within.bind completes (fun _ => Within.pure _)) (Within.pure _)

include uses

theorem setWebTimer_within (frees : Frees {.decoder sid} rules) (armed : Bool)
    : Within rules (setWebTimer sid armed) := by
  refine Within.bind uses (fun _ => frees.allows.modify rfl (fun proxy => ?_))
  exact Proxy.confined_session sid (Session.withWebTimer armed) proxy (Or.inr rfl)
    (Or.inr rfl) (Or.inl rfl) (Or.inr rfl) (Or.inr rfl) (Or.inr rfl)

theorem onPolicy_within (frees : Frees {.connType sid, .noted (.policy sid)} rules)
    : Within rules (onPolicy sid) := by
  refine Within.bind (note_within (frees.mono (by simp [Happening.topic]))) (fun _ => ?_)
  exact setConnType_within sid (frees.mono (by simp)) uses .other

section Parts

variable (frees : Frees {.scratch, .client sid, .decoder sid} rules)

include frees

theorem webRead_within (receives : Frees {.received sid} rules)
    (handles : ∀ frame, Within rules (handleInputBuf sid frame))
    (policy : Within rules (onPolicy sid)) (recv : RecvAnswer)
    : Within rules (webRead sid recv) := by
  refine Within.bind (setWebTimer_within uses (frees.mono (by simp)) true) (fun _ => ?_)
  refine Within.bind (ask_within (frees.mono (by simp))) (fun answers => ?_)
  have client : Frees {.client sid} rules := frees.mono (by simp)
  have frames : ∀ frame, Within rules (handleFrame sid frame) := fun frame =>
    Within.bind (handles frame) (fun _ => Within.bind uses (fun _ => Within.pure _))
  exact client.client.inputNotify receives.received frees.endless frames policy recv
    answers.client

theorem beginWeb_within
    : Within rules (callWeb sid (fun unit => ((), unit.beginEvent))) :=
  callWeb_within (frees.mono (by simp)) uses (fun _ => ⟨rfl, rfl, Or.inl rfl⟩)

theorem webApply_within : Within rules (webApply sid) := by
  refine Within.bind (ask_within (frees.mono (by simp))) (fun answers => ?_)
  exact callWeb_within (frees.mono (by simp)) uses (fun _ => ⟨rfl, rfl, Or.inl rfl⟩)

/-- Sending, up to the decision whether to complete the session. -/
theorem webSend_within (first second : Answers)
    : Within rules (callWeb sid (ClientUnit.outputNotify first.client second.client)) :=
  callWeb_within (frees.mono (by simp)) uses
    (ClientUnit.steady_outputNotify first.client second.client)

theorem webOutputNotify_within (completes : Within rules (complete sid))
    : Within rules (webOutputNotify sid) := by
  have scratch : Frees {.scratch} rules := frees.mono (by simp)
  refine Within.bind (setWebTimer_within uses (frees.mono (by simp)) true) (fun _ => ?_)
  refine Within.bind (ask_within scratch) (fun first => ?_)
  refine Within.bind (ask_within scratch) (fun second => ?_)
  refine Within.bind (webSend_within uses frees first second) (fun decision => ?_)
  exact Within.bind (Within.bind (completeIf_within completes decision)
    (fun _ => Within.pure _)) (fun _ => Within.pure _)

/-- An event of a client unit is within what reading and completing do. -/
theorem webEvent_within (recv : RecvAnswer) (inputs : Within rules (webInputNotify sid recv))
    (completes : Within rules (complete sid)) (ready : Ready)
    : Within rules (webEvent sid ready recv) := by
  refine Within.bind (beginWeb_within uses frees) (fun _ => Within.ite ?_ ?_)
  · refine Within.bind (setWebTimer_within uses (frees.mono (by simp)) true) ?_
    exact fun _ => completes
  · refine Within.bind (whenReady_within _ inputs) (fun _ => Within.ite ?_ (Within.pure _))
    have outputs := webOutputNotify_within uses frees completes
    refine Within.bind (whenReady_within _ outputs) (fun _ => Within.ite ?_ (Within.pure _))
    exact webApply_within uses frees

end Parts

theorem webTimerNotify_within (frees : Frees {.decoder sid} rules)
    (completes : Within rules (complete sid))
    : Within rules (webTimerNotify sid) :=
  Within.bind (setWebTimer_within uses frees false) (fun _ => completes)

end Web

section Backend

variable (unit : BackendId) (uses : ∀ sid, unit = .game sid → Within rules (useSession sid))
  (frees : Frees {.scratch, unit.part} rules)

section Received

include frees

theorem processRecv_within (packages : Within rules (processPkgOf unit)) (recv : RecvAnswer)
    : Within rules (processRecv unit recv) := by
  have part : Frees {unit.part} rules := frees.mono (by simp)
  cases recv with
  | data chunk =>
      exact Within.bind (Within.modify (fun proxy => part.backend ⟨rfl, id, Or.inl rfl⟩))
        (fun _ => packages)
  | closed => exact Within.pure _
  | transient => exact Within.pure _
  | error => exact Within.pure _

end Received

include uses

theorem backendTimerNotify_within
    (disarms : Within rules (modify (Proxy.setTimer false unit) : ProxyM Unit))
    (loses : Within rules (lose unit))
    : Within rules (backendTimerNotify unit) :=
  Within.bind (useUnit_within uses) (fun _ => Within.bind disarms (fun _ => loses))

include frees

theorem lose_within (completes : ∀ sid, unit = .game sid → Within rules (complete sid))
    : Within rules (lose unit) := by
  have resets := resetHelper_within unit uses frees
  cases unit with
  | helper hid => exact resets
  | game sid => exact Within.bind resets (fun _ => completes sid rfl)

theorem beginBackend_within
    : Within rules
        (callBackend unit (fun backend => ((), backend.withPoller PollerObject.beginEvent))) :=
  callBackend_within unit uses (frees.mono (by simp))
    (fun backend => backend.steady_withPoller rfl rfl)

theorem backendApply_within : Within rules (backendApply unit) := by
  refine Within.bind (ask_within (frees.mono (by simp))) (fun answers => ?_)
  exact callBackend_within unit uses (frees.mono (by simp))
    (BackendUnit.steady_applyEvents answers.backend.applyCtl)

/-- Receiving, up to the decision whether the connection is lost. -/
theorem backendReceive_within (recv : RecvAnswer) (processed : Int)
    : Within rules (callBackend unit (BackendUnit.recvFromCgi recv processed)) :=
  callBackend_within unit uses (frees.mono (by simp))
    (BackendUnit.steady_recvFromCgi recv processed)

/-- Sending, up to the decision whether the connection is lost. -/
theorem backendSend_within (answers : BackendAnswers)
    : Within rules (callBackend unit (BackendUnit.sendToCgi answers)) :=
  callBackend_within unit uses (frees.mono (by simp)) (BackendUnit.steady_sendToCgi answers)

variable (arms : Within rules (updateTimer unit)) (loses : Within rules (lose unit))

include arms loses

theorem backendInputNotify_within (packages : Within rules (processPkgOf unit))
    (recv : RecvAnswer)
    : Within rules (backendInputNotify unit recv) := by
  refine Within.bind arms (fun _ => ?_)
  refine Within.bind (processRecv_within unit frees packages recv) (fun processed => ?_)
  refine Within.bind (backendReceive_within unit uses frees recv processed) (fun ret => ?_)
  refine Within.ite (Within.bind loses (fun _ => Within.pure _)) ?_
  refine Within.bind (ask_within (frees.mono (by simp))) (fun answers => ?_)
  exact Within.bind Within.get (fun _ => Within.pure _)

theorem backendOutputNotify_within : Within rules (backendOutputNotify unit) := by
  refine Within.bind arms (fun _ => ?_)
  refine Within.bind (ask_within (frees.mono (by simp))) (fun answers => ?_)
  refine Within.bind (backendSend_within unit uses frees answers.backend) (fun ret => ?_)
  cases unit with
  | helper hid => exact Within.bind Within.get (fun _ => Within.pure _)
  | game sid =>
      refine Within.ite ?_ (Within.bind Within.get (fun _ => Within.pure _))
      exact Within.bind loses (fun _ => Within.pure _)

/-- An event of a back-end unit is within what its packets and the loss of it do. -/
theorem backendEvent_within (packages : Within rules (processPkgOf unit)) (ready : Ready)
    (recv : RecvAnswer)
    : Within rules (backendEvent unit ready recv) := by
  refine Within.bind (beginBackend_within unit uses frees) (fun _ => Within.ite ?_ ?_)
  · refine Within.bind arms (fun _ => ?_)
    exact Within.bind (Within.bind packages (fun _ => Within.pure _)) (fun _ => loses)
  · have reads := backendInputNotify_within unit uses frees arms loses packages recv
    refine Within.bind (whenReady_within _ reads) (fun _ => Within.ite ?_ (Within.pure _))
    have sends := backendOutputNotify_within unit uses frees arms loses
    refine Within.bind (whenReady_within _ sends) (fun _ => Within.ite ?_ (Within.pure _))
    exact backendApply_within unit uses frees

end Backend

theorem sendGetLevelCount_within (frees : Frees helperParts rules)
    (chooses : Within rules anySvid)
    : Within rules sendGetLevelCount := by
  have scratch : Frees {.scratch} rules := frees.mono (by simp [helperParts])
  refine Within.bind (ask_within scratch) (fun answers => ?_)
  refine Within.bind chooses (fun nSvid => ?_)
  refine Within.bind Within.get (fun proxy => ?_)
  refine Within.bind (encrypted_within frees _) (fun inner => ?_)
  refine Within.bind (plain_within frees _) (fun outPkg => ?_)
  exact giveToHelperOf_within frees nSvid outPkg

/-- A choice among no servers is a fault. -/
theorem anySvid_within (frees : Frees {.scratch} rules)
    (empty : ∀ proxy, rules.tolerates proxy .emptyVector)
    : Within rules anySvid := by
  refine Within.bind Within.get (fun proxy => ?_)
  refine Within.bind (ask_within frees) (fun answers => ?_)
  split
  · exact Within.pure _
  · exact Within.throw empty

end Within

-----------------------------------------------------------------------------------------
-- Steps
-----------------------------------------------------------------------------------------

/-- What the event loop does next. -/
inductive Event
  | accept (sid : SessionId) (fd ip : Nat)
  | web (sid : SessionId) (ready : Ready) (recv : RecvAnswer)
  | webTimer (sid : SessionId)
  | backend (unit : BackendId) (ready : Ready) (recv : RecvAnswer)
  | backendTimer (unit : BackendId)
  | levelCountTimer

namespace Proxy

/-- Whether a unit has not been deleted. -/
def backendLive (proxy : Proxy) : BackendId → Bool
  | .helper hid => (proxy.helper hid).live
  | .game sid => (proxy.session sid).live

def backendTimer (proxy : Proxy) : BackendId → Bool
  | .helper hid => (proxy.helper hid).timer
  | .game sid => (proxy.session sid).gameTimer

end Proxy

namespace Event

def perform : Event → ProxyM Unit
  | .accept sid fd ip => System.accept sid fd ip
  | .web sid ready recv => webEvent sid ready recv
  | .webTimer sid => webTimerNotify sid
  | .backend unit ready recv => backendEvent unit ready recv
  | .backendTimer unit => backendTimerNotify unit
  | .levelCountTimer => sendGetLevelCount

/-- A new session gets memory that is not in use; events come for live units that epoll knows,
and timers of live units on a timer list.
-/
def Enabled (proxy : Proxy) : Event → Prop
  | .accept sid _ _ => (proxy.session sid).live = false
  | .web sid ready _ =>
      (proxy.session sid).live = true
        ∧ ready.ReportedFor (proxy.session sid).webUnit.poller
  | .webTimer sid => (proxy.session sid).live = true ∧ (proxy.session sid).webTimer = true
  | .backend unit ready _ =>
      proxy.backendLive unit = true ∧ ready.ReportedFor (proxy.backend unit).poller
  | .backendTimer unit => proxy.backendLive unit = true ∧ proxy.backendTimer unit = true
  | .levelCountTimer => True

instance (proxy : Proxy) : (event : Event) → Decidable (event.Enabled proxy)
  | .accept sid _ _ => inferInstanceAs (Decidable ((proxy.session sid).live = false))
  | .web sid ready _ =>
      inferInstanceAs (Decidable ((proxy.session sid).live = true
        ∧ ready.ReportedFor (proxy.session sid).webUnit.poller))
  | .webTimer sid =>
      inferInstanceAs (Decidable ((proxy.session sid).live = true
        ∧ (proxy.session sid).webTimer = true))
  | .backend unit ready _ =>
      inferInstanceAs (Decidable (proxy.backendLive unit = true
        ∧ ready.ReportedFor (proxy.backend unit).poller))
  | .backendTimer unit =>
      inferInstanceAs (Decidable (proxy.backendLive unit = true
        ∧ proxy.backendTimer unit = true))
  | .levelCountTimer => inferInstanceAs (Decidable True)

/-- A step with the given answers from outside. A fault ends the program. -/
def Step (proxy : Proxy) (label : Event × (Nat → Answers)) (next : Proxy) : Prop :=
  label.1.Enabled proxy
    ∧ Yields label.1.perform { proxy with world := label.2, asked := 0 } () next

end Event

/-- The proxy as its process starts: no object exists, and the tables are empty. -/
structure Proxy.Unused (proxy : Proxy) : Prop where
  session : ∀ sid, (proxy.session sid).live = false
  helper : ∀ hid, (proxy.helper hid).live = false
  helpermap : proxy.pool.helpermap = ∅
  svidlist : proxy.pool.svidlist = []
  objmap : proxy.pool.objmap = ∅
  cmdlist : proxy.pool.cmdlist = []
  levelmap : proxy.pool.levelmap = ∅
  levelCountMap : proxy.pool.levelCountMap = ∅
  whitelist : proxy.pool.whitelist = []
  trace : proxy.trace = []

/-- The proxy behind a successful `InitHelperUnit`. The call of `SendGetLevelCount` at the end
of `CIncoming::open` is a step like those of its timer.
-/
def Proxy.Idle (proxy : Proxy) : Prop :=
  ∃ start, start.Unused ∧ Yields initHelperUnit start 0 proxy

/-- A state that the running proxy can be in. -/
def Proxy.Reached : Proxy → Prop :=
  Reachable Proxy.Idle Event.Step

-----------------------------------------------------------------------------------------
-- Given runs
-----------------------------------------------------------------------------------------

/-- A `server.xml` with the given `Server` elements, the login in its `CmdList`, and an address
map from `3` to `4`.
-/
def serverXml (servers : List Element) : Element :=
  .mk "SYSTEM" [] [
    .mk "Node" [] [
      .mk "ServerList" [] servers,
      .mk "CmdList" [] [.mk "Cmd" [("value", "257".toUTF8.toList)] []]
    ],
    .mk "IPMap" [] [.mk "IP" [("eth0", "3".toUTF8.toList), ("eth1", "4".toUTF8.toList)] []],
    .mk "WhiteCmdList" [] []
  ]

/-- The only server of a small configuration. -/
def onlyServer : Element :=
  .mk "Server" [("svid", "1".toUTF8.toList), ("level", "2".toUTF8.toList)] []

/-- Answers of an outside where everything goes well. -/
def calm : Answers where
  client := ⟨.accepted 10000, true⟩
  backend := ⟨.connected 9, some 0, true, .accepted 10000, true, true⟩
  random := 0
  stale := default
  sameSlot := true
  serverXml := some (serverXml [onlyServer])

/-- A step of such an outside. -/
def Event.calmly (event : Event) : Event × (Nat → Answers) :=
  (event, fun _ => calm)

/-- The frame of an encrypted packet. -/
def frameOf (packet : NETOutputPacket) : List UInt8 :=
  match EncryptDecrypt.encryptBuffer packet with
  | .ok (_, sealed) => sealed.bytes
  | .error _ => []

/-- The frame of a login. -/
def loginFrame (uid : Int) : List UInt8 :=
  frameOf (OutputPacket.build clientCmdClientLogin do
    let _ ← OutputPacket.writeInt uid
    let _ ← OutputPacket.writeShort 1)

/-- A client's frame arrives. -/
def Event.clientFrame (sid : SessionId) (frame : List UInt8) : Event :=
  .web sid ⟨false, true, false⟩ (.data frame)

/-- The frame of a packet without fields. -/
def commandFrame (cmd : Int) : List UInt8 :=
  frameOf (OutputPacket.build cmd (pure ()))

/-- The frame in which a helper tells a user his place in a game server. -/
def roomFrame (uid tid : Int) (ip : List UInt8) (port : Int) : List UInt8 :=
  (levelCountEnvelope uid 1 (frameOf (OutputPacket.build serverCmdLoginSuccess do
    let _ ← OutputPacket.writeInt 0
    let _ ← OutputPacket.writeInt tid
    let _ ← OutputPacket.writeString ip
    let _ ← OutputPacket.writeInt port))).bytes

/-- A frame in which a helper lets a user enter a room. -/
def enterRoomFrame (uid tid : Int) (ip : List UInt8) (port : Int) : List UInt8 :=
  (levelCountEnvelope uid 1 (frameOf (OutputPacket.build serverCmdEnterRoom do
    let _ ← OutputPacket.writeShort 1
    let _ ← OutputPacket.writeString ip
    let _ ← OutputPacket.writeInt port
    let _ ← OutputPacket.writeInt tid))).bytes

/-- A frame of a helper or a game server arrives. -/
def Event.serverFrame (unit : BackendId) (frame : List UInt8) : Event :=
  .backend unit ⟨false, true, false⟩ (.data frame)

namespace Proxy

/-- The state behind `InitHelperUnit`, if that is successful. -/
def booted (proxy : Proxy) : Option Proxy :=
  match initHelperUnit proxy with
  | .ok (ret, next) => if ret = 0 then some next else none
  | .error _ => none

/-- The state behind the given steps, if all are enabled and none faults. -/
def follow (proxy : Proxy) : List (Event × (Nat → Answers)) → Option Proxy
  | [] => some proxy
  | label :: rest =>
      if label.1.Enabled proxy then
        match label.1.perform { proxy with world := label.2, asked := 0 } with
        | .ok (_, next) => next.follow rest
        | .error _ => none
      else
        none

theorem Reached.follow {proxy next : Proxy} (reached : proxy.Reached)
    {labels : List (Event × (Nat → Answers))} (followed : proxy.follow labels = some next)
    : next.Reached := by
  induction labels generalizing proxy with
  | nil =>
      obtain rfl := Option.some.inj followed
      exact reached
  | cons label rest ih =>
      rw [Proxy.follow] at followed
      split at followed
      · rename_i enabled
        split at followed
        · rename_i performed
          exact ih (Reachable.step reached ⟨enabled, performed⟩) followed
        · cases followed
      · cases followed

theorem Unused.idle {start idle : Proxy} (unused : start.Unused)
    (booted : start.booted = some idle)
    : idle.Idle := by
  cases boot : initHelperUnit start with
  | error fault => simp [Proxy.booted, boot] at booted
  | ok result =>
      rw [Proxy.booted, boot] at booted
      dsimp only at booted
      split at booted
      · rename_i succeeded
        obtain rfl := Option.some.inj booted
        rw [← Prod.mk.eta (p := result), succeeded] at boot
        exact ⟨start, unused, boot⟩
      · cases booted

/-- A test passed at the end of a run of the proxy is passed by a state it can be in. -/
theorem Unused.run {start : Proxy} (unused : start.Unused)
    (labels : List (Event × (Nat → Answers))) (test : Proxy → Bool)
    (passed : (start.booted.bind (fun proxy => proxy.follow labels)).any test = true)
    : ∃ proxy : Proxy, proxy.Reached ∧ test proxy = true := by
  cases booted : start.booted with
  | none => simp [booted] at passed
  | some idle =>
      cases followed : idle.follow labels with
      | none => simp [booted, followed] at passed
      | some final =>
          have reached : idle.Reached := .start (unused.idle booted)
          exact ⟨final, reached.follow followed, by simpa [booted, followed] using passed⟩

/-- A proxy as its process starts, with the server id 1 and a default key. -/
def unused : Proxy where
  session := fun _ => { Session.create 0 0 with live := false }
  helper := fun _ => ⟨false, BackendUnit.create .helper [] 0, false⟩
  helperCount := 0
  pool := ⟨∅, [], ∅, [], ∅, fun _ => none, ∅, []⟩
  global := ⟨[], 1, 0, 0, 0⟩
  world := fun _ => calm
  asked := 0
  tranPacket := default
  trace := []

theorem unused_unused : unused.Unused :=
  ⟨fun _ => rfl, fun _ => rfl, rfl, rfl, rfl, rfl, rfl, rfl, rfl, rfl⟩

end Proxy

end ProxyServer.System
