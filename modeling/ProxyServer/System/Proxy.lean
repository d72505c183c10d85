import ProxyServer.System.Markup
import ProxyServer.Units.BackendUnit
import ProxyServer.Units.ClientUnit
import ProxyServer.Units.ServerFrames

/-! The state of the proxy: its sessions, its helper units and the tables between them.
Objects are named by their addresses. A deleted object keeps its last content, and an access
through a stale pointer is noted.
-/

namespace ProxyServer.System

open Packets ProxyServer.Units

-----------------------------------------------------------------------------------------
-- Objects
-----------------------------------------------------------------------------------------

/-- The address of a `CDecoderUnit`. -/
abbrev SessionId := Nat

/-- The address of a `CHelperUnit`. -/
abbrev HelperId := Nat

/-- The data members of `CDecoderUnit` with its two units, whether it has been deleted, and
whether the units are on a timer list.
-/
structure Session where
  live : Bool
  flag : Int
  netfd : Nat
  ip : Nat
  connType : ConnType
  webUnit : ClientUnit
  gameUnit : BackendUnit
  webTimer : Bool
  gameTimer : Bool

/-- `create_decoderunit`, `set_ip`, and the two units that `listener_input` creates. -/
def Session.create (fd ip : Nat) : Session where
  live := true
  flag := 0
  netfd := fd
  ip := ip
  connType := .other
  webUnit := ClientUnit.create fd
  gameUnit := BackendUnit.create .game noAddress 0
  webTimer := false
  gameTimer := false

namespace Session

def withWebUnit (change : ClientUnit → ClientUnit) (session : Session) : Session :=
  { session with webUnit := change session.webUnit }

def withGameUnit (change : BackendUnit → BackendUnit) (session : Session) : Session :=
  { session with gameUnit := change session.gameUnit }

def withWebTimer (armed : Bool) (session : Session) : Session :=
  { session with webTimer := armed }

def withGameTimer (armed : Bool) (session : Session) : Session :=
  { session with gameTimer := armed }

def withConnType (connType : ConnType) (session : Session) : Session :=
  { session with connType := connType }

end Session

/-- A `CHelperUnit`, whether it has been deleted, and whether it is on a timer list. -/
structure Helper where
  live : Bool
  unit : BackendUnit
  timer : Bool

namespace Helper

def withUnit (change : BackendUnit → BackendUnit) (helper : Helper) : Helper :=
  { helper with unit := change helper.unit }

def withTimer (armed : Bool) (helper : Helper) : Helper :=
  { helper with timer := armed }

end Helper

/-- `CHelperPool`. Keys of `m_LevelCountMap` are of type `short`. -/
structure HelperPool where
  helpermap : Std.TreeMap Int HelperId
  svidlist : List Int
  objmap : Std.TreeMap Int SessionId
  cmdlist : List Int
  levelmap : Std.TreeMap Int (List Int)
  ipmap : List UInt8 → Option (List UInt8)
  levelCountMap : Std.TreeMap Int Int
  whitelist : List Int

/-- The members of `TGlobal` that handlers use. -/
structure Global where
  key : List UInt8
  svid : Int
  loopNum : Int
  timerConnect : Int
  debugLogSwitch : Int

-----------------------------------------------------------------------------------------
-- The world outside
-----------------------------------------------------------------------------------------

/-- The answers that one operation can ask the outside for: the operating system's to a
client unit or a back-end unit, `rand()`, what an uninitialised packet object holds, whether
an object found its old slot again, and the configuration file.
-/
structure Answers where
  client : ClientAnswers
  backend : BackendAnswers
  random : Nat
  stale : NETInputPacket
  sameSlot : Bool
  serverXml : Option Element

/-- One of the units that hold a connection to a back-end server. -/
inductive BackendId
  | helper (hid : HelperId)
  | game (sid : SessionId)
  deriving DecidableEq

/-- A room assignment: the `tid`, the address and port of the game server, and of the game unit
as the packet found it the `tid` and, if it had a connection, the address and port. `login` is a
room named by `SERVER_CMD_LOGIN_SUCCESS`.
-/
structure Assignment where
  login : Bool
  tid : Int
  server : List UInt8 × Int
  foundTid : Int
  foundServer : Option (List UInt8 × Int)
  deriving DecidableEq

/-- What a run shows beside its state.
`handled` is a frame given to `HandleInputBuf`, `policyAsked` a chunk that looks like a policy
request, `loggingIn` a login with what `m_objmap` has for its uid, `appended` a call of
`append_pkg`, `connected` an opened connection to a game server and `dismissed` one that is
reset because the game server says so. `assigned` is a room assignment, `usedDeleted` an access
to a session behind its deletion.
-/
inductive Happening
  | accepted (sid : SessionId)
  | handled (sid : SessionId) (frame : List UInt8)
  | policyAsked (sid : SessionId)
  | loggingIn (sid : SessionId) (uid : Int) (found : Option SessionId)
  | loggedIn (sid : SessionId) (uid : Int)
  | kicked (sid : SessionId)
  | closedByServer (sid : SessionId)
  | completed (sid : SessionId)
  | userClosed (sid : SessionId) (uid : Int)
  | deleted (sid : SessionId)
  | appended (unit : BackendId) (buf : List UInt8)
  | connected (sid : SessionId) (addr : List UInt8) (port : Int)
  | dismissed (sid : SessionId)
  | assigned (sid : SessionId) (assignment : Assignment)
  | usedDeleted (sid : SessionId)
  deriving DecidableEq

/-- The proxy. `world` are the answers to come in the step at hand, of which `asked` have been
used; `tranPacket` is the packet object of the `process_pkg` at work.
-/
structure Proxy where
  session : SessionId → Session
  helper : HelperId → Helper
  helperCount : Nat
  pool : HelperPool
  global : Global
  world : Nat → Answers
  asked : Nat
  tranPacket : NETInputPacket
  trace : List Happening

/-- A program of the proxy. -/
abbrev ProxyM := StateT Proxy (Except Fault)

namespace Proxy

/-- Adds to what the run has shown. -/
def record (happening : Happening) (proxy : Proxy) : Proxy :=
  { proxy with trace := proxy.trace ++ [happening] }

def updateSession (sid : SessionId) (change : Session → Session) (proxy : Proxy) : Proxy :=
  { proxy with session := Function.update proxy.session sid (change (proxy.session sid)) }

def updateHelper (hid : HelperId) (change : Helper → Helper) (proxy : Proxy) : Proxy :=
  { proxy with helper := Function.update proxy.helper hid (change (proxy.helper hid)) }

@[simp]
theorem updateSession_same (sid : SessionId) (change : Session → Session) (proxy : Proxy)
    : (proxy.updateSession sid change).session sid = change (proxy.session sid) :=
  Function.update_self ..

@[simp]
theorem updateHelper_same (hid : HelperId) (change : Helper → Helper) (proxy : Proxy)
    : (proxy.updateHelper hid change).helper hid = change (proxy.helper hid) :=
  Function.update_self ..

/-- What is seen of a session changes only in an update of that session. -/
theorem seen_updateSession {α : Type} (seen : Session → α) (sid sid' : SessionId)
    (change : Session → Session) (proxy : Proxy)
    (same : sid' = sid → seen (change (proxy.session sid)) = seen (proxy.session sid))
    : seen ((proxy.updateSession sid change).session sid') = seen (proxy.session sid') := by
  by_cases equal : sid' = sid
  · subst equal
    rw [updateSession_same]
    exact same rfl
  · exact congrArg seen (Function.update_of_ne equal ..)

/-- The client unit of a session. -/
def web (sid : SessionId) : ClientPlace Proxy where
  unit := fun proxy => (proxy.session sid).webUnit
  update := fun change => updateSession sid (Session.withWebUnit change)
  unit_update := fun _ _ => by simp [Session.withWebUnit]

def backend (proxy : Proxy) : BackendId → BackendUnit
  | .helper hid => (proxy.helper hid).unit
  | .game sid => (proxy.session sid).gameUnit

def updateBackend (change : BackendUnit → BackendUnit) : BackendId → Proxy → Proxy
  | .helper hid => updateHelper hid (Helper.withUnit change)
  | .game sid => updateSession sid (Session.withGameUnit change)

/-- `AttachTimer` and `DisableTimer` of a back-end unit. -/
def setTimer (armed : Bool) : BackendId → Proxy → Proxy
  | .helper hid => updateHelper hid (Helper.withTimer armed)
  | .game sid => updateSession sid (Session.withGameTimer armed)

/-- The read cache `_r` of a back-end unit. -/
def readCache (unit : BackendId) : ReadCache Proxy where
  data := fun proxy => (proxy.backend unit).r
  replace := fun bytes => updateBackend (fun backend => { backend with r := bytes }) unit
  data_replace := fun _ _ => by
    cases unit
    · simp [backend, updateBackend, updateHelper, Helper.withUnit]
    · simp [backend, updateBackend, Session.withGameUnit]

end Proxy

-----------------------------------------------------------------------------------------
-- Basic operations
-----------------------------------------------------------------------------------------

/-- The next answers from outside. -/
def ask : ProxyM Answers := do
  let proxy ← get
  modify (fun proxy => { proxy with asked := proxy.asked + 1 })
  pure (proxy.world proxy.asked)

def note (happening : Happening) : ProxyM Unit :=
  modify (Proxy.record happening)

/-- A session read through a pointer, which may be stale. -/
def useSession (sid : SessionId) : ProxyM Session := do
  let session := (← get).session sid
  if session.live then
    pure session
  else do
    note (.usedDeleted sid)
    pure session

/-- An access to a unit; a game unit goes with its session. -/
def useUnit : BackendId → ProxyM Unit
  | .helper _ => pure ()
  | .game sid => discard (useSession sid)

/-- The result of work on packets, which stops only at an access outside an object. -/
def ofExcept {α : Type} (result : Except Fault α) : ProxyM α :=
  match result with
  | .ok value => pure value
  | .error _ => throw .memory

/-- Reads fields of a packet; the result also holds the packet behind them. -/
def reading {α : Type} (packet : NETInputPacket) (program : PacketM 8192 α)
    : ProxyM (α × NETInputPacket) :=
  ofExcept (program packet)

/-- The bytes of a finished packet, plain. -/
def plain (packet : NETOutputPacket) : ProxyM (List UInt8) :=
  ofExcept packet.contents

/-- The bytes of a finished packet behind `EncryptBuffer`. -/
def encrypted (packet : NETOutputPacket) : ProxyM (List UInt8) := do
  let result ← ofExcept (EncryptDecrypt.encryptBuffer packet)
  plain result.2

/-- A call on a session's client unit. -/
def callWeb {α : Type} (sid : SessionId) (method : ClientUnit → α × ClientUnit)
    : ProxyM α := do
  let _ ← useSession sid
  (Proxy.web sid).call method

/-- `add_rsp_buf` and `send` of a session's client unit. -/
def respond (sid : SessionId) (packet : List UInt8) : ProxyM Int := do
  let answers ← ask
  callWeb sid (ClientUnit.respond packet answers.client)

/-- A call on a back-end unit. -/
def callBackend {α : Type} (unit : BackendId) (method : BackendUnit → α × BackendUnit)
    : ProxyM α := do
  useUnit unit
  let backend := (← get).backend unit
  modify (Proxy.updateBackend (fun _ => (method backend).2) unit)
  pure (method backend).1

def appendPkg (unit : BackendId) (buf : List UInt8) : ProxyM Unit := do
  note (.appended unit buf)
  callBackend unit (fun backend => ((), backend.appendPkg buf))

def resetHelper (unit : BackendId) : ProxyM Unit := do
  let answers ← ask
  callBackend unit (fun backend => ((), backend.resetHelper answers.backend))

/-- `update_timer` of a back-end unit. -/
def updateTimer (unit : BackendId) : ProxyM Unit := do
  useUnit unit
  modify (Proxy.setTimer true unit)

/-- Notes a connection that `connect` opens for a game unit. -/
def noteConnection (unit : BackendId) (answers : BackendAnswers) (backend : BackendUnit)
    : ProxyM Unit :=
  match unit with
  | .helper _ => pure ()
  | .game sid =>
      if backend.opens answers then
        note (.connected sid backend.addr backend.port)
      else
        pure ()

/-- `send_to_logic`; the timer is attached once the unit is connected. -/
def sendToLogic (unit : BackendId) : ProxyM Int := do
  useUnit unit
  let answers ← ask
  let backend := (← get).backend unit
  noteConnection unit answers.backend backend
  if 0 ≤ ((backend.withPoller PollerObject.enableInput).connect answers.backend).1 then do
    updateTimer unit
    callBackend unit (BackendUnit.sendToLogic answers.backend)
  else
    callBackend unit (BackendUnit.sendToLogic answers.backend)

-----------------------------------------------------------------------------------------
-- Choosing a helper
-----------------------------------------------------------------------------------------

/-- `TGlobal::LoopSvid`. -/
def loopSvid (v : List Int) : ProxyM Int := do
  let loopNum := (← get).global.loopNum
  let next := if loopNum < (v.length : Int) - 1 ∧ 0 ≤ loopNum then loopNum + 1 else 0
  modify (fun proxy => { proxy with global := { proxy.global with loopNum := next } })
  match v[next.toNat]? with
  | some svid => pure svid
  | none => throw .emptyVector

/-- `TGlobal::RandomSvid`; `rand() % 0` is a fault as well. -/
def randomSvid (v : List Int) : ProxyM Int := do
  let answers ← ask
  match v[answers.random % v.length]? with
  | some svid => pure svid
  | none => throw .emptyVector

/-- `LoopSvid` of `m_svidlist`. -/
def nextSvid : ProxyM Int := do
  let proxy ← get
  loopSvid proxy.pool.svidlist

/-- `m_helpermap.find`. -/
def findHelper (svid : Int) : ProxyM (Option HelperId) := do
  pure (← get).pool.helpermap[svid]?

/-- Queues a packet on a helper unit and sends it on its way. -/
def giveToHelper (pHelperUnit : HelperId) (packet : List UInt8) : ProxyM Int := do
  appendPkg (.helper pHelperUnit) packet
  sendToLogic (.helper pHelperUnit)

/-- As `giveToHelper`, where neither a missing helper nor a failed send matters. -/
def giveToHelperOf (svid : Int) (packet : List UInt8) : ProxyM Unit := do
  match ← findHelper svid with
  | some pHelperUnit => discard (giveToHelper pHelperUnit packet)
  | none => pure ()

end ProxyServer.System
