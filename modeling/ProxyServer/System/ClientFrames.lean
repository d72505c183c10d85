import ProxyServer.System.Reload
import ProxyServer.System.SessionEnd

/-! What a client's frame does: `CClientUnit::HandleInputBuf` with all it calls. -/

namespace ProxyServer.System

open Packets ProxyServer.Units
open FaultState Footprint

-----------------------------------------------------------------------------------------
-- Requests that the proxy answers itself
-----------------------------------------------------------------------------------------

/-- The password of the system commands. -/
def adminFlag : List UInt8 := "!@#$%^&*()".toUTF8.toList

/-- Behind decryption: whatever the check code says, the packet is read. -/
def decryptedThen {α : Type} (fields : PacketM 8192 α) : PacketM 8192 α := do
  let _ ← EncryptDecrypt.decryptBuffer
  fields

/-- `CLIENT_COMMAND_BREAK_TIME`. -/
def replyBreakTime (sid : SessionId) : ProxyM Int := do
  let packet ← plain (OutputPacket.build serverCommandBreakTime (pure ()))
  respond sid packet

/-- The answer of `ProcGetUserCount`. -/
def userCount (pool : HelperPool) (svid : Int) : NETOutputPacket :=
  OutputPacket.build serverGetPlayerCount do
    let _ ← OutputPacket.writeInt pool.objmap.size
    let _ ← OutputPacket.writeInt svid

/-- `ProcGetUserCount`. -/
def procGetUserCount (sid : SessionId) (pPacket : NETInputPacket) : ProxyM Int := do
  let read ← reading pPacket (decryptedThen InputPacket.readString)
  if read.1 = "boyaa".toUTF8.toList then do
    let proxy ← get
    let packet ← encrypted (userCount proxy.pool proxy.global.svid)
    respond sid packet
  else
    pure (-1)

/-- Gives a packet to a session, unless it has failed. -/
def sendTo (sid : SessionId) (packet : List UInt8) : ProxyM Unit := do
  let decoder ← useSession sid
  if decoder.webUnit.stage = .fatalError then
    pure ()
  else
    discard (respond sid packet)

/-- Gives a packet to every logged-in session. -/
def broadcast (packet : List UInt8) : ProxyM Unit := do
  let proxy ← get
  proxy.pool.objmap.toList.forM (fun iter => sendTo iter.2 packet)

/-- The packet of a system broadcast. -/
def systemBroadcast (type : Int) (info : List UInt8) : NETOutputPacket :=
  OutputPacket.build serverBroadcastInfoNew do
    let _ ← OutputPacket.writeShort type
    let _ ← OutputPacket.writeString info

/-- `SERVER_BROADCAST_INFO`. -/
def handleSystemBroadcast (reqPacket : NETInputPacket) : ProxyM Int := do
  let key ← reading reqPacket (decryptedThen InputPacket.readString)
  if key.1 = (← get).global.key then do
    let type ← reading key.2 InputPacket.readShort
    let info ← reading type.2 InputPacket.readString
    let packet ← encrypted (systemBroadcast type.1 info.1)
    broadcast packet
    pure 0
  else
    pure (-1)

/-- The packet of a client's broadcast. -/
def clientBroadcast (info : List UInt8) : NETOutputPacket :=
  OutputPacket.build clinetRequestBroadcastInfo do
    let _ ← OutputPacket.writeString info

/-- `CLINET_REQUEST_BROADCAST_INFO`; it asks for no key. -/
def handleClientBroadcast (reqPacket : NETInputPacket) : ProxyM Int := do
  let info ← reading reqPacket (decryptedThen InputPacket.readString)
  let packet ← encrypted (clientBroadcast info.1)
  broadcast packet
  pure 0

/-- The count that `CClientUnit::ProcessGetLevelCount` announces for a level. Looking at a count
above 32000 lowers it.
-/
def levelUserCount (level : Int) : ProxyM Int := do
  match (← get).pool.levelCountMap[level]? with
  | none => pure 0
  | some userCount =>
      if 32000 < userCount then do
        modify (fun proxy =>
          {
            proxy with
            pool :=
              { proxy.pool with levelCountMap := proxy.pool.levelCountMap.insert level 32000 }
          })
        pure 32000
      else
        pure userCount

/-- The loop of `CClientUnit::ProcessGetLevelCount`. -/
def writeLevelCounts
    : Nat → NETInputPacket → NETOutputPacket → ProxyM NETOutputPacket
  | 0, _, resPacket => pure resPacket
  | count + 1, pPacket, resPacket => do
      let randCount := (← ask).random % 100
      let level ← reading pPacket InputPacket.readShort
      let userCount ← levelUserCount level.1
      let written := do
        let _ ← OutputPacket.writeShort level.1
        OutputPacket.writeShort (userCount + randCount)
      writeLevelCounts count level.2 (written.run resPacket).2

/-- The reply of `CClientUnit::ProcessGetLevelCount`, as it is given to `add_rsp_buf`. -/
def levelCountReply (pPacket : NETInputPacket) : ProxyM (List UInt8) := do
  let levelCount ← reading pPacket (decryptedThen InputPacket.readShort)
  let begun := (OutputPacket.ofStale default).beginPacket cmdGetRoomLeverNum
  let announced := ((OutputPacket.writeShort levelCount.1).run begun).2
  let written ← writeLevelCounts levelCount.1.toNat levelCount.2 announced
  encrypted written.endPacket

/-- `CClientUnit::ProcessGetLevelCount`. -/
def processGetLevelCount (sid : SessionId) (pPacket : NETInputPacket) : ProxyM Int := do
  let packet ← levelCountReply pPacket
  respond sid packet

-----------------------------------------------------------------------------------------
-- Forwarding to helpers
-----------------------------------------------------------------------------------------

/-- The envelope in which a client's packet goes to a helper. -/
def envelope (uid svid : Int) (ip : Nat) (api : Int) (data : List UInt8)
    : NETOutputPacket :=
  OutputPacket.build clientPacket2 do
    let _ ← OutputPacket.writeInt uid
    let _ ← OutputPacket.writeInt svid
    let _ ← OutputPacket.writeInt (toInt32 ip)
    let _ ← OutputPacket.writeShort api
    let _ ← OutputPacket.writeBinary data

/-- `SendPacketToHelperUnit`: what `send_to_logic` returned. -/
def sendPacketToHelperUnit (sid : SessionId) (pHelperUnit : HelperId) (data : List UInt8)
    : ProxyM Int := do
  let session ← useSession sid
  let svid := (← get).global.svid
  let transPacket ←
    plain (envelope session.webUnit.uid svid session.ip session.webUnit.api data)
  giveToHelper pHelperUnit transPacket

/-- A random helper of a level, as `GetRandomHelper` and two commands choose it. -/
def randomHelper (svids : List Int) : ProxyM (Option HelperId) := do
  let svid ← randomSvid svids
  findHelper svid

/-- `GetRandomHelper`. -/
def getRandomHelper (level : Int) : ProxyM (Option HelperId) := do
  match (← get).pool.levelmap[level]? with
  | none => pure none
  | some [] => pure none
  | some svids => randomHelper svids

/-- The answer of `ProcUserGetNewRoom1`. -/
def currentRoom (unit : BackendUnit) : NETOutputPacket :=
  OutputPacket.build cmdGetNewRoom do
    let _ ← OutputPacket.writeInt unit.tid
    let _ ← OutputPacket.writeString unit.addr
    let _ ← OutputPacket.writeInt unit.port

/-- `ProcUserGetNewRoom1`. -/
def procUserGetNewRoom1 (sid : SessionId) (pGameUnit : BackendUnit) : ProxyM Int := do
  let packet ← encrypted (currentRoom pGameUnit)
  respond sid packet

/-- `ProcUserGetNewRoom2`. -/
def procUserGetNewRoom2 (sid : SessionId) (pPacket : NETInputPacket) : ProxyM Int := do
  let level ← reading pPacket (decryptedThen InputPacket.readShort)
  match ← getRandomHelper level.1 with
  | none => pure (-1)
  | some pHelperUnit => do
      let stale := (← ask).stale
      let decrypted ← ofExcept level.2.contents
      let packet ← encrypted ((OutputPacket.ofStale stale).copy decrypted).2
      let ret ← sendPacketToHelperUnit sid pHelperUnit packet
      pure (if ret < 0 then -1 else 0)

/-- `ProcUserGetNewRoom`. -/
def procUserGetNewRoom (sid : SessionId) (pPacket : NETInputPacket) : ProxyM Int := do
  let session ← useSession sid
  if session.webUnit.uid ≤ 0 then
    pure (-1)
  else if 0 < session.gameUnit.tid then
    procUserGetNewRoom1 sid session.gameUnit
  else if session.gameUnit.tid = 0 then
    procUserGetNewRoom2 sid pPacket
  else
    pure 0

-----------------------------------------------------------------------------------------
-- Forwarding to the game server
-----------------------------------------------------------------------------------------

/-- The packet of `SendIPSetPacket`. -/
def setIp (nTableId nUserId : Int) (ip : Nat) : NETOutputPacket :=
  OutputPacket.build serverCmdSetIp do
    let _ ← OutputPacket.writeInt nTableId
    let _ ← OutputPacket.writeInt nUserId
    let _ ← OutputPacket.writeInt (toInt32 (WordBytes.ofBytes (WordBytes.toBytes 4 ip).reverse))

/-- The two fields that `SendIPSetPacket` reads. -/
def readTableAndUser : PacketM 8192 (Int × Int) := do
  let nTableId ← InputPacket.readInt
  let nUserId ← InputPacket.readInt
  pure (nTableId, nUserId)

/-- `SendIPSetPacket`. -/
def sendIPSetPacket (sid : SessionId) (reqPacket : NETInputPacket) (cmd : Int)
    : ProxyM Unit := do
  if cmd = clientCommandLogin then do
    let read ← reading reqPacket (decryptedThen readTableAndUser)
    let session ← useSession sid
    let packet ← encrypted (setIp read.1.1 read.1.2 session.ip)
    appendPkg (.game sid) packet
  else
    pure ()

/-- The branch of `HandleInputBuf` for the commands of the game server. -/
def handleGameCmd (sid : SessionId) (reqPacket : NETInputPacket) (cmd : Int)
    (pData : List UInt8) : ProxyM Int := do
  let session ← useSession sid
  let whitelist := (← get).pool.whitelist
  if session.webUnit.uid ≤ 0 then
    pure (-1)
  else if session.gameUnit.tid = 0 ∧ cmd ∈ whitelist then
    pure 0
  else do
    appendPkg (.game sid) pData
    sendIPSetPacket sid reqPacket cmd
    let ret ← sendToLogic (.game sid)
    pure (if ret < 0 then -1 else 0)

-----------------------------------------------------------------------------------------
-- System commands
-----------------------------------------------------------------------------------------

/-- A command that is carried out for the administrator only. -/
def asAdmin (reqPacket : NETInputPacket) (fields : PacketM 8192 (List UInt8))
    (command : NETInputPacket → ProxyM Unit)
    : ProxyM Int := do
  let strFlag ← reading reqPacket fields
  if strFlag.1 = adminFlag then do
    command strFlag.2
    pure 0
  else
    pure (-1)

/-- `SYS_RESET_CONNECT_TIMER`. -/
def resetConnectTimer (reqPacket : NETInputPacket) : ProxyM Unit := do
  let timeout ← reading reqPacket InputPacket.readInt
  modify (fun proxy =>
    { proxy with global := { proxy.global with timerConnect := timeout.1 } })

/-- `ProcessOpenDebug` behind its check. -/
def openDebug (pPacket : NETInputPacket) : ProxyM Unit := do
  let switch ← reading pPacket InputPacket.readInt
  modify (fun proxy =>
    { proxy with global := { proxy.global with debugLogSwitch := switch.1 } })

/-- The commands that ask for the administrator's flag. A reload's result is only logged. -/
def handleSysCmd (cmd : Int) (reqPacket : NETInputPacket) : ProxyM Int :=
  if cmd = sysReloadConfig then
    asAdmin reqPacket InputPacket.readString (fun _ => discard resetHelperUnit)
  else if cmd = sysReloadIpMap then
    asAdmin reqPacket InputPacket.readString (fun _ => discard resetIpMap)
  else if cmd = sysResetConnectTimer then
    asAdmin reqPacket InputPacket.readString resetConnectTimer
  else
    asAdmin reqPacket (decryptedThen InputPacket.readString) openDebug

/-- Whether a command is one of `handleSysCmd`. -/
def isSysCmd (cmd : Int) : Bool :=
  cmd = sysReloadConfig ∨ cmd = sysReloadIpMap ∨ cmd = sysResetConnectTimer
    ∨ cmd = sysOpenDebug

-----------------------------------------------------------------------------------------
-- Logging in
-----------------------------------------------------------------------------------------

/-- The fields of a login. -/
def readLogin : PacketM 8192 (Int × Int) := do
  let uid ← InputPacket.readInt
  let api ← InputPacket.readShort
  pure (uid, api)

/-- Kicks an older session of the same user out. -/
def kick (pDecoderUnit : SessionId) : ProxyM Unit := do
  let packet ← encrypted (OutputPacket.build serverCmdKickOut (pure ()))
  discard (respond pDecoderUnit packet)
  note (.kicked pDecoderUnit)
  setConnType pDecoderUnit .other
  complete pDecoderUnit
  -- the log line below reads the address and `_api` of the session just deleted
  discard (useSession pDecoderUnit)

/-- Kicks the session that holds a user's entry, unless it is the one that logs in. -/
def kickOther (sid : SessionId) (uid : Int) : ProxyM Unit := do
  let found := (← get).pool.objmap[uid]?
  note (.loggingIn sid uid found)
  match found with
  | none => pure ()
  | some pDecoderUnit =>
      if pDecoderUnit = sid then pure () else kick pDecoderUnit

/-- `set_flag`, `set_conn_type`, `_uid` and `_api` at a login. -/
def Session.enter (uid api : Int) (session : Session) : Session :=
  {
    session with
    flag := uid
    connType := .client
    webUnit := { session.webUnit with uid := uid, api := api }
  }

/-- Enters a user in his session and in `m_objmap`. -/
def enterUser (sid : SessionId) (uid api : Int) : ProxyM Unit := do
  note (.loggedIn sid uid)
  modify (fun proxy =>
    {
      proxy.updateSession sid (Session.enter uid api) with
      pool := { proxy.pool with objmap := proxy.pool.objmap.insert uid sid }
    })

/-- The branch of `HandleInputBuf` for a login: whether it goes on, or else returns -1. -/
def login (sid : SessionId) (reqPacket : NETInputPacket) : ProxyM Bool := do
  let read ← reading reqPacket (decryptedThen readLogin)
  if read.1.1 ≤ 0 then
    pure false
  else do
    kickOther sid read.1.1
    let session ← useSession sid
    if 0 < session.webUnit.uid ∧ session.webUnit.uid ≠ read.1.1 then
      pure false
    else do
      enterUser sid read.1.1 read.1.2
      pure true

-----------------------------------------------------------------------------------------
-- Choosing a helper for a frame
-----------------------------------------------------------------------------------------

/-- What a branch of `HandleInputBuf` decides: to return at once, or which helper gets the
frame, if any.
-/
inductive Choice
  | result (ret : Int)
  | helper (pHelperUnit : Option HelperId)

/-- A server id must have a helper. -/
def chooseBySvid (svid : Int) : ProxyM Choice := do
  match ← findHelper svid with
  | none => pure (.result (-1))
  | some pHelperUnit => pure (.helper (some pHelperUnit))

/-- The branches for `CLIENT_CMD_REQUEST_LIST_ROOM` and `CLIENT_CMD_ENTER_ROOM`. -/
def chooseByLevel (reqPacket : NETInputPacket) : ProxyM Choice := do
  let nLevel ← reading reqPacket (decryptedThen InputPacket.readInt)
  match (← get).pool.levelmap[nLevel.1]? with
  | none => pure (.result (-1))
  | some [] => pure (.helper none)
  | some svids => do
      let svid ← randomSvid svids
      chooseBySvid svid

/-- The helper whose turn it is. -/
def chooseNext : ProxyM Choice := do
  let svidlist := (← get).pool.svidlist
  if svidlist = [] then
    pure (.helper none)
  else do
    let svid ← nextSvid
    chooseBySvid svid

/-- The branch for `CMD_REQUIRE_IP_PORT`. -/
def chooseByServerId (reqPacket : NETInputPacket) : ProxyM Choice := do
  let serverId ← reading reqPacket (decryptedThen InputPacket.readShort)
  chooseBySvid (serverId.1.tdiv 200)

/-- A choice that only a logged-in client gets. -/
def ifLoggedIn (sid : SessionId) (choice : ProxyM Choice) : ProxyM Choice := do
  let session ← useSession sid
  if session.webUnit.uid ≤ 0 then
    pure (.result (-1))
  else
    choice

/-- The branch for a login. -/
def chooseAtLogin (sid : SessionId) (reqPacket : NETInputPacket) : ProxyM Choice := do
  if ← login sid reqPacket then
    chooseNext
  else
    pure (.result (-1))

/-- `HandleInputBuf` from `CheckCmd` on, up to the choice of a helper. -/
def chooseHelper (sid : SessionId) (cmd : Int) (reqPacket : NETInputPacket)
    : ProxyM Choice := do
  if cmd ∉ (← get).pool.cmdlist then
    pure (.result 0)
  else if cmd = cmdRequireIpPort then
    ifLoggedIn sid (chooseByServerId reqPacket)
  else if cmd = cmdGetNewRoom then do
    let ret ← procUserGetNewRoom sid reqPacket
    pure (.result ret)
  else if cmd = clientCmdRequestListRoom ∨ cmd = clientCmdEnterRoom then
    ifLoggedIn sid (chooseByLevel reqPacket)
  else if cmd = cmdGetRoomLeverNum then do
    let ret ← processGetLevelCount sid reqPacket
    pure (.result ret)
  else if cmd = clientCmdClientLogin then
    chooseAtLogin sid reqPacket
  else
    ifLoggedIn sid chooseNext

/-- The end of `HandleInputBuf`: a list of rooms that cannot be asked for is no failure. -/
def forward (sid : SessionId) (cmd : Int) (pData : List UInt8) : Choice → ProxyM Int
  | .result ret => pure ret
  | .helper none => pure 0
  | .helper (some pHelperUnit) => do
      let ret ← sendPacketToHelperUnit sid pHelperUnit pData
      pure (if ret < 0 ∧ cmd ≠ clientCmdRequestListRoom then -1 else 0)

/-- `HandleInputBuf` behind the copy of the frame: what its command asks for. -/
def actOn (sid : SessionId) (reqPacket : NETInputPacket) (pData : List UInt8) : ProxyM Int :=
  let cmd := reqPacket.getCmdType
  if cmd = clientCommandBreakTime then
    replyBreakTime sid
  else if cmd = serverGetPlayerCount then
    procGetUserCount sid reqPacket
  else if cmd = serverBroadcastInfo then
    handleSystemBroadcast reqPacket
  else if cmd = clinetRequestBroadcastInfo then
    handleClientBroadcast reqPacket
  else if cmdSeparate < cmd then
    handleGameCmd sid reqPacket cmd pData
  else if isSysCmd cmd then
    handleSysCmd cmd reqPacket
  else do
    let choice ← chooseHelper sid cmd reqPacket
    forward sid cmd pData choice

/-- `HandleInputBuf`. -/
def handleInputBuf (sid : SessionId) (pData : List UInt8) : ProxyM Int := do
  note (.handled sid pData)
  let reqPacket := copied (← ask).stale pData
  actOn sid reqPacket pData

-----------------------------------------------------------------------------------------
-- What a client's frame can change
-----------------------------------------------------------------------------------------

section Within

variable {rules : Conduct Proxy Fault}

/-- The parts in which a broadcast is seen, but for accesses to deleted sessions. -/
def broadcastParts : Set Part := {.scratch} ∪ Set.range Part.client

theorem sendTo_within {sid : SessionId} (frees : Frees {.scratch, .client sid} rules)
    (uses : Within rules (useSession sid)) (packet : List UInt8)
    : Within rules (sendTo sid packet) := by
  refine Within.bind uses (fun decoder => Within.ite (Within.pure _) ?_)
  exact Within.bind (respond_within sid frees uses packet) (fun _ => Within.pure _)

theorem broadcast_within (frees : Frees broadcastParts rules)
    (uses : ∀ sid, Within rules (useSession sid)) (packet : List UInt8)
    : Within rules (broadcast packet) := by
  refine Within.bind Within.get (fun proxy => Within.forM (fun iter _ => ?_))
  exact sendTo_within (frees.mono (by simp [broadcastParts])) (uses iter.2) packet

theorem levelUserCount_within (frees : Frees {.levelCounts} rules) (level : Int)
    : Within rules (levelUserCount level) := by
  refine Within.bind Within.get (fun proxy => ?_)
  split
  · exact Within.pure _
  · refine Within.ite (Within.bind (frees.allows.modify rfl ?_) (fun _ => Within.pure _))
      (Within.pure _)
    intro proxy part outside
    cases part <;> first | rfl | exact absurd rfl outside

theorem writeLevelCounts_within (frees : Frees {.scratch} rules)
    (counts : ∀ level, Within rules (levelUserCount level))
    (count : Nat) (pPacket : NETInputPacket) (resPacket : NETOutputPacket)
    : Within rules (writeLevelCounts count pPacket resPacket) := by
  induction count generalizing pPacket resPacket with
  | zero => exact Within.pure _
  | succ count ih =>
      refine Within.bind (ask_within frees) (fun answers => ?_)
      refine Within.bind (reading_within frees _ _) (fun level => ?_)
      exact Within.bind (counts level.1) (fun userCount => ih _ _)

theorem getRandomHelper_within (frees : Frees {.scratch} rules) (level : Int)
    : Within rules (getRandomHelper level) := by
  refine Within.bind Within.get (fun proxy => ?_)
  split
  · exact Within.pure _
  · exact Within.pure _
  · rename_i nonempty _
    refine Within.bind (randomSvid_within frees ?_) (fun svid => findHelper_within svid)
    rintro rfl
    exact nonempty rfl

theorem chooseBySvid_within (svid : Int) : Within rules (chooseBySvid svid) := by
  refine Within.bind (findHelper_within svid) (fun found => ?_)
  cases found with
  | none => exact Within.pure _
  | some hid => exact Within.pure _

theorem chooseNext_within (next : Within rules nextSvid) : Within rules chooseNext := by
  refine Within.bind Within.get (fun proxy => ?_)
  refine Within.ite (Within.pure _) ?_
  exact Within.bind next (fun svid => chooseBySvid_within svid)

theorem chooseByLevel_within (frees : Frees {.scratch} rules) (reqPacket : NETInputPacket)
    : Within rules (chooseByLevel reqPacket) := by
  refine Within.bind (reading_within frees _ _) (fun nLevel => ?_)
  refine Within.bind Within.get (fun proxy => ?_)
  split
  · exact Within.pure _
  · exact Within.pure _
  · rename_i nonempty _
    refine Within.bind (randomSvid_within frees ?_) (fun svid => chooseBySvid_within svid)
    rintro rfl
    exact nonempty rfl

theorem asAdmin_within {parts : Set Part} (frees : Frees parts rules)
    (reqPacket : NETInputPacket) (fields : PacketM 8192 (List UInt8))
    {command : NETInputPacket → ProxyM Unit}
    (commands : ∀ packet, Within rules (command packet))
    : Within rules (asAdmin reqPacket fields command) := by
  refine Within.bind (reading_within frees _ _) (fun strFlag => ?_)
  refine Within.ite ?_ (Within.pure _)
  exact Within.bind (commands _) (fun _ => Within.pure _)

theorem handleSysCmd_within (frees : Frees {.scratch, .directory, .settings} rules)
    (reloads : Within rules resetHelperUnit) (cmd : Int) (reqPacket : NETInputPacket)
    : Within rules (handleSysCmd cmd reqPacket) := by
  have settings : Frees {.settings} rules := frees.mono (by simp)
  refine Within.ite ?_ (Within.ite ?_ (Within.ite ?_ ?_))
  · apply asAdmin_within frees
    exact fun _ => Within.bind reloads (fun _ => Within.pure _)
  · apply asAdmin_within frees
    have directory : Frees {.scratch, .directory} rules :=
      frees.mono (by simp [Set.insert_subset_iff])
    exact fun _ => Within.bind (resetIpMap_within directory) (fun _ => Within.pure _)
  · apply asAdmin_within frees
    intro packet
    refine Within.bind (reading_within frees _ _) (fun timeout => settings.allows.modify rfl ?_)
    intro proxy part outside
    cases part <;> first | rfl | exact absurd rfl outside
  · apply asAdmin_within frees
    intro packet
    refine Within.bind (reading_within frees _ _) (fun switch => settings.allows.modify rfl ?_)
    intro proxy part outside
    cases part <;> first | rfl | exact absurd rfl outside

theorem handleSystemBroadcast_within {parts : Set Part} (frees : Frees parts rules)
    (broadcasts : ∀ packet, Within rules (broadcast packet)) (reqPacket : NETInputPacket)
    : Within rules (handleSystemBroadcast reqPacket) := by
  refine Within.bind (reading_within frees _ _) (fun key => ?_)
  refine Within.bind Within.get (fun proxy => ?_)
  refine Within.ite ?_ (Within.pure _)
  refine Within.bind (reading_within frees _ _) (fun type => ?_)
  refine Within.bind (reading_within frees _ _) (fun info => ?_)
  refine Within.bind (encrypted_within frees _) (fun packet => ?_)
  exact Within.bind (broadcasts packet) (fun _ => Within.pure _)

theorem handleClientBroadcast_within {parts : Set Part} (frees : Frees parts rules)
    (broadcasts : ∀ packet, Within rules (broadcast packet)) (reqPacket : NETInputPacket)
    : Within rules (handleClientBroadcast reqPacket) := by
  refine Within.bind (reading_within frees _ _) (fun info => ?_)
  refine Within.bind (encrypted_within frees _) (fun packet => ?_)
  exact Within.bind (broadcasts packet) (fun _ => Within.pure _)

/-- A kick is within what it does to its session, and the completion. -/
theorem kick_within {sid : SessionId}
    (frees : Frees {.scratch, .client sid, .connType sid} rules)
    (notes : Within rules (note (.kicked sid))) (uses : Within rules (useSession sid))
    (completes : Within rules (complete sid))
    : Within rules (kick sid) := by
  have client : Frees {.scratch, .client sid} rules :=
    frees.mono (by simp [Set.insert_subset_iff])
  have responds : ∀ packet, Within rules (discard (respond sid packet)) := fun packet =>
    Within.bind (respond_within sid client uses packet) (fun _ => Within.pure _)
  refine Within.bind (encrypted_within frees _) (fun packet => ?_)
  refine Within.bind (responds packet) (fun _ => ?_)
  refine Within.bind notes (fun _ => ?_)
  refine Within.bind (setConnType_within sid (frees.mono (by simp)) uses .other) (fun _ => ?_)
  refine Within.bind completes (fun _ => ?_)
  exact Within.bind uses (fun _ => Within.pure _)

theorem kickOther_within {sid : SessionId}
    (notes : ∀ uid found, Within rules (note (.loggingIn sid uid found)))
    (kicks : ∀ other, Within rules (kick other)) (uid : Int)
    : Within rules (kickOther sid uid) := by
  refine Within.bind Within.get (fun proxy => ?_)
  refine Within.bind (notes uid _) (fun _ => ?_)
  cases proxy.pool.objmap[uid]? with
  | none => exact Within.pure _
  | some found => exact Within.ite (Within.pure _) (kicks found)

/-- A login is within what it shows, the kick of another session, and entering the user. -/
theorem login_within {sid : SessionId} {parts : Set Part} (frees : Frees parts rules)
    (notes : ∀ uid found, Within rules (note (.loggingIn sid uid found)))
    (uses : Within rules (useSession sid)) (kicks : ∀ other, Within rules (kick other))
    (enters : ∀ uid api, Within rules (enterUser sid uid api)) (reqPacket : NETInputPacket)
    : Within rules (login sid reqPacket) := by
  refine Within.bind (reading_within frees _ _) (fun read => Within.ite (Within.pure _) ?_)
  refine Within.bind (kickOther_within notes kicks _) (fun _ => ?_)
  refine Within.bind uses (fun session => ?_)
  exact Within.ite (Within.pure _) (Within.bind (enters _ _) (fun _ => Within.pure _))

/-- The parts in which a client's frame is seen, apart from a login, a broadcast and a reload.
-/
def frameParts (sid : SessionId) : Set Part :=
  {.directory, .settings, .levelCounts, .client sid, .game sid, .noted (.link (.game sid)),
    .noted (.frame sid)} ∪ helperParts

section Session

variable {sid : SessionId} (uses : Within rules (useSession sid))

include uses

theorem procGetUserCount_within (frees : Frees {.scratch, .client sid} rules)
    (pPacket : NETInputPacket)
    : Within rules (procGetUserCount sid pPacket) := by
  refine Within.bind (reading_within frees _ _) (fun read => ?_)
  refine Within.ite ?_ (Within.pure _)
  refine Within.bind Within.get (fun proxy => ?_)
  refine Within.bind (encrypted_within frees _) (fun packet => ?_)
  exact respond_within sid frees uses packet

theorem processGetLevelCount_within (frees : Frees {.scratch, .client sid} rules)
    (counts : ∀ level, Within rules (levelUserCount level)) (pPacket : NETInputPacket)
    : Within rules (processGetLevelCount sid pPacket) := by
  have writes := writeLevelCounts_within (frees.mono (by simp)) counts
  have replies : Within rules (levelCountReply pPacket) := by
    refine Within.bind (reading_within frees _ _) (fun levelCount => ?_)
    refine Within.bind (writes _ levelCount.2 _) (fun written => ?_)
    exact encrypted_within frees _
  exact Within.bind replies (fun packet => respond_within sid frees uses packet)

theorem sendPacketToHelperUnit_within (frees : Frees helperParts rules) (hid : HelperId)
    (data : List UInt8)
    : Within rules (sendPacketToHelperUnit sid hid data) := by
  refine Within.bind uses (fun session => ?_)
  refine Within.bind Within.get (fun proxy => ?_)
  refine Within.bind (plain_within frees _) (fun packet => ?_)
  exact giveToHelper_within hid (frees.mono (by simp [helperParts, Set.insert_subset_iff]))
    packet

section Sends

omit uses

variable
  (sends : ∀ hid data, Within rules (sendPacketToHelperUnit sid hid data))

include sends

theorem procUserGetNewRoom2_within (scratch : Frees {.scratch} rules)
    (pPacket : NETInputPacket)
    : Within rules (procUserGetNewRoom2 sid pPacket) := by
  refine Within.bind (reading_within scratch _ _) (fun level => ?_)
  refine Within.bind (getRandomHelper_within scratch _) (fun found => ?_)
  cases found with
  | none => exact Within.pure _
  | some hid =>
      refine Within.bind (ask_within scratch) (fun answers => ?_)
      refine Within.bind (ofExcept_within scratch _) (fun decrypted => ?_)
      refine Within.bind (encrypted_within scratch _) (fun packet => ?_)
      exact Within.bind (sends hid packet) (fun _ => Within.pure _)

theorem forward_within (cmd : Int) (pData : List UInt8) (choice : Choice)
    : Within rules (forward sid cmd pData choice) := by
  cases choice with
  | result ret => exact Within.pure _
  | helper found =>
      cases found with
      | none => exact Within.pure _
      | some hid => exact Within.bind (sends hid pData) (fun _ => Within.pure _)

include uses

theorem procUserGetNewRoom_within (client : Frees {.scratch, .client sid} rules)
    (pPacket : NETInputPacket)
    : Within rules (procUserGetNewRoom sid pPacket) := by
  refine Within.bind uses (fun session => ?_)
  refine Within.ite (Within.pure _) (Within.ite ?_ (Within.ite ?_ (Within.pure _)))
  · refine Within.bind (encrypted_within client _) (fun packet => ?_)
    exact respond_within sid client uses packet
  · exact procUserGetNewRoom2_within sends (client.mono (by simp)) pPacket

end Sends

theorem handleGameCmd_within
    (frees : Frees {.scratch, .game sid, .noted (.link (.game sid))} rules)
    (sends : Within rules (sendToLogic (.game sid))) (reqPacket : NETInputPacket) (cmd : Int)
    (pData : List UInt8)
    : Within rules (handleGameCmd sid reqPacket cmd pData) := by
  have part : Frees {(BackendId.game sid).part, .noted (.link (.game sid))} rules :=
    frees.mono (by simp [BackendId.part])
  have appends := appendPkg_within (.game sid) (game_uses uses) part
  have asksForIp : Within rules (sendIPSetPacket sid reqPacket cmd) := by
    refine Within.ite ?_ (Within.pure _)
    refine Within.bind (reading_within frees _ _) (fun read => ?_)
    refine Within.bind uses (fun session => ?_)
    exact Within.bind (encrypted_within frees _) (fun packet => appends packet)
  refine Within.bind uses (fun session => ?_)
  refine Within.bind Within.get (fun proxy => ?_)
  refine Within.ite (Within.pure _) (Within.ite (Within.pure _) ?_)
  refine Within.bind (appends pData) (fun _ => Within.bind asksForIp (fun _ => ?_))
  exact Within.bind sends (fun _ => Within.pure _)

theorem ifLoggedIn_within {choice : ProxyM Choice} (chooses : Within rules choice)
    : Within rules (ifLoggedIn sid choice) :=
  Within.bind uses (fun _ => Within.ite (Within.pure _) chooses)

theorem chooseHelper_within
    (frees : Frees {.scratch, .client sid, .levelCounts} rules)
    (sends : ∀ hid data, Within rules (sendPacketToHelperUnit sid hid data))
    (next : Within rules nextSvid) {cmd : Int}
    (logins
      : cmd = clientCmdClientLogin → ∀ reqPacket, Within rules (login sid reqPacket))
    (reqPacket : NETInputPacket)
    : Within rules (chooseHelper sid cmd reqPacket) := by
  have scratch : Frees {.scratch} rules := frees.mono (by simp)
  have client : Frees {.scratch, .client sid} rules :=
    frees.mono (by simp [Set.insert_subset_iff])
  have chooses := chooseNext_within next
  refine Within.bind Within.get (fun proxy => ?_)
  refine Within.ite (Within.pure _) (Within.ite ?_ (Within.ite ?_ (Within.ite ?_
    (Within.ite ?_ ?_))))
  · refine ifLoggedIn_within uses ?_
    exact Within.bind (reading_within frees _ _) (fun serverId => chooseBySvid_within _)
  · have rooms := procUserGetNewRoom_within uses sends client reqPacket
    exact Within.bind rooms (fun _ => Within.pure _)
  · exact ifLoggedIn_within uses (chooseByLevel_within scratch reqPacket)
  · have counts := levelUserCount_within (frees.mono (by simp))
    have replies := processGetLevelCount_within uses client counts reqPacket
    exact Within.bind replies (fun _ => Within.pure _)
  · split
    · rename_i login
      refine Within.bind (logins login reqPacket) (fun goesOn => ?_)
      exact Within.ite chooses (Within.pure _)
    · exact ifLoggedIn_within uses chooses

/-- A packet is within what it does apart from logins, broadcasts and reloads, if they are. -/
theorem actOn_within (frees : Frees (frameParts sid) rules)
    (sends : Within rules (sendToLogic (.game sid))) (next : Within rules nextSvid)
    (logins : ∀ reqPacket, Within rules (login sid reqPacket))
    (broadcasts : ∀ packet, Within rules (broadcast packet))
    (reloads : Within rules resetHelperUnit) (reqPacket : NETInputPacket)
    (pData : List UInt8)
    : Within rules (actOn sid reqPacket pData) := by
  have client : Frees {.scratch, .client sid} rules :=
    frees.mono (by simp [frameParts, helperParts, Set.insert_subset_iff])
  have game : Frees {.scratch, .game sid, .noted (.link (.game sid))} rules :=
    frees.mono (by simp [frameParts, helperParts, Set.insert_subset_iff])
  have system : Frees {.scratch, .directory, .settings} rules :=
    frees.mono (by simp [frameParts, helperParts, Set.insert_subset_iff])
  rw [actOn]
  refine Within.ite ?_ (Within.ite ?_ (Within.ite ?_ (Within.ite ?_ ?_)))
  · refine Within.bind (plain_within frees _) (fun packet => ?_)
    exact respond_within sid client uses packet
  · exact procGetUserCount_within uses client _
  · exact handleSystemBroadcast_within frees broadcasts _
  · exact handleClientBroadcast_within frees broadcasts _
  · refine Within.ite (handleGameCmd_within uses game sends _ _ pData) ?_
    refine Within.ite (handleSysCmd_within system reloads _ _) ?_
    have gives := sendPacketToHelperUnit_within uses (frees.mono Set.subset_union_right)
    have own : Frees {.scratch, .client sid, .levelCounts} rules :=
      frees.mono (by simp [frameParts, helperParts, Set.insert_subset_iff])
    refine Within.bind (chooseHelper_within uses own gives next (fun _ => logins) reqPacket) ?_
    exact fun choice => forward_within gives _ pData choice

/-- A frame is within what it does apart from logins, broadcasts and reloads, if they are. -/
theorem handleInputBuf_within (frees : Frees (frameParts sid) rules)
    (sends : Within rules (sendToLogic (.game sid))) (next : Within rules nextSvid)
    (logins : ∀ reqPacket, Within rules (login sid reqPacket))
    (broadcasts : ∀ packet, Within rules (broadcast packet))
    (reloads : Within rules resetHelperUnit) (pData : List UInt8)
    : Within rules (handleInputBuf sid pData) := by
  have acts := actOn_within uses frees sends next logins broadcasts reloads
  rw [handleInputBuf]
  refine Within.bind (note_within (frees.mono (by simp [Happening.topic, frameParts]))) ?_
  refine fun _ => Within.bind (ask_within (frees.mono ?_)) (fun answers => acts _ pData)
  simp [frameParts, helperParts]

end Session

end Within

end ProxyServer.System
