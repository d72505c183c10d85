import ProxyServer.System.SessionEnd

/-! What the frames of helpers and game servers do to the sessions:
`CHelperUnit::process_pkg` and `CGameUnit::process_pkg` with all they call.
-/

namespace ProxyServer.System

open Packets ProxyServer.Units
open FaultState Footprint

-----------------------------------------------------------------------------------------
-- Reading a room assignment
-----------------------------------------------------------------------------------------

/-- A place in a game server that a helper assigns. -/
structure Room where
  tid : Int
  ip : List UInt8
  port : Int

/-- Reads as many `int`s as a loop counter asks for, and drops them. -/
def skipInts : Nat → PacketM 8192 Unit
  | 0 => pure ()
  | count + 1 => do
      let _ ← InputPacket.readInt
      skipInts count

/-- The reading part of `ProcessUserLoginSuccess`; there is no room for a `tid` of 0. -/
def readLoginSuccess : PacketM 8192 (Option Room) := do
  let _ ← EncryptDecrypt.decryptBuffer
  let levelCount ← InputPacket.readInt
  skipInts levelCount.toNat
  let tid ← InputPacket.readInt
  if 0 < tid then do
    let ip ← InputPacket.readString
    let port ← InputPacket.readInt
    pure (some ⟨tid, ip, port⟩)
  else
    pure none

/-- The reading part of `ProcessEnterRoom`; there is no room for a result of 0. -/
def readEnterRoom : PacketM 8192 (Option Room) := do
  let _ ← EncryptDecrypt.decryptBuffer
  let res ← InputPacket.readShort
  if res = 0 then
    pure none
  else do
    let ip ← InputPacket.readString
    let port ← InputPacket.readInt
    let tid ← InputPacket.readInt
    pure (some ⟨tid, ip, port⟩)

/-- The reading part of `ProcessGetNewRoom`. -/
def readNewRoom : PacketM 8192 Room := do
  let _ ← EncryptDecrypt.decryptBuffer
  let tid ← InputPacket.readInt
  let ip ← InputPacket.readString
  let port ← InputPacket.readInt
  pure ⟨tid, ip, port⟩

-----------------------------------------------------------------------------------------
-- Assigning a room
-----------------------------------------------------------------------------------------

/-- `IpMap`. -/
def ipMap (ip : List UInt8) : ProxyM (List UInt8) := do
  pure (((← get).pool.ipmap ip).getD [])

/-- Stores a room in a session's game unit. What is shown of it is the unit as the packet found
it, before a connection was closed.
-/
def storeRoom (sid : SessionId) (room : Room) (login : Bool) (found : BackendUnit)
    : ProxyM Unit := do
  let addr ← ipMap room.ip
  note (.assigned sid ⟨login, room.tid, (addr, room.port), found.tid, found.server⟩)
  callBackend (.game sid) (fun unit =>
    ((), { unit with addr := addr, port := room.port, tid := room.tid }))

/-- Assigns a room whatever the game unit is connected to. -/
def assignRoom (sid : SessionId) (room : Room) : ProxyM Unit := do
  let session ← useSession sid
  storeRoom sid room true session.gameUnit

/-- Assigns a room; a connection to another server than the room's is closed first. -/
def moveToRoom (sid : SessionId) (room : Room) : ProxyM Unit := do
  let session ← useSession sid
  let pGameUnit := session.gameUnit
  if 0 < pGameUnit.poller.netfd ∧ pGameUnit.tid >>> 16 ≠ room.tid >>> 16 then do
    resetHelper (.game sid)
    storeRoom sid room false pGameUnit
  else
    storeRoom sid room false pGameUnit

/-- `ProcessUserLoginSuccess`. -/
def processUserLoginSuccess (sid : SessionId) (pPacket : NETInputPacket) : ProxyM Unit := do
  match (← reading pPacket readLoginSuccess).1 with
  | some room => assignRoom sid room
  | none => pure ()

/-- `ProcessEnterRoom`. -/
def processEnterRoom (sid : SessionId) (pPacket : NETInputPacket) : ProxyM Unit := do
  match (← reading pPacket readEnterRoom).1 with
  | some room => moveToRoom sid room
  | none => pure ()

/-- `ProcessGetNewRoom`. -/
def processGetNewRoom (sid : SessionId) (pPacket : NETInputPacket) : ProxyM Unit := do
  let read ← reading pPacket readNewRoom
  moveToRoom sid read.1

-----------------------------------------------------------------------------------------
-- Helper frames
-----------------------------------------------------------------------------------------

/-- The pairs of a level and its user count that a loop counter asks for. -/
def readPairs : Nat → PacketM 8192 (List (Int × Int))
  | 0 => pure []
  | count + 1 => do
      let nLevel ← InputPacket.readShort
      let nUserCount ← InputPacket.readShort
      let rest ← readPairs count
      pure ((nLevel, nUserCount) :: rest)

/-- The reading part of `CHelperUnit::ProcessGetLevelCount`. -/
def readLevelCounts : PacketM 8192 (List (Int × Int)) := do
  let _ ← EncryptDecrypt.decryptBuffer
  let nCount ← InputPacket.readShort
  readPairs nCount.toNat

def setLevelCount (level count : Int) : ProxyM Unit :=
  modify (fun proxy =>
    {
      proxy with
      pool :=
        { proxy.pool with levelCountMap := proxy.pool.levelCountMap.insert level count }
    })

/-- `CHelperUnit::ProcessGetLevelCount`. -/
def storeLevelCounts (pPacket : NETInputPacket) : ProxyM Unit := do
  let read ← reading pPacket readLevelCounts
  read.1.forM (fun pair => setLevelCount pair.1 pair.2)

/-- `SendClientClose`. -/
def sendClientClose (uid : Int) : ProxyM Unit := do
  let proxy ← get
  let transPacket ← plain (clientClose uid proxy.global.svid)
  if proxy.pool.svidlist = [] then
    pure ()
  else do
    let svid ← nextSvid
    giveToHelperOf svid transPacket

/-- What a packet for a user does to the room assignment of his session. -/
def processRoom (sid : SessionId) (cmd : Int) (tempPacket : NETInputPacket) : ProxyM Unit :=
  if cmd = serverCmdLoginSuccess then
    processUserLoginSuccess sid tempPacket
  else if cmd = serverCmdEnterRoom then
    processEnterRoom sid tempPacket
  else if cmd = cmdGetNewRoom then
    processGetNewRoom sid tempPacket
  else
    pure ()

/-- Forwards a packet to a user's session, or completes a session that has failed. -/
def forwardToClient (sid : SessionId) (cmd : Int) (szTemp : List UInt8)
    (tempPacket : NETInputPacket) : ProxyM Unit := do
  processRoom sid cmd tempPacket
  let decoder ← useSession sid
  if decoder.webUnit.stage = .fatalError then
    complete sid
  else
    discard (respond sid szTemp)

/-- A packet for a user, who may have left. -/
def packetForUser (uid cmd : Int) (szTemp : List UInt8) (tempPacket : NETInputPacket)
    : ProxyM Unit := do
  match (← get).pool.objmap[uid]? with
  | none => sendClientClose uid
  | some sid => forwardToClient sid cmd szTemp tempPacket

/-- `SERVER_CLOSE_PACKET`. -/
def closeUser (uid : Int) : ProxyM Unit := do
  match (← get).pool.objmap[uid]? with
  | none => pure ()
  | some sid => do
      note (.closedByServer sid)
      setConnType sid .other
      complete sid

/-- Carries out the order of a helper's frame; false for a broken one. -/
def obey : HelperOrder → ProxyM Bool
  | .broken => pure false
  | .levelCount tempPacket => do
      storeLevelCounts tempPacket
      pure true
  | .toClient uid cmd szTemp tempPacket => do
      packetForUser uid cmd szTemp tempPacket
      pure true
  | .closeClient uid => do
      closeUser uid
      pure true
  | .invalidCmd => pure true

/-- The body of the `while` of `CHelperUnit::process_pkg` for one frame. -/
def handleHelperFrame (frame : List UInt8) : ProxyM Bool := do
  let tran ← ask
  let temp ← ask
  let order ← ofExcept (helperOrder tran.stale temp.stale frame)
  obey order

/-- `CHelperUnit::process_pkg`. -/
def helperProcessPkg (hid : HelperId) : ProxyM Int :=
  processPkg (Proxy.readCache (.helper hid)) handleHelperFrame (fun _ => pure false)

-----------------------------------------------------------------------------------------
-- Game server frames
-----------------------------------------------------------------------------------------

/-- The body of the `while` of `CGameUnit::process_pkg` up to `_r.skip`. -/
def handleGameFrame (sid : SessionId) (frame : List UInt8) : ProxyM Bool := do
  let answers ← ask
  modify (fun proxy => { proxy with tranPacket := copied answers.stale frame })
  let packet ← ofExcept (gameQueued answers.stale frame)
  let session ← useSession sid
  if session.webUnit.stage = .fatalError then
    pure false
  else do
    let ret ← respond sid packet
    pure (decide (0 ≤ ret))

/-- The reading part of `SERVER_COMMAND_CHANGE_GAMESERVER`. -/
def readChangeGameserver : PacketM 8192 (List UInt8 × Int) := do
  let _ ← EncryptDecrypt.decryptBuffer
  let _uid ← InputPacket.readInt
  let ip ← InputPacket.readString
  let port ← InputPacket.readInt
  pure (ip, port)

/-- `reset_helper` because the game server says that the user has left. -/
def dismiss (sid : SessionId) : ProxyM Unit := do
  note (.dismissed sid)
  resetHelper (.game sid)

/-- As `dismiss`, with the address of the next game server. It is taken as it comes, without
`IpMap`.
-/
def dismissTo (sid : SessionId) (ip : List UInt8) (port : Int) : ProxyM Unit := do
  dismiss sid
  callBackend (.game sid) (fun unit => ((), { unit with addr := ip, port := port }))

/-- The body of the `while` of `CGameUnit::process_pkg` behind `_r.skip`, for a packet: whether
it ends.
-/
def settleOn (sid : SessionId) (tranPacket : NETInputPacket) : ProxyM Bool := do
  if tranPacket.getCmdType = serverCommandLogoutSuccess then do
    dismiss sid
    pure true
  else if tranPacket.getCmdType = serverCommandChangeGameserver then do
    let read ← reading tranPacket readChangeGameserver
    dismissTo sid read.1.1 read.1.2
    pure true
  else
    pure false

/-- As `settleOn`, for the packet object at work. -/
def settleGameFrame (sid : SessionId) (_frame : List UInt8) : ProxyM Bool := do
  settleOn sid (← get).tranPacket

/-- `CGameUnit::process_pkg`. -/
def gameProcessPkg (sid : SessionId) : ProxyM Int :=
  processPkg (Proxy.readCache (.game sid)) (handleGameFrame sid) (settleGameFrame sid)

-----------------------------------------------------------------------------------------
-- What server packets can change
-----------------------------------------------------------------------------------------

section Within

variable {rules : Conduct Proxy Fault}

/-- The parts in which a packet for a user is seen that neither completes his session nor
assigns a room.
-/
def forwardParts (sid : SessionId) : Set Part :=
  {.scratch, .client sid, .game sid}

theorem storeLevelCounts_within (frees : Frees {.levelCounts} rules)
    (pPacket : NETInputPacket)
    : Within rules (storeLevelCounts pPacket) := by
  refine Within.bind (reading_within frees _ _) (fun read => ?_)
  refine Within.forM (fun pair _ => frees.allows.modify rfl ?_)
  intro proxy part outside
  cases part <;> first | rfl | exact absurd rfl outside

theorem sendClientClose_within (frees : Frees helperParts rules)
    (next : Within rules nextSvid) (uid : Int)
    : Within rules (sendClientClose uid) := by
  refine Within.bind Within.get (fun proxy => ?_)
  refine Within.bind (plain_within frees _) (fun transPacket => ?_)
  refine Within.ite (Within.pure _) ?_
  exact Within.bind next (fun svid => giveToHelperOf_within frees svid transPacket)

/-- A conduct allows the assignment of rooms to a session. -/
structure AssignsRooms (rules : Conduct Proxy Fault) (sid : SessionId) : Prop where
  assigns : ∀ room, Within rules (assignRoom sid room)
  moves : ∀ room, Within rules (moveToRoom sid room)

section Session

variable {sid : SessionId} (uses : Within rules (useSession sid))

include uses

/-- A conduct that allows any change of a game unit allows room assignments. -/
theorem assignsRooms_within
    (frees : Frees {.scratch, .game sid, .room sid, .noted (.room sid)} rules)
    : AssignsRooms rules sid := by
  have part : Frees {.scratch, (BackendId.game sid).part} rules :=
    frees.mono (by simp [BackendId.part, Set.insert_subset_iff])
  have resets := resetHelper_within (.game sid) (game_uses uses) part
  have stores (room : Room) (login : Bool) (found : BackendUnit)
      : Within rules (storeRoom sid room login found) := by
    refine Within.bind (Within.bind Within.get (fun _ => Within.pure _)) (fun addr => ?_)
    refine Within.bind (note_within (frees.mono (by simp [Happening.topic]))) (fun _ => ?_)
    refine Within.bind (useUnit_within (game_uses uses)) (fun _ proxy => .returned ?_)
    exact frees.allows (.room sid) (by simp) _ _ (Proxy.confined_gameUnit sid _ proxy)
  constructor
  · exact fun room => Within.bind uses (fun session => stores room true session.gameUnit)
  · intro room
    refine Within.bind uses (fun session => Within.ite ?_ (stores room false session.gameUnit))
    exact Within.bind resets (fun _ => stores room false session.gameUnit)

section Rooms

variable (frees : Frees (forwardParts sid) rules) (rooms : AssignsRooms rules sid)

include frees rooms

omit uses in
theorem processRoom_within (cmd : Int) (tempPacket : NETInputPacket)
    : Within rules (processRoom sid cmd tempPacket) := by
  refine Within.ite ?_ (Within.ite ?_ (Within.ite ?_ (Within.pure _)))
  · refine Within.bind (reading_within frees _ _) (fun read => ?_)
    cases read.1 with
    | none => exact Within.pure _
    | some room => exact rooms.assigns room
  · refine Within.bind (reading_within frees _ _) (fun read => ?_)
    cases read.1 with
    | none => exact Within.pure _
    | some room => exact rooms.moves room
  · exact Within.bind (reading_within frees _ _) (fun read => rooms.moves read.1)

theorem forwardToClient_within (completes : Within rules (complete sid)) (cmd : Int)
    (szTemp : List UInt8) (tempPacket : NETInputPacket)
    : Within rules (forwardToClient sid cmd szTemp tempPacket) := by
  refine Within.bind (processRoom_within frees rooms cmd tempPacket) (fun _ => ?_)
  refine Within.bind uses (fun decoder => Within.ite completes ?_)
  have responds := respond_within sid
    (frees.mono (by simp [forwardParts, Set.insert_subset_iff])) uses szTemp
  exact Within.bind responds (fun _ => Within.pure _)

end Rooms

theorem handleGameFrame_within (frees : Frees {.scratch, .client sid} rules)
    (frame : List UInt8)
    : Within rules (handleGameFrame sid frame) := by
  have scratch : Frees {.scratch} rules := frees.mono (by simp)
  refine Within.bind (ask_within scratch) (fun answers => ?_)
  refine Within.bind (scratch.allows.modify rfl ?_) (fun _ => ?_)
  · intro proxy part outside
    cases part <;> first | rfl | exact absurd rfl outside
  refine Within.bind (ofExcept_within frees _) (fun packet => ?_)
  refine Within.bind uses (fun session => Within.ite (Within.pure _) ?_)
  exact Within.bind (respond_within sid frees uses packet) (fun _ => Within.pure _)

omit uses in
theorem settleGameFrame_within {parts : Set Part} (frees : Frees parts rules)
    (dismisses : Within rules (dismiss sid))
    (moves : ∀ ip port, Within rules (dismissTo sid ip port)) (frame : List UInt8)
    : Within rules (settleGameFrame sid frame) := by
  refine Within.bind Within.get (fun proxy => ?_)
  refine Within.ite ?_ (Within.ite ?_ (Within.pure _))
  · exact Within.bind dismisses (fun _ => Within.pure _)
  · refine Within.bind (reading_within frees _ _) (fun read => ?_)
    exact Within.bind (moves _ _) (fun _ => Within.pure _)

theorem gameProcessPkg_within (frees : Frees {.scratch, .client sid, .game sid} rules)
    (dismisses : Within rules (dismiss sid))
    (moves : ∀ ip port, Within rules (dismissTo sid ip port))
    : Within rules (gameProcessPkg sid) := by
  have game : Frees {(BackendId.game sid).part} rules :=
    frees.mono (by simp [BackendId.part])
  apply processPkg_within frees.endless
  · exact fun bytes proxy => game.backend ⟨rfl, id, Or.inl rfl⟩
  · exact fun frame => handleGameFrame_within uses
      (frees.mono (by simp [Set.insert_subset_iff])) frame
  · exact fun frame => settleGameFrame_within frees dismisses moves frame

/-- As `assignsRooms_within`, for what a game server tells. -/
theorem dismiss_within (frees : Frees {.scratch, .game sid, .noted (.room sid)} rules)
    : Within rules (dismiss sid) := by
  have part : Frees {.scratch, (BackendId.game sid).part} rules :=
    frees.mono (by simp [BackendId.part, Set.insert_subset_iff])
  refine Within.bind (note_within (frees.mono (by simp [Happening.topic]))) (fun _ => ?_)
  exact resetHelper_within (.game sid) (game_uses uses) part

theorem dismissTo_within
    (frees : Frees {.scratch, .game sid, .room sid, .noted (.room sid)} rules)
    (ip : List UInt8) (port : Int)
    : Within rules (dismissTo sid ip port) := by
  have leaves := dismiss_within uses (frees.mono (by simp [Set.insert_subset_iff]))
  refine Within.bind leaves (fun _ => ?_)
  refine Within.bind (useUnit_within (game_uses uses)) (fun _ proxy => .returned ?_)
  exact frees.allows (.room sid) (by simp) _ _ (Proxy.confined_gameUnit sid _ proxy)

end Session

/-- A user's session is closed as any session may be. -/
theorem closeUser_within
    (frees : ∀ sid, Frees {.connType sid} rules)
    (notes : ∀ sid, Within rules (note (.closedByServer sid)))
    (uses : ∀ sid, Within rules (useSession sid))
    (completes : ∀ sid, Within rules (complete sid)) (uid : Int)
    : Within rules (closeUser uid) := by
  refine Within.bind Within.get (fun proxy => ?_)
  cases proxy.pool.objmap[uid]? with
  | none => exact Within.pure _
  | some sid =>
      have sets := setConnType_within sid (frees sid) (uses sid) .other
      refine Within.bind (notes sid) (fun _ => ?_)
      exact Within.bind sets (fun _ => completes sid)

/-- A packet for a user does to his session what is allowed for any. -/
theorem packetForUser_within (frees : Frees helperParts rules)
    (next : Within rules nextSvid)
    (forwards
      : ∀ sid cmd szTemp tempPacket, Within rules (forwardToClient sid cmd szTemp tempPacket))
    (uid cmd : Int) (szTemp : List UInt8) (tempPacket : NETInputPacket)
    : Within rules (packetForUser uid cmd szTemp tempPacket) := by
  refine Within.bind Within.get (fun proxy => ?_)
  cases proxy.pool.objmap[uid]? with
  | none => exact sendClientClose_within frees next uid
  | some sid => exact forwards sid cmd szTemp tempPacket

/-- The parts in which the frames of helpers are seen, but for what they do to sessions. -/
theorem obey_within (frees : Frees {.levelCounts} rules)
    (packets
      : ∀ uid cmd szTemp tempPacket, Within rules (packetForUser uid cmd szTemp tempPacket))
    (closes : ∀ uid, Within rules (closeUser uid)) (order : HelperOrder)
    : Within rules (obey order) := by
  cases order with
  | broken => exact Within.pure _
  | levelCount tempPacket =>
      exact Within.bind (storeLevelCounts_within frees tempPacket) (fun _ => Within.pure _)
  | toClient uid cmd szTemp tempPacket =>
      exact Within.bind (packets uid cmd szTemp tempPacket) (fun _ => Within.pure _)
  | closeClient uid => exact Within.bind (closes uid) (fun _ => Within.pure _)
  | invalidCmd => exact Within.pure _

theorem helperProcessPkg_within (frees : Frees ({.levelCounts} ∪ helperParts) rules)
    (packets
      : ∀ uid cmd szTemp tempPacket, Within rules (packetForUser uid cmd szTemp tempPacket))
    (closes : ∀ uid, Within rules (closeUser uid)) (hid : HelperId)
    : Within rules (helperProcessPkg hid) := by
  have scratch : Frees {.scratch} rules := frees.mono (by simp [helperParts])
  have helper : Frees {(BackendId.helper hid).part} rules :=
    frees.mono (by simp [BackendId.part, helperParts])
  apply processPkg_within frees.endless
  · exact fun bytes proxy => helper.backend ⟨rfl, id, Or.inl rfl⟩
  · intro frame
    refine Within.bind (ask_within scratch) (fun tran => ?_)
    refine Within.bind (ask_within scratch) (fun temp => ?_)
    refine Within.bind (ofExcept_within frees _) (fun order => ?_)
    exact obey_within (frees.mono (by simp)) packets closes order
  · exact fun _ => Within.pure _

end Within

end ProxyServer.System
