import ProxyServer.Packets.RoundTrip
import ProxyServer.Units.BackendFraming

/-! What the back-end units do with the bytes of one frame.
A frame is copied into a packet object of 8192 bytes before it is read. Frames of up to
10242 bytes pass the length check, and the result of the copy is not looked at: behind a
failed copy the object still holds what was on the stack.
-/

namespace ProxyServer.Units

open WordBytes Packets
open FaultState (Yields yields_pure yields_bind yields_get)

-----------------------------------------------------------------------------------------
-- Reading a frame
-----------------------------------------------------------------------------------------

/-- A packet object after a `Copy` whose result is ignored; `stale` is the object before. -/
def copied (stale : NETInputPacket) (bytes : List UInt8) : NETInputPacket :=
  (stale.copy bytes).2

/-- What `CGameUnit::process_pkg` gives to `add_rsp_buf`. -/
def gameQueued (stale : NETInputPacket) (frame : List UInt8) : Except Fault (List UInt8) :=
  (copied stale frame).contents

/-- What `CHelperUnit::process_pkg` finds in a frame. `broken` is a binary that `ReadBinary`
refuses; `toClient` holds what `add_rsp_buf` is given, and the inner packet the handlers
decrypt.
-/
inductive HelperOrder
  | broken
  | levelCount (tempPacket : NETInputPacket)
  | toClient (uid cmd : Int) (szTemp : List UInt8) (tempPacket : NETInputPacket)
  | closeClient (uid : Int)
  | invalidCmd

/-- The order of an inner packet: a room count is meant for the proxy itself. -/
def innerOrder (uid : Int) (szTemp : List UInt8) (tempPacket : NETInputPacket)
    : HelperOrder :=
  if tempPacket.getCmdType = cmdGetRoomLeverNum then .levelCount tempPacket
  else .toClient uid tempPacket.getCmdType szTemp tempPacket

/-- The reading part of `CHelperUnit::process_pkg`, from `GetCmdType` on. -/
def readOrder (staleTemp : NETInputPacket) : PacketM 8192 HelperOrder := do
  let nCmd := (← get).getCmdType
  let uid ← InputPacket.readInt
  let _svid ← InputPacket.readInt
  if nCmd = clientPacket then do
    let (rLen, szTemp) ← InputPacket.readBinary 10240
    if rLen = -1 then
      pure .broken
    else
      pure (innerOrder uid szTemp (copied staleTemp szTemp))
  else if nCmd = serverClosePacket then
    pure (.closeClient uid)
  else
    pure .invalidCmd

/-- The order in a frame, given the two packet objects on the stack. -/
def helperOrder (stale staleTemp : NETInputPacket) (frame : List UInt8)
    : Except Fault HelperOrder := do
  let (order, _) ← readOrder staleTemp (copied stale frame)
  pure order

/-- The inner packet that a handler decrypts, if any. -/
def HelperOrder.decrypts : HelperOrder → Option NETInputPacket
  | .levelCount tempPacket => some tempPacket
  | .toClient _ cmd _ tempPacket =>
      if cmd = serverCmdLoginSuccess ∨ cmd = serverCmdEnterRoom ∨ cmd = cmdGetNewRoom then
        some tempPacket
      else none
  | _ => none

-----------------------------------------------------------------------------------------
-- Well-formed client packets
-----------------------------------------------------------------------------------------

/-- The command of a packet given as bytes. -/
def commandOf (bytes : List UInt8) : Int :=
  (copied default bytes).getCmdType

/-- A frame of command `CLIENT_PACKET` for `uid` that carries all of its inner binary. -/
structure ClientPacketFrame (frame : List UInt8) (uid : Int) (inner : List UInt8) : Prop where
  framed : Framed frame
  admitted : contentLength frame ≤ 10240
  command : signed 16 (ofBytes ((frame.drop 6).take 2)) = clientPacket
  layout
    : ∃ uidBytes svidBytes tail : List UInt8,
        frame.drop 9
          = uidBytes ++ (svidBytes ++ (toBytes 4 (unsigned 32 inner.length) ++ inner ++ tail))
        ∧ uidBytes.length = 4
        ∧ svidBytes.length = 4
        ∧ signed 32 (ofBytes uidBytes) = uid

/-- The inner packet is queued to its client as it is, unless it is a room count. -/
def HelperOrder.Forwards (uid : Int) (inner : List UInt8) : HelperOrder → Prop
  | .toClient uid' _ szTemp _ => uid' = uid ∧ szTemp = inner
  | .levelCount tempPacket =>
      commandOf inner = cmdGetRoomLeverNum ∧ tempPacket.contents = .ok inner
  | _ => False

/-- Whatever is on the stack, the frame's inner packet is forwarded. -/
def ExactlyForwarded (frame : List UInt8) (uid : Int) (inner : List UInt8) : Prop :=
  ∀ stale staleTemp,
    ∃ order, helperOrder stale staleTemp frame = .ok order ∧ order.Forwards uid inner

/-- Whatever is on the stack, the frame is queued as it is. -/
def ExactlyQueued (frame : List UInt8) : Prop :=
  ∀ stale, gameQueued stale frame = .ok frame

-----------------------------------------------------------------------------------------
-- Frames that fit the packet object
-----------------------------------------------------------------------------------------

/-- Behind a copy that fits, the payload is unread. -/
theorem copied_unread {frame : List UInt8} (stale : NETInputPacket)
    (header : headLen ≤ frame.length) (fits : frame.length ≤ 8192)
    : Unread (copied stale frame) (frame.drop 9) := by
  unfold headLen at header
  have shape : copied stale frame = {
      strBuf := CellStore.write (fun _ => 0) 0 frame
      nPacketSize := frame.length
      nBufPos := 9
    } := congrArg Prod.snd (PacketBase.copy_fits fits)
  have payload : (copied stale frame).strBuf.read 9 (frame.length - 9)
      = (frame.drop 9).take (frame.length - 9) :=
    PacketBase.copy_read fits (by omega)
  rw [shape] at payload ⊢
  refine ⟨?_, ?_, ?_, ?_, ?_⟩
  · rw [List.length_drop]
    dsimp only
    omega
  · exact Int.natCast_nonneg 9
  · exact Int.ofNat_le.mpr fits
  · dsimp only
    omega
  · rw [List.length_drop]
    exact payload.trans (List.take_of_length_le (by rw [List.length_drop]))

theorem copied_getCmdType {frame : List UInt8} (stale : NETInputPacket)
    (header : headLen ≤ frame.length) (fits : frame.length ≤ 8192)
    : (copied stale frame).getCmdType = signed 16 (ofBytes ((frame.drop 6).take 2)) := by
  unfold headLen at header
  rw [PacketBase.getCmdType, copied, PacketBase.copy_read fits (by omega)]

/-- A copy that fits depends on nothing but the copied bytes. -/
theorem copied_eq {bytes : List UInt8} (stale stale' : NETInputPacket)
    (fits : bytes.length ≤ 8192)
    : copied stale bytes = copied stale' bytes := by
  rw [copied, copied, PacketBase.copy_fits fits, PacketBase.copy_fits fits]

/-- A client packet that fits the object is read as it was built. -/
theorem ClientPacketFrame.helperOrder_eq {frame : List UInt8} {uid : Int}
    {inner : List UInt8} (packet : ClientPacketFrame frame uid inner)
    (fits : frame.length ≤ 8192) (stale staleTemp : NETInputPacket)
    : inner.length ≤ 8192
      ∧ helperOrder stale staleTemp frame
        = .ok (innerOrder uid inner (copied staleTemp inner)) := by
  obtain ⟨uidBytes, svidBytes, tail, layout, uidWidth, svidWidth, uid_eq⟩ := packet.layout
  have length := congrArg List.length layout
  simp only [List.length_append, List.length_drop, length_toBytes] at length
  have header : headLen ≤ frame.length := by unfold headLen; omega
  have unread := copied_unread stale header fits
  rw [layout] at unread
  obtain ⟨afterUid, readUid, unread⟩ := unread.readIntBytes uidWidth
  obtain ⟨afterSvid, readSvid, unread⟩ := unread.readIntBytes svidWidth
  have large : (inner.length : Int) ≤ 10240 := by omega
  obtain ⟨afterInner, readInner, _⟩ := unread.readBinary large
  have command := (copied_getCmdType stale header fits).trans packet.command
  have run : Yields (readOrder staleTemp) (copied stale frame)
      (innerOrder uid inner (copied staleTemp inner)) afterInner := by
    refine yields_bind.mpr ⟨_, _, yields_get.mpr ⟨rfl, rfl⟩, ?_⟩
    refine yields_bind.mpr ⟨_, _, readUid, yields_bind.mpr ⟨_, _, readSvid, ?_⟩⟩
    rw [if_pos command]
    refine yields_bind.mpr ⟨_, _, readInner, ?_⟩
    dsimp only
    rw [if_neg (by omega), uid_eq]
    exact yields_pure.mpr ⟨rfl, rfl⟩
  refine ⟨by omega, ?_⟩
  rw [helperOrder, run]
  rfl

theorem ClientPacketFrame.exactlyForwarded {frame : List UInt8} {uid : Int}
    {inner : List UInt8} (packet : ClientPacketFrame frame uid inner)
    (fits : frame.length ≤ 8192)
    : ExactlyForwarded frame uid inner := by
  intro stale staleTemp
  obtain ⟨small, run⟩ := packet.helperOrder_eq fits stale staleTemp
  rw [innerOrder] at run
  by_cases roomCount : (copied staleTemp inner).getCmdType = cmdGetRoomLeverNum
  · rw [if_pos roomCount] at run
    refine ⟨_, run, ?_, PacketBase.contents_copy small⟩
    rw [commandOf, copied_eq default staleTemp small]
    exact roomCount
  · rw [if_neg roomCount] at run
    exact ⟨_, run, rfl, rfl⟩

-----------------------------------------------------------------------------------------
-- Frames that do not fit
-----------------------------------------------------------------------------------------

/-- An object that was never written to, as a fresh stack page leaves it. -/
def blank : NETInputPacket := default

theorem copied_overflow {frame : List UInt8} (stale : NETInputPacket)
    (overflow : 8192 < frame.length)
    : copied stale frame = stale :=
  congrArg Prod.snd (PacketBase.copy_overflow overflow)

theorem gameQueued_overflow {frame : List UInt8} (overflow : 8192 < frame.length)
    : gameQueued blank frame = .ok [] := by
  rw [gameQueued, copied_overflow blank overflow]
  rfl

theorem helperOrder_overflow {frame : List UInt8} (staleTemp : NETInputPacket)
    (overflow : 8192 < frame.length)
    : helperOrder blank staleTemp frame = .ok .invalidCmd := by
  rw [helperOrder, copied_overflow blank overflow]
  rfl

/-- A frame of command `CLIENT_PACKET` for uid 7 from server 1, around an inner packet. -/
def frameAround (high low : UInt8) (inner : List UInt8) : List UInt8 :=
  [high, low, 66, 89, 1, 1, 0, 1, 0] ++ ([0, 0, 0, 7] ++ ([0, 0, 0, 1]
    ++ (toBytes 4 (unsigned 32 inner.length) ++ inner ++ [])))

theorem frameAround_clientPacket {high low : UInt8} {inner : List UInt8}
    (field : ofBytes [high, low] = inner.length + 19) (admitted : inner.length ≤ 10221)
    : ClientPacketFrame (frameAround high low inner) 7 inner := by
  have length : (frameAround high low inner).length = inner.length + 21 := by
    simp only [frameAround, List.length_append, List.length_cons, List.length_nil,
      length_toBytes]
    omega
  have content : contentLength (frameAround high low inner) = inner.length + 19 := field
  have code : ((frameAround high low inner).drop 6).take 2 = [0, 1] := rfl
  have payload : (frameAround high low inner).drop 9 = [0, 0, 0, 7] ++ ([0, 0, 0, 1]
      ++ (toBytes 4 (unsigned 32 inner.length) ++ inner ++ [])) := rfl
  refine ⟨?_, by omega, ?_, [0, 0, 0, 7], [0, 0, 0, 1], [], payload, rfl, rfl, by decide⟩
  · rw [Framed, length, content]
    omega
  · rw [code]
    decide

end ProxyServer.Units
