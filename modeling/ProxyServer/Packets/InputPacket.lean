import ProxyServer.Packets.PacketBase

/-! Reading fields from a packet: `InputPacket`.
Every reader first copies the raw field out; a reader whose field is cut short returns the
initial value of its local variable.
-/

namespace ProxyServer.Packets

open WordBytes

/-- `InputPacket<_buffer_size>` adds no field to its base. -/
abbrev InputPacket (bufferSize : Nat) := PacketBase bufferSize

/-- `NETInputPacket`, with the buffer of `ICHAT_TCP_DEFAULT_BUFFER` bytes. -/
abbrev NETInputPacket := InputPacket 8192

namespace InputPacket

variable {bufferSize : Nat}

/-- `ReadInt`; -1 when the field is cut short. -/
def readInt : PacketM bufferSize Int := do
  match ← PacketBase.read 4 with
  | some raw => pure (signed 32 (ofBytes raw))
  | none => pure (-1)

/-- `ReadShort`; -1 when the field is cut short. -/
def readShort : PacketM bufferSize Int := do
  match ← PacketBase.read 2 with
  | some raw => pure (signed 16 (ofBytes raw))
  | none => pure (-1)

/-- `ReadByte`; 255 when the field is cut short. -/
def readByte : PacketM bufferSize UInt8 := do
  match ← PacketBase.read 1 with
  | some raw => pure (raw.headD 255)
  | none => pure 255

/-- `ReadString(char*, int)`: whether the field was delivered, and its bytes. -/
def readStringInto (nMaxLen : Int) : PacketM bufferSize (Bool × List UInt8) := do
  let nLen ← readInt
  if nLen = -1 then
    return (false, [])
  if nMaxLen < nLen then
    PacketBase.readUndo 2
    return (false, [])
  match ← PacketBase.read nLen with
  | some raw => return (true, raw)
  | none => return (false, [])

/-- `ReadChar`: the offset of the string behind its length, or `NULL`. -/
def readChar : PacketM bufferSize (Option Int) := do
  let nLen ← readInt
  if nLen = -1 then
    return none
  PacketBase.readPoint nLen

/-- The bytes from `offset` up to the first NUL within the next `remaining` ones. -/
def scanString (store : CellStore UInt8) : Nat → Nat → Option (List UInt8)
  | 0, _ => none
  | remaining + 1, offset =>
      if store offset = 0 then some []
      else (scanString store remaining (offset + 1)).map (store offset :: ·)

/-- `ReadString()`: the C string behind the length, empty for `NULL`.
A string without a NUL inside the buffer is read past the end of the object.
-/
def readString : PacketM bufferSize (List UInt8) := do
  match ← readChar with
  | none => return []
  | some start =>
      let packet ← get
      if start < 0 then
        throw .memory
      match scanString packet.strBuf (bufferSize - start.toNat) start.toNat with
      | some text => return text
      | none => throw .memory

/-- `ReadBinary`: its result and the bytes it stored in the caller's buffer. -/
def readBinary (nMaxLen : Int) : PacketM bufferSize (Int × List UInt8) := do
  let nLen ← readInt
  if nLen = -1 then
    return (-1, [])
  if nMaxLen < nLen then
    PacketBase.readUndo 4
    return (-1, [])
  match ← PacketBase.read nLen with
  | some raw => return (nLen, raw)
  | none => return (0, [])

end InputPacket

end ProxyServer.Packets
