import ProxyServer.Packets.InputPacket

/-! Writing fields to a packet: `OutputPacket`.
Callers ignore the writers' results, so a packet is built by a program whose writes may
each fail on their own.
-/

namespace ProxyServer.Packets

open WordBytes

/-- `OutputPacket<BUFFER_SIZE>`: a packet and whether its check code was written. -/
structure OutputPacket (bufferSize : Nat) extends PacketBase bufferSize where
  isCheckCode : Bool

/-- `NETOutputPacket`, with the buffer of `ICHAT_TCP_DEFAULT_BUFFER` bytes. -/
abbrev NETOutputPacket := OutputPacket 8192

namespace OutputPacket

variable {bufferSize : Nat}

/-- The constructor; the buffer itself is not initialised before `Begin`. -/
def ofStale (stale : PacketBase bufferSize) : OutputPacket bufferSize :=
  { stale with isCheckCode := false }

/-- `Copy`. -/
def copy (packet : OutputPacket bufferSize) (inBuf : List UInt8)
    : Bool × OutputPacket bufferSize :=
  let (copied, base) := packet.toPacketBase.copy inBuf
  (copied, { packet with toPacketBase := base })

/-- `Begin` with the default versions. -/
def beginPacket (packet : OutputPacket bufferSize) (nCommand : Int)
    : OutputPacket bufferSize :=
  {
    toPacketBase :=
      packet.toPacketBase.beginHeader nCommand serverPacketDefaultVer serverPacketDefaultSubver
    isCheckCode := false
  }

/-- `End`. -/
def endPacket (packet : OutputPacket bufferSize) : OutputPacket bufferSize :=
  { toPacketBase := packet.toPacketBase.endHeader, isCheckCode := false }

/-- `WritecbCheckCode`. -/
def writeCbCheckCode (packet : OutputPacket bufferSize) (nValue : UInt8)
    : OutputPacket bufferSize :=
  { packet with strBuf := packet.strBuf.write 8 [nValue], isCheckCode := true }

/-- `_Write` as the field writers use it. -/
def writeRaw (raw : List UInt8) : StateM (OutputPacket bufferSize) Bool := fun packet =>
  let (written, base) := packet.toPacketBase.write raw
  (written, { packet with toPacketBase := base })

/-- `_writezero` as `WriteString` uses it. -/
def writeZero : StateM (OutputPacket bufferSize) Bool := fun packet =>
  let (written, base) := packet.toPacketBase.writeZero
  (written, { packet with toPacketBase := base })

/-- `WriteInt`. -/
def writeInt (nValue : Int) : StateM (OutputPacket bufferSize) Bool :=
  writeRaw (toBytes 4 (unsigned 32 nValue))

/-- `WriteShort`. -/
def writeShort (nValue : Int) : StateM (OutputPacket bufferSize) Bool :=
  writeRaw (toBytes 2 (unsigned 16 nValue))

/-- `WriteByte`. -/
def writeByte (nValue : UInt8) : StateM (OutputPacket bufferSize) Bool :=
  writeRaw [nValue]

/-- `WriteString`: the length with the final NUL, the bytes and the NUL. -/
def writeString (text : List UInt8) : StateM (OutputPacket bufferSize) Bool := do
  let nLen : Int := text.length
  let _ ← writeInt (nLen + 1)
  if 0 < nLen then
    if ← writeRaw text then writeZero else pure false
  else
    writeZero

/-- `WriteBinary`. -/
def writeBinary (pBuf : List UInt8) : StateM (OutputPacket bufferSize) Bool := do
  let _ ← writeInt pBuf.length
  writeRaw pBuf

/-- `Begin`, the given writes, `End`. `Begin` overwrites whatever the object held. -/
def build (nCommand : Int) (writes : StateM (OutputPacket bufferSize) Unit)
    : OutputPacket bufferSize :=
  (writes.run ((ofStale default).beginPacket nCommand)).2.endPacket

end OutputPacket

end ProxyServer.Packets
