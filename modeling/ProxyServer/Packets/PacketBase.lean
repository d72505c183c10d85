import ProxyServer.Runtime
import ProxyServer.Library.CellStore

/-! The packet buffer shared by `InputPacket` and `OutputPacket`.
Offsets 0 to 8 are the header: length, magic word "BY", version, subversion, command and
check code. The payload starts at offset 9.
-/

namespace ProxyServer.Packets

open WordBytes

/-- `PacketBase<_buffer_size>`. A default-initialised object holds arbitrary values. -/
structure PacketBase (bufferSize : Nat) where
  strBuf : CellStore UInt8
  nPacketSize : Int
  nBufPos : Int
  deriving Inhabited

/-- A program over one packet. -/
abbrev PacketM (bufferSize : Nat) := StateT (PacketBase bufferSize) (Except Fault)

def packetHeaderSize : Nat := 9

def serverPacketDefaultVer : UInt8 := 1

def serverPacketDefaultSubver : UInt8 := 1

namespace PacketBase

variable {bufferSize : Nat}

/-- The bytes `packet_buf()` and `packet_size()` hand to a queue. -/
def bytes (packet : PacketBase bufferSize) : List UInt8 :=
  packet.strBuf.read 0 packet.nPacketSize.toNat

/-- The bytes that `add_rsp_buf(packet_buf(), packet_size())` copies. A size outside the
buffer is copied past it.
-/
def contents (packet : PacketBase bufferSize) : Except Fault (List UInt8) :=
  if packet.nPacketSize < 0 ∨ (bufferSize : Int) < packet.nPacketSize then .error .memory
  else .ok packet.bytes

-----------------------------------------------------------------------------------------
-- Header
-----------------------------------------------------------------------------------------

/-- `GetCmdType`: the signed command. -/
def getCmdType (packet : PacketBase bufferSize) : Int :=
  signed 16 (ofBytes (packet.strBuf.read 6 2))

/-- The length field as it stands in the header, unsigned. -/
def lengthField (packet : PacketBase bufferSize) : Nat :=
  ofBytes (packet.strBuf.read 0 2)

/-- `GetBodyLength`: the length field as a `short`. -/
def getBodyLength (packet : PacketBase bufferSize) : Int :=
  signed 16 packet.lengthField

/-- `GetcbCheckCode`. -/
def getCbCheckCode (packet : PacketBase bufferSize) : UInt8 :=
  packet.strBuf 8

/-- `_reset`: an all-zero buffer with an empty payload. -/
def reset (_packet : PacketBase bufferSize) : PacketBase bufferSize :=
  {
    strBuf := fun _ => 0
    nPacketSize := packetHeaderSize
    nBufPos := packetHeaderSize
  }

/-- `_copy`: replaces the packet by the given bytes, or fails without touching it. -/
def copy (packet : PacketBase bufferSize) (inBuf : List UInt8)
    : Bool × PacketBase bufferSize :=
  if bufferSize < inBuf.length then
    (false, packet)
  else
    let fresh := packet.reset
    (true, { fresh with strBuf := fresh.strBuf.write 0 inBuf, nPacketSize := inBuf.length })

/-- `_begin`: an empty payload under the magic word, the versions and the command. -/
def beginHeader (packet : PacketBase bufferSize) (nCmdType : Int)
    (cVersion cSubVersion : UInt8)
    : PacketBase bufferSize :=
  let fresh := packet.reset
  let magic := fresh.strBuf.write 2 [66, 89]
  let versions := (magic.write 4 [cVersion]).write 5 [cSubVersion]
  { fresh with strBuf := versions.write 6 (toBytes 2 (unsigned 16 nCmdType)) }

/-- `_end`: stores the body length and clears the check code. -/
def endHeader (packet : PacketBase bufferSize) : PacketBase bufferSize :=
  let nBody := toInt16 (packet.nPacketSize - 2)
  {
    packet with
    strBuf := (packet.strBuf.write 0 (toBytes 2 (unsigned 16 nBody))).write 8 [0]
  }

-----------------------------------------------------------------------------------------
-- Payload access
-----------------------------------------------------------------------------------------

/-- `_Read`: the next `nLen` bytes, or nothing when they are not all there.
A negative length passes the check and then runs `memcpy` with a huge size, and so does a
cursor that overflows.
-/
def read (nLen : Int) : PacketM bufferSize (Option (List UInt8)) := fun packet =>
  let last := toInt32 (nLen + packet.nBufPos)
  if packet.nPacketSize < last ∨ (bufferSize : Int) < last then
    .ok (none, packet)
  else if nLen < 0 ∨ packet.nBufPos < 0 ∨ (bufferSize : Int) < nLen + packet.nBufPos then
    .error .memory
  else
    .ok (some (packet.strBuf.read packet.nBufPos.toNat nLen.toNat),
      { packet with nBufPos := last })

/-- `_readundo`. -/
def readUndo (nLen : Int) : PacketM bufferSize Unit :=
  modify (fun packet => { packet with nBufPos := packet.nBufPos - nLen })

/-- `_readpoint`: the offset of the next `nLen` bytes, or `NULL`. -/
def readPoint (nLen : Int) : PacketM bufferSize (Option Int) := fun packet =>
  let last := toInt32 (nLen + packet.nBufPos)
  if packet.nPacketSize < last then
    .ok (none, packet)
  else
    .ok (some packet.nBufPos, { packet with nBufPos := last })

/-- `_Write`: appends the bytes, or fails without touching the packet. -/
def write (packet : PacketBase bufferSize) (pIn : List UInt8)
    : Bool × PacketBase bufferSize :=
  if packet.nPacketSize < 0 ∨ (bufferSize : Int) < pIn.length + packet.nPacketSize then
    (false, packet)
  else
    (true, {
      packet with
      strBuf := packet.strBuf.write packet.nPacketSize.toNat pIn
      nPacketSize := packet.nPacketSize + pIn.length
    })

/-- `_writezero`. -/
def writeZero (packet : PacketBase bufferSize) : Bool × PacketBase bufferSize :=
  if (bufferSize : Int) < packet.nPacketSize + 1 then
    (false, packet)
  else
    (true, {
      packet with
      strBuf := packet.strBuf.write packet.nPacketSize.toNat [0]
      nPacketSize := packet.nPacketSize + 1
    })

-----------------------------------------------------------------------------------------
-- Small facts the later modules compute with
-----------------------------------------------------------------------------------------

theorem copy_fits {packet : PacketBase bufferSize} {inBuf : List UInt8}
    (fits : inBuf.length ≤ bufferSize)
    : packet.copy inBuf
      = (true, {
          strBuf := CellStore.write (fun _ => 0) 0 inBuf
          nPacketSize := inBuf.length
          nBufPos := 9
        }) := by
  rw [copy, if_neg (by omega)]
  rfl

/-- A copy that fits holds exactly the copied bytes. -/
theorem copy_bytes {packet : PacketBase bufferSize} {inBuf : List UInt8}
    (fits : inBuf.length ≤ bufferSize)
    : (packet.copy inBuf).2.bytes = inBuf := by
  simp [copy_fits fits, bytes]

theorem contents_copy {packet : PacketBase bufferSize} {inBuf : List UInt8}
    (fits : inBuf.length ≤ bufferSize)
    : (packet.copy inBuf).2.contents = .ok inBuf := by
  have size : (packet.copy inBuf).2.nPacketSize = inBuf.length := by rw [copy_fits fits]
  rw [contents, if_neg (by omega), copy_bytes fits]

/-- A copied packet holds the copied bytes at their offsets. -/
theorem copy_read {packet : PacketBase bufferSize} {inBuf : List UInt8}
    (fits : inBuf.length ≤ bufferSize) {offset count : Nat}
    (inside : offset + count ≤ inBuf.length)
    : (packet.copy inBuf).2.strBuf.read offset count
      = (inBuf.drop offset).take count := by
  have stored := CellStore.read_write_self (fun _ => 0) 0 inBuf
  rw [copy_fits fits]
  conv_rhs =>
    rw [← stored, CellStore.drop_read _ 0 inBuf.length offset (by omega),
      CellStore.take_read _ _ _ _ (by omega), Nat.zero_add]

/-- A copy that does not fit leaves whatever the object held. -/
theorem copy_overflow {packet : PacketBase bufferSize} {inBuf : List UInt8}
    (overflow : bufferSize < inBuf.length)
    : packet.copy inBuf = (false, packet) :=
  if_pos overflow

end PacketBase

end ProxyServer.Packets
