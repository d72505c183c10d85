import ProxyServer.Packets.OutputPacket

/-! What a string or blob operation leaves behind when the field cannot be completed.
Each operation is a length and then the bytes; either step may fail on its own, and only
`ReadBinary` takes the length back. The packet may be in any state, so the writers are
restated here with the sums the code makes, where the length written is an `int`.
-/

namespace ProxyServer.Packets

open WordBytes
open FaultState (Yields yields_pure yields_bind yields_modify)

variable {bufferSize : Nat}

-----------------------------------------------------------------------------------------
-- Writing to a packet in any state
-----------------------------------------------------------------------------------------

namespace PacketBase

/-- `_Write` of `nLen` bytes of the caller's: a negative length and a sum that overflows
both pass the check and then run `memcpy` past an object.
-/
def writeAny (pIn : List UInt8) (nLen : Int) : PacketM bufferSize Bool := fun packet =>
  let last := toInt32 (nLen + packet.nPacketSize)
  if packet.nPacketSize < 0 ∨ (bufferSize : Int) < last then
    .ok (false, packet)
  else if nLen < 0 ∨ (pIn.length : Int) < nLen
      ∨ (bufferSize : Int) < nLen + packet.nPacketSize then
    .error .memory
  else
    .ok (true, {
      packet with
      strBuf := packet.strBuf.write packet.nPacketSize.toNat (pIn.take nLen.toNat)
      nPacketSize := last
    })

/-- `_writezero`; it does not look for a negative size. -/
def writeZeroAny : PacketM bufferSize Bool := fun packet =>
  let last := toInt32 (packet.nPacketSize + 1)
  if (bufferSize : Int) < last then
    .ok (false, packet)
  else if packet.nPacketSize < 0 ∨ (bufferSize : Int) < packet.nPacketSize + 1 then
    .error .memory
  else
    .ok (true, {
      packet with
      strBuf := packet.strBuf.write packet.nPacketSize.toNat [0]
      nPacketSize := last
    })

/-- `WriteInt`. -/
def writeIntAny (nValue : Int) : PacketM bufferSize Bool :=
  writeAny (toBytes 4 (unsigned 32 nValue)) 4

/-- `WriteString` behind `strlen`. -/
def writeStringOf (text : List UInt8) (nLen : Int) : PacketM bufferSize Bool := do
  let _ ← writeIntAny (toInt32 (nLen + 1))
  if 0 < nLen then
    if ← writeAny text nLen then writeZeroAny else pure false
  else
    writeZeroAny

/-- `WriteString`: the size of the text is cast to an `int`. -/
def writeStringAny (text : List UInt8) : PacketM bufferSize Bool :=
  writeStringOf text (toInt32 text.length)

/-- `WriteBinary`. -/
def writeBinaryAny (pBuf : List UInt8) (nLen : Int) : PacketM bufferSize Bool := do
  let _ ← writeIntAny nLen
  writeAny pBuf nLen

variable {packet : PacketBase bufferSize}

/-- From a size inside the buffer and short of an overflow, this is the `_Write` that the
packets of the program are built with.
-/
theorem writeAny_eq_write {raw : List UInt8} (sized : 0 ≤ packet.nPacketSize)
    (bounded : (raw.length : Int) + packet.nPacketSize < 2147483648)
    : writeAny raw raw.length packet = .ok (packet.write raw) := by
  have last : toInt32 (raw.length + packet.nPacketSize) = raw.length + packet.nPacketSize :=
    toInt32_of_range (by omega) bounded
  simp only [writeAny, last, PacketBase.write]
  by_cases full : (bufferSize : Int) < raw.length + packet.nPacketSize
  · rw [if_pos (Or.inr full), if_pos (Or.inr full)]
  · rw [if_neg (by omega), if_neg (by omega), if_neg (by omega), Int.add_comm]
    simp

/-- A write adds to the size what it was given, or nothing. -/
theorem write_size (packet : PacketBase bufferSize) (raw : List UInt8)
    : (packet.write raw).2.nPacketSize = packet.nPacketSize
      ∨ (packet.write raw).2.nPacketSize = packet.nPacketSize + raw.length := by
  rw [PacketBase.write]
  split
  · exact Or.inl rfl
  · exact Or.inr rfl

/-- `WriteBinary` of a packet that the program builds, with the sums the code makes. -/
theorem writeBinaryAny_eq_writeBinary {packet : OutputPacket bufferSize} {blob : List UInt8}
    (sized : 0 ≤ packet.nPacketSize)
    (bounded : (blob.length : Int) + 4 + packet.nPacketSize < 2147483648)
    : Yields (writeBinaryAny blob blob.length) packet.toPacketBase
        (OutputPacket.writeBinary blob packet).1
        (OutputPacket.writeBinary blob packet).2.toPacketBase := by
  let length := toBytes 4 (unsigned 32 blob.length)
  have width : (length.length : Int) = 4 := by simp [length]
  have count : writeAny length length.length packet.toPacketBase
      = .ok (packet.toPacketBase.write length) := writeAny_eq_write sized (by omega)
  rw [width] at count
  have grown := packet.toPacketBase.write_size length
  have body := @writeAny_eq_write _ (packet.toPacketBase.write length).2 blob
    (by omega) (by omega)
  exact yields_bind.mpr ⟨_, _, count, body⟩

end PacketBase

-----------------------------------------------------------------------------------------
-- The operations, and how they should fail
-----------------------------------------------------------------------------------------

/-- A call on a field of variable length. The bytes a blob is written from are there. -/
inductive FieldOp
  | readString (nMaxLen : Int)
  | readBinary (nMaxLen : Int)
  | writeString (text : List UInt8)
  | writeBinary (pBuf : List UInt8) (nLen : Int) (there : nLen ≤ pBuf.length)

namespace PacketBase

/-- `_Read` of a length finds fewer than 4 bytes. -/
def LengthMissing (packet : PacketBase bufferSize) : Prop :=
  packet.nPacketSize < toInt32 (4 + packet.nBufPos)
    ∨ (bufferSize : Int) < toInt32 (4 + packet.nBufPos)

/-- The cursor stands at four bytes of the buffer that belong to the packet. -/
def LengthThere (packet : PacketBase bufferSize) : Prop :=
  0 ≤ packet.nBufPos
    ∧ packet.nBufPos + 4 ≤ packet.nPacketSize
    ∧ packet.nBufPos + 4 ≤ bufferSize

/-- The length at the cursor. -/
def fieldLength (packet : PacketBase bufferSize) : Int :=
  signed 32 (ofBytes (packet.strBuf.read packet.nBufPos.toNat 4))

/-- The field at the cursor can be delivered to a caller with room for `nMaxLen` bytes. -/
def Deliverable (packet : PacketBase bufferSize) (nMaxLen : Int) : Prop :=
  packet.LengthThere
    ∧ 0 ≤ packet.fieldLength
    ∧ packet.fieldLength ≤ nMaxLen
    ∧ packet.nBufPos + 4 + packet.fieldLength ≤ packet.nPacketSize
    ∧ packet.nBufPos + 4 + packet.fieldLength ≤ bufferSize

/-- A field of `size` bytes has room behind the packet. -/
def HasRoom (packet : PacketBase bufferSize) (size : Int) : Prop :=
  0 ≤ packet.nPacketSize ∧ packet.nPacketSize + size ≤ bufferSize

end PacketBase

namespace FieldOp

/-- The whole field can be delivered, or fits. -/
def Completable : FieldOp → PacketBase bufferSize → Prop
  | readString nMaxLen, packet => packet.Deliverable nMaxLen
  | readBinary nMaxLen, packet => packet.Deliverable nMaxLen
  | writeString text, packet => packet.HasRoom (4 + (text.length + 1))
  | writeBinary _ nLen _, packet => 0 ≤ nLen ∧ packet.HasRoom (4 + nLen)

/-- The call reports its failure and leaves the packet as it was. -/
def FailsCleanly : FieldOp → PacketBase bufferSize → Prop
  | readString nMaxLen, packet =>
      ∃ delivered next,
        Yields (InputPacket.readStringInto nMaxLen) packet (false, delivered) next
          ∧ next.nBufPos = packet.nBufPos
  | readBinary nMaxLen, packet =>
      ∃ delivered next,
        Yields (InputPacket.readBinary nMaxLen) packet (-1, delivered) next
          ∧ next.nBufPos = packet.nBufPos
  | writeString text, packet =>
      ∃ next,
        Yields (PacketBase.writeStringAny text) packet false next
          ∧ next.nPacketSize = packet.nPacketSize ∧ next.strBuf = packet.strBuf
  | writeBinary pBuf nLen _, packet =>
      ∃ next,
        Yields (PacketBase.writeBinaryAny pBuf nLen) packet false next
          ∧ next.nPacketSize = packet.nPacketSize ∧ next.strBuf = packet.strBuf

/-- The states in which the second step of a failing call undoes or repeats the first. -/
def FailsEarly : FieldOp → PacketBase bufferSize → Prop
  | readString _, packet => packet.LengthMissing
  | readBinary nMaxLen, packet =>
      packet.LengthMissing
        ∨ packet.LengthThere ∧ packet.fieldLength ≠ -1 ∧ nMaxLen < packet.fieldLength
  | writeString text, packet =>
      if 0 < toInt32 text.length then
        packet.nPacketSize < 0
          ∨ (bufferSize : Int) < toInt32 (4 + packet.nPacketSize)
            ∧ (bufferSize : Int) < toInt32 (toInt32 text.length + packet.nPacketSize)
      else
        (packet.nPacketSize < 0 ∨ (bufferSize : Int) < toInt32 (4 + packet.nPacketSize))
          ∧ (bufferSize : Int) < toInt32 (packet.nPacketSize + 1)
  | writeBinary _ nLen _, packet =>
      packet.nPacketSize < 0
        ∨ (bufferSize : Int) < toInt32 (4 + packet.nPacketSize)
          ∧ (bufferSize : Int) < toInt32 (nLen + packet.nPacketSize)

variable {packet : PacketBase bufferSize}

-----------------------------------------------------------------------------------------
-- Reading
-----------------------------------------------------------------------------------------

/-- A length that is cut short reads as -1 and stays unread. -/
theorem readInt_missing (missing : packet.LengthMissing)
    : Yields InputPacket.readInt packet (-1) packet := by
  have read : Yields (PacketBase.read 4) packet none packet := by
    simp only [Yields, PacketBase.read]
    exact if_pos missing
  exact yields_bind.mpr ⟨_, _, read, yields_pure.mpr ⟨rfl, rfl⟩⟩

/-- A length that is there is read, and the cursor moves behind it. -/
theorem readInt_there (small : bufferSize < 2147483648) (there : packet.LengthThere)
    : Yields InputPacket.readInt packet packet.fieldLength
        { packet with nBufPos := packet.nBufPos + 4 } := by
  obtain ⟨nonneg, withinSize, withinBuffer⟩ := there
  have last : toInt32 (4 + packet.nBufPos) = packet.nBufPos + 4 := by
    rw [toInt32_of_range (by omega) (by omega), Int.add_comm]
  have read : Yields (PacketBase.read 4) packet
      (some (packet.strBuf.read packet.nBufPos.toNat 4))
      { packet with nBufPos := packet.nBufPos + 4 } := by
    simp only [Yields, PacketBase.read, last]
    rw [if_neg (by omega), if_neg (by omega)]
    rfl
  exact yields_bind.mpr ⟨_, _, read, yields_pure.mpr ⟨rfl, rfl⟩⟩

/-- A length is read from the packet's own bytes or not at all. -/
theorem lengthThere_of_readInt (small : bufferSize < 2147483648)
    {next : PacketBase bufferSize} {nLen : Int}
    (run : Yields InputPacket.readInt packet nLen next) (whole : ¬packet.LengthMissing)
    : packet.LengthThere := by
  obtain ⟨raw, _, read, _⟩ := yields_bind.mp run
  simp only [PacketBase.LengthMissing] at whole
  simp only [Yields, PacketBase.read, if_neg whole] at read
  split at read
  · cases read
  · next inside =>
      have last : toInt32 (4 + packet.nBufPos) = 4 + packet.nBufPos :=
        toInt32_of_range (by omega) (by omega)
      exact ⟨by omega, by omega, by omega⟩

/-- `_Read` stays where it is when the bytes are not all there. -/
theorem read_none {nLen : Int} {next : PacketBase bufferSize}
    (run : Yields (PacketBase.read nLen) packet none next)
    : next = packet := by
  simp only [Yields, PacketBase.read] at run
  split at run
  · cases run
    rfl
  · split at run <;> cases run

/-- A reader that fails and stands where it stood found no length, by its three ways to
fail: two leave the cursor 4 bytes on, and the undo takes back 2 of them.
-/
theorem readString_failsCleanly_iff (small : bufferSize < 2147483648) (nMaxLen : Int)
    : (readString nMaxLen).FailsCleanly packet ↔ packet.LengthMissing := by
  constructor
  · rintro ⟨delivered, next, run, same⟩
    by_contra whole
    obtain ⟨nLen, counted, count, rest⟩ := yields_bind.mp run
    have there := lengthThere_of_readInt small count whole
    obtain ⟨length, moved⟩ := (readInt_there small there).unique count
    subst moved
    by_cases minusOne : nLen = -1
    · rw [if_pos minusOne] at rest
      obtain ⟨_, rfl⟩ := yields_pure.mp rest
      simp only at same
      omega
    rw [if_neg minusOne] at rest
    by_cases tooLong : nMaxLen < nLen
    · simp only [if_pos tooLong] at rest
      obtain ⟨_, undone, undo, ended⟩ := yields_bind.mp rest
      have landed := yields_modify.mp undo
      obtain ⟨_, rfl⟩ := yields_pure.mp ended
      rw [landed] at same
      simp only at same
      omega
    · simp only [if_neg tooLong] at rest
      obtain ⟨raw, final, read, ended⟩ := yields_bind.mp rest
      cases raw with
      | some raw =>
          obtain ⟨outcome, _⟩ := yields_pure.mp ended
          cases outcome
      | none =>
          obtain ⟨_, rfl⟩ := yields_pure.mp ended
          rw [read_none read] at same
          simp only at same
          omega
  · intro missing
    refine ⟨[], packet, yields_bind.mpr ⟨_, _, readInt_missing missing, ?_⟩, rfl⟩
    exact yields_pure.mpr ⟨rfl, rfl⟩

/-- A blob reader that fails and stands where it stood found no length, or took back one
that its caller has no room for.
-/
theorem readBinary_failsCleanly_iff (small : bufferSize < 2147483648) (nMaxLen : Int)
    : (readBinary nMaxLen).FailsCleanly packet
      ↔ packet.LengthMissing
        ∨ packet.LengthThere ∧ packet.fieldLength ≠ -1 ∧ nMaxLen < packet.fieldLength := by
  constructor
  · rintro ⟨delivered, next, run, same⟩
    by_cases missing : packet.LengthMissing
    · exact Or.inl missing
    obtain ⟨nLen, counted, count, rest⟩ := yields_bind.mp run
    have there := lengthThere_of_readInt small count missing
    obtain ⟨length, moved⟩ := (readInt_there small there).unique count
    subst moved
    refine Or.inr ⟨there, ?_⟩
    rw [← length]
    by_cases minusOne : nLen = -1
    · rw [if_pos minusOne] at rest
      obtain ⟨_, rfl⟩ := yields_pure.mp rest
      simp only at same
      omega
    rw [if_neg minusOne] at rest
    by_cases tooLong : nMaxLen < nLen
    · exact ⟨minusOne, tooLong⟩
    · simp only [if_neg tooLong] at rest
      obtain ⟨raw, final, read, ended⟩ := yields_bind.mp rest
      cases raw with
      | some raw =>
          obtain ⟨outcome, _⟩ := yields_pure.mp ended
          exact absurd (congrArg Prod.fst outcome).symm minusOne
      | none =>
          obtain ⟨outcome, _⟩ := yields_pure.mp ended
          cases outcome
  · rintro (missing | ⟨there, other, tooLong⟩)
    · refine ⟨[], packet, yields_bind.mpr ⟨_, _, readInt_missing missing, ?_⟩, rfl⟩
      exact yields_pure.mpr ⟨rfl, rfl⟩
    · have undone : (packet.nBufPos + 4) - 4 = packet.nBufPos := by omega
      refine ⟨[], { packet with nBufPos := packet.nBufPos + 4 - 4 },
        yields_bind.mpr ⟨_, _, readInt_there small there, ?_⟩, undone⟩
      rw [if_neg other]
      simp only [if_pos tooLong]
      exact yields_bind.mpr ⟨(), _, yields_modify.mpr rfl, yields_pure.mpr ⟨rfl, rfl⟩⟩

-----------------------------------------------------------------------------------------
-- Writing
-----------------------------------------------------------------------------------------

variable {next : PacketBase bufferSize} {written : Bool}

/-- A `_Write` that ends has either failed its check and done nothing, or appended. -/
theorem writeAny_ends {pIn : List UInt8} {nLen : Int}
    (run : Yields (PacketBase.writeAny pIn nLen) packet written next)
    : written = false ∧ next = packet
        ∧ (packet.nPacketSize < 0 ∨ (bufferSize : Int) < toInt32 (nLen + packet.nPacketSize))
      ∨ written = true ∧ 0 ≤ nLen ∧ 0 ≤ packet.nPacketSize
        ∧ nLen + packet.nPacketSize ≤ bufferSize
        ∧ next.nPacketSize = toInt32 (nLen + packet.nPacketSize) := by
  simp only [Yields, PacketBase.writeAny] at run
  split at run
  · next failed =>
      cases run
      exact Or.inl ⟨rfl, rfl, failed⟩
  · split at run
    · cases run
    · cases run
      exact Or.inr ⟨rfl, by omega, by omega, by omega, rfl⟩

/-- A `_Write` whose check fails does nothing. -/
theorem writeAny_fails {pIn : List UInt8} {nLen : Int}
    (failed
      : packet.nPacketSize < 0 ∨ (bufferSize : Int) < toInt32 (nLen + packet.nPacketSize))
    : Yields (PacketBase.writeAny pIn nLen) packet false packet := by
  simp only [Yields, PacketBase.writeAny]
  exact if_pos failed

/-- A `_writezero` that ends has either failed its check and done nothing, or appended. -/
theorem writeZeroAny_ends (run : Yields PacketBase.writeZeroAny packet written next)
    : written = false ∧ next = packet
        ∧ (bufferSize : Int) < toInt32 (packet.nPacketSize + 1)
      ∨ written = true ∧ 0 ≤ packet.nPacketSize
        ∧ packet.nPacketSize + 1 ≤ bufferSize
        ∧ next.nPacketSize = toInt32 (packet.nPacketSize + 1) := by
  simp only [Yields, PacketBase.writeZeroAny] at run
  split at run
  · next failed =>
      cases run
      exact Or.inl ⟨rfl, rfl, failed⟩
  · split at run
    · cases run
    · cases run
      exact Or.inr ⟨rfl, by omega, by omega, rfl⟩

/-- A `_writezero` whose check fails does nothing. -/
theorem writeZeroAny_fails (failed : (bufferSize : Int) < toInt32 (packet.nPacketSize + 1))
    : Yields PacketBase.writeZeroAny packet false packet := by
  simp only [Yields, PacketBase.writeZeroAny]
  exact if_pos failed

/-- No write makes a packet smaller. -/
theorem writeAny_grows (small : bufferSize < 2147483648) {pIn : List UInt8} {nLen : Int}
    (run : Yields (PacketBase.writeAny pIn nLen) packet written next)
    : packet.nPacketSize ≤ next.nPacketSize := by
  rcases writeAny_ends run with ⟨_, rfl, _⟩ | ⟨_, sized, nonneg, fits, size⟩
  · exact Int.le_refl _
  · rw [size, toInt32_of_range (by omega) (by omega)]
    omega

theorem writeZeroAny_grows (small : bufferSize < 2147483648)
    (run : Yields PacketBase.writeZeroAny packet written next)
    : packet.nPacketSize ≤ next.nPacketSize := by
  rcases writeZeroAny_ends run with ⟨_, rfl, _⟩ | ⟨_, nonneg, fits, size⟩
  · exact Int.le_refl _
  · rw [size, toInt32_of_range (by omega) (by omega)]
    omega

/-- A length that was written makes the packet larger. -/
theorem writeIntAny_ends (small : bufferSize < 2147483648) {nValue : Int}
    (run : Yields (PacketBase.writeIntAny nValue) packet written next)
    : next = packet
        ∧ (packet.nPacketSize < 0 ∨ (bufferSize : Int) < toInt32 (4 + packet.nPacketSize))
      ∨ packet.nPacketSize < next.nPacketSize := by
  rcases writeAny_ends run with ⟨_, same, failed⟩ | ⟨_, _, nonneg, fits, size⟩
  · exact Or.inl ⟨same, failed⟩
  · rw [toInt32_of_range (by omega) (by omega)] at size
    exact Or.inr (by omega)

/-- A blob writer that fails and leaves the packet alone failed at both of its writes. -/
theorem writeBinary_failsCleanly_iff (small : bufferSize < 2147483648) (pBuf : List UInt8)
    (nLen : Int) (there : nLen ≤ pBuf.length)
    : (writeBinary pBuf nLen there).FailsCleanly packet
      ↔ packet.nPacketSize < 0
        ∨ (bufferSize : Int) < toInt32 (4 + packet.nPacketSize)
          ∧ (bufferSize : Int) < toInt32 (nLen + packet.nPacketSize) := by
  constructor
  · rintro ⟨next, run, size, _⟩
    obtain ⟨_, counted, count, body⟩ := yields_bind.mp run
    have grows := writeAny_grows small body
    rcases writeIntAny_ends small count with ⟨rfl, full⟩ | larger
    · rcases writeAny_ends body with ⟨_, _, failed⟩ | ⟨outcome, _⟩
      · omega
      · cases outcome
    · omega
  · intro failed
    have count : Yields (PacketBase.writeIntAny nLen) packet false packet :=
      writeAny_fails (by omega)
    exact ⟨packet, yields_bind.mpr ⟨_, _, count, writeAny_fails (by omega)⟩, rfl, rfl⟩

/-- A string writer that fails and leaves the packet alone failed at its first two writes,
or, where there is no text to write, at the length and the NUL.
-/
theorem writeStringOf_failsCleanly_iff (small : bufferSize < 2147483648)
    (text : List UInt8) (nLen : Int)
    : (∃ next,
        Yields (PacketBase.writeStringOf text nLen) packet false next
          ∧ next.nPacketSize = packet.nPacketSize ∧ next.strBuf = packet.strBuf)
      ↔ if 0 < nLen then
          packet.nPacketSize < 0
            ∨ (bufferSize : Int) < toInt32 (4 + packet.nPacketSize)
              ∧ (bufferSize : Int) < toInt32 (nLen + packet.nPacketSize)
        else
          (packet.nPacketSize < 0 ∨ (bufferSize : Int) < toInt32 (4 + packet.nPacketSize))
            ∧ (bufferSize : Int) < toInt32 (packet.nPacketSize + 1) := by
  by_cases filled : 0 < nLen
  · rw [if_pos filled]
    constructor
    · rintro ⟨next, run, size, _⟩
      obtain ⟨_, counted, count, rest⟩ := yields_bind.mp run
      rw [if_pos filled] at rest
      obtain ⟨appended, middle, body, ended⟩ := yields_bind.mp rest
      have grows := writeAny_grows small body
      cases appended with
      | false =>
          obtain ⟨_, rfl⟩ := yields_pure.mp ended
          rcases writeIntAny_ends small count with ⟨rfl, full⟩ | larger
          · rcases writeAny_ends body with ⟨_, _, failed⟩ | ⟨outcome, _⟩
            · omega
            · cases outcome
          · omega
      | true =>
          have onward := writeZeroAny_grows small ended
          rcases writeIntAny_ends small count with ⟨rfl, _⟩ | larger
          · rcases writeAny_ends body with ⟨outcome, _⟩ | ⟨_, _, _, fits, longer⟩
            · cases outcome
            · rw [toInt32_of_range (by omega) (by omega)] at longer
              omega
          · omega
    · intro failed
      have count : Yields (PacketBase.writeIntAny (toInt32 (nLen + 1))) packet false packet :=
        writeAny_fails (by omega)
      have body : Yields (PacketBase.writeAny text nLen) packet false packet :=
        writeAny_fails (by omega)
      refine ⟨packet, yields_bind.mpr ⟨_, _, count, ?_⟩, rfl, rfl⟩
      rw [if_pos filled]
      exact yields_bind.mpr ⟨_, _, body, yields_pure.mpr ⟨rfl, rfl⟩⟩
  · rw [if_neg filled]
    constructor
    · rintro ⟨next, run, size, _⟩
      obtain ⟨_, counted, count, rest⟩ := yields_bind.mp run
      rw [if_neg filled] at rest
      have grows := writeZeroAny_grows small rest
      rcases writeIntAny_ends small count with ⟨rfl, full⟩ | larger
      · rcases writeZeroAny_ends rest with ⟨_, _, failed⟩ | ⟨outcome, _⟩
        · exact ⟨full, failed⟩
        · cases outcome
      · omega
    · rintro ⟨full, failed⟩
      have count : Yields (PacketBase.writeIntAny (toInt32 (nLen + 1))) packet false packet :=
        writeAny_fails full
      refine ⟨packet, yields_bind.mpr ⟨_, _, count, ?_⟩, rfl, rfl⟩
      rw [if_neg filled]
      exact writeZeroAny_fails failed

-----------------------------------------------------------------------------------------
-- Any operation
-----------------------------------------------------------------------------------------

/-- The calls that fail cleanly are those whose every step fails or is taken back. -/
theorem failsCleanly_iff_failsEarly (small : bufferSize < 2147483648) (op : FieldOp)
    : op.FailsCleanly packet ↔ op.FailsEarly packet := by
  cases op with
  | readString nMaxLen => exact readString_failsCleanly_iff small nMaxLen
  | readBinary nMaxLen => exact readBinary_failsCleanly_iff small nMaxLen
  | writeString text => exact writeStringOf_failsCleanly_iff small text _
  | writeBinary pBuf nLen there => exact writeBinary_failsCleanly_iff small pBuf nLen there

/-- A call that cannot be completed leaves its packet as it was in exactly these states. -/
theorem incompletable_failsCleanly_iff (small : bufferSize < 2147483648) (op : FieldOp)
    (packet : PacketBase bufferSize)
    : (¬op.Completable packet → op.FailsCleanly packet)
      ↔ op.Completable packet ∨ op.FailsEarly packet := by
  rw [failsCleanly_iff_failsEarly small op]
  exact or_iff_not_imp_left.symm

/-- A blob of 5 bytes asked for with room for 4. -/
theorem incompletable_failsCleanly_iff_blob
    : (¬(readBinary 4).Completable
          ((default : NETInputPacket).copy
            [0, 16, 66, 89, 1, 1, 1, 2, 0, 0, 0, 0, 5, 1, 2, 3, 4, 5]).2
        → (readBinary 4).FailsCleanly
          ((default : NETInputPacket).copy
            [0, 16, 66, 89, 1, 1, 1, 2, 0, 0, 0, 0, 5, 1, 2, 3, 4, 5]).2)
      ↔ (readBinary 4).Completable
          ((default : NETInputPacket).copy
            [0, 16, 66, 89, 1, 1, 1, 2, 0, 0, 0, 0, 5, 1, 2, 3, 4, 5]).2
        ∨ (readBinary 4).FailsEarly
          ((default : NETInputPacket).copy
            [0, 16, 66, 89, 1, 1, 1, 2, 0, 0, 0, 0, 5, 1, 2, 3, 4, 5]).2 :=
  incompletable_failsCleanly_iff (by decide) (readBinary 4) _

/-- A string of 5 bytes asked for with room for 4: the cursor is left 2 bytes on. -/
theorem readString_undoes_too_little
    : ¬(¬(readString 4).Completable
          ((default : NETInputPacket).copy
            [0, 16, 66, 89, 1, 1, 1, 2, 0, 0, 0, 0, 5, 72, 105, 72, 105, 0]).2
        → (readString 4).FailsCleanly
          ((default : NETInputPacket).copy
            [0, 16, 66, 89, 1, 1, 1, 2, 0, 0, 0, 0, 5, 72, 105, 72, 105, 0]).2) := by
  rw [failsCleanly_iff_failsEarly (by decide)]
  intro claimed
  have tooLong : ¬(readString 4).Completable
      ((default : NETInputPacket).copy
        [0, 16, 66, 89, 1, 1, 1, 2, 0, 0, 0, 0, 5, 72, 105, 72, 105, 0]).2 := by
    rintro ⟨_, _, fits, _⟩
    exact absurd fits (by decide +kernel)
  rcases claimed tooLong with beyondSize | beyondBuffer
  · exact absurd beyondSize (by decide +kernel)
  · exact absurd beyondBuffer (by decide +kernel)

end FieldOp

end ProxyServer.Packets
