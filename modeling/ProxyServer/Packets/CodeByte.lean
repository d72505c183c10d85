import ProxyServer.Library.PairedRuns
import ProxyServer.Packets.CheckCode

/-! Packets that differ only in their check code byte are read alike.
The byte is in the header, so the readers meet it only where a string of negative length has
moved the cursor back.
-/

namespace ProxyServer.Packets

open FaultState PairedRuns

variable {bufferSize : Nat} {α : Type}

/-- The packets differ at most in the byte of the check code. -/
structure SameButCode (left right : PacketBase bufferSize) : Prop where
  size : right.nPacketSize = left.nPacketSize
  cursor : right.nBufPos = left.nBufPos
  cells : ∀ offset, offset ≠ 8 → right.strBuf offset = left.strBuf offset

/-- And they are read behind the header. -/
structure SamePayload (left right : PacketBase bufferSize) : Prop
    extends SameButCode left right where
  payload : 9 ≤ left.nBufPos

variable {left right : PacketBase bufferSize}

/-- Blocks behind the check code are the same. -/
theorem SameButCode.read (same : SameButCode left right) {offset : Nat} (behind : 9 ≤ offset)
    (count : Nat)
    : right.strBuf.read offset count = left.strBuf.read offset count :=
  CellStore.read_congr (fun i _ => same.cells _ (by omega))

/-- So are blocks before it. -/
theorem SameButCode.read_header (same : SameButCode left right) {offset count : Nat}
    (before : offset + count ≤ 8)
    : right.strBuf.read offset count = left.strBuf.read offset count :=
  CellStore.read_congr (fun i _ => same.cells _ (by omega))

theorem SameButCode.getCmdType (same : SameButCode left right)
    : right.getCmdType = left.getCmdType := by
  rw [PacketBase.getCmdType, PacketBase.getCmdType, same.read_header (by omega)]

theorem SameButCode.dataSize (same : SameButCode left right)
    : EncryptDecrypt.dataSize right = EncryptDecrypt.dataSize left := by
  have length : right.lengthField = left.lengthField := by
    rw [PacketBase.lengthField, PacketBase.lengthField, same.read_header (by omega)]
  rw [EncryptDecrypt.dataSize, EncryptDecrypt.dataSize, PacketBase.getBodyLength,
    PacketBase.getBodyLength, length]

/-- The buffers may be replaced by buffers that differ in the same way. -/
theorem SamePayload.withCells (same : SamePayload left right) {cells cells' : CellStore UInt8}
    (alike : ∀ offset, offset ≠ 8 → cells' offset = cells offset)
    : SamePayload ({ left with strBuf := cells } : PacketBase bufferSize)
        { right with strBuf := cells' } :=
  ⟨⟨same.size, same.cursor, alike⟩, same.payload⟩

-----------------------------------------------------------------------------------------
-- Readers
-----------------------------------------------------------------------------------------

/-- `_Read` only moves the cursor on. -/
theorem read_paired (small : bufferSize < 2147483648) (nLen : Int)
    : Paired SamePayload (PacketBase.read nLen : PacketM bufferSize (Option (List UInt8)))
        SamePayload := by
  intro left right same
  rw [PacketBase.read, PacketBase.read, same.size, same.cursor]
  split
  · exact .returned same
  · split
    · exact .failed
    · next inside =>
        have payload := same.payload
        rw [not_or, not_or] at inside
        have last : toInt32 (nLen + left.nBufPos) = nLen + left.nBufPos :=
          toInt32_of_range (by omega) (by omega)
        rw [same.read (by omega)]
        refine .returned ⟨⟨rfl, rfl, same.cells⟩, ?_⟩
        dsimp only
        omega

theorem readInt_paired (small : bufferSize < 2147483648)
    : Paired SamePayload (InputPacket.readInt : PacketM bufferSize Int) SamePayload := by
  refine Paired.bind (read_paired small 4) (fun raw => ?_)
  cases raw with
  | none => exact Paired.pure _
  | some raw => exact Paired.pure _

theorem readShort_paired (small : bufferSize < 2147483648)
    : Paired SamePayload (InputPacket.readShort : PacketM bufferSize Int) SamePayload := by
  refine Paired.bind (read_paired small 2) (fun raw => ?_)
  cases raw with
  | none => exact Paired.pure _
  | some raw => exact Paired.pure _

/-- `_readpoint` moves the cursor anywhere. -/
theorem readPoint_paired (nLen : Int)
    : Paired SameButCode (PacketBase.readPoint nLen : PacketM bufferSize (Option Int))
        SameButCode := by
  intro left right same
  rw [PacketBase.readPoint, PacketBase.readPoint, same.size, same.cursor]
  split
  · exact .returned same
  · exact .returned ⟨rfl, rfl, same.cells⟩

theorem readChar_paired (small : bufferSize < 2147483648)
    : Paired SamePayload (InputPacket.readChar : PacketM bufferSize (Option Int))
        SameButCode := by
  refine Paired.bind (readInt_paired small) (fun nLen => ?_)
  refine Paired.ite ((Paired.pure _).weaken SamePayload.toSameButCode) ?_
  exact fun left right same => readPoint_paired nLen same.toSameButCode

/-- The string of `ReadChar` starts behind the header. -/
theorem readChar_start (small : bufferSize < 2147483648) {next : PacketBase bufferSize}
    {start : Int} (payload : 9 ≤ left.nBufPos)
    (run : Yields InputPacket.readChar left (some start) next)
    : 9 ≤ start := by
  obtain ⟨nLen, behind, readLength, rest⟩ := yields_bind.mp run
  have same : SamePayload left left := ⟨⟨rfl, rfl, fun _ _ => rfl⟩, payload⟩
  have moved := ((readInt_paired small).yields same readLength readLength).2.payload
  split at rest
  · obtain ⟨none, _⟩ := yields_pure.mp rest
    cases none
  · rw [Yields, PacketBase.readPoint] at rest
    split at rest
    · cases rest
    · cases rest
      exact moved

/-- Strings behind the header are the same, by induction over the cells left. -/
theorem SameButCode.scanString (same : SameButCode left right) (remaining : Nat)
    {offset : Nat} (behind : 9 ≤ offset)
    : InputPacket.scanString right.strBuf remaining offset
      = InputPacket.scanString left.strBuf remaining offset := by
  induction remaining generalizing offset with
  | zero => rfl
  | succ remaining ih =>
      rw [InputPacket.scanString, InputPacket.scanString, same.cells offset (by omega),
        ih (by omega)]

theorem readString_paired (small : bufferSize < 2147483648)
    : Paired SamePayload (InputPacket.readString : PacketM bufferSize (List UInt8))
        SameButCode := by
  intro left right same
  refine (readChar_paired small same).bind (fun {found packet packet'} ran _ after => ?_)
  cases found with
  | none => exact .returned after
  | some start =>
      have behind := readChar_start small same.payload ran
      have inside : ¬start < 0 := by omega
      have text : InputPacket.scanString packet'.strBuf (bufferSize - start.toNat) start.toNat
          = InputPacket.scanString packet.strBuf (bufferSize - start.toNat) start.toNat :=
        after.scanString _ (by omega)
      simp only [bind, StateT.bind, Except.bind, get, getThe, MonadStateOf.get, StateT.get,
        pure, Except.pure, inside, if_false, text]
      cases InputPacket.scanString packet.strBuf (bufferSize - start.toNat) start.toNat with
      | none => exact .failed
      | some text => exact .returned after

-----------------------------------------------------------------------------------------
-- Decrypting
-----------------------------------------------------------------------------------------

namespace EncryptDecrypt

/-- Writing the same block behind the header keeps buffers the same but for the check code. -/
theorem write_same {cells cells' : CellStore UInt8}
    (same : ∀ offset, offset ≠ 8 → cells' offset = cells offset) (start : Nat)
    (block : List UInt8)
    : ∀ offset, offset ≠ 8
      → cells'.write start block offset = cells.write start block offset := by
  intro offset apart
  rw [CellStore.write, CellStore.write, same offset apart]

/-- The plain packet that `DecryptBuffer` leaves. -/
theorem decryptBuffer_ends {packet : PacketBase bufferSize}
    (room : 9 + dataSize packet ≤ bufferSize)
    : ∃ result,
        decryptBuffer packet
          = .ok (result,
            { packet with
              strBuf :=
                packet.strBuf.write 9
                  ((packet.strBuf.read 9 (dataSize packet)).map mapRecvByte)
            }) :=
  ⟨_, decryptBuffer_run room⟩

/-- `DecryptBuffer` leaves the same plain packets, whatever it returns. -/
theorem decryptBuffer_same (header : packetHeaderSize ≤ bufferSize)
    {left right : PacketBase bufferSize} (same : SamePayload left right)
    : (decryptBuffer left = .error .memory ∧ decryptBuffer right = .error .memory)
      ∨ ∃ result result' left' right',
          decryptBuffer left = .ok (result, left')
          ∧ decryptBuffer right = .ok (result', right')
          ∧ SamePayload left' right' := by
  have size := same.dataSize
  by_cases room : 9 + dataSize left ≤ bufferSize
  · have room' : 9 + dataSize right ≤ bufferSize := by rwa [size]
    obtain ⟨result, ends⟩ := decryptBuffer_ends room
    obtain ⟨result', ends'⟩ := decryptBuffer_ends room'
    rw [size, same.read (Nat.le_refl 9)] at ends'
    generalize (left.strBuf.read 9 (dataSize left)).map mapRecvByte = block at ends ends'
    have plain := same.withCells (write_same same.cells 9 block)
    exact Or.inr ⟨result, result', _, _, ends, ends', plain⟩
  · have overran : (decryptSweep left).overrun = true :=
      sweep_overrun header (Nat.not_le.mp room)
    have overran' : (decryptSweep right).overrun = true :=
      sweep_overrun header (Nat.not_le.mp (by rwa [size]))
    refine Or.inl ⟨?_, ?_⟩
    · simp only [decryptBuffer, if_pos overran]
    · simp only [decryptBuffer, if_pos overran']

/-- A handler that drops the result of `DecryptBuffer` goes on with the same plain packets. -/
theorem decrypted_alike (header : packetHeaderSize ≤ bufferSize) {fields : PacketM bufferSize α}
    {post : PacketBase bufferSize → PacketBase bufferSize → Prop}
    {left right : PacketBase bufferSize} (same : SamePayload left right)
    (goesOn
      : ∀ {result left' right'},
          Yields decryptBuffer left result left'
          → SamePayload left' right'
          → Alike post (fields left') (fields right'))
    : Alike post ((decryptBuffer >>= fun _ => fields) left)
        ((decryptBuffer >>= fun _ => fields) right) := by
  rcases decryptBuffer_same header same with
    ⟨fault, fault'⟩ | ⟨_, _, left', right', ends, ends', plain⟩
  · rw [bind_faults fault, bind_faults fault']
    exact .failed
  · rw [bind_ends ends, bind_ends ends']
    exact goesOn ends plain

theorem decrypted_paired (header : packetHeaderSize ≤ bufferSize)
    {fields : PacketM bufferSize α} {post : PacketBase bufferSize → PacketBase bufferSize → Prop}
    (reads : Paired SamePayload fields post)
    : Paired SamePayload (decryptBuffer >>= fun _ => fields) post :=
  fun _ _ same => decrypted_alike header same (fun _ plain => reads plain)

-----------------------------------------------------------------------------------------
-- Encrypting again
-----------------------------------------------------------------------------------------

/-- The packet with another payload. -/
def withPayload (packet : OutputPacket bufferSize) (block : List UInt8)
    : OutputPacket bufferSize :=
  { packet with strBuf := packet.strBuf.write 9 block }

/-- What `EncryptBuffer` makes of a payload inside the buffer. -/
theorem encryptBuffer_run {packet : OutputPacket bufferSize} {size : Nat} {plain : List UInt8}
    (fresh : packet.isCheckCode = false) (sized : dataSize packet.toPacketBase = size)
    (payload : packet.strBuf.read 9 size = plain) (room : 9 + size ≤ bufferSize)
    : encryptBuffer packet
      = .ok (size,
        (withPayload packet (plain.map mapSendByte)).writeCbCheckCode (-byteSum plain)) := by
  have swept : encryptSweep packet.toPacketBase
      = sweep bufferSize mapSendByte id size packetHeaderSize ⟨packet.strBuf, 0, [], false⟩ := by
    rw [encryptSweep, sized]
  simp only [encryptBuffer, fresh, swept, packetHeaderSize, sweep_inside room, payload, sized,
    Bool.false_eq_true, if_false, UInt8.neg_eq_not_add, byteSum, id, withPayload]

/-- Writing a payload and the check code makes packets that differ in the code the same. -/
theorem writeCbCheckCode_same {left right : OutputPacket bufferSize}
    (same : SameButCode left.toPacketBase right.toPacketBase) (block : List UInt8)
    (code : UInt8)
    : (withPayload right block).writeCbCheckCode code
      = (withPayload left block).writeCbCheckCode code := by
  have cells : (right.strBuf.write 9 block).write 8 [code]
      = (left.strBuf.write 9 block).write 8 [code] := by
    funext offset
    by_cases at8 : offset = 8
    · subst at8
      simp [CellStore.write]
    · exact write_same (write_same same.cells 9 block) 8 [code] offset at8
  simp only [OutputPacket.writeCbCheckCode, withPayload, cells, same.size, same.cursor]

/-- Encrypting a packet again writes the check code anew. -/
theorem encryptBuffer_same (header : packetHeaderSize ≤ bufferSize)
    {left right : OutputPacket bufferSize}
    (same : SameButCode left.toPacketBase right.toPacketBase)
    (fresh : left.isCheckCode = false) (fresh' : right.isCheckCode = false)
    : encryptBuffer right = encryptBuffer left := by
  have size := same.dataSize
  by_cases room : 9 + dataSize left.toPacketBase ≤ bufferSize
  · rw [encryptBuffer_run fresh rfl rfl room,
      encryptBuffer_run fresh' size (same.read (Nat.le_refl 9) _) room,
      writeCbCheckCode_same same]
  · have overran : (encryptSweep left.toPacketBase).overrun = true :=
      sweep_overrun header (Nat.not_le.mp room)
    have overran' : (encryptSweep right.toPacketBase).overrun = true :=
      sweep_overrun header (Nat.not_le.mp (by rwa [size]))
    simp only [encryptBuffer, fresh, fresh', Bool.false_eq_true, if_false, if_pos overran,
      if_pos overran']

/-- So does encrypting a copy of it. -/
theorem encryptBuffer_copy_same (header : packetHeaderSize ≤ bufferSize)
    {stale : PacketBase bufferSize} {bytes bytes' : List UInt8}
    (copies : SamePayload (stale.copy bytes).2 (stale.copy bytes').2)
    : encryptBuffer ((OutputPacket.ofStale stale).copy bytes').2
      = encryptBuffer ((OutputPacket.ofStale stale).copy bytes).2 :=
  encryptBuffer_same header copies.toSameButCode rfl rfl

end EncryptDecrypt

-----------------------------------------------------------------------------------------
-- Frames
-----------------------------------------------------------------------------------------

/-- Copies of two blocks that differ in the check code differ in it, too. -/
theorem copy_same {packet : PacketBase bufferSize} {bytes bytes' : List UInt8}
    (length : bytes'.length = bytes.length)
    (cells : ∀ offset, offset ≠ 8 → bytes'[offset]? = bytes[offset]?)
    (fits : bytes.length ≤ bufferSize)
    : SamePayload (packet.copy bytes).2 (packet.copy bytes').2 := by
  rw [PacketBase.copy_fits fits, PacketBase.copy_fits (by omega)]
  refine ⟨⟨congrArg Nat.cast length, rfl, fun offset apart => ?_⟩, Int.le_refl 9⟩
  simp only [CellStore.write, Nat.zero_le, if_true, Nat.sub_zero, cells offset apart]

/-- A frame with another check code is copied to the same packet but for the code. -/
theorem copy_set_same (packet : PacketBase bufferSize) (frame : List UInt8) (code : UInt8)
    : (packet.copy (frame.set 8 code)).2 = (packet.copy frame).2
      ∨ SamePayload (packet.copy frame).2 (packet.copy (frame.set 8 code)).2 := by
  by_cases fits : frame.length ≤ bufferSize
  · refine Or.inr (copy_same List.length_set (fun offset apart => ?_) fits)
    exact List.getElem?_set_ne apart.symm
  · have overflow : bufferSize < (frame.set 8 code).length := by
      rw [List.length_set]
      omega
    rw [PacketBase.copy_overflow overflow, PacketBase.copy_overflow (Nat.not_le.mp fits)]
    exact Or.inl rfl

/-- The bytes of packets that differ in the check code are copied to such packets. -/
theorem contents_same (same : SameButCode left right) (packet : PacketBase bufferSize)
    : (left.contents = .error .memory ∧ right.contents = .error .memory)
      ∨ ∃ bytes bytes',
          left.contents = .ok bytes
          ∧ right.contents = .ok bytes'
          ∧ SamePayload (packet.copy bytes).2 (packet.copy bytes').2 := by
  by_cases outside : left.nPacketSize < 0 ∨ (bufferSize : Int) < left.nPacketSize
  · refine Or.inl ⟨if_pos outside, if_pos ?_⟩
    rwa [same.size]
  · have outside' : ¬(right.nPacketSize < 0 ∨ (bufferSize : Int) < right.nPacketSize) := by
      rwa [same.size]
    refine Or.inr ⟨left.bytes, right.bytes, if_neg outside, if_neg outside', copy_same ?_ ?_ ?_⟩
    · rw [PacketBase.bytes, PacketBase.bytes, same.size, CellStore.length_read,
        CellStore.length_read]
    · intro offset apart
      rw [PacketBase.bytes, PacketBase.bytes, same.size]
      by_cases inside : offset < left.nPacketSize.toNat
      · simp [CellStore.read, inside, same.cells offset apart]
      · simp [CellStore.read, inside]
    · rw [PacketBase.bytes, CellStore.length_read]
      omega

/-- `DecryptBuffer` accepts a packet whose check code cancels its plain payload. -/
theorem decryptBuffer_accepts (header : packetHeaderSize ≤ bufferSize)
    {packet next : PacketBase bufferSize} {result : Int} {payload : List UInt8}
    (plain
      : (packet.strBuf.read 9 (EncryptDecrypt.dataSize packet)).map EncryptDecrypt.mapRecvByte
        = payload)
    (fitting : packet.getCbCheckCode = -byteSum payload)
    (run : Yields EncryptDecrypt.decryptBuffer packet result next)
    : result ≠ -1 := by
  by_cases room : 9 + EncryptDecrypt.dataSize packet ≤ bufferSize
  · have ends := EncryptDecrypt.decryptBuffer_run room
    rw [plain, fitting, UInt8.add_left_neg, if_neg (by simp)] at ends
    obtain ⟨same, _⟩ := Yields.unique run ends
    omega
  · have overran : (EncryptDecrypt.decryptSweep packet).overrun = true :=
      EncryptDecrypt.sweep_overrun header (Nat.not_le.mp room)
    simp only [Yields, EncryptDecrypt.decryptBuffer, if_pos overran] at run
    cases run

/-- Every frame has a check code that `DecryptBuffer` accepts. -/
theorem fitting_code (packet : PacketBase bufferSize) {frame : List UInt8}
    (complete : packetHeaderSize ≤ frame.length) (fits : frame.length ≤ bufferSize)
    : ∃ code, ∀ result next,
        Yields EncryptDecrypt.decryptBuffer (packet.copy (frame.set 8 code)).2 result next
        → result ≠ -1 := by
  let base := (packet.copy frame).2
  let payload := (base.strBuf.read 9 (EncryptDecrypt.dataSize base)).map
    EncryptDecrypt.mapRecvByte
  refine ⟨-byteSum payload, fun result next run => ?_⟩
  have same : SamePayload base (packet.copy (frame.set 8 (-byteSum payload))).2 :=
    copy_same List.length_set (fun _ apart => List.getElem?_set_ne apart.symm) fits
  have plain : ((packet.copy (frame.set 8 (-byteSum payload))).2.strBuf.read 9
      (EncryptDecrypt.dataSize (packet.copy (frame.set 8 (-byteSum payload))).2)).map
        EncryptDecrypt.mapRecvByte = payload := by
    rw [same.dataSize, same.read (Nat.le_refl 9)]
  have fitting : (packet.copy (frame.set 8 (-byteSum payload))).2.getCbCheckCode
      = -byteSum payload := by
    rw [PacketBase.getCbCheckCode, PacketBase.copy_fits (by rwa [List.length_set])]
    have inside : 8 < frame.length := complete
    simp [CellStore.write, inside]
  exact decryptBuffer_accepts (complete.trans fits) plain fitting run

end ProxyServer.Packets
