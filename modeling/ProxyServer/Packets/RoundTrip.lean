import ProxyServer.Packets.EncryptDecrypt

/-! A packet written, encrypted, copied and decrypted reads back as it was written.
The writers keep the payload they have appended; the readers consume the payload that is
still unread. The cipher between them restores the payload byte by byte.
-/

namespace ProxyServer.Packets

open WordBytes
open FaultState (Yields yields_pure yields_bind yields_get)
open EncryptDecrypt

-----------------------------------------------------------------------------------------
-- Fields
-----------------------------------------------------------------------------------------

/-- A field as a writer takes it. A string holds no NUL byte. -/
inductive Field
  | int (value : Int32)
  | short (value : Int16)
  | byte (value : UInt8)
  | string (text : List UInt8) (noNul : 0 ∉ text)
  | binary (blob : List UInt8)

/-- The reader called for a field; `ReadBinary` is given the size of its buffer. -/
inductive FieldType
  | int
  | short
  | byte
  | string
  | binary (nMaxLen : Int)

/-- What a reader returns; `ReadBinary` returns a length and fills a buffer. -/
inductive FieldValue
  | int (value : Int)
  | short (value : Int)
  | byte (value : UInt8)
  | string (text : List UInt8)
  | binary (length : Int) (blob : List UInt8)
  deriving DecidableEq, Repr

/-- The bytes a field takes in a packet. -/
def Field.encoding : Field → List UInt8
  | .int value => toBytes 4 (unsigned 32 value.toInt)
  | .short value => toBytes 2 (unsigned 16 value.toInt)
  | .byte value => [value]
  | .string text _ => toBytes 4 (unsigned 32 (text.length + 1)) ++ text ++ [0]
  | .binary blob => toBytes 4 (unsigned 32 blob.length) ++ blob

/-- The value a field should be read back as. -/
def Field.value : Field → FieldValue
  | .int value => .int value.toInt
  | .short value => .short value.toInt
  | .byte value => .byte value
  | .string text _ => .string text
  | .binary blob => .binary blob.length blob

/-- The reader of the field's type, with a buffer at least as long as a blob. -/
def Field.ReadBy : Field → FieldType → Prop
  | .int _, .int => True
  | .short _, .short => True
  | .byte _, .byte => True
  | .string _ _, .string => True
  | .binary blob, .binary nMaxLen => blob.length ≤ nMaxLen
  | _, _ => False

variable {bufferSize : Nat}

def Field.write : Field → StateM (OutputPacket bufferSize) Unit
  | .int value => discard (OutputPacket.writeInt value.toInt)
  | .short value => discard (OutputPacket.writeShort value.toInt)
  | .byte value => discard (OutputPacket.writeByte value)
  | .string text _ => discard (OutputPacket.writeString text)
  | .binary blob => discard (OutputPacket.writeBinary blob)

def FieldType.read : FieldType → PacketM bufferSize FieldValue
  | .int => FieldValue.int <$> InputPacket.readInt
  | .short => FieldValue.short <$> InputPacket.readShort
  | .byte => FieldValue.byte <$> InputPacket.readByte
  | .string => FieldValue.string <$> InputPacket.readString
  | .binary nMaxLen => (fun (length, blob) => .binary length blob)
      <$> InputPacket.readBinary nMaxLen

-----------------------------------------------------------------------------------------
-- Writing
-----------------------------------------------------------------------------------------

/-- The packet holds the command in its header and exactly this payload behind it. -/
structure Carries (packet : OutputPacket bufferSize) (command : Int)
    (payload : List UInt8)
    : Prop where
  size_eq : packet.nPacketSize = 9 + payload.length
  payload_eq : packet.strBuf.read 9 payload.length = payload
  command_eq : packet.strBuf.read 6 2 = toBytes 2 (unsigned 16 command)
  unchecked : packet.isCheckCode = false

/-- `Begin` starts an empty payload. -/
theorem carries_beginPacket (packet : OutputPacket bufferSize) (command : Int)
    : Carries (packet.beginPacket command) command [] where
  size_eq := rfl
  payload_eq := rfl
  command_eq := by
    have back := CellStore.read_write_self
      (CellStore.write (CellStore.write (CellStore.write (fun _ => 0) 2 [66, 89]) 4
        [serverPacketDefaultVer]) 5 [serverPacketDefaultSubver]) 6
      (toBytes 2 (unsigned 16 command))
    rwa [length_toBytes] at back
  unchecked := rfl

/-- A raw write that fits appends its bytes to the payload. -/
theorem Carries.writeRaw {packet : OutputPacket bufferSize} {command : Int}
    {payload : List UInt8} (carries : Carries packet command payload) (raw : List UInt8)
    (fits : 9 + (payload ++ raw).length ≤ bufferSize)
    : (OutputPacket.writeRaw raw packet).1 = true
      ∧ Carries (OutputPacket.writeRaw raw packet).2 command (payload ++ raw) := by
  have size := carries.size_eq
  rw [List.length_append] at fits
  have room : ¬(packet.nPacketSize < 0
      ∨ (bufferSize : Int) < raw.length + packet.nPacketSize) := by omega
  have start : packet.nPacketSize.toNat = 9 + payload.length := by omega
  have written : OutputPacket.writeRaw raw packet = (true, {
      packet with
      strBuf := packet.strBuf.write (9 + payload.length) raw
      nPacketSize := packet.nPacketSize + raw.length
    }) := by
    simp only [OutputPacket.writeRaw, PacketBase.write, if_neg room, start]
  rw [written]
  refine ⟨rfl, ?_, ?_, ?_, carries.unchecked⟩
  · simp only [List.length_append]
    omega
  · simp only [List.length_append, CellStore.read_write_append, carries.payload_eq]
  · exact (CellStore.read_write_disjoint _ (Or.inl (by omega))).trans carries.command_eq

/-- A raw write behind the end of the buffer fails. -/
theorem writeRaw_full {packet : OutputPacket bufferSize} {raw : List UInt8}
    (full : (bufferSize : Int) < raw.length + packet.nPacketSize)
    : OutputPacket.writeRaw raw packet = (false, packet) := by
  unfold OutputPacket.writeRaw PacketBase.write
  rw [if_pos (Or.inr full)]

/-- The final NUL of a string is a raw write of one byte. -/
theorem writeZero_eq_writeRaw {packet : OutputPacket bufferSize}
    (sized : 0 ≤ packet.nPacketSize)
    : OutputPacket.writeZero packet = OutputPacket.writeRaw [0] packet := by
  have nonneg : ¬packet.nPacketSize < 0 := by omega
  simp only [OutputPacket.writeZero, OutputPacket.writeRaw, PacketBase.writeZero,
    PacketBase.write, nonneg, false_or, List.length_singleton, Nat.cast_one]
  rw [Int.add_comm packet.nPacketSize 1]

/-- Two writes in a row append both blocks. -/
theorem Carries.writeRaw_writeRaw {packet : OutputPacket bufferSize} {command : Int}
    {payload : List UInt8} (carries : Carries packet command payload)
    (front back : List UInt8)
    (fits : 9 + (payload ++ (front ++ back)).length ≤ bufferSize)
    : (OutputPacket.writeRaw back (OutputPacket.writeRaw front packet).2).1 = true
      ∧ Carries (OutputPacket.writeRaw back (OutputPacket.writeRaw front packet).2).2
        command (payload ++ (front ++ back)) := by
  simp only [List.length_append] at fits
  have first := carries.writeRaw front
    (by simp only [List.length_append]; omega)
  have second := first.2.writeRaw back
    (by simp only [List.length_append]; omega)
  rwa [List.append_assoc] at second

/-- `WriteString` unfolded: the count, the text when there is any, and the NUL. -/
theorem writeString_run (text : List UInt8) (packet : OutputPacket bufferSize)
    : OutputPacket.writeString text packet
      = let counted := (OutputPacket.writeInt (text.length + 1) packet).2
        if 0 < (text.length : Int) then
          if (OutputPacket.writeRaw text counted).1 then
            OutputPacket.writeZero (OutputPacket.writeRaw text counted).2
          else
            (false, (OutputPacket.writeRaw text counted).2)
        else
          OutputPacket.writeZero counted := by
  simp only [OutputPacket.writeString, bind, StateT.bind]
  rcases OutputPacket.writeInt (text.length + 1) packet with ⟨_, counted⟩
  by_cases some : 0 < (text.length : Int)
  · simp only [if_pos some, StateT.bind, bind]
    rcases OutputPacket.writeRaw text counted with ⟨written, body⟩
    cases written <;> rfl
  · simp only [if_neg some]

/-- `WriteString` succeeds and appends count, text and NUL when there is room for them. -/
theorem Carries.writeString {packet : OutputPacket bufferSize} {command : Int}
    {payload text : List UInt8} (carries : Carries packet command payload)
    (fits
      : 9 + (payload ++ (toBytes 4 (unsigned 32 (text.length + 1)) ++ text ++ [0])).length
        ≤ bufferSize)
    : (OutputPacket.writeString text packet).1 = true
      ∧ Carries (OutputPacket.writeString text packet).2 command
        (payload ++ (toBytes 4 (unsigned 32 (text.length + 1)) ++ text ++ [0])) := by
  rw [List.append_assoc] at fits ⊢
  have counted := carries.writeRaw (toBytes 4 (unsigned 32 (text.length + 1)))
    (by simp only [List.length_append] at fits ⊢; omega)
  have count : OutputPacket.writeInt (text.length + 1) packet
      = OutputPacket.writeRaw (toBytes 4 (unsigned 32 (text.length + 1))) packet := rfl
  rw [writeString_run, count]
  dsimp only
  split
  · have body := counted.2.writeRaw text
      (by simp only [List.length_append] at fits ⊢; omega)
    have ended := counted.2.writeRaw_writeRaw text [0]
      (by simp only [List.length_append] at fits ⊢; omega)
    rw [if_pos body.1, writeZero_eq_writeRaw (by have := body.2.size_eq; omega)]
    rwa [List.append_assoc] at ended
  · have empty : text = [] := List.eq_nil_of_length_eq_zero (by omega)
    have ended := counted.2.writeRaw [0]
      (by simp only [List.length_append] at fits ⊢; omega)
    rw [writeZero_eq_writeRaw (by have := counted.2.size_eq; omega)]
    simpa only [empty, List.nil_append, List.append_assoc] using ended

/-- Every writer appends its field's encoding when there is room for it. -/
theorem Carries.write {packet : OutputPacket bufferSize} {command : Int}
    {payload : List UInt8} (carries : Carries packet command payload) (field : Field)
    (fits : 9 + (payload ++ field.encoding).length ≤ bufferSize)
    : Carries (field.write packet).2 command (payload ++ field.encoding) := by
  cases field with
  | int value => exact (carries.writeRaw _ fits).2
  | short value => exact (carries.writeRaw _ fits).2
  | byte value => exact (carries.writeRaw _ fits).2
  | string text noNul => exact (carries.writeString fits).2
  | binary blob => exact (carries.writeRaw_writeRaw _ _ fits).2

/-- Writing a list of fields appends their encodings in order, by induction over the list. -/
theorem Carries.writeAll {packet : OutputPacket bufferSize} {command : Int}
    {payload : List UInt8} (carries : Carries packet command payload)
    (fields : List Field)
    (fits : 9 + (payload ++ fields.flatMap Field.encoding).length ≤ bufferSize)
    : Carries (fields.forM Field.write packet).2 command
        (payload ++ fields.flatMap Field.encoding) := by
  induction fields generalizing packet payload with
  | nil => exact (List.append_nil payload).symm ▸ carries
  | cons field rest ih =>
      rw [List.flatMap_cons, ← List.append_assoc] at fits ⊢
      have head := carries.write field
        (by simp only [List.length_append] at fits ⊢; omega)
      exact ih head fits

-----------------------------------------------------------------------------------------
-- Encrypting, copying and decrypting
-----------------------------------------------------------------------------------------

/-- The check code of a payload: the sum of its bytes. -/
def byteSum (payload : List UInt8) : UInt8 :=
  payload.foldl (· + ·) 0

/-- Summing from a start value adds the start value. -/
theorem foldl_add_byteSum (payload : List UInt8) (start : UInt8)
    : payload.foldl (· + ·) start = start + byteSum payload := by
  induction payload generalizing start with
  | nil => simp [byteSum]
  | cons head tail ih =>
      simp only [byteSum, List.foldl_cons]
      rw [ih, ih (0 + head), UInt8.zero_add, UInt8.add_assoc]

/-- The packet holds the payload encrypted, under a header that describes it. -/
structure Encrypted (packet : PacketBase bufferSize) (command : Int)
    (payload : List UInt8)
    : Prop where
  size_eq : packet.nPacketSize = 9 + payload.length
  length_eq : packet.strBuf.read 0 2 = toBytes 2 (payload.length + 7)
  command_eq : packet.strBuf.read 6 2 = toBytes 2 (unsigned 16 command)
  cipher_eq : packet.strBuf.read 9 payload.length = payload.map mapSendByte
  code_eq : packet.getCbCheckCode = -byteSum payload

/-- A length field below 2^15 is what both sweeps take the payload length from. -/
theorem dataSize_of_length {packet : PacketBase bufferSize} {size : Nat}
    (length_eq : packet.strBuf.read 0 2 = toBytes 2 (size + 7)) (small : size + 7 < 32768)
    : dataSize packet = size := by
  have field : packet.getBodyLength = ((size + 7 : Nat) : Int) := by
    rw [PacketBase.getBodyLength, PacketBase.lengthField, length_eq, ofBytes_toBytes, signed,
      Nat.mod_eq_of_lt (by omega)]
    exact Int.bmod_eq_of_le (by omega) (by omega)
  rw [dataSize, field, toWord]
  omega

/-- `End` stores the length of the payload and leaves the rest of the packet. -/
theorem Carries.endPacket {packet : OutputPacket bufferSize} {command : Int}
    {payload : List UInt8} (carries : Carries packet command payload)
    (small : payload.length + 7 < 32768)
    : Carries packet.endPacket command payload
      ∧ packet.endPacket.strBuf.read 0 2 = toBytes 2 (payload.length + 7) := by
  have size := carries.size_eq
  have body : unsigned 16 (toInt16 (packet.nPacketSize - 2)) = payload.length + 7 := by
    rw [toInt16_of_range (by omega) (by omega), unsigned]
    omega
  have stored : packet.endPacket.strBuf
      = (packet.strBuf.write 0 (toBytes 2 (payload.length + 7))).write 8 [0] := by
    rw [← body]
    rfl
  refine ⟨⟨carries.size_eq, ?_, ?_, rfl⟩, ?_⟩ <;> rw [stored]
  · rw [CellStore.read_write_disjoint _ (Or.inr (by simp)),
      CellStore.read_write_disjoint _ (Or.inr (by simp)), carries.payload_eq]
  · rw [CellStore.read_write_disjoint _ (Or.inl (by simp)),
      CellStore.read_write_disjoint _ (Or.inr (by simp)), carries.command_eq]
  · rw [CellStore.read_write_disjoint _ (Or.inl (by simp))]
    have back := CellStore.read_write_self packet.strBuf 0 (toBytes 2 (payload.length + 7))
    rwa [length_toBytes] at back

/-- `End` and `EncryptBuffer` turn a payload into its encrypted form. -/
theorem Carries.encryptBuffer {packet : OutputPacket bufferSize} {command : Int}
    {payload : List UInt8} (carries : Carries packet command payload)
    (room : 9 + payload.length ≤ bufferSize) (small : payload.length + 7 < 32768)
    : ∃ encrypted,
        encryptBuffer packet.endPacket = .ok (payload.length, encrypted)
        ∧ Encrypted encrypted.toPacketBase command payload := by
  obtain ⟨ended, length_eq⟩ := carries.endPacket small
  have size : dataSize packet.endPacket.toPacketBase = payload.length :=
    dataSize_of_length length_eq small
  have swept : encryptSweep packet.endPacket.toPacketBase = {
      strBuf := packet.endPacket.strBuf.write 9 (payload.map mapSendByte)
      cbCheckCode := byteSum payload
      touched := List.range' 9 payload.length
      overrun := false
    } := by
    rw [encryptSweep, size, packetHeaderSize, sweep_inside room]
    simp only [ended.payload_eq, id, List.nil_append, byteSum]
  let cipher := packet.endPacket.strBuf.write 9 (payload.map mapSendByte)
  refine ⟨{ packet.endPacket with strBuf := cipher }.writeCbCheckCode (~~~byteSum payload + 1),
    ?_, ended.size_eq, ?_, ?_, ?_, ?_⟩
  · simp [EncryptDecrypt.encryptBuffer, ended.unchecked, swept, size, cipher]
  · exact (CellStore.read_write_disjoint cipher (Or.inl (by simp))).trans
      ((CellStore.read_write_disjoint _ (Or.inl (by simp))).trans length_eq)
  · exact (CellStore.read_write_disjoint cipher (Or.inl (by simp))).trans
      ((CellStore.read_write_disjoint _ (Or.inl (by simp))).trans ended.command_eq)
  · have back := CellStore.read_write_self packet.endPacket.strBuf 9 (payload.map mapSendByte)
    rw [List.length_map] at back
    exact (CellStore.read_write_disjoint cipher (Or.inr (by simp))).trans back
  · rw [UInt8.neg_eq_not_add]
    have written : ∀ code : UInt8, cipher.write 8 [code] (8 + 0) = code :=
      fun _ => CellStore.write_apply_inside cipher Nat.one_pos
    exact written (~~~byteSum payload + 1)

/-- Copying the bytes of a packet copies every block inside it. -/
theorem copy_bytes_read (stale packet : PacketBase bufferSize)
    (fits : packet.nPacketSize.toNat ≤ bufferSize) {offset count : Nat}
    (inside : offset + count ≤ packet.nPacketSize.toNat)
    : (stale.copy packet.bytes).2.strBuf.read offset count
      = packet.strBuf.read offset count := by
  have length : packet.bytes.length = packet.nPacketSize.toNat := by
    simp [PacketBase.bytes]
  rw [PacketBase.copy_fits (by omega)]
  refine CellStore.read_congr (fun i bound => ?_)
  have within : offset + i < packet.bytes.length := by omega
  have cell : CellStore.write (fun _ => 0) 0 packet.bytes (0 + (offset + i))
      = packet.bytes[offset + i] :=
    CellStore.write_apply_inside _ within
  rw [Nat.zero_add] at cell
  exact cell.trans ((CellStore.getElem_read _ _ _ _ _).trans (by rw [Nat.zero_add]))

/-- An encrypted packet arrives as it was sent, with the cursor on its payload. -/
theorem Encrypted.copy {packet : PacketBase bufferSize} {command : Int}
    {payload : List UInt8} (sealed : Encrypted packet command payload)
    (room : 9 + payload.length ≤ bufferSize) (stale : PacketBase bufferSize)
    : (stale.copy packet.bytes).1 = true
      ∧ Encrypted (stale.copy packet.bytes).2 command payload
      ∧ (stale.copy packet.bytes).2.nBufPos = 9 := by
  have size : packet.nPacketSize.toNat = 9 + payload.length := by
    have := sealed.size_eq
    omega
  have length : packet.bytes.length = 9 + payload.length := by
    simp [PacketBase.bytes, size]
  have copied : stale.copy packet.bytes = (true, {
      strBuf := CellStore.write (fun _ => 0) 0 packet.bytes
      nPacketSize := packet.bytes.length
      nBufPos := 9
    }) := PacketBase.copy_fits (by omega)
  have block {offset count : Nat} (inside : offset + count ≤ 9 + payload.length)
      : (stale.copy packet.bytes).2.strBuf.read offset count
        = packet.strBuf.read offset count :=
    copy_bytes_read stale packet (by omega) (by omega)
  refine ⟨by rw [copied], ⟨?_, ?_, ?_, ?_, ?_⟩, by rw [copied]⟩
  · rw [copied]
    exact congrArg Nat.cast length
  · rw [block (by omega), sealed.length_eq]
  · rw [block (by omega), sealed.command_eq]
  · rw [block (by omega), sealed.cipher_eq]
  · have code : (stale.copy packet.bytes).2.strBuf.read 8 1 = packet.strBuf.read 8 1 :=
      block (by omega)
    rw [CellStore.read_succ, CellStore.read_succ] at code
    exact (List.cons.inj code).1.trans sealed.code_eq

-----------------------------------------------------------------------------------------
-- Reading
-----------------------------------------------------------------------------------------

/-- The cursor stands before `rest`, which reaches up to the end of the packet. -/
structure Unread (packet : PacketBase bufferSize) (rest : List UInt8) : Prop where
  cursor_eq : packet.nBufPos + rest.length = packet.nPacketSize
  cursor_nonneg : 0 ≤ packet.nBufPos
  room : packet.nPacketSize ≤ bufferSize
  small : packet.nPacketSize < 2147483648
  rest_eq : packet.strBuf.read packet.nBufPos.toNat rest.length = rest

/-- A packet that is not encrypted arrives with its whole payload unread. -/
theorem Carries.arrives {packet : OutputPacket bufferSize} {command : Int}
    {payload : List UInt8} (carries : Carries packet command payload)
    (room : 9 + payload.length ≤ bufferSize) (small : bufferSize < 2147483648)
    (stale : PacketBase bufferSize)
    : (stale.copy packet.bytes).1 = true
      ∧ Unread (stale.copy packet.bytes).2 payload := by
  have size := carries.size_eq
  have length : packet.bytes.length = 9 + payload.length := by
    simp only [PacketBase.bytes, CellStore.length_read]
    omega
  have copied : stale.copy packet.bytes = (true, {
      strBuf := CellStore.write (fun _ => 0) 0 packet.bytes
      nPacketSize := packet.bytes.length
      nBufPos := 9
    }) := PacketBase.copy_fits (by omega)
  have block : (stale.copy packet.bytes).2.strBuf.read 9 payload.length
      = packet.strBuf.read 9 payload.length :=
    copy_bytes_read stale packet.toPacketBase (by omega) (by omega)
  have arrived : (9 : Int) + payload.length = packet.bytes.length := by omega
  rw [copied] at block ⊢
  exact ⟨rfl, arrived, Int.natCast_nonneg 9, Int.ofNat_le.mpr (by omega),
    show (packet.bytes.length : Int) < 2147483648 by omega, block.trans carries.payload_eq⟩

/-- `DecryptBuffer` accepts an encrypted packet and restores its payload. -/
theorem Encrypted.decryptBuffer {packet : PacketBase bufferSize} {command : Int}
    {payload : List UInt8} (sealed : Encrypted packet command payload)
    (room : 9 + payload.length ≤ bufferSize) (small : payload.length + 7 < 32768)
    (cursor : packet.nBufPos = 9)
    : ∃ decrypted,
        Yields decryptBuffer packet payload.length decrypted
        ∧ decrypted.strBuf.read 6 2 = toBytes 2 (unsigned 16 command)
        ∧ Unread decrypted payload := by
  have size := dataSize_of_length sealed.length_eq small
  have plain : (payload.map mapSendByte).map mapRecvByte = payload := by
    rw [List.map_map]
    exact (List.map_congr_left (fun byte _ => mapRecvByte_mapSendByte byte)).trans
      (List.map_id payload)
  have summed : (payload.map mapSendByte).foldl (fun code byte => code + mapRecvByte byte)
      packet.getCbCheckCode = 0 := by
    rw [← List.foldl_map (f := mapRecvByte) (g := (· + ·)), plain, foldl_add_byteSum,
      sealed.code_eq, UInt8.add_left_neg]
  have swept : decryptSweep packet = {
      strBuf := packet.strBuf.write 9 payload
      cbCheckCode := 0
      touched := List.range' 9 payload.length
      overrun := false
    } := by
    rw [decryptSweep, size, packetHeaderSize, sweep_inside room]
    simp only [sealed.cipher_eq, plain, summed, List.nil_append]
  refine ⟨{ packet with strBuf := packet.strBuf.write 9 payload }, ?_, ?_, ?_⟩
  · simp [Yields, EncryptDecrypt.decryptBuffer, swept, size]
  · exact (CellStore.read_write_disjoint _ (Or.inl (by simp))).trans sealed.command_eq
  · have total := sealed.size_eq
    refine ⟨?_, ?_, ?_, ?_, ?_⟩
    · simp only [cursor]
      omega
    · simp only [cursor]
      omega
    · simp only
      omega
    · simp only
      omega
    · simp [cursor]

/-- `_Read` consumes exactly the block at the cursor. -/
theorem Unread.read {packet : PacketBase bufferSize} {raw rest : List UInt8}
    (unread : Unread packet (raw ++ rest))
    : ∃ next,
        Yields (PacketBase.read raw.length) packet (some raw) next ∧ Unread next rest := by
  have cursor := unread.cursor_eq
  have nonneg := unread.cursor_nonneg
  have room := unread.room
  have small := unread.small
  have block := unread.rest_eq
  rw [List.length_append] at cursor block
  rw [CellStore.read_add] at block
  obtain ⟨front, back⟩ := List.append_inj block (by simp)
  have last : toInt32 (raw.length + packet.nBufPos) = raw.length + packet.nBufPos :=
    toInt32_of_range (by omega) (by omega)
  refine ⟨{ packet with nBufPos := raw.length + packet.nBufPos }, ?_, ?_, ?_, room, small, ?_⟩
  · simp only [Yields, PacketBase.read, last]
    rw [if_neg (by omega), if_neg (by omega)]
    simp [front]
  · simp only
    omega
  · simp only
    omega
  · have start : (raw.length + packet.nBufPos).toNat = packet.nBufPos.toNat + raw.length := by
      omega
    simp only [start, back]

/-- A reader of one raw field returns what the field decodes to. -/
theorem Unread.readRaw {α : Type} {packet : PacketBase bufferSize} {raw rest : List UInt8}
    {count : Int} (unread : Unread packet (raw ++ rest)) (decode : List UInt8 → α)
    (missing : α) (counted : count = raw.length)
    : ∃ next,
        Yields (do
          match ← PacketBase.read count with
          | some raw => pure (decode raw)
          | none => pure missing) packet (decode raw) next
        ∧ Unread next rest := by
  obtain ⟨next, run, after⟩ := unread.read
  subst counted
  exact ⟨next, yields_bind.mpr ⟨_, _, run, yields_pure.mpr ⟨rfl, rfl⟩⟩, after⟩

/-- `ReadInt` decodes the next four bytes. -/
theorem Unread.readIntBytes {packet : PacketBase bufferSize} {raw rest : List UInt8}
    (width : raw.length = 4) (unread : Unread packet (raw ++ rest))
    : ∃ next,
        Yields InputPacket.readInt packet (signed 32 (ofBytes raw)) next
        ∧ Unread next rest :=
  unread.readRaw (fun raw => signed 32 (ofBytes raw)) (-1) (by rw [width]; rfl)

/-- `ReadInt` returns the integer at the cursor. -/
theorem Unread.readInt {packet : PacketBase bufferSize} {rest : List UInt8} {value : Int}
    (low : -2147483648 ≤ value) (high : value < 2147483648)
    (unread : Unread packet (toBytes 4 (unsigned 32 value) ++ rest))
    : ∃ next, Yields InputPacket.readInt packet value next ∧ Unread next rest := by
  obtain ⟨next, run, after⟩ := unread.readIntBytes (by simp)
  rw [ofBytes_toBytes_unsigned 4 value, signed_unsigned (by omega) low high] at run
  exact ⟨next, run, after⟩

/-- `ReadShort` returns the integer at the cursor. -/
theorem Unread.readShort {packet : PacketBase bufferSize} {rest : List UInt8} {value : Int}
    (low : -32768 ≤ value) (high : value < 32768)
    (unread : Unread packet (toBytes 2 (unsigned 16 value) ++ rest))
    : ∃ next, Yields InputPacket.readShort packet value next ∧ Unread next rest := by
  obtain ⟨next, run, after⟩ : ∃ next,
      Yields InputPacket.readShort packet
        (signed 16 (ofBytes (toBytes 2 (unsigned 16 value)))) next
      ∧ Unread next rest :=
    unread.readRaw (fun raw => signed 16 (ofBytes raw)) (-1) (by simp)
  rw [ofBytes_toBytes_unsigned 2 value, signed_unsigned (by omega) low high] at run
  exact ⟨next, run, after⟩

/-- Scanning a NUL-free text up to its NUL returns the text, by induction over it. -/
theorem scanString_text {store : CellStore UInt8} {remaining offset : Nat}
    {text : List UInt8} (noNul : 0 ∉ text) (room : text.length < remaining)
    (block : store.read offset (text.length + 1) = text ++ [0])
    : InputPacket.scanString store remaining offset = some text := by
  induction text generalizing remaining offset with
  | nil =>
      obtain ⟨more, rfl⟩ := Nat.exists_eq_add_of_lt room
      have ended : store offset = 0 := (List.cons.inj block).1
      simp [InputPacket.scanString, ended]
  | cons head tail ih =>
      obtain ⟨more, rfl⟩ := Nat.exists_eq_add_of_lt room
      rw [List.length_cons, CellStore.read_succ, List.cons_append] at block
      obtain ⟨first, later⟩ := List.cons.inj block
      have nonzero : head ≠ 0 := fun zero => noNul (by simp [zero])
      have tailScan : InputPacket.scanString store (tail.length + 1 + more) (offset + 1)
          = some tail :=
        ih (fun member => noNul (List.mem_cons_of_mem head member)) (by omega) later
      simp only [List.length_cons, InputPacket.scanString, first, if_neg nonzero, tailScan,
        Option.map_some]

/-- `ReadString()` returns the NUL-free text at the cursor. -/
theorem Unread.readString {packet : PacketBase bufferSize} {rest text : List UInt8}
    (noNul : 0 ∉ text)
    (unread
      : Unread packet (toBytes 4 (unsigned 32 (text.length + 1)) ++ text ++ [0] ++ rest))
    : ∃ next, Yields InputPacket.readString packet text next ∧ Unread next rest := by
  simp only [List.append_assoc] at unread
  have total := unread.cursor_eq
  have small := unread.small
  have nonneg := unread.cursor_nonneg
  simp only [List.length_append, length_toBytes, List.length_singleton] at total
  obtain ⟨counted, readCount, afterCount⟩ := unread.readInt (by omega) (by omega)
  have cursor := afterCount.cursor_eq
  have nonneg' := afterCount.cursor_nonneg
  have room := afterCount.room
  have small' := afterCount.small
  have block := afterCount.rest_eq
  rw [← List.append_assoc] at cursor block
  simp only [List.length_append, List.length_singleton] at cursor block
  rw [CellStore.read_add] at block
  obtain ⟨front, back⟩ := List.append_inj block (by simp)
  have last : toInt32 ((text.length : Int) + 1 + counted.nBufPos)
      = text.length + 1 + counted.nBufPos := toInt32_of_range (by omega) (by omega)
  let next : PacketBase bufferSize :=
    { counted with nBufPos := text.length + 1 + counted.nBufPos }
  have point : Yields (PacketBase.readPoint (text.length + 1)) counted
      (some counted.nBufPos) next := by
    simp only [Yields, PacketBase.readPoint, last]
    rw [if_neg (by omega)]
  have char : Yields InputPacket.readChar packet (some counted.nBufPos) next := by
    refine yields_bind.mpr ⟨_, _, readCount, ?_⟩
    rw [if_neg (by omega)]
    exact point
  have scanned : InputPacket.scanString counted.strBuf
      (bufferSize - counted.nBufPos.toNat) counted.nBufPos.toNat = some text :=
    scanString_text noNul (by omega) front
  refine ⟨next, ?_, ?_, ?_, room, small', ?_⟩
  · refine yields_bind.mpr ⟨_, _, char, yields_bind.mpr ⟨_, _, yields_get.mpr ⟨rfl, rfl⟩, ?_⟩⟩
    have found : InputPacket.scanString next.strBuf (bufferSize - counted.nBufPos.toNat)
        counted.nBufPos.toNat = some text := scanned
    rw [if_neg (by omega)]
    simp only [found]
    exact yields_pure.mpr ⟨rfl, rfl⟩
  · simp only [next]
    omega
  · simp only [next]
    omega
  · have start : (text.length + 1 + counted.nBufPos).toNat
        = counted.nBufPos.toNat + (text.length + 1) := by
      omega
    simp only [next, start, back]

/-- `ReadBinary` returns the blob at the cursor when its buffer is large enough. -/
theorem Unread.readBinary {packet : PacketBase bufferSize} {rest blob : List UInt8}
    {nMaxLen : Int} (large : blob.length ≤ nMaxLen)
    (unread : Unread packet (toBytes 4 (unsigned 32 blob.length) ++ blob ++ rest))
    : ∃ next,
        Yields (InputPacket.readBinary nMaxLen) packet (blob.length, blob) next
        ∧ Unread next rest := by
  rw [List.append_assoc] at unread
  have total := unread.cursor_eq
  have small := unread.small
  have nonneg := unread.cursor_nonneg
  simp only [List.length_append, length_toBytes] at total
  obtain ⟨counted, readCount, afterCount⟩ := unread.readInt (by omega) (by omega)
  obtain ⟨next, readBlob, afterBlob⟩ := afterCount.read
  refine ⟨next, yields_bind.mpr ⟨_, _, readCount, ?_⟩, afterBlob⟩
  rw [if_neg (by omega)]
  simp only [if_neg (show ¬nMaxLen < (blob.length : Int) by omega)]
  exact yields_bind.mpr ⟨_, _, readBlob, yields_pure.mpr ⟨rfl, rfl⟩⟩

/-- Every reader consumes the encoding of its field and returns the field's value. -/
theorem Unread.readField {packet : PacketBase bufferSize} {rest : List UInt8}
    {field : Field} {type : FieldType} (asked : field.ReadBy type)
    (unread : Unread packet (field.encoding ++ rest))
    : ∃ next, Yields type.read packet field.value next ∧ Unread next rest := by
  have mapped {α : Type} {reader : PacketM bufferSize α} {wrap : α → FieldValue}
      {value : α} (run : ∃ next, Yields reader packet value next ∧ Unread next rest)
      : ∃ next, Yields (wrap <$> reader) packet (wrap value) next ∧ Unread next rest := by
    obtain ⟨next, reads, after⟩ := run
    refine ⟨next, ?_, after⟩
    simp only [Yields, Functor.map, StateT.map] at reads ⊢
    simp only [reads, bind, Except.bind]
    rfl
  cases field with
  | int value =>
      cases type with
      | int => exact mapped (unread.readInt value.le_toInt value.toInt_lt)
      | _ => exact asked.elim
  | short value =>
      cases type with
      | short => exact mapped (unread.readShort value.le_toInt value.toInt_lt)
      | _ => exact asked.elim
  | byte value =>
      cases type with
      | byte =>
          have width : (1 : Int) = [value].length := rfl
          exact mapped (unread.readRaw (fun raw => raw.headD 255) 255 width)
      | _ => exact asked.elim
  | string text noNul =>
      cases type with
      | string => exact mapped (unread.readString noNul)
      | _ => exact asked.elim
  | binary blob =>
      cases type with
      | binary nMaxLen => exact mapped (unread.readBinary asked)
      | _ => exact asked.elim

/-- Reading a list of fields returns their values in order, by induction over the list. -/
theorem Unread.readAll {packet : PacketBase bufferSize} {rest : List UInt8}
    {fields : List Field} {types : List FieldType}
    (asked : List.Forall₂ Field.ReadBy fields types)
    (unread : Unread packet (fields.flatMap Field.encoding ++ rest))
    : ∃ next,
        Yields (types.mapM FieldType.read) packet (fields.map Field.value) next
        ∧ Unread next rest := by
  induction asked generalizing packet with
  | nil => exact ⟨packet, by rw [List.mapM_nil]; exact yields_pure.mpr ⟨rfl, rfl⟩, unread⟩
  | cons head _ ih =>
      rw [List.flatMap_cons, List.append_assoc] at unread
      obtain ⟨middle, readHead, afterHead⟩ := unread.readField head
      obtain ⟨next, readTail, afterTail⟩ := ih afterHead
      refine ⟨next, ?_, afterTail⟩
      rw [List.mapM_cons]
      exact yields_bind.mpr ⟨_, _, readHead,
        yields_bind.mpr ⟨_, _, readTail, yields_pure.mpr ⟨rfl, rfl⟩⟩⟩

-----------------------------------------------------------------------------------------
-- The whole way of a packet
-----------------------------------------------------------------------------------------

/-- Any fields that fit a packet survive `Begin`, the writes, `End`, `EncryptBuffer`,
`Copy`, `DecryptBuffer` and the reads. Witness: the payload carried by the writers is
sealed by the cipher, restored on the other side and consumed field by field.
-/
theorem written_fields_read_back (command : Int16) (fields : List Field)
    (types : List FieldType) (stale : NETInputPacket)
    (fits : 9 + (fields.flatMap Field.encoding).length ≤ 8192)
    (asked : List.Forall₂ Field.ReadBy fields types)
    : ∃ (encrypted : NETOutputPacket) (decrypted final : NETInputPacket),
        encryptBuffer (OutputPacket.build command.toInt (fields.forM Field.write))
          = .ok ((fields.flatMap Field.encoding).length, encrypted)
        ∧ (stale.copy encrypted.bytes).1 = true
        ∧ Yields decryptBuffer (stale.copy encrypted.bytes).2
            (fields.flatMap Field.encoding).length decrypted
        ∧ decrypted.getCmdType = command.toInt
        ∧ Yields (types.mapM FieldType.read) decrypted (fields.map Field.value) final
        ∧ final.nBufPos = final.nPacketSize := by
  have started := carries_beginPacket (OutputPacket.ofStale (default : PacketBase 8192))
    command.toInt
  have written := started.writeAll fields (by simpa using fits)
  rw [List.nil_append] at written
  obtain ⟨encrypted, sends, sealed⟩ := written.encryptBuffer fits (by omega)
  obtain ⟨copies, arrived, cursor⟩ := sealed.copy fits stale
  obtain ⟨decrypted, decrypts, command_eq, unread⟩ :=
    arrived.decryptBuffer fits (by omega) cursor
  rw [← List.append_nil (fields.flatMap Field.encoding)] at unread
  obtain ⟨final, reads, ended⟩ := unread.readAll asked
  refine ⟨encrypted, decrypted, final, sends, copies, decrypts, ?_, reads, ?_⟩
  · rw [PacketBase.getCmdType, command_eq, ofBytes_toBytes_unsigned 2 command.toInt]
    exact signed_unsigned (by omega) command.le_toInt command.toInt_lt
  · simpa using ended.cursor_eq

/-- One field of every type, a 3-byte blob read into a 10240-byte buffer. -/
theorem written_fields_read_back_each_type
    : ∃ (encrypted : NETOutputPacket) (decrypted final : NETInputPacket),
        encryptBuffer (OutputPacket.build 257
            ([Field.int (-5), .short 700, .byte 9, .string [72, 105] (by decide),
              .binary [0, 1, 2]].forM Field.write))
          = .ok (21, encrypted)
        ∧ ((default : NETInputPacket).copy encrypted.bytes).1 = true
        ∧ Yields decryptBuffer ((default : NETInputPacket).copy encrypted.bytes).2
            21 decrypted
        ∧ decrypted.getCmdType = 257
        ∧ Yields ([FieldType.int, .short, .byte, .string, .binary 10240].mapM
              FieldType.read) decrypted
            [.int (-5), .short 700, .byte 9, .string [72, 105], .binary 3 [0, 1, 2]] final
        ∧ final.nBufPos = final.nPacketSize :=
  written_fields_read_back 257 _ _ default (by decide)
    (.cons trivial (.cons trivial (.cons trivial (.cons trivial
      (.cons (show ((3 : Nat) : Int) ≤ 10240 by decide) .nil)))))

end ProxyServer.Packets
