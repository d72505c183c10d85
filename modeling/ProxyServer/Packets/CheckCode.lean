import ProxyServer.Packets.RoundTrip

/-! What the check code of an encrypted packet detects.
The code is the negated sum of the plain bytes, so the sum over a received packet is zero
exactly when the bytes behind the receive table still add up.
-/

namespace ProxyServer.Packets

open FaultState (Yields)

namespace EncryptDecrypt

variable {bufferSize : Nat}

-----------------------------------------------------------------------------------------
-- The receive table and the sum
-----------------------------------------------------------------------------------------

/-- The send table undoes the receive table, since every byte is sent as some other one. -/
theorem mapSendByte_mapRecvByte (cbData : UInt8)
    : mapSendByte (mapRecvByte cbData) = cbData := by
  have distinct : Function.Injective mapSendByte :=
    Function.LeftInverse.injective mapRecvByte_mapSendByte
  obtain ⟨sent, rfl⟩ := Finite.surjective_of_injective distinct cbData
  rw [mapRecvByte_mapSendByte]

/-- Two different bytes are never received as the same one. -/
theorem mapRecvByte_injective : Function.Injective mapRecvByte :=
  Function.LeftInverse.injective mapSendByte_mapRecvByte

theorem byteSum_append (front back : List UInt8)
    : byteSum (front ++ back) = byteSum front + byteSum back := by
  rw [byteSum, List.foldl_append, foldl_add_byteSum back]
  rfl

/-- Exchanging one byte exchanges one summand. -/
theorem byteSum_middle (front back : List UInt8) (byte : UInt8)
    : byteSum (front ++ byte :: back) = byteSum front + byte + byteSum back := by
  have single : byteSum [byte] = byte := UInt8.zero_add byte
  have split : byteSum (byte :: back) = byte + byteSum back := by
    rw [← List.singleton_append, byteSum_append, single]
  rw [byteSum_append, split, UInt8.add_assoc]

/-- The sum tells exchanged bytes apart. -/
theorem byteSum_middle_inj {front back : List UInt8} {byte byte' : UInt8}
    (same : byteSum (front ++ byte :: back) = byteSum (front ++ byte' :: back))
    : byte = byte' := by
  rw [byteSum_middle, byteSum_middle, UInt8.add_left_inj, UInt8.add_right_inj] at same
  exact same

-----------------------------------------------------------------------------------------
-- Both directions on a payload of any size
-----------------------------------------------------------------------------------------

/-- A sweep that would leave the buffer does, by induction over the bytes left. -/
theorem sweep_overrun {substitute summand : UInt8 → UInt8} {remaining offset : Nat}
    {state : Sweep} (within : offset ≤ bufferSize) (beyond : bufferSize < offset + remaining)
    : (sweep bufferSize substitute summand remaining offset state).overrun = true := by
  induction remaining generalizing offset state with
  | zero => omega
  | succ remaining ih =>
      rw [sweep]
      split
      · rfl
      · exact ih (by omega) (by omega)

/-- What `EncryptBuffer` makes of a packet that holds no check code yet. -/
theorem encryptBuffer_ok {packet encrypted : OutputPacket bufferSize} {size : Nat}
    (header : packetHeaderSize ≤ bufferSize) (unchecked : packet.isCheckCode = false)
    (run : encryptBuffer packet = .ok (size, encrypted))
    : size = dataSize packet.toPacketBase
      ∧ 9 + size ≤ bufferSize
      ∧ encrypted.strBuf
        = (packet.strBuf.write 9 ((packet.strBuf.read 9 size).map mapSendByte)).write 8
          [-byteSum (packet.strBuf.read 9 size)] := by
  simp only [encryptBuffer, unchecked, Bool.false_eq_true, if_false] at run
  by_cases room : 9 + dataSize packet.toPacketBase ≤ bufferSize
  · rw [encryptSweep, packetHeaderSize, sweep_inside room] at run
    simp only [Bool.false_eq_true, if_false, Except.ok.injEq, Prod.mk.injEq] at run
    obtain ⟨rfl, rfl⟩ := run
    refine ⟨rfl, room, ?_⟩
    simp only [OutputPacket.writeCbCheckCode, id, UInt8.neg_eq_not_add, byteSum]
  · have overrun : (encryptSweep packet.toPacketBase).overrun = true :=
      sweep_overrun header (Nat.not_le.mp room)
    rw [if_pos overrun] at run
    cases run

/-- What `DecryptBuffer` makes of a payload inside the buffer. -/
theorem decryptBuffer_run {packet : PacketBase bufferSize}
    (room : 9 + dataSize packet ≤ bufferSize)
    : decryptBuffer packet
      = .ok (
        if packet.getCbCheckCode
            + byteSum ((packet.strBuf.read 9 (dataSize packet)).map mapRecvByte) ≠ 0 then -1
          else dataSize packet,
        { packet with
          strBuf :=
            packet.strBuf.write 9
              ((packet.strBuf.read 9 (dataSize packet)).map mapRecvByte)
        }) := by
  have swept := foldl_add_byteSum
    ((packet.strBuf.read 9 (dataSize packet)).map mapRecvByte) packet.getCbCheckCode
  rw [List.foldl_map] at swept
  simp only [decryptBuffer, decryptSweep, packetHeaderSize, sweep_inside room, swept,
    Bool.false_eq_true, if_false]

/-- The payload length comes from the first two bytes only. -/
theorem dataSize_congr {packet packet' : PacketBase bufferSize}
    (same : packet.strBuf.read 0 2 = packet'.strBuf.read 0 2)
    : dataSize packet = dataSize packet' := by
  simp only [dataSize, PacketBase.getBodyLength, PacketBase.lengthField, same]

-----------------------------------------------------------------------------------------
-- Packets as they arrive
-----------------------------------------------------------------------------------------

/-- The packet holds its plain payload encrypted under a matching check code, in the
buffer that the length field describes.
-/
structure Sealed (store : CellStore UInt8) (size : Nat) (plain : List UInt8) : Prop where
  width : plain.length = size
  cipher_eq : store.read 9 size = plain.map mapSendByte
  code_eq : store 8 = -byteSum plain

/-- `EncryptBuffer` seals the payload it finds, and leaves the length field alone. -/
theorem encryptBuffer_sealed {packet encrypted : OutputPacket bufferSize} {size : Nat}
    (header : packetHeaderSize ≤ bufferSize) (unchecked : packet.isCheckCode = false)
    (run : encryptBuffer packet = .ok (size, encrypted))
    : Sealed encrypted.strBuf size (packet.strBuf.read 9 size)
      ∧ 9 + size ≤ bufferSize
      ∧ size = dataSize encrypted.toPacketBase := by
  obtain ⟨counted, room, stored⟩ := encryptBuffer_ok header unchecked run
  have plain : (packet.strBuf.read 9 size).length = size := by simp
  have mapped : ((packet.strBuf.read 9 size).map mapSendByte).length = size := by simp
  refine ⟨⟨plain, ?_, ?_⟩, room, ?_⟩
  · have back := CellStore.read_write_self packet.strBuf 9
      ((packet.strBuf.read 9 size).map mapSendByte)
    rw [mapped] at back
    rw [stored, CellStore.read_write_disjoint _ (Or.inr (by simp)), back]
  · have written : ∀ (store : CellStore UInt8) (code : UInt8),
        store.write 8 [code] (8 + 0) = code :=
      fun store _ => CellStore.write_apply_inside store Nat.one_pos
    rw [stored]
    exact written _ _
  · rw [counted]
    apply dataSize_congr
    rw [stored, CellStore.read_write_disjoint _ (Or.inl (by simp)),
      CellStore.read_write_disjoint _ (Or.inl (by simp))]

/-- A received packet with one byte of its sealed block exchanged. -/
structure Tampered (sent received : CellStore UInt8) (size offset : Nat) (value : UInt8)
    : Prop where
  exchanged : received offset = value
  others : ∀ i < 9 + size, i ≠ offset → received i = sent i

theorem Tampered.of_set {sent received : CellStore UInt8} {size offset : Nat}
    {value : UInt8} (inside : offset < 9 + size)
    (arrived : received.read 0 (9 + size) = (sent.read 0 (9 + size)).set offset value)
    : Tampered sent received size offset value := by
  have cell : ∀ i < 9 + size, received i = if offset = i then value else sent i := by
    intro i bound
    have at_i := congrArg (fun bytes => bytes[i]?) arrived
    simp only [List.getElem?_set, CellStore.length_read, if_pos inside] at at_i
    rw [List.getElem?_eq_getElem (by simpa using bound),
      List.getElem?_eq_getElem (by simpa using bound)] at at_i
    simp only [CellStore.getElem_read, Nat.zero_add] at at_i
    by_cases same : offset = i
    · rw [if_pos same] at at_i ⊢
      exact Option.some.inj at_i
    · rw [if_neg same] at at_i ⊢
      exact Option.some.inj at_i
  refine ⟨?_, fun i bound other => ?_⟩
  · rw [cell offset inside, if_pos rfl]
  · rw [cell i bound, if_neg (fun same => other same.symm)]

/-- The sum over a sealed packet with one byte exchanged is not zero: the check code is
another summand, or the receive table tells the two bytes of the payload apart.
-/
theorem Sealed.tampered_sum_ne {sent received : CellStore UInt8} {size offset : Nat}
    {value : UInt8} {plain : List UInt8} (intact : Sealed sent size plain)
    (tampered : Tampered sent received size offset value) (checked : 8 ≤ offset)
    (inside : offset < 9 + size) (different : value ≠ sent offset)
    : received 8 + byteSum ((received.read 9 size).map mapRecvByte) ≠ 0 := by
  have opened : (sent.read 9 size).map mapRecvByte = plain := by
    rw [intact.cipher_eq, List.map_map]
    exact (List.map_congr_left (fun byte _ => mapRecvByte_mapSendByte byte)).trans
      (List.map_id plain)
  intro balanced
  rcases Nat.eq_or_lt_of_le checked with rfl | payload
  · have untouched : received.read 9 size = sent.read 9 size :=
      CellStore.read_congr (fun i bound => tampered.others _ (by omega) (by omega))
    rw [untouched, opened, tampered.exchanged] at balanced
    exact different (intact.code_eq ▸ eq_neg_of_add_eq_zero_left balanced)
  · obtain ⟨front, rfl⟩ : ∃ front, offset = 9 + front := ⟨offset - 9, by omega⟩
    obtain ⟨back, rfl⟩ : ∃ back, size = front + (back + 1) := ⟨size - front - 1, by omega⟩
    have before : received.read 9 front = sent.read 9 front :=
      CellStore.read_congr (fun i bound => tampered.others _ (by omega) (by omega))
    have behind : received.read (9 + front + 1) back = sent.read (9 + front + 1) back :=
      CellStore.read_congr (fun i bound => tampered.others _ (by omega) (by omega))
    have code : received 8 = -byteSum plain :=
      (tampered.others 8 (by omega) (by omega)).trans intact.code_eq
    have balance : byteSum ((received.read 9 (front + (back + 1))).map mapRecvByte)
        = byteSum plain := by
      rw [code] at balanced
      exact (neg_add_eq_zero.mp balanced).symm
    rw [← opened, CellStore.read_around, CellStore.read_around, before, behind,
      List.map_append, List.map_append, List.map_cons, List.map_cons] at balance
    have same := mapRecvByte_injective (byteSum_middle_inj balance)
    exact different (tampered.exchanged.symm.trans same)

/-- A received packet that agrees with a sealed one on the length field is decrypted over
the same payload.
-/
theorem Sealed.decryptBuffer_run {encrypted : OutputPacket bufferSize} {size : Nat}
    (room : 9 + size ≤ bufferSize) (counted : size = dataSize encrypted.toPacketBase)
    {received : PacketBase bufferSize}
    (header : ∀ i < 2, received.strBuf i = encrypted.strBuf i)
    : Yields decryptBuffer received
        (if received.strBuf 8 + byteSum ((received.strBuf.read 9 size).map mapRecvByte) ≠ 0
          then -1 else size)
        { received with
          strBuf := received.strBuf.write 9 ((received.strBuf.read 9 size).map mapRecvByte)
        } := by
  have same : dataSize received = size := by
    rw [counted]
    exact dataSize_congr (CellStore.read_congr (fun i bound => by simpa using header i bound))
  have run := EncryptDecrypt.decryptBuffer_run (same ▸ room : 9 + dataSize received ≤ bufferSize)
  rwa [same] at run

/-- A sealed packet that arrives as it was sent is restored. -/
theorem Sealed.restored {encrypted : OutputPacket bufferSize} {size : Nat}
    {plain : List UInt8} (intact : Sealed encrypted.strBuf size plain)
    (room : 9 + size ≤ bufferSize) (counted : size = dataSize encrypted.toPacketBase)
    {received : PacketBase bufferSize}
    (arrived : received.strBuf.read 0 (9 + size) = encrypted.strBuf.read 0 (9 + size))
    : ∃ next,
        Yields decryptBuffer received (size : Int) next
        ∧ next.strBuf.read 9 size = plain := by
  have cell : ∀ i < 9 + size, received.strBuf i = encrypted.strBuf i := by
    intro i bound
    simpa using CellStore.apply_eq_of_read arrived bound
  have opened : (received.strBuf.read 9 size).map mapRecvByte = plain := by
    have untouched : received.strBuf.read 9 size = encrypted.strBuf.read 9 size :=
      CellStore.read_congr (fun i bound => cell _ (by omega))
    rw [untouched, intact.cipher_eq, List.map_map]
    exact (List.map_congr_left (fun byte _ => mapRecvByte_mapSendByte byte)).trans
      (List.map_id plain)
  have run := Sealed.decryptBuffer_run room counted (fun i bound => cell i (by omega))
  have balanced : received.strBuf 8 + byteSum plain = 0 := by
    rw [cell 8 (by omega), intact.code_eq]
    exact neg_add_cancel _
  rw [opened, if_neg (not_not.mpr balanced)] at run
  refine ⟨_, run, ?_⟩
  have back := CellStore.read_write_self received.strBuf 9 plain
  rwa [intact.width] at back

/-- A sealed packet that arrives with one byte exchanged is refused. -/
theorem Sealed.refused {encrypted : OutputPacket bufferSize} {size offset : Nat}
    {value : UInt8} {plain : List UInt8} (intact : Sealed encrypted.strBuf size plain)
    (room : 9 + size ≤ bufferSize) (counted : size = dataSize encrypted.toPacketBase)
    {received : PacketBase bufferSize} (checked : 8 ≤ offset) (inside : offset < 9 + size)
    (different : value ≠ encrypted.strBuf offset)
    (arrived
      : received.strBuf.read 0 (9 + size)
        = (encrypted.strBuf.read 0 (9 + size)).set offset value)
    : ∃ next, Yields decryptBuffer received (-1) next := by
  have tampered := Tampered.of_set inside arrived
  have run := Sealed.decryptBuffer_run room counted
    (fun i bound => tampered.others i (by omega) (by omega))
  rw [if_pos (intact.tampered_sum_ne tampered checked inside different)] at run
  exact ⟨_, run⟩

/-- Any exchange of one byte of an encrypted payload, or of its check code, is detected;
the untouched packet is restored. The receive table is injective, so the exchanged byte
changes the sum that the check code makes zero.
-/
theorem one_exchanged_byte_detected (packet encrypted : NETOutputPacket) (size : Nat)
    (unchecked : packet.isCheckCode = false)
    (run : encryptBuffer packet = .ok (size, encrypted))
    : (∀ received : NETInputPacket,
        received.strBuf.read 0 (9 + size) = encrypted.strBuf.read 0 (9 + size)
        → ∃ next,
            Yields decryptBuffer received (size : Int) next
            ∧ next.strBuf.read 9 size = packet.strBuf.read 9 size)
      ∧ ∀ (received : NETInputPacket) (offset : Nat) (value : UInt8),
          8 ≤ offset
          → offset < 9 + size
          → value ≠ encrypted.strBuf offset
          → received.strBuf.read 0 (9 + size)
            = (encrypted.strBuf.read 0 (9 + size)).set offset value
          → ∃ next, Yields decryptBuffer received (-1) next := by
  obtain ⟨intact, room, counted⟩ := encryptBuffer_sealed (by decide) unchecked run
  constructor
  · intro received arrived
    exact intact.restored room counted arrived
  · intro received offset value checked inside different arrived
    exact intact.refused room counted checked inside different arrived

/-- A packet of one integer. -/
theorem one_exchanged_byte_detected_int
    : ∃ packet encrypted : NETOutputPacket,
        encryptBuffer packet = .ok (4, encrypted)
        ∧ (∀ received : NETInputPacket,
          received.strBuf.read 0 (9 + 4) = encrypted.strBuf.read 0 (9 + 4)
          → ∃ next,
              Yields decryptBuffer received (4 : Nat) next
              ∧ next.strBuf.read 9 4 = packet.strBuf.read 9 4)
        ∧ ∀ (received : NETInputPacket) (offset : Nat) (value : UInt8),
            8 ≤ offset
            → offset < 9 + 4
            → value ≠ encrypted.strBuf offset
            → received.strBuf.read 0 (9 + 4)
              = (encrypted.strBuf.read 0 (9 + 4)).set offset value
            → ∃ next, Yields decryptBuffer received (-1) next := by
  have started := carries_beginPacket (OutputPacket.ofStale (default : PacketBase 8192)) 257
  have written := started.writeAll [.int 7] (by decide)
  obtain ⟨encrypted, run, _⟩ := written.encryptBuffer (by decide) (by decide)
  exact ⟨_, encrypted, run, one_exchanged_byte_detected _ _ 4 rfl run⟩

end EncryptDecrypt

end ProxyServer.Packets
