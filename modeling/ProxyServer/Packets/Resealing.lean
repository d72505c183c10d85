import ProxyServer.Packets.CodeByte

/-! Decrypting received bytes and encrypting them again: the payload comes back, since the tables
undo each other, and the check code is computed anew.
-/

namespace ProxyServer.Packets

open WordBytes

namespace EncryptDecrypt

variable {bufferSize : Nat}

/-- The sum of the decrypted payload of some bytes. -/
def plainSum (bytes : List UInt8) : UInt8 :=
  byteSum ((bytes.drop 9).map mapRecvByte)

/-- The bytes with their payload decrypted. -/
def opened (bytes : List UInt8) : List UInt8 :=
  bytes.take 9 ++ (bytes.drop 9).map mapRecvByte

/-- The bytes with the check code that `EncryptBuffer` computes. -/
def resealed (bytes : List UInt8) : List UInt8 :=
  bytes.take 8 ++ -plainSum bytes :: bytes.drop 9

/-- The bytes stay the same exactly when they had the right check code. -/
theorem resealed_eq_iff {bytes : List UInt8} (long : 9 ≤ bytes.length)
    : resealed bytes = bytes ↔ bytes.getD 8 0 = -plainSum bytes := by
  have split : bytes = bytes.take 8 ++ bytes.getD 8 0 :: bytes.drop 9 := by
    have cell : bytes.getD 8 0 = bytes[8] := by
      rw [List.getD_eq_getElem?_getD, List.getElem?_eq_getElem (by omega), Option.getD_some]
    rw [cell, List.getElem_cons_drop, List.take_append_drop]
  constructor
  · intro same
    rw [resealed] at same
    have tails := List.append_cancel_left (same.trans split)
    exact (List.cons.inj tails).1.symm
  · intro right
    rw [resealed, ← right]
    exact split.symm

theorem length_opened (bytes : List UInt8) : (opened bytes).length = bytes.length := by
  rw [opened, List.length_append, List.length_map, ← List.length_append, List.take_append_drop]

theorem length_resealed {bytes : List UInt8} (long : 9 ≤ bytes.length)
    : (resealed bytes).length = bytes.length := by
  rw [resealed, List.length_append, List.length_cons, List.length_take, List.length_drop]
  omega

/-- The payload behind `EncryptBuffer` is the one before `DecryptBuffer`. -/
theorem map_mapSendByte_mapRecvByte (payload : List UInt8)
    : (payload.map mapRecvByte).map mapSendByte = payload := by
  rw [List.map_map]
  exact (List.map_congr_left (fun byte _ => mapSendByte_mapRecvByte byte)).trans
    (List.map_id payload)

/-- Bytes whose length field describes them, with a whole header, inside a buffer. -/
structure Described (bufferSize : Nat) (bytes : List UInt8) : Prop where
  header : 9 ≤ bytes.length
  room : bytes.length ≤ bufferSize
  field : ofBytes (bytes.take 2) + 2 = bytes.length
  short : bytes.length ≤ 32000

/-- The payload of copied bytes is all that stands behind the header. -/
theorem dataSize_copy {bytes : List UInt8} {packet : PacketBase bufferSize}
    (described : Described bufferSize bytes)
    : dataSize (packet.copy bytes).2 = bytes.length - 9 := by
  obtain ⟨header, room, field, short⟩ := described
  have first : (packet.copy bytes).2.strBuf.read 0 2 = bytes.take 2 := by
    rw [PacketBase.copy_read room (by omega), List.drop_zero]
  have body : (packet.copy bytes).2.getBodyLength = (bytes.length - 2 : Int) := by
    rw [PacketBase.getBodyLength, PacketBase.lengthField, first, signed]
    have range : (ofBytes (bytes.take 2) : Int) = bytes.length - 2 := by omega
    rw [range]
    exact Int.bmod_eq_of_le (by omega) (by omega)
  rw [dataSize, body, toWord]
  omega

/-- `DecryptBuffer` of copied bytes. -/
theorem decryptBuffer_copy {bytes : List UInt8} {packet : PacketBase bufferSize}
    (described : Described bufferSize bytes)
    : ∃ ret decrypted,
        decryptBuffer (packet.copy bytes).2 = .ok (ret, decrypted)
          ∧ decrypted.nPacketSize = bytes.length ∧ decrypted.nBufPos = 9
          ∧ decrypted.bytes = opened bytes := by
  have size := @dataSize_copy bufferSize bytes packet described
  obtain ⟨header, room, -, -⟩ := described
  have run := @decryptBuffer_run bufferSize (packet.copy bytes).2 (by rw [size]; omega)
  refine ⟨_, _, run, by rw [PacketBase.copy_fits room], by rw [PacketBase.copy_fits room], ?_⟩
  have split : bytes.length = 9 + (bytes.length - 9) := by omega
  have payload : (packet.copy bytes).2.strBuf.read 9 (bytes.length - 9) = bytes.drop 9 := by
    rw [PacketBase.copy_read room (by omega), List.take_of_length_le (by rw [List.length_drop])]
  have mapped : ((bytes.drop 9).map mapRecvByte).length = bytes.length - 9 := by
    rw [List.length_map, List.length_drop]
  have back := CellStore.read_write_self (packet.copy bytes).2.strBuf 9
    ((bytes.drop 9).map mapRecvByte)
  rw [mapped] at back
  have whole : (packet.copy bytes).2.nPacketSize.toNat = 9 + (bytes.length - 9) := by
    rw [PacketBase.copy_fits room]
    dsimp only
    omega
  rw [PacketBase.bytes, size, payload]
  dsimp only
  rw [whole, CellStore.read_add, CellStore.read_write_disjoint _ (Or.inl (by omega)), back,
    PacketBase.copy_read room (by omega), List.drop_zero]
  rfl

theorem Described.opened {bytes : List UInt8} (described : Described bufferSize bytes)
    : Described bufferSize (opened bytes) := by
  obtain ⟨header, room, field, short⟩ := described
  have first : (EncryptDecrypt.opened bytes).take 2 = bytes.take 2 := by
    rw [EncryptDecrypt.opened, List.take_append_of_le_length, List.take_take]
    · rfl
    · rw [List.length_take]
      omega
  have length := length_opened bytes
  refine ⟨by omega, by omega, ?_, by omega⟩
  rw [first, length]
  exact field

/-- `EncryptBuffer` of a copy of the opened bytes reseals them. -/
theorem encryptBuffer_copy {bytes : List UInt8} {packet : OutputPacket bufferSize}
    (described : Described bufferSize bytes) (unchecked : packet.isCheckCode = false)
    : ∃ ret encrypted,
        encryptBuffer (packet.copy (opened bytes)).2 = .ok (ret, encrypted)
          ∧ encrypted.contents = .ok (resealed bytes) := by
  have length := length_opened bytes
  have size : dataSize (packet.copy (opened bytes)).2.toPacketBase = bytes.length - 9 := by
    rw [← length]
    exact dataSize_copy described.opened
  obtain ⟨header, room, -, -⟩ := described
  have header' : 9 ≤ (opened bytes).length := by omega
  have room' : (opened bytes).length ≤ bufferSize := by omega
  have copied : (packet.copy (opened bytes)).2.toPacketBase
      = (packet.toPacketBase.copy (opened bytes)).2 := rfl
  have plain : (opened bytes).drop 9 = (bytes.drop 9).map mapRecvByte := by
    rw [opened, List.drop_append_of_le_length, List.drop_of_length_le, List.nil_append]
    · rw [List.length_take]
      omega
    · rw [List.length_take]
      omega
  have payload : (packet.copy (opened bytes)).2.strBuf.read 9 (bytes.length - 9)
      = (bytes.drop 9).map mapRecvByte := by
    rw [← plain, copied, PacketBase.copy_read room' (by omega),
      List.take_of_length_le (by rw [List.length_drop]; omega)]
  have head : (packet.copy (opened bytes)).2.strBuf.read 0 8 = bytes.take 8 := by
    rw [copied, PacketBase.copy_read room' (by omega), List.drop_zero, opened,
      List.take_append_of_le_length, List.take_take]
    · rfl
    · rw [List.length_take]
      omega
  have run := @encryptBuffer_run bufferSize (packet.copy (opened bytes)).2 _ _ unchecked size
    payload (by omega)
  rw [map_mapSendByte_mapRecvByte] at run
  refine ⟨_, _, run, ?_⟩
  have whole : (packet.copy (opened bytes)).2.nPacketSize = bytes.length := by
    rw [copied, PacketBase.copy_fits room', length]
  have split : (bytes.length : Int).toNat = 8 + (bytes.length - 9 + 1) := by omega
  have width : (bytes.drop 9).length = bytes.length - 9 := List.length_drop
  have code : ∀ (store : CellStore UInt8) (value : UInt8), store.write 8 [value] (8 + 0) = value :=
    fun store _ => CellStore.write_apply_inside store Nat.one_pos
  have tail := CellStore.read_write_self (packet.copy (opened bytes)).2.strBuf 9 (bytes.drop 9)
  rw [width] at tail
  have resealed : (((packet.copy (opened bytes)).2.strBuf.write 9 (bytes.drop 9)).write 8
      [-plainSum bytes]).read 0 (bytes.length : Int).toNat = resealed bytes := by
    rw [split, CellStore.read_around, CellStore.read_write_disjoint _ (Or.inl (by omega)),
      CellStore.read_write_disjoint _ (Or.inl (by omega)), head, Nat.zero_add, code,
      CellStore.read_write_disjoint _ (Or.inr (by simp)), tail]
    rfl
  rw [← resealed, ← whole]
  refine if_neg (not_or.mpr ⟨?_, ?_⟩)
  · exact not_lt.mpr (whole ▸ Int.natCast_nonneg _)
  · exact not_lt.mpr (whole ▸ Int.ofNat_le.mpr room)

end EncryptDecrypt

end ProxyServer.Packets
