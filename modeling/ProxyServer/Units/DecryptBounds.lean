import ProxyServer.Units.ClientFraming
import ProxyServer.Units.ServerFrames

/-! The offsets that the loop of `DecryptBuffer` touches.
The loop runs `(WORD)(GetBodyLength()-7)` times. A client's frame is only checked to be
complete, and the inner packet of a helper frame not at all.
-/

namespace ProxyServer.Units

open WordBytes Packets EncryptDecrypt

/-- Every offset the loop reads and writes lies in the payload, and in the buffer. -/
def DecryptSafe (packet : NETInputPacket) : Prop :=
  ∀ offset ∈ (decryptSweep packet).touched,
    9 ≤ offset ∧ (offset : Int) < packet.nPacketSize ∧ offset < 8192

/-- The length field names the bare header, or a payload that the packet and the buffer
hold.
-/
def LengthFits (packet : NETInputPacket) : Prop :=
  packet.lengthField = 7
    ∨ 7 < packet.lengthField ∧ (packet.lengthField + 2 : Int) ≤ packet.nPacketSize
      ∧ packet.lengthField + 2 ≤ 8192

theorem lengthField_lt (packet : NETInputPacket) : packet.lengthField < 65536 := by
  have bound := ofBytes_lt (packet.strBuf.read 0 2)
  rwa [CellStore.length_read] at bound

/-- The loop count in terms of the length field: below 7 it wraps around. -/
theorem dataSize_eq (packet : NETInputPacket)
    : dataSize packet
      = if packet.lengthField < 7 then packet.lengthField + 65529
        else packet.lengthField - 7 := by
  have bound := lengthField_lt packet
  have field : packet.getBodyLength % 65536 = packet.lengthField % 65536 := by
    rw [PacketBase.getBodyLength, signed]
    exact Int.bmod_emod
  rw [dataSize, toWord]
  split <;> omega

theorem touched_eq (packet : NETInputPacket)
    : (decryptSweep packet).touched = List.range' 9 (min (dataSize packet) 8184) := by
  rw [decryptSweep, packetHeaderSize, sweep_touched _ _ _ (by omega), List.nil_append]

/-- The loop stays in the payload exactly when the length field fits, by comparing the last
offset it touches.
-/
theorem decryptSafe_iff (packet : NETInputPacket)
    : DecryptSafe packet ↔ LengthFits packet := by
  have bound := lengthField_lt packet
  have size := dataSize_eq packet
  unfold DecryptSafe LengthFits
  simp only [touched_eq, List.mem_range'_1]
  constructor
  · intro safe
    by_contra unfit
    have nonempty : 0 < min (dataSize packet) 8184 := by
      split at size <;> omega
    have last := safe (9 + (min (dataSize packet) 8184 - 1)) (by omega)
    split at size <;> omega
  · intro fits offset touched
    split at size <;> omega

/-- A copied packet's length field is that of the copied bytes. -/
theorem lengthFits_copied {bytes : List UInt8} (stale : NETInputPacket)
    (field : 2 ≤ bytes.length) (fits : bytes.length ≤ 8192)
    : LengthFits (copied stale bytes)
      ↔ contentLength bytes = 7
        ∨ 7 < contentLength bytes ∧ contentLength bytes + 2 ≤ bytes.length := by
  have size : (copied stale bytes).nPacketSize = bytes.length := by
    rw [copied, PacketBase.copy_fits fits]
  have same : (copied stale bytes).lengthField = contentLength bytes := by
    rw [PacketBase.lengthField, copied, PacketBase.copy_read fits (by omega), List.drop_zero,
      contentLength]
  rw [LengthFits, same, size]
  omega

/-- A client's frame is as long as its length field says. -/
theorem accepted_frame {data : List UInt8} (positive : 0 < handleInput data)
    : (data.take (handleInput data).toNat).length = contentLength data + 2
      ∧ contentLength data + 2 ≤ 8000
      ∧ contentLength (data.take (handleInput data).toNat) = contentLength data := by
  obtain ⟨length, whole, header, small⟩ := handleInput_frame positive
  unfold pkglen at length
  refine ⟨?_, by omega, ?_⟩
  · rw [List.length_take_of_le whole]
    omega
  · rw [contentLength, List.take_take, Nat.min_eq_left (by omega), contentLength]

/-- The two ways a packet comes to be decrypted. A client's frame that `HandleInput` accepts
is swept in bounds exactly when its length field is at least 7. The inner packet of a
helper frame is swept in bounds exactly when its length field fits it.
-/
theorem decrypt_in_bounds_iff (data frame : List UInt8) (stale staleTemp : NETInputPacket)
    : (0 < handleInput data
        → (DecryptSafe (copied stale (data.take (handleInput data).toNat))
          ↔ 7 ≤ contentLength data))
      ∧ ∀ order tempPacket,
          helperOrder stale staleTemp frame = .ok order
          → order.decrypts = some tempPacket
          → (DecryptSafe tempPacket ↔ LengthFits tempPacket) := by
  refine ⟨?_, fun _ tempPacket _ _ => decryptSafe_iff tempPacket⟩
  intro positive
  obtain ⟨taken, small, field⟩ := accepted_frame positive
  rw [decryptSafe_iff, lengthFits_copied stale (by omega) (by omega), taken, field]
  omega

/-- A request for the player count with an empty payload, and a login answer of a helper
with an empty payload.
-/
theorem decrypt_in_bounds_iff_empty_payloads
    : let request : List UInt8 := [0, 7, 66, 89, 1, 1, 0x30, 0x18, 0]
      let answer : List UInt8 := [0, 7, 66, 89, 1, 1, 0x02, 0x01, 0]
      (DecryptSafe (copied blank (request.take (handleInput request).toNat))
          ↔ 7 ≤ contentLength request)
        ∧ helperOrder blank blank (frameAround 0 28 answer)
          = .ok (.toClient 7 serverCmdLoginSuccess answer (copied blank answer))
        ∧ (DecryptSafe (copied blank answer) ↔ LengthFits (copied blank answer)) := by
  intro request answer
  have command : (copied blank answer).getCmdType = serverCmdLoginSuccess := by
    rw [copied_getCmdType blank (by decide) (by decide)]
    decide
  have packet : ClientPacketFrame (frameAround 0 28 answer) 7 answer :=
    frameAround_clientPacket rfl (by decide)
  have order : innerOrder 7 answer (copied blank answer)
      = .toClient 7 serverCmdLoginSuccess answer (copied blank answer) := by
    rw [innerOrder, command, if_neg (by decide)]
  have run := (packet.helperOrder_eq (by decide) blank blank).2
  rw [order] at run
  have decrypts
      : (HelperOrder.toClient 7 serverCmdLoginSuccess answer (copied blank answer)).decrypts
        = some (copied blank answer) := by
    rw [HelperOrder.decrypts, if_pos (Or.inl rfl)]
  have both := decrypt_in_bounds_iff request (frameAround 0 28 answer) blank blank
  exact ⟨both.1 (by decide), run, both.2 _ (copied blank answer) run decrypts⟩

/-- A request for the player count of 8 bytes, with more bytes behind it: `HandleInput`
accepts it, and the loop runs from the payload to the end of the buffer and beyond.
-/
theorem short_request_decrypted_out_of_bounds
    : let request : List UInt8 := [0, 6, 66, 89, 1, 1, 0x30, 0x18, 0]
      handleInput request = 8
        ∧ ∀ stale,
            (copied stale (request.take 8)).getCmdType = serverGetPlayerCount
            ∧ 8192 ∈ (decryptSweep (copied stale (request.take 8))).touched
            ∧ ¬DecryptSafe (copied stale (request.take 8)) := by
  intro request
  refine ⟨by decide, fun stale => ?_⟩
  have fits : (request.take 8).length ≤ 8192 := by decide
  have field : (copied stale (request.take 8)).lengthField = 6 := by
    rw [PacketBase.lengthField, copied, PacketBase.copy_read fits (by decide)]
    decide
  have outside : 8192 ∈ (decryptSweep (copied stale (request.take 8))).touched := by
    rw [touched_eq, dataSize_eq, field, if_pos (by decide), List.mem_range'_1]
    omega
  refine ⟨?_, outside, fun safe => by have := safe 8192 outside; omega⟩
  rw [PacketBase.getCmdType, copied, PacketBase.copy_read fits (by decide)]
  decide

end ProxyServer.Units
