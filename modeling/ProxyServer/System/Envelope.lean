import ProxyServer.Units.DecryptBounds
import ProxyServer.System.ClientFrames

/-! The envelope in which a client's frame goes to a helper.
The results of its writes are ignored, so what the helper reads depends on the frame limit
of `HandleInput` leaving room for the header and the fields in front of the frame.
-/

namespace ProxyServer.System

open Packets ProxyServer.Units
open WordBytes
open FaultState (Yields)

/-- The writes of the envelope, with the results that the code ignores. -/
def envelopeWrites {bufferSize : Nat} (uid svid : Int) (ip : Nat) (api : Int)
    (data : List UInt8)
    : StateM (OutputPacket bufferSize) (List Bool) := do
  let uidWritten ← OutputPacket.writeInt uid
  let svidWritten ← OutputPacket.writeInt svid
  let ipWritten ← OutputPacket.writeInt (toInt32 ip)
  let apiWritten ← OutputPacket.writeShort api
  let dataWritten ← OutputPacket.writeBinary data
  pure [uidWritten, svidWritten, ipWritten, apiWritten, dataWritten]

/-- The packet that the envelope's writes start from. -/
def envelopeStart : NETOutputPacket :=
  (OutputPacket.ofStale default).beginPacket clientPacket2

/-- The fields of the envelope. An address is written as the `int` with its bits. -/
def envelopeFields (uid svid : Int32) (ip : UInt32) (api : Int16) (data : List UInt8)
    : List Field :=
  [.int uid, .int svid, .int ip.toInt32, .short api, .binary data]

/-- A packet built by writes whose results are ignored. -/
theorem build_ignoring {bufferSize : Nat} {α : Type} (nCommand : Int)
    (writes : StateM (OutputPacket bufferSize) α)
    : OutputPacket.build nCommand (do let _ ← writes)
      = (writes.run ((OutputPacket.ofStale default).beginPacket nCommand)).2.endPacket :=
  rfl

/-- The envelope is what its writes leave, after `End`. -/
theorem envelope_eq (uid svid : Int) (ip : Nat) (api : Int) (data : List UInt8)
    : envelope uid svid ip api data
      = ((envelopeWrites uid svid ip api data).run envelopeStart).2.endPacket := by
  rw [envelopeStart, ← build_ignoring]
  simp only [envelope, envelopeWrites, bind_assoc, pure_bind]

theorem toInt_toInt32 (ip : UInt32) : ip.toInt32.toInt = toInt32 ip.toNat := by
  rw [toInt32, ← Int32.toInt_toBitVec, BitVec.toInt_eq_toNat_bmod]
  rfl

/-- The address read as an `int` is the address again. -/
theorem toUInt32_toInt32 (ip : UInt32) : toUInt32 (toInt32 ip.toNat) = ip.toNat := by
  have bound := ip.toNat_lt
  have same : Int.bmod ip.toNat 4294967296 % 4294967296 = ip.toNat % 4294967296 :=
    Int.bmod_emod
  rw [toUInt32, toInt32, same]
  omega

/-- Five writes in a row, with their results in order. -/
theorem run_five {σ : Type} (first second third fourth fifth : StateM σ Bool) (start : σ)
    : (do
        let a ← first
        let b ← second
        let c ← third
        let d ← fourth
        let e ← fifth
        pure [a, b, c, d, e] : StateM σ (List Bool)).run start
      = let s₁ := (first start).2
        let s₂ := (second s₁).2
        let s₃ := (third s₂).2
        let s₄ := (fourth s₃).2
        ([(first start).1, (second s₁).1, (third s₂).1, (fourth s₃).1, (fifth s₄).1],
          (fifth s₄).2) :=
  rfl

/-- The payload of an envelope. -/
def envelopePayload (uid svid : Int) (ip : Nat) (api : Int) (data : List UInt8)
    : List UInt8 :=
  toBytes 4 (unsigned 32 uid) ++ toBytes 4 (unsigned 32 svid)
    ++ toBytes 4 (unsigned 32 (toInt32 ip)) ++ toBytes 2 (unsigned 16 api)
    ++ (toBytes 4 (unsigned 32 data.length) ++ data)

/-- Every write of an envelope with room for its payload succeeds. -/
theorem envelopeWrites_payload {bufferSize : Nat} {start : OutputPacket bufferSize}
    {command : Int} (started : Carries start command []) (uid svid : Int) (ip : Nat)
    (api : Int) {data : List UInt8} (room : 27 + data.length ≤ bufferSize)
    : ((envelopeWrites uid svid ip api data).run start).1 = [true, true, true, true, true]
      ∧ Carries ((envelopeWrites uid svid ip api data).run start).2 command
        (envelopePayload uid svid ip api data) := by
  have first := started.writeRaw (toBytes 4 (unsigned 32 uid))
    (by simp only [List.length_append, length_toBytes, List.length_nil]; omega)
  have second := first.2.writeRaw (toBytes 4 (unsigned 32 svid))
    (by simp only [List.length_append, length_toBytes, List.length_nil]; omega)
  have third := second.2.writeRaw (toBytes 4 (unsigned 32 (toInt32 ip)))
    (by simp only [List.length_append, length_toBytes, List.length_nil]; omega)
  have fourth := third.2.writeRaw (toBytes 2 (unsigned 16 api))
    (by simp only [List.length_append, length_toBytes, List.length_nil]; omega)
  have fifth := fourth.2.writeRaw_writeRaw (toBytes 4 (unsigned 32 data.length)) data
    (by simp only [List.length_append, length_toBytes, List.length_nil]; omega)
  rw [envelopeWrites, run_five]
  constructor
  · exact congrArg₂ List.cons first.1 (congrArg₂ List.cons second.1 (congrArg₂ List.cons third.1
      (congrArg₂ List.cons fourth.1 (congrArg₂ List.cons fifth.1 rfl))))
  · exact fifth.2

/-- Every write of an envelope with room for its fields succeeds. -/
theorem envelopeWrites_carries {bufferSize : Nat} {start : OutputPacket bufferSize}
    {command : Int} (started : Carries start command []) (uid svid : Int32) (ip : UInt32)
    (api : Int16) {data : List UInt8} (room : 27 + data.length ≤ bufferSize)
    : ((envelopeWrites uid.toInt svid.toInt ip.toNat api.toInt data).run start).1
        = [true, true, true, true, true]
      ∧ Carries
        ((envelopeWrites uid.toInt svid.toInt ip.toNat api.toInt data).run start).2
        command ((envelopeFields uid svid ip api data).flatMap Field.encoding) := by
  have encoded : (envelopeFields uid svid ip api data).flatMap Field.encoding
      = envelopePayload uid.toInt svid.toInt ip.toNat api.toInt data := by
    simp only [envelopeFields, envelopePayload, List.flatMap_cons, List.flatMap_nil,
      Field.encoding, toInt_toInt32, List.append_assoc, List.append_nil]
  rw [encoded]
  exact envelopeWrites_payload started uid.toInt svid.toInt ip.toNat api.toInt room

/-- The fields of an envelope take 18 bytes and its frame. -/
theorem length_envelopeFields (uid svid : Int32) (ip : UInt32) (api : Int16)
    (data : List UInt8)
    : ((envelopeFields uid svid ip api data).flatMap Field.encoding).length
      = 18 + data.length := by
  simp only [envelopeFields, List.flatMap_cons, List.flatMap_nil, Field.encoding,
    List.length_append, length_toBytes, List.length_nil]
  omega

/-- What a packet of an envelope's writes must be for its reader: every write has
succeeded, the length field is right, and the fields come back in order.
-/
structure ReadsBack (uid svid : Int32) (ip : UInt32) (api : Int16) (frame : List UInt8)
    (nMaxLen : Int) (stale : NETInputPacket) (results : List Bool)
    (packet : NETOutputPacket)
    : Prop where
  succeed : results = [true, true, true, true, true]
  fits : packet.nPacketSize ≤ 8192
  described : packet.lengthField = packet.nPacketSize - 2
  copied : (stale.copy packet.bytes).1 = true
  fields
    : ∃ final,
        Yields ([FieldType.int, .int, .int, .short, .binary nMaxLen].mapM FieldType.read)
          (stale.copy packet.bytes).2
          [.int uid.toInt, .int svid.toInt, .int (toInt32 ip.toNat), .short api.toInt,
            .binary frame.length frame] final
        ∧ final.nBufPos = final.nPacketSize
  address : toUInt32 (toInt32 ip.toNat) = ip.toNat

/-- A packet that carries the fields of an envelope reads back, after `End`. -/
theorem readsBack_of_carries {packet : NETOutputPacket} {results : List Bool}
    {uid svid : Int32} {ip : UInt32} {api : Int16} {frame : List UInt8} {nMaxLen : Int}
    (succeed : results = [true, true, true, true, true])
    (carries
      : Carries packet clientPacket2
        ((envelopeFields uid svid ip api frame).flatMap Field.encoding))
    (short : frame.length ≤ 8000) (large : frame.length ≤ nMaxLen) (stale : NETInputPacket)
    : ReadsBack uid svid ip api frame nMaxLen stale results packet.endPacket := by
  have length := length_envelopeFields uid svid ip api frame
  obtain ⟨ended, described⟩ := carries.endPacket (by omega)
  have size := ended.size_eq
  obtain ⟨copied, unread⟩ := ended.arrives (by omega) (by decide) stale
  have asked : List.Forall₂ Field.ReadBy (envelopeFields uid svid ip api frame)
      [FieldType.int, .int, .int, .short, .binary nMaxLen] :=
    .cons trivial (.cons trivial (.cons trivial (.cons trivial (.cons large .nil))))
  rw [← List.append_nil (List.flatMap _ _)] at unread
  obtain ⟨final, reads, rest⟩ := unread.readAll asked
  refine ⟨succeed, by omega, ?_, copied, ⟨final, ?_, ?_⟩, toUInt32_toInt32 ip⟩
  · rw [PacketBase.lengthField, described, ofBytes_toBytes, Nat.mod_eq_of_lt (by omega)]
    omega
  · rw [← toInt_toInt32]
    exact reads
  · have cursor := rest.cursor_eq
    simpa using cursor

/-- The envelope of any frame that `HandleInput` accepts is written without a failure,
describes its own size, and is read back as it was meant.
-/
theorem envelope_read_back (data : List UInt8) (accepted : 0 < handleInput data)
    (uid svid : Int32) (ip : UInt32) (api : Int16) (nMaxLen : Int)
    (large : handleInput data ≤ nMaxLen) (stale : NETInputPacket)
    : ReadsBack uid svid ip api (data.take (handleInput data).toNat) nMaxLen stale
        ((envelopeWrites uid.toInt svid.toInt ip.toNat api.toInt
          (data.take (handleInput data).toNat)).run envelopeStart).1
        (envelope uid.toInt svid.toInt ip.toNat api.toInt
          (data.take (handleInput data).toNat)) := by
  obtain ⟨length, limit, _⟩ := accepted_frame accepted
  obtain ⟨_, whole, _, _⟩ := handleInput_frame accepted
  have size := List.length_take_of_le whole
  have started : Carries envelopeStart clientPacket2 [] := carries_beginPacket _ _
  have room : 27 + (data.take (handleInput data).toNat).length ≤ 8192 := by omega
  obtain ⟨succeed, carries⟩ := envelopeWrites_carries started uid svid ip api room
  rw [envelope_eq]
  exact readsBack_of_carries succeed carries (by omega) (by omega) stale

/-- A frame of 10 bytes, read into a buffer of 10240. -/
theorem envelope_read_back_ten
    : ReadsBack 5 1 3232235777 2 [0, 8, 66, 89, 1, 1, 1, 2, 0, 7] 10240 default
        ((envelopeWrites (Int32.toInt 5) (Int32.toInt 1) (UInt32.toNat 3232235777)
          (Int16.toInt 2) [0, 8, 66, 89, 1, 1, 1, 2, 0, 7]).run envelopeStart).1
        (envelope (Int32.toInt 5) (Int32.toInt 1) (UInt32.toNat 3232235777)
          (Int16.toInt 2) [0, 8, 66, 89, 1, 1, 1, 2, 0, 7]) := by
  have accepted : handleInput [0, 8, 66, 89, 1, 1, 1, 2, 0, 7] = 10 := by decide +kernel
  have back := envelope_read_back [0, 8, 66, 89, 1, 1, 1, 2, 0, 7] (by rw [accepted]; decide)
    5 1 3232235777 2 10240 (by rw [accepted]; decide) default
  rwa [accepted] at back

end ProxyServer.System
