import ProxyServer.Packets.Resealing
import ProxyServer.System.Delivery
import ProxyServer.System.Envelope

/-! Requests for a new room: `ProcUserGetNewRoom2` decrypts the frame to read the level and
encrypts it again for the helper, where other commands are forwarded as they came.
-/

namespace ProxyServer.System

open Packets ProxyServer.Units
open Packets.EncryptDecrypt (Described opened resealed plainSum)
open FaultState (Yields Delivers yields_bind yields_pure yields_get yields_modify)

-----------------------------------------------------------------------------------------
-- Frames
-----------------------------------------------------------------------------------------

/-- The frame that `HandleInput` finds in front of buffered bytes. -/
def frontFrame (data : List UInt8) : List UInt8 :=
  data.take (handleInput data).toNat

/-- An accepted frame with a whole body is described by its length field. -/
theorem frontFrame_described {data : List UInt8} (accepted : 0 < handleInput data)
    (body : 7 ≤ contentLength data)
    : Described 8192 (frontFrame data) := by
  obtain ⟨length, limit, field⟩ := accepted_frame accepted
  rw [contentLength] at field
  exact ⟨by rw [frontFrame]; omega, by rw [frontFrame]; omega, by rw [frontFrame]; omega,
    by rw [frontFrame]; omega⟩

/-- Reading a `short` behind the header keeps the bytes. -/
theorem readShort_keeps {packet : NETInputPacket} (cursor : packet.nBufPos = 9)
    : ∃ value next, InputPacket.readShort packet = .ok (value, next)
        ∧ next.nPacketSize = packet.nPacketSize ∧ next.bytes = packet.bytes := by
  have last : toInt32 (2 + packet.nBufPos) = 11 := by
    rw [cursor]
    rfl
  have reads : ∃ raw next, (PacketBase.read 2 : PacketM 8192 _) packet = .ok (raw, next)
      ∧ next.nPacketSize = packet.nPacketSize ∧ next.bytes = packet.bytes := by
    rw [PacketBase.read, last]
    split
    · exact ⟨none, packet, rfl, rfl, rfl⟩
    · rw [if_neg (by omega)]
      exact ⟨_, _, rfl, rfl, rfl⟩
  obtain ⟨raw, next, run, size, bytes⟩ := reads
  have run : Yields (PacketBase.read 2 : PacketM 8192 _) packet raw next := run
  cases raw with
  | none => exact ⟨-1, next, yields_bind.mpr ⟨_, _, run, rfl⟩, size, bytes⟩
  | some raw => exact ⟨_, next, yields_bind.mpr ⟨_, _, run, rfl⟩, size, bytes⟩

/-- The decrypted packet behind the level. -/
theorem readLevel_opens {frame : List UInt8} (described : Described 8192 frame)
    (stale : NETInputPacket)
    : ∃ level packet,
        decryptedThen InputPacket.readShort (copied stale frame) = .ok (level, packet)
          ∧ packet.contents = .ok (opened frame) := by
  obtain ⟨ret, decrypted, decrypts, size, cursor, bytes⟩ :=
    @EncryptDecrypt.decryptBuffer_copy 8192 frame stale described
  obtain ⟨level, packet, reads, same, kept⟩ := readShort_keeps cursor
  refine ⟨level, packet, yields_bind.mpr ⟨ret, decrypted, decrypts, reads⟩, ?_⟩
  have room := described.room
  rw [PacketBase.contents, if_neg (by omega), kept, bytes]

-----------------------------------------------------------------------------------------
-- Envelopes
-----------------------------------------------------------------------------------------

/-- The envelope that `SendPacketToHelperUnit` puts around some bytes of a session. -/
def Proxy.envelopeOf (proxy : Proxy) (sid : SessionId) (data : List UInt8) : NETOutputPacket :=
  envelope (proxy.session sid).webUnit.uid proxy.global.svid (proxy.session sid).ip
    (proxy.session sid).webUnit.api data

section Envelope

variable {uid svid : Int} {ip : Nat} {api : Int} {data : List UInt8}

theorem length_envelopePayload
    : (envelopePayload uid svid ip api data).length = 18 + data.length := by
  simp only [envelopePayload, List.length_append, WordBytes.length_toBytes]
  omega

theorem envelope_carries (short : data.length ≤ 8000)
    : Carries (envelope uid svid ip api data) clientPacket2
        (envelopePayload uid svid ip api data) := by
  have started : Carries envelopeStart clientPacket2 [] := carries_beginPacket _ _
  obtain ⟨-, carries⟩ := envelopeWrites_payload started uid svid ip api
    (show 27 + data.length ≤ 8192 by omega)
  have width := @length_envelopePayload uid svid ip api data
  rw [envelope_eq]
  exact (carries.endPacket (by omega)).1

/-- The data stands behind the header and the fields. -/
theorem envelope_data (short : data.length ≤ 8000)
    : (envelope uid svid ip api data).bytes.drop 27 = data := by
  have carries := @envelope_carries uid svid ip api data short
  have size := carries.size_eq
  have payload := carries.payload_eq
  have width := @length_envelopePayload uid svid ip api data
  have whole : (envelope uid svid ip api data).bytes.drop 9
      = envelopePayload uid svid ip api data := by
    rw [PacketBase.bytes, CellStore.drop_read _ _ _ _ (by omega), size, ← payload]
    congr 1
    · rw [payload]
      omega
  have split : 27 = 9 + 18 := rfl
  rw [split, ← List.drop_drop, whole, envelopePayload, ← List.append_assoc]
  apply List.drop_left'
  simp only [List.length_append, WordBytes.length_toBytes]

theorem envelope_contents (short : data.length ≤ 8000)
    : (envelope uid svid ip api data).contents
        = .ok (envelope uid svid ip api data).bytes := by
  have size := (@envelope_carries uid svid ip api data short).size_eq
  have width := @length_envelopePayload uid svid ip api data
  rw [PacketBase.contents, if_neg (by omega)]

end Envelope

-----------------------------------------------------------------------------------------
-- Runs
-----------------------------------------------------------------------------------------

section Runs

variable {sid : SessionId} {start next : Proxy} {frame : List UInt8}

/-- An access to a session shows at most that the pointer was stale. -/
theorem useSession_shows {session : Session} (run : Yields (useSession sid) start session next)
    : session = start.session sid
      ∧ (next = start ∨ next = start.record (.usedDeleted sid)) := by
  obtain ⟨_, looked, got, rest⟩ := yields_bind.mp run
  obtain ⟨rfl, rfl⟩ := yields_get.mp got
  dsimp only at rest
  split at rest
  · obtain ⟨rfl, rfl⟩ := yields_pure.mp rest
    exact ⟨rfl, Or.inl rfl⟩
  · obtain ⟨_, noted, notes, ends⟩ := yields_bind.mp rest
    obtain ⟨rfl, rfl⟩ := yields_pure.mp ends
    exact ⟨rfl, Or.inr (yields_modify.mp notes)⟩

/-- Work on packets that goes well changes nothing. -/
theorem yields_ofExcept {α : Type} {result : Except Fault α} {value got : α}
    (ends : result = .ok value) (run : Yields (ofExcept result) start got next)
    : got = value ∧ next = start := by
  subst ends
  exact yields_pure.mp run

/-- `SendPacketToHelperUnit` appends the envelope of its bytes to the helper unit. -/
theorem sendPacketToHelperUnit_shows {hid : HelperId} {ret : Int}
    (short : frame.length ≤ 8000)
    (run : Yields (sendPacketToHelperUnit sid hid frame) start ret next)
    : ∃ misuse, (∀ happening ∈ misuse, happening = .usedDeleted sid)
        ∧ next.trace = start.trace ++ misuse
          ++ [.appended (.helper hid) (start.envelopeOf sid frame).bytes] := by
  obtain ⟨session, used, uses, rest⟩ := yields_bind.mp run
  obtain ⟨rfl, shown⟩ := useSession_shows uses
  obtain ⟨_, looked, got, builds⟩ := yields_bind.mp rest
  obtain ⟨rfl, rfl⟩ := yields_get.mp got
  clear got rest run
  obtain ⟨packet, plained, plains, gives⟩ := yields_bind.mp builds
  obtain ⟨rfl, rfl⟩ := yields_ofExcept (envelope_contents short) plains
  have appended := ((giveToHelper_delivers hid _ _).of_yields gives).1
  rcases shown with rfl | rfl
  · exact ⟨[], nofun, by rw [List.append_nil]; exact appended⟩
  · exact ⟨[.usedDeleted sid], by simp, appended⟩

/-- A choice among a level's helpers asks at most for a random number. -/
theorem getRandomHelper_asks {level : Int} {found : Option HelperId}
    (run : Yields (getRandomHelper level) start found next)
    : ∃ asked, next = { start with asked := asked } := by
  obtain ⟨_, looked, got, rest⟩ := yields_bind.mp run
  obtain ⟨rfl, rfl⟩ := yields_get.mp got
  split at rest
  · exact ⟨_, (yields_pure.mp rest).2⟩
  · exact ⟨_, (yields_pure.mp rest).2⟩
  · rename_i svids some _
    obtain ⟨svid, drawn, draws, finds⟩ := yields_bind.mp rest
    obtain ⟨-, rfl⟩ := (randomSvid_delivers (by rintro rfl; exact some rfl) _).of_yields draws
    exact ⟨_, (yields_findHelper finds).2⟩

/-- Behind a whole body, the request goes to a helper resealed. -/
theorem procUserGetNewRoom2_shows {stale : NETInputPacket} {ret : Int}
    (described : Described 8192 frame) (short : frame.length ≤ 8000)
    (run : Yields (procUserGetNewRoom2 sid (copied stale frame)) start ret next)
    : next.trace = start.trace
      ∨ ∃ hid misuse, (∀ happening ∈ misuse, happening = .usedDeleted sid)
          ∧ next.trace = start.trace ++ misuse
            ++ [.appended (.helper hid) (start.envelopeOf sid (resealed frame)).bytes] := by
  obtain ⟨level, packet, reads, contents⟩ := readLevel_opens described stale
  obtain ⟨read, looked, reading, rest⟩ := yields_bind.mp run
  obtain ⟨rfl, rfl⟩ := yields_ofExcept reads reading
  obtain ⟨found, chosen, chooses, rest⟩ := yields_bind.mp rest
  obtain ⟨asked, rfl⟩ := getRandomHelper_asks chooses
  cases found with
  | none =>
      obtain ⟨-, rfl⟩ := yields_pure.mp rest
      exact Or.inl rfl
  | some hid =>
      obtain ⟨answers, told, asks, rest⟩ := yields_bind.mp rest
      obtain ⟨rfl, rfl⟩ := yields_ask asks
      obtain ⟨decrypted, copied, copies, rest⟩ := yields_bind.mp rest
      obtain ⟨rfl, rfl⟩ := yields_ofExcept contents copies
      obtain ⟨sealed, crypted, encrypts, rest⟩ := yields_bind.mp rest
      obtain ⟨size, encrypted, encrypting, whole⟩ :=
        @EncryptDecrypt.encryptBuffer_copy 8192 frame
          (OutputPacket.ofStale (looked.world asked).stale) described rfl
      obtain ⟨result, turned, turns, plains⟩ := yields_bind.mp encrypts
      obtain ⟨rfl, rfl⟩ := yields_ofExcept encrypting turns
      obtain ⟨rfl, rfl⟩ := yields_ofExcept whole plains
      obtain ⟨sent, middle, sends, ends⟩ := yields_bind.mp rest
      obtain ⟨-, rfl⟩ := yields_pure.mp ends
      have length := EncryptDecrypt.length_resealed described.header
      obtain ⟨misuse, only, trace⟩ := sendPacketToHelperUnit_shows (by omega) sends
      exact Or.inr ⟨hid, misuse, only, trace⟩

end Runs

/-- What `ProcUserGetNewRoom2` wraps is the client's frame exactly when the frame came with the
right check code: encrypting again computes it anew.
-/
theorem newRoom_wraps_iff {data : List UInt8} (accepted : 0 < handleInput data)
    (body : 7 ≤ contentLength data) {sid : SessionId} {stale : NETInputPacket}
    {start next : Proxy} {ret : Int} {hid : HelperId} {buf : List UInt8}
    (run : Yields (procUserGetNewRoom2 sid (copied stale (frontFrame data))) start ret next)
    (wraps : .appended (.helper hid) buf ∈ next.trace.drop start.trace.length)
    : buf = (start.envelopeOf sid (frontFrame data)).bytes
      ↔ (frontFrame data).getD 8 0 = -plainSum (frontFrame data) := by
  have described := frontFrame_described accepted body
  have short : (frontFrame data).length ≤ 8000 := by
    obtain ⟨length, limit, -⟩ := accepted_frame accepted
    rw [frontFrame]
    omega
  have short' : (resealed (frontFrame data)).length ≤ 8000 := by
    rw [EncryptDecrypt.length_resealed described.header]
    exact short
  have wrapped : buf = (start.envelopeOf sid (resealed (frontFrame data))).bytes := by
    rcases procUserGetNewRoom2_shows described short run with same | ⟨hid', misuse, only, trace⟩
    · rw [same, List.drop_length] at wraps
      cases wraps
    · rw [trace, List.append_assoc, List.drop_left] at wraps
      rcases List.mem_append.mp wraps with misused | appended
      · cases only _ misused
      · cases List.mem_singleton.mp appended
        rfl
  rw [← EncryptDecrypt.resealed_eq_iff described.header, wrapped]
  constructor
  · intro same
    have data := congrArg (fun bytes => bytes.drop 27) same
    rwa [Proxy.envelopeOf, Proxy.envelopeOf, envelope_data short', envelope_data short] at data
  · intro same
    rw [same]

-----------------------------------------------------------------------------------------
-- Given requests
-----------------------------------------------------------------------------------------

/-- A request of a room of level 2 with the given check code. -/
def newRoomFrame (cbCheckCode : UInt8) : List UInt8 :=
  [0, 9, 66, 89, 1, 1, 1, 0x17, cbCheckCode, 0x70, 0x40]

/-- The bytes that were given to a helper, if nothing else is shown. -/
def wrappedIn : List Happening → Option (List UInt8)
  | [.appended (.helper _) buf] => some buf
  | _ => none

theorem eq_of_wrappedIn {shown : List Happening} {buf : List UInt8}
    (wrapped : wrappedIn shown = some buf)
    : ∃ hid, shown = [.appended (.helper hid) buf] := by
  unfold wrappedIn at wrapped
  split at wrapped
  · obtain rfl := Option.some.inj wrapped
    exact ⟨_, rfl⟩
  · cases wrapped

/-- The bytes that a program gives to a helper. -/
def wrappedBy (program : ProxyM Int) (proxy : Proxy) : Option (List UInt8) :=
  match program proxy with
  | .ok (_, next) => wrappedIn (next.trace.drop proxy.trace.length)
  | .error _ => none

theorem eq_of_wrappedBy {program : ProxyM Int} {buf : List UInt8} {start : Proxy}
    (wrapped : wrappedBy program start = some buf)
    : ∃ ret next hid, Yields program start ret next
        ∧ .appended (.helper hid) buf ∈ next.trace.drop start.trace.length := by
  rw [wrappedBy] at wrapped
  cases outcome : program start with
  | error fault =>
      rw [outcome] at wrapped
      cases wrapped
  | ok result =>
      obtain ⟨ret, next⟩ := result
      rw [outcome] at wrapped
      obtain ⟨hid, shown⟩ := eq_of_wrappedIn wrapped
      exact ⟨ret, next, hid, outcome, by rw [shown]; exact List.mem_singleton_self _⟩

/-- A request with a wrong check code goes on with the right one. -/
theorem newRoom_wraps_other_bytes
    : ¬∀ (data : List UInt8) (sid : SessionId) (stale : NETInputPacket) (start next : Proxy)
        (ret : Int) (hid : HelperId) (buf : List UInt8), 0 < handleInput data
        → 7 ≤ contentLength data
        → (copied stale (frontFrame data)).getCmdType = cmdGetNewRoom
        → start.Reached → (start.session sid).live = true
        → Yields (procUserGetNewRoom2 sid (copied stale (frontFrame data))) start ret next
        → .appended (.helper hid) buf ∈ next.trace.drop start.trace.length
        → buf = (start.envelopeOf sid (frontFrame data)).bytes := by
  intro always
  let events : List Event := [.accept 1 33 0, .clientFrame 1 (loginFrame 7)]
  obtain ⟨start, reached, checked⟩ := Proxy.unused_unused.run (events.map Event.calmly)
    (fun start => (start.session 1).live = true
      ∧ (wrappedBy (procUserGetNewRoom2 1 (copied default (newRoomFrame 0))) start).any (fun buf =>
          buf ≠ (start.envelopeOf 1 (newRoomFrame 0)).bytes) = true)
    (by decide +kernel)
  obtain ⟨live, differs⟩ := of_decide_eq_true checked
  cases wrapped : wrappedBy (procUserGetNewRoom2 1 (copied default (newRoomFrame 0))) start with
  | none =>
      rw [wrapped] at differs
      cases differs
  | some buf =>
      rw [wrapped, Option.any_some] at differs
      obtain ⟨ret, next, hid, run, wraps⟩ := eq_of_wrappedBy wrapped
      have whole : frontFrame (newRoomFrame 0) = newRoomFrame 0 := by decide +kernel
      have same := always (newRoomFrame 0) 1 default start next ret hid buf (by decide +kernel)
        (by decide +kernel) (by decide +kernel) reached live (by rw [whole]; exact run) wraps
      rw [whole] at same
      have different := of_decide_eq_true differs
      exact different same

/-- A request with the right check code goes on as it came. -/
theorem newRoom_wraps_iff_right
    : ∃ start next : Proxy, ∃ hid,
        .appended (.helper hid) (start.envelopeOf 1 (newRoomFrame 254)).bytes
          ∈ next.trace.drop start.trace.length := by
  let events : List Event := [.accept 1 33 0, .clientFrame 1 (loginFrame 7)]
  obtain ⟨start, reached, checked⟩ := Proxy.unused_unused.run (events.map Event.calmly)
    (fun start =>
      (wrappedBy (procUserGetNewRoom2 1 (copied default (newRoomFrame 254))) start).isSome
        = true)
    (by decide +kernel)
  obtain ⟨buf, wrapped⟩ := Option.isSome_iff_exists.mp (of_decide_eq_true checked)
  obtain ⟨ret, next, hid, run, wraps⟩ := eq_of_wrappedBy wrapped
  have whole : frontFrame (newRoomFrame 254) = newRoomFrame 254 := by decide +kernel
  have settled := @newRoom_wraps_iff (newRoomFrame 254) (by decide +kernel) (by decide +kernel) 1
    default start next ret hid buf (by rw [whole]; exact run) wraps
  have same := settled.mpr (by decide +kernel)
  rw [whole] at same
  exact ⟨start, next, hid, same ▸ wraps⟩

end ProxyServer.System
