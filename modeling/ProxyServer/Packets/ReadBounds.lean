import ProxyServer.Packets.RoundTrip

/-! The bytes that the readers of a received packet touch, and the cursor they leave.
A length prefix is a signed number of the sender's choice; a reader that adds it to the
cursor before comparing it stays in its field only for the lengths collected here.
-/

namespace ProxyServer.Packets

open WordBytes
open FaultState (Yields yields_pure yields_bind yields_get)

namespace PacketBase

/-- The cursor of a received packet stands between its header and its end. -/
structure CursorInside (packet : NETInputPacket) : Prop where
  behindHeader : 9 ≤ packet.nBufPos
  withinSize : packet.nBufPos ≤ packet.nPacketSize
  withinBuffer : packet.nPacketSize ≤ 8192

/-- The length prefix at the cursor. -/
def declared (packet : NETInputPacket) : Int :=
  signed 32 (ofBytes (packet.strBuf.read packet.nBufPos.toNat 4))

/-- The length prefix itself is not all there. -/
def CutShort (packet : NETInputPacket) : Prop :=
  packet.nPacketSize < packet.nBufPos + 4

instance (packet : NETInputPacket) : Decidable packet.CutShort :=
  inferInstanceAs (Decidable (_ < _))

/-- The bytes left behind a length prefix. -/
def leftBehind (packet : NETInputPacket) : Int :=
  packet.nPacketSize - (packet.nBufPos + 4)

/-- The packet with its cursor moved on. -/
def advance (packet : NETInputPacket) (count : Int) : NETInputPacket :=
  { packet with nBufPos := packet.nBufPos + count }

/-- The offsets that `_Read` copies from. -/
def readOffsets (nLen : Int) (packet : NETInputPacket) : List Nat :=
  match PacketBase.read nLen packet with
  | .ok (some raw, _) => List.range' packet.nBufPos.toNat raw.length
  | _ => []

/-- The offsets that making a `string` of the pointer reads, the NUL included. -/
def stringOffsets (start : Int) (packet : NETInputPacket) : List Nat :=
  match InputPacket.scanString packet.strBuf (8192 - start.toNat) start.toNat with
  | some text => List.range' start.toNat (text.length + 1)
  | none => []

end PacketBase

namespace FieldType

open PacketBase (readOffsets stringOffsets)

/-- The offsets of the packet that a reader touches. -/
def offsets : FieldType → NETInputPacket → List Nat
  | .int, packet => packet.readOffsets 4
  | .short, packet => packet.readOffsets 2
  | .byte, packet => packet.readOffsets 1
  | .string, packet =>
      packet.readOffsets 4
        ++ match InputPacket.readChar packet with
          | .ok (some start, next) => next.stringOffsets start
          | _ => []
  | .binary nMaxLen, packet =>
      packet.readOffsets 4
        ++ match InputPacket.readInt packet with
          | .ok (nLen, next) =>
              if nLen = -1 ∨ nMaxLen < nLen then [] else next.readOffsets nLen
          | .error _ => []

/-- The size of the field at the cursor: behind a length prefix, the declared bytes. -/
def extent : FieldType → NETInputPacket → Int
  | .int, _ => 4
  | .short, _ => 2
  | .byte, _ => 1
  | .string, packet => 4 + max 0 packet.declared
  | .binary _, packet => 4 + max 0 packet.declared

/-- A call that moves nothing but the cursor, not back, not out of the payload, and that
reads only bytes of its own field inside the payload.
-/
structure Proper (type : FieldType) (packet next : NETInputPacket) : Prop where
  kept : next = { packet with nBufPos := next.nBufPos }
  inside : next.CursorInside
  forward : packet.nBufPos ≤ next.nBufPos
  ownField
    : ∀ offset ∈ type.offsets packet,
        packet.nBufPos ≤ offset ∧ offset < packet.nBufPos + type.extent packet
  payload : ∀ offset ∈ type.offsets packet, 9 ≤ offset ∧ (offset : Int) < packet.nPacketSize

/-- The call comes to an end in the given packet. -/
def Ends (type : FieldType) (packet next : NETInputPacket) : Prop :=
  ∃ value, Yields type.read packet value next

/-- Every call of the sequence comes to an end and is proper. -/
def ProperRun : List FieldType → NETInputPacket → Prop
  | [], packet => packet.CursorInside
  | type :: rest, packet =>
      packet.CursorInside
        ∧ ∃ next, type.Ends packet next ∧ type.Proper packet next ∧ ProperRun rest next

/-- What the packet must hold at the cursor for the call to be proper. -/
def Sound : FieldType → NETInputPacket → Prop
  | .string, packet =>
      packet.CutShort
        ∨ packet.declared = -1
        ∨ packet.leftBehind < packet.declared
          ∧ packet.declared + (packet.nBufPos + 4) < 2147483648
        ∨ 0 < packet.declared
          ∧ packet.declared ≤ packet.leftBehind
          ∧ 0 ∈ packet.strBuf.read (packet.nBufPos + 4).toNat packet.declared.toNat
  | .binary nMaxLen, packet =>
      packet.CutShort
        ∨ packet.declared = -1
        ∨ nMaxLen < packet.declared
        ∨ 0 ≤ packet.declared ∧ packet.declared + (packet.nBufPos + 4) < 2147483648
  | _, _ => True

/-- Every call of the sequence finds the packet as it must be. -/
def SoundRun : List FieldType → NETInputPacket → Prop
  | [], _ => True
  | type :: rest, packet =>
      type.Sound packet ∧ ∀ next, type.Ends packet next → SoundRun rest next

end FieldType

-----------------------------------------------------------------------------------------
-- Reads of a known size
-----------------------------------------------------------------------------------------

namespace PacketBase

variable {packet : NETInputPacket}

/-- `_Read` of a size that does not overflow, from a cursor inside the packet. -/
theorem CursorInside.read (inside : packet.CursorInside) {nLen : Int} (sized : 0 ≤ nLen)
    (bounded : nLen + packet.nBufPos < 2147483648)
    : PacketBase.read nLen packet
      = .ok (if packet.nPacketSize < packet.nBufPos + nLen then (none, packet)
        else (some (packet.strBuf.read packet.nBufPos.toNat nLen.toNat),
          packet.advance nLen)) := by
  have behindHeader := inside.behindHeader
  have withinBuffer := inside.withinBuffer
  have last : toInt32 (nLen + packet.nBufPos) = packet.nBufPos + nLen := by
    rw [toInt32_of_range (by omega) bounded, Int.add_comm]
  simp only [PacketBase.read, last, Nat.cast_ofNat]
  by_cases missing : packet.nPacketSize < packet.nBufPos + nLen
  · rw [if_pos (Or.inl missing), if_pos missing]
  · rw [if_neg (by omega), if_neg (by omega), if_neg missing]
    rfl

/-- `_Read` of a negative size runs `memcpy` with it. -/
theorem CursorInside.read_negative (inside : packet.CursorInside) {nLen : Int}
    (low : -2147483648 ≤ nLen) (negative : nLen < 0)
    : PacketBase.read nLen packet = .error .memory := by
  have behindHeader := inside.behindHeader
  have withinSize := inside.withinSize
  have withinBuffer := inside.withinBuffer
  have last : toInt32 (nLen + packet.nBufPos) = nLen + packet.nBufPos :=
    toInt32_of_range (by omega) (by omega)
  simp only [PacketBase.read, last, Nat.cast_ofNat]
  rw [if_neg (by omega), if_pos (Or.inl negative)]

/-- `_Read` of a size that overflows passes its check and leaves the buffer. -/
theorem CursorInside.read_overflow (inside : packet.CursorInside) {nLen : Int}
    (overflow : 2147483648 ≤ nLen + packet.nBufPos) (high : nLen < 2147483648)
    : PacketBase.read nLen packet = .error .memory := by
  have behindHeader := inside.behindHeader
  have withinSize := inside.withinSize
  have withinBuffer := inside.withinBuffer
  have last : toInt32 (nLen + packet.nBufPos) = nLen + packet.nBufPos - 4294967296 := by
    rw [toInt32, Int.bmod_def]
    omega
  simp only [PacketBase.read, last, Nat.cast_ofNat]
  rw [if_neg (by omega), if_pos (by omega)]

theorem CursorInside.advance (inside : packet.CursorInside) {count : Int}
    (forward : 0 ≤ count) (fits : packet.nBufPos + count ≤ packet.nPacketSize)
    : (packet.advance count).CursorInside := by
  have behindHeader := inside.behindHeader
  exact ⟨show 9 ≤ packet.nBufPos + count by omega, fits, inside.withinBuffer⟩

/-- The offsets `_Read` touches are the block at the cursor, when it is all there. -/
theorem CursorInside.mem_readOffsets (inside : packet.CursorInside) {nLen : Int}
    (sized : 0 ≤ nLen) (bounded : nLen + packet.nBufPos < 2147483648) {offset : Nat}
    (touched : offset ∈ packet.readOffsets nLen)
    : packet.nBufPos ≤ offset ∧ offset < packet.nBufPos + nLen
      ∧ 9 ≤ offset ∧ (offset : Int) < packet.nPacketSize := by
  have behindHeader := inside.behindHeader
  rw [readOffsets, inside.read sized bounded] at touched
  by_cases missing : packet.nPacketSize < packet.nBufPos + nLen
  · rw [if_pos missing] at touched
    cases touched
  · rw [if_neg missing] at touched
    simp only [CellStore.length_read, List.mem_range'_1] at touched
    omega

/-- The length prefix is a 32-bit number. -/
theorem declared_range (packet : NETInputPacket)
    : -2147483648 ≤ packet.declared ∧ packet.declared < 2147483648 := by
  rw [declared, signed, Int.bmod_def]
  omega

/-- A reader of one raw field either finds it whole or stays where it is. -/
theorem CursorInside.readRaw {α : Type} (inside : packet.CursorInside) {nLen : Int}
    (sized : 0 ≤ nLen) (bounded : nLen + packet.nBufPos < 2147483648)
    (decode : List UInt8 → α) (missing : α)
    : (do
        match ← PacketBase.read nLen with
        | some raw => pure (decode raw)
        | none => pure missing : PacketM 8192 α) packet
      = .ok (if packet.nPacketSize < packet.nBufPos + nLen then (missing, packet)
        else (decode (packet.strBuf.read packet.nBufPos.toNat nLen.toNat),
          packet.advance nLen)) := by
  simp only [bind, StateT.bind, Except.bind, inside.read sized bounded]
  split <;> rfl

/-- `ReadInt` at a length prefix. -/
theorem CursorInside.readInt (inside : packet.CursorInside)
    : InputPacket.readInt packet
      = .ok (if packet.CutShort then (-1, packet) else (packet.declared, packet.advance 4)) := by
  have withinSize := inside.withinSize
  have withinBuffer := inside.withinBuffer
  exact inside.readRaw (by omega) (by omega) (fun raw => signed 32 (ofBytes raw)) (-1)

end PacketBase

-----------------------------------------------------------------------------------------
-- Scanning a string
-----------------------------------------------------------------------------------------

/-- A scan that ends has met a NUL behind the text, by induction over the bytes left. -/
theorem scanString_stops {store : CellStore UInt8} {remaining offset : Nat}
    {text : List UInt8} (scanned : InputPacket.scanString store remaining offset = some text)
    : store (offset + text.length) = 0 := by
  induction remaining generalizing offset text with
  | zero => cases scanned
  | succ remaining ih =>
      rw [InputPacket.scanString] at scanned
      split at scanned
      · next ended =>
          cases scanned
          exact ended
      · obtain ⟨tail, later, rfl⟩ := Option.map_eq_some_iff.mp scanned
        have stopped := ih later
        rwa [Nat.add_assoc, Nat.add_comm 1] at stopped

/-- A NUL among the next bytes ends the scan within them, by induction over these bytes. -/
theorem scanString_within {store : CellStore UInt8} {remaining offset count : Nat}
    (nul : 0 ∈ store.read offset count) (room : count ≤ remaining)
    : ∃ text, InputPacket.scanString store remaining offset = some text
        ∧ text.length < count := by
  induction count generalizing remaining offset with
  | zero => cases nul
  | succ count ih =>
      obtain ⟨more, rfl⟩ := Nat.exists_eq_add_of_le' (Nat.lt_of_lt_of_le count.succ_pos room)
      rw [CellStore.read_succ] at nul
      rw [InputPacket.scanString]
      by_cases ended : store offset = 0
      · exact ⟨[], by rw [if_pos ended], Nat.succ_pos _⟩
      · have later : 0 ∈ store.read (offset + 1) count :=
          (List.mem_cons.mp nul).resolve_left (fun same => ended same.symm)
        obtain ⟨tail, scanned, shorter⟩ := ih later (by omega : count ≤ more)
        refine ⟨store offset :: tail, ?_, Nat.succ_lt_succ shorter⟩
        rw [if_neg ended, scanned, Option.map_some]

-----------------------------------------------------------------------------------------
-- One call
-----------------------------------------------------------------------------------------

namespace FieldType

variable {packet next : NETInputPacket}

/-- The calls come to the end that the reader itself comes to. -/
theorem ends_map {α : Type} {reader : PacketM 8192 α} {wrap : α → FieldValue}
    : (∃ value, Yields (wrap <$> reader) packet value next)
      ↔ ∃ value, Yields reader packet value next := by
  have run : (wrap <$> reader) packet = (reader packet).map (Prod.map wrap id) := by
    simp only [Functor.map, StateT.map, bind, Except.bind, Except.map]
    cases reader packet <;> rfl
  simp only [Yields, run]
  cases reader packet with
  | error fault => simp [Except.map]
  | ok pair =>
      simp only [Except.map, Except.ok.injEq, Prod.map, id, Prod.mk.injEq]
      constructor
      · rintro ⟨_, _, same⟩
        exact ⟨pair.1, by rw [← same]⟩
      · rintro ⟨_, same⟩
        exact ⟨wrap pair.1, rfl, by rw [same]⟩

/-- A call that stays where it is and touches nothing, or reads the whole field, is
proper.
-/
theorem Proper.of_advance {type : FieldType} (inside : packet.CursorInside) {count : Int}
    (forward : 0 ≤ count) (fits : packet.nBufPos + count ≤ packet.nPacketSize)
    (own
      : ∀ offset ∈ type.offsets packet,
          packet.nBufPos ≤ offset ∧ offset < packet.nBufPos + type.extent packet
            ∧ 9 ≤ offset ∧ (offset : Int) < packet.nPacketSize)
    : type.Proper packet (packet.advance count) where
  kept := rfl
  inside := inside.advance forward fits
  forward := show packet.nBufPos ≤ packet.nBufPos + count by omega
  ownField := fun offset touched => ⟨(own offset touched).1, (own offset touched).2.1⟩
  payload := fun offset touched => (own offset touched).2.2

/-- A call whose reader comes to a known end. -/
theorem ends_iff_eq {α : Type} {reader : PacketM 8192 α} {wrap : α → FieldValue} {value : α}
    {final : NETInputPacket} (run : reader packet = .ok (value, final))
    : (∃ value, Yields (wrap <$> reader) packet value next) ↔ next = final := by
  rw [ends_map]
  simp only [Yields, run, Except.ok.injEq, Prod.mk.injEq]
  constructor
  · rintro ⟨_, _, same⟩
    exact same.symm
  · exact fun same => ⟨value, rfl, same.symm⟩

-----------------------------------------------------------------------------------------
-- Strings
-----------------------------------------------------------------------------------------

/-- `ReadChar` finds no length prefix. -/
theorem readChar_cutShort (inside : packet.CursorInside) (cutShort : packet.CutShort)
    : InputPacket.readChar packet = .ok (none, packet.advance 0) := by
  have stays : packet.advance 0 = packet := by simp [PacketBase.advance]
  simp only [InputPacket.readChar, bind, StateT.bind, Except.bind, inside.readInt,
    if_pos cutShort, stays]
  rfl

/-- `ReadChar` takes the length -1 for a failure. -/
theorem readChar_minusOne (inside : packet.CursorInside) (whole : ¬packet.CutShort)
    (minusOne : packet.declared = -1)
    : InputPacket.readChar packet = .ok (none, packet.advance 4) := by
  simp only [InputPacket.readChar, bind, StateT.bind, Except.bind, inside.readInt,
    if_neg whole, if_pos minusOne]
  rfl

/-- `ReadChar` behind a length prefix: the sum with the cursor decides. -/
theorem readChar_declared (inside : packet.CursorInside) (whole : ¬packet.CutShort)
    (other : packet.declared ≠ -1)
    : InputPacket.readChar packet
      = if packet.nPacketSize < toInt32 (packet.declared + (packet.nBufPos + 4)) then
          .ok (none, packet.advance 4)
        else
          .ok (some (packet.nBufPos + 4),
            { packet with nBufPos := toInt32 (packet.declared + (packet.nBufPos + 4)) }) := by
  simp only [InputPacket.readChar, bind, StateT.bind, Except.bind, inside.readInt,
    if_neg whole, if_neg other]
  rfl

/-- `ReadString()` turns `NULL` into the empty string. -/
theorem readString_null {final : NETInputPacket}
    (null : InputPacket.readChar packet = .ok (none, final))
    : InputPacket.readString packet = .ok ([], final) := by
  simp only [InputPacket.readString, bind, StateT.bind, Except.bind, null]
  rfl

/-- `ReadString()` scans from its pointer on. -/
theorem readString_pointer {start : Int} {final : NETInputPacket}
    (pointer : InputPacket.readChar packet = .ok (some start, final)) (nonneg : 0 ≤ start)
    : InputPacket.readString packet
      = match InputPacket.scanString final.strBuf (8192 - start.toNat) start.toNat with
        | some text => .ok (text, final)
        | none => .error .memory := by
  simp only [InputPacket.readString, bind, StateT.bind, Except.bind, pointer, get, getThe,
    MonadStateOf.get, StateT.get, pure, Except.pure, if_neg (Int.not_lt.mpr nonneg)]
  cases InputPacket.scanString final.strBuf (8192 - start.toNat) start.toNat <;> rfl

/-- A string read that ends at `NULL` is proper. -/
theorem string_proper_of_null (inside : packet.CursorInside) {count : Int}
    (forward : 0 ≤ count) (fits : packet.nBufPos + count ≤ packet.nPacketSize)
    (null : InputPacket.readChar packet = .ok (none, packet.advance count))
    : ∃ next, FieldType.string.Ends packet next ∧ FieldType.string.Proper packet next := by
  have withinSize := inside.withinSize
  have withinBuffer := inside.withinBuffer
  refine ⟨packet.advance count, (ends_iff_eq (readString_null null)).mpr rfl, ?_⟩
  refine Proper.of_advance inside forward fits (fun offset touched => ?_)
  simp only [offsets, null, List.append_nil] at touched
  have own := inside.mem_readOffsets (show (0 : Int) ≤ 4 by omega) (by omega) touched
  simp only [extent]
  omega

/-- A string read whose pointer is used touches every byte up to its NUL. -/
theorem string_touches {start : Nat} {text : List UInt8} {final : NETInputPacket}
    (pointer : InputPacket.readChar packet = .ok (some (start : Int), final))
    (scanned : InputPacket.scanString final.strBuf (8192 - start) start = some text)
    : FieldType.string.offsets packet
      = packet.readOffsets 4 ++ List.range' start (text.length + 1) := by
  simp only [offsets, pointer, PacketBase.stringOffsets, Int.toNat_natCast, scanned]

/-- A string of a positive length that is all there and holds a NUL is read properly. -/
theorem string_proper_of_nul (inside : packet.CursorInside) (whole : ¬packet.CutShort)
    (positive : 0 < packet.declared) (there : packet.declared ≤ packet.leftBehind)
    (nul : 0 ∈ packet.strBuf.read (packet.nBufPos + 4).toNat packet.declared.toNat)
    : ∃ next, FieldType.string.Ends packet next ∧ FieldType.string.Proper packet next := by
  have behindHeader := inside.behindHeader
  have withinBuffer := inside.withinBuffer
  rw [PacketBase.leftBehind] at there
  obtain ⟨start, started⟩ : ∃ start : Nat, packet.nBufPos + 4 = start :=
    ⟨(packet.nBufPos + 4).toNat, by omega⟩
  have last : toInt32 (packet.declared + (packet.nBufPos + 4))
      = packet.nBufPos + (packet.declared + 4) := by
    rw [toInt32_of_range (by omega) (by omega)]
    omega
  have pointer : InputPacket.readChar packet
      = .ok (some (start : Int), packet.advance (packet.declared + 4)) := by
    rw [readChar_declared inside whole (by omega), last, if_neg (by omega), started]
    rfl
  rw [started, Int.toNat_natCast] at nul
  have room : packet.declared.toNat ≤ 8192 - start := by omega
  obtain ⟨text, scanned, shorter⟩ := scanString_within nul room
  have run := readString_pointer pointer (by omega)
  have same : (packet.advance (packet.declared + 4)).strBuf = packet.strBuf := rfl
  rw [Int.toNat_natCast, same, scanned] at run
  refine ⟨_, (ends_iff_eq run).mpr rfl, ?_⟩
  refine Proper.of_advance inside (by omega) (by omega) (fun offset touched => ?_)
  rw [string_touches pointer scanned] at touched
  simp only [extent]
  rcases List.mem_append.mp touched with count | body
  · have own := inside.mem_readOffsets (show (0 : Int) ≤ 4 by omega) (by omega) count
    omega
  · rw [List.mem_range'_1] at body
    omega

/-- A string read that is proper found its packet as it must be: its pointer stays below
the end, and the bytes up to its NUL are declared ones.
-/
theorem string_sound_of_proper (inside : packet.CursorInside)
    (ends : FieldType.string.Ends packet next)
    (proper : FieldType.string.Proper packet next)
    : FieldType.string.Sound packet := by
  have behindHeader := inside.behindHeader
  have withinBuffer := inside.withinBuffer
  have declared := packet.declared_range
  have cursor := proper.inside.behindHeader
  by_cases cutShort : packet.CutShort
  · exact Or.inl cutShort
  by_cases minusOne : packet.declared = -1
  · exact Or.inr (Or.inl minusOne)
  have whole : packet.nBufPos + 4 ≤ packet.nPacketSize := Int.not_lt.mp cutShort
  have pointed := readChar_declared inside cutShort minusOne
  by_cases bounded : packet.declared + (packet.nBufPos + 4) < 2147483648
  · have last : toInt32 (packet.declared + (packet.nBufPos + 4))
        = packet.declared + (packet.nBufPos + 4) := toInt32_of_range (by omega) bounded
    by_cases missing : packet.nPacketSize < packet.declared + (packet.nBufPos + 4)
    · refine Or.inr (Or.inr (Or.inl ⟨?_, bounded⟩))
      rw [PacketBase.leftBehind]
      omega
    obtain ⟨start, started⟩ : ∃ start : Nat, packet.nBufPos + 4 = start :=
      ⟨(packet.nBufPos + 4).toNat, by omega⟩
    rw [last, if_neg missing, started] at pointed
    have run := readString_pointer pointed (by omega)
    rw [Int.toNat_natCast] at run
    cases scanned : InputPacket.scanString packet.strBuf (8192 - start) start with
    | none =>
        rw [scanned] at run
        obtain ⟨value, reads⟩ := ends_map.mp ends
        rw [Yields, run] at reads
        cases reads
    | some text =>
        have stopped := scanString_stops scanned
        have touches := string_touches pointed scanned
        have last : start + text.length ∈ FieldType.string.offsets packet := by
          rw [touches]
          exact List.mem_append_right _ (List.mem_range'_1.mpr (by omega))
        have own := (proper.ownField _ last).2
        simp only [extent] at own
        refine Or.inr (Or.inr (Or.inr ⟨by omega, ?_, ?_⟩))
        · rw [PacketBase.leftBehind]
          omega
        · rw [started, Int.toNat_natCast, ← stopped]
          exact List.mem_map_of_mem (List.mem_range.mpr (by omega))
  · -- The sum wraps below zero, passes the check and becomes the cursor.
    have last : toInt32 (packet.declared + (packet.nBufPos + 4)) < 0 := by
      rw [toInt32, Int.bmod_def]
      omega
    rw [if_neg (by omega)] at pointed
    have run := readString_pointer pointed (by omega)
    obtain ⟨value, reads⟩ := ends_map.mp ends
    rw [Yields, run] at reads
    split at reads
    · cases reads
      dsimp only at cursor
      omega
    · cases reads

-----------------------------------------------------------------------------------------
-- Blobs
-----------------------------------------------------------------------------------------

variable {nMaxLen : Int}

/-- `ReadBinary` finds no length prefix. -/
theorem readBinary_cutShort (inside : packet.CursorInside) (cutShort : packet.CutShort)
    : InputPacket.readBinary nMaxLen packet = .ok ((-1, []), packet.advance 0) := by
  have stays : packet.advance 0 = packet := by simp [PacketBase.advance]
  simp only [InputPacket.readBinary, bind, StateT.bind, Except.bind, inside.readInt,
    if_pos cutShort, stays]
  rfl

/-- `ReadBinary` takes the length -1 for a failure. -/
theorem readBinary_minusOne (inside : packet.CursorInside) (whole : ¬packet.CutShort)
    (minusOne : packet.declared = -1)
    : InputPacket.readBinary nMaxLen packet = .ok ((-1, []), packet.advance 4) := by
  simp only [InputPacket.readBinary, bind, StateT.bind, Except.bind, inside.readInt,
    if_neg whole, if_pos minusOne]
  rfl

/-- `ReadBinary` takes back the length of a blob that its caller has no room for. -/
theorem readBinary_tooLong (inside : packet.CursorInside) (whole : ¬packet.CutShort)
    (other : packet.declared ≠ -1) (tooLong : nMaxLen < packet.declared)
    : InputPacket.readBinary nMaxLen packet = .ok ((-1, []), packet.advance 0) := by
  have undone : packet.advance 0
      = { packet.advance 4 with nBufPos := (packet.advance 4).nBufPos - 4 } := by
    simp [PacketBase.advance]
  simp only [InputPacket.readBinary, bind, StateT.bind, Except.bind, inside.readInt,
    if_neg whole, if_neg other, if_pos tooLong, undone]
  rfl

/-- `ReadBinary` behind an accepted length ends where its `_Read` does. -/
theorem readBinary_ends {bufferSize : Nat} {packet counted next : PacketBase bufferSize}
    {nLen nMaxLen : Int} (count : Yields InputPacket.readInt packet nLen counted)
    (other : nLen ≠ -1) (accepted : ¬nMaxLen < nLen)
    : (∃ value, Yields (InputPacket.readBinary nMaxLen) packet value next)
      ↔ ∃ raw, Yields (PacketBase.read nLen) counted raw next := by
  simp only [Yields, InputPacket.readBinary, bind, StateT.bind, Except.bind] at count ⊢
  simp only [count, if_neg other, if_neg accepted, StateT.bind]
  generalize PacketBase.read nLen counted = outcome
  rcases outcome with fault | ⟨missing | raw, final⟩
  · constructor
    · rintro ⟨value, run⟩
      cases run
    · rintro ⟨raw, run⟩
      cases run
  · constructor
    · rintro ⟨value, run⟩
      cases run
      exact ⟨none, rfl⟩
    · rintro ⟨_, run⟩
      cases run
      exact ⟨(0, []), rfl⟩
  · constructor
    · rintro ⟨value, run⟩
      cases run
      exact ⟨some raw, rfl⟩
    · rintro ⟨_, run⟩
      cases run
      exact ⟨(nLen, raw), rfl⟩

/-- The offsets of a blob are its length and, when it is accepted, its bytes. -/
theorem binary_offsets (inside : packet.CursorInside)
    : (FieldType.binary nMaxLen).offsets packet
      = packet.readOffsets 4
        ++ if packet.CutShort ∨ packet.declared = -1 ∨ nMaxLen < packet.declared then []
          else (packet.advance 4).readOffsets packet.declared := by
  simp only [offsets, inside.readInt]
  by_cases cutShort : packet.CutShort
  · simp [cutShort]
  · simp [cutShort]

/-- A blob read that stops behind or before its length is proper. -/
theorem binary_proper_of_refused (inside : packet.CursorInside) {count : Int}
    (forward : 0 ≤ count) (fits : packet.nBufPos + count ≤ packet.nPacketSize)
    (refused : packet.CutShort ∨ packet.declared = -1 ∨ nMaxLen < packet.declared)
    (run : InputPacket.readBinary nMaxLen packet = .ok ((-1, []), packet.advance count))
    : ∃ next,
        (FieldType.binary nMaxLen).Ends packet next
        ∧ (FieldType.binary nMaxLen).Proper packet next := by
  have withinSize := inside.withinSize
  have withinBuffer := inside.withinBuffer
  refine ⟨packet.advance count, (ends_iff_eq run).mpr rfl, ?_⟩
  refine Proper.of_advance inside forward fits (fun offset touched => ?_)
  rw [binary_offsets inside, if_pos refused, List.append_nil] at touched
  have own := inside.mem_readOffsets (show (0 : Int) ≤ 4 by omega) (by omega) touched
  simp only [extent]
  omega

/-- A blob of an accepted length is read properly, whether it is all there or not. -/
theorem binary_proper_of_accepted (inside : packet.CursorInside) (whole : ¬packet.CutShort)
    (accepted : ¬nMaxLen < packet.declared) (sized : 0 ≤ packet.declared)
    (bounded : packet.declared + (packet.nBufPos + 4) < 2147483648)
    : ∃ next,
        (FieldType.binary nMaxLen).Ends packet next
        ∧ (FieldType.binary nMaxLen).Proper packet next := by
  have withinSize := inside.withinSize
  have withinBuffer := inside.withinBuffer
  have room : packet.nBufPos + 4 ≤ packet.nPacketSize := Int.not_lt.mp whole
  have behind := inside.advance (show (0 : Int) ≤ 4 by omega) room
  have count : Yields InputPacket.readInt packet packet.declared (packet.advance 4) := by
    rw [Yields, inside.readInt, if_neg whole]
  have own : ∀ offset ∈ (FieldType.binary nMaxLen).offsets packet,
      packet.nBufPos ≤ offset
        ∧ offset < packet.nBufPos + (FieldType.binary nMaxLen).extent packet
        ∧ 9 ≤ offset ∧ (offset : Int) < packet.nPacketSize := by
    intro offset touched
    have taken : ¬(packet.CutShort ∨ packet.declared = -1 ∨ nMaxLen < packet.declared) := by
      rintro (cutShort | minusOne | tooLong)
      · exact whole cutShort
      · omega
      · exact accepted tooLong
    rw [binary_offsets inside, if_neg taken] at touched
    simp only [extent]
    rcases List.mem_append.mp touched with length | body
    · have := inside.mem_readOffsets (show (0 : Int) ≤ 4 by omega) (by omega) length
      omega
    · have := behind.mem_readOffsets sized bounded body
      simp only [PacketBase.advance] at this
      omega
  have read := behind.read sized bounded
  split at read
  · have ends : ∃ value,
        Yields (InputPacket.readBinary nMaxLen) packet value (packet.advance 4) :=
      (readBinary_ends count (by omega) accepted).mpr ⟨_, read⟩
    exact ⟨_, ends_map.mpr ends, Proper.of_advance inside (by omega) room own⟩
  · next there =>
      simp only [PacketBase.advance] at there
      have landed : (packet.advance 4).advance packet.declared
          = packet.advance (4 + packet.declared) := by
        simp only [PacketBase.advance, Int.add_assoc]
      rw [landed] at read
      have ends : ∃ value, Yields (InputPacket.readBinary nMaxLen) packet value
          (packet.advance (4 + packet.declared)) :=
        (readBinary_ends count (by omega) accepted).mpr ⟨_, read⟩
      exact ⟨_, ends_map.mpr ends, Proper.of_advance inside (by omega) (by omega) own⟩

/-- A blob read that comes to an end found its packet as it must be. -/
theorem binary_sound_of_ends (inside : packet.CursorInside)
    (ends : (FieldType.binary nMaxLen).Ends packet next)
    : (FieldType.binary nMaxLen).Sound packet := by
  have declared := packet.declared_range
  by_cases cutShort : packet.CutShort
  · exact Or.inl cutShort
  by_cases minusOne : packet.declared = -1
  · exact Or.inr (Or.inl minusOne)
  by_cases tooLong : nMaxLen < packet.declared
  · exact Or.inr (Or.inr (Or.inl tooLong))
  have behind := inside.advance (show (0 : Int) ≤ 4 by omega) (Int.not_lt.mp cutShort)
  have count : Yields InputPacket.readInt packet packet.declared (packet.advance 4) := by
    rw [Yields, inside.readInt, if_neg cutShort]
  obtain ⟨raw, read⟩ := (readBinary_ends count minusOne tooLong).mp (ends_map.mp ends)
  refine Or.inr (Or.inr (Or.inr ⟨?_, ?_⟩))
  · by_contra negative
    rw [Yields, behind.read_negative declared.1 (by omega)] at read
    cases read
  · by_contra overflow
    rw [Yields, behind.read_overflow (Int.not_lt.mp overflow) declared.2] at read
    cases read

-----------------------------------------------------------------------------------------
-- Any call, and any sequence of calls
-----------------------------------------------------------------------------------------

/-- A call that only reads a block of a known size ends in a proper way. -/
theorem raw_proper {α : Type} {type : FieldType} {nLen : Int} {wrap : α → FieldValue}
    {decode : List UInt8 → α} {missing : α} (inside : packet.CursorInside)
    (sized : 0 ≤ nLen) (small : nLen ≤ 4)
    (reads
      : type.read
        = wrap <$> (do
            match ← PacketBase.read nLen with
            | some raw => pure (decode raw)
            | none => pure missing : PacketM 8192 α))
    (touches : type.offsets packet = packet.readOffsets nLen)
    (extent : type.extent packet = nLen)
    : ∃ next, type.Ends packet next ∧ type.Proper packet next := by
  have withinSize := inside.withinSize
  have withinBuffer := inside.withinBuffer
  have own : ∀ offset ∈ type.offsets packet,
      packet.nBufPos ≤ offset ∧ offset < packet.nBufPos + type.extent packet
        ∧ 9 ≤ offset ∧ (offset : Int) < packet.nPacketSize := by
    intro offset touched
    rw [touches] at touched
    rw [extent]
    exact inside.mem_readOffsets sized (by omega) touched
  have run := inside.readRaw sized (by omega) decode missing
  simp only [Ends, reads]
  split at run
  · have stays : packet.advance 0 = packet := by simp [PacketBase.advance]
    have proper : type.Proper packet (packet.advance 0) :=
      Proper.of_advance inside (Int.le_refl 0) (by omega) own
    rw [stays] at proper
    exact ⟨packet, (ends_iff_eq run).mpr rfl, proper⟩
  · exact ⟨_, (ends_iff_eq run).mpr rfl, Proper.of_advance inside sized (by omega) own⟩

/-- From a cursor inside the packet, a call is proper exactly when the packet is as the
call needs it.
-/
theorem proper_iff_sound (type : FieldType) (inside : packet.CursorInside)
    : (∃ next, type.Ends packet next ∧ type.Proper packet next) ↔ type.Sound packet := by
  have withinSize := inside.withinSize
  cases type with
  | int => exact iff_of_true (raw_proper inside (by omega) (Int.le_refl 4) rfl rfl rfl) trivial
  | short =>
      have small : (2 : Int) ≤ 4 := by omega
      exact iff_of_true (raw_proper inside (by omega) small rfl rfl rfl) trivial
  | byte =>
      have small : (1 : Int) ≤ 4 := by omega
      exact iff_of_true (raw_proper inside (by omega) small rfl rfl rfl) trivial
  | string =>
      constructor
      · rintro ⟨next, ends, proper⟩
        exact string_sound_of_proper inside ends proper
      · intro sound
        by_cases cutShort : packet.CutShort
        · exact string_proper_of_null inside (Int.le_refl 0) (by omega)
            (readChar_cutShort inside cutShort)
        have room : packet.nBufPos + 4 ≤ packet.nPacketSize := Int.not_lt.mp cutShort
        rcases sound with cut | minusOne | ⟨beyond, bounded⟩ | ⟨positive, there, nul⟩
        · exact absurd cut cutShort
        · exact string_proper_of_null inside (by omega) room
            (readChar_minusOne inside cutShort minusOne)
        · have behindHeader := inside.behindHeader
          rw [PacketBase.leftBehind] at beyond
          have last : toInt32 (packet.declared + (packet.nBufPos + 4))
              = packet.declared + (packet.nBufPos + 4) :=
            toInt32_of_range (by omega) bounded
          have null := readChar_declared inside cutShort (by omega)
          rw [last, if_pos (by omega)] at null
          exact string_proper_of_null inside (by omega) room null
        · exact string_proper_of_nul inside cutShort positive there nul
  | binary nMaxLen =>
      constructor
      · rintro ⟨next, ends, _⟩
        exact binary_sound_of_ends inside ends
      · intro sound
        by_cases cutShort : packet.CutShort
        · exact binary_proper_of_refused inside (Int.le_refl 0) (by omega)
            (Or.inl cutShort) (readBinary_cutShort inside cutShort)
        have room : packet.nBufPos + 4 ≤ packet.nPacketSize := Int.not_lt.mp cutShort
        by_cases minusOne : packet.declared = -1
        · exact binary_proper_of_refused inside (by omega) room
            (Or.inr (Or.inl minusOne)) (readBinary_minusOne inside cutShort minusOne)
        by_cases tooLong : nMaxLen < packet.declared
        · exact binary_proper_of_refused inside (Int.le_refl 0) (by omega)
            (Or.inr (Or.inr tooLong)) (readBinary_tooLong inside cutShort minusOne tooLong)
        rcases sound with cut | minus | long | ⟨sized, bounded⟩
        · exact absurd cut cutShort
        · exact absurd minus minusOne
        · exact absurd long tooLong
        · exact binary_proper_of_accepted inside cutShort tooLong sized bounded

/-- A call comes to at most one end. -/
theorem Ends.unique {type : FieldType} {other : NETInputPacket}
    (ends : type.Ends packet next) (also : type.Ends packet other)
    : other = next := by
  obtain ⟨value, run⟩ := ends
  obtain ⟨value', run'⟩ := also
  exact (run.unique run').2

/-- From a cursor inside the packet, a sequence of calls is proper exactly when every one
of them finds the packet as it needs it, by induction over the calls.
-/
theorem properRun_iff_soundRun (types : List FieldType) (inside : packet.CursorInside)
    : ProperRun types packet ↔ SoundRun types packet := by
  induction types generalizing packet with
  | nil => exact iff_of_true inside trivial
  | cons type rest ih =>
      constructor
      · rintro ⟨_, next, ends, proper, later⟩
        refine ⟨(proper_iff_sound type inside).mp ⟨next, ends, proper⟩, ?_⟩
        intro other also
        cases ends.unique also
        exact (ih proper.inside).mp later
      · rintro ⟨sound, later⟩
        obtain ⟨next, ends, proper⟩ := (proper_iff_sound type inside).mpr sound
        exact ⟨inside, next, ends, proper, (ih proper.inside).mpr (later next ends)⟩

/-- A copied packet of 9 to 8192 bytes starts with its cursor inside. -/
theorem copy_cursorInside {stale : NETInputPacket} {inBuf : List UInt8}
    (header : 9 ≤ inBuf.length) (fits : inBuf.length ≤ 8192)
    : PacketBase.CursorInside (stale.copy inBuf).2 := by
  rw [PacketBase.copy_fits fits]
  exact ⟨Int.le_refl 9, Int.ofNat_le.mpr header, Int.ofNat_le.mpr fits⟩

/-- A received packet of 9 to 8192 bytes is read within its fields by exactly the calls
that find a length prefix they can take.
-/
theorem received_reads_proper_iff (stale : NETInputPacket) (inBuf : List UInt8)
    (types : List FieldType) (header : 9 ≤ inBuf.length) (fits : inBuf.length ≤ 8192)
    : ProperRun types (stale.copy inBuf).2 ↔ SoundRun types (stale.copy inBuf).2 :=
  properRun_iff_soundRun types (copy_cursorInside header fits)

/-- An integer, then a string that holds its NUL. -/
theorem received_reads_proper_iff_text
    : ProperRun [.int, .string]
          ((default : NETInputPacket).copy
            [0, 16, 66, 89, 1, 1, 1, 2, 0, 0, 0, 0, 5, 0, 0, 0, 3, 72, 105, 0]).2
        ↔ SoundRun [.int, .string]
          ((default : NETInputPacket).copy
            [0, 16, 66, 89, 1, 1, 1, 2, 0, 0, 0, 0, 5, 0, 0, 0, 3, 72, 105, 0]).2 :=
  received_reads_proper_iff default _ _ (by decide) (by decide)

/-- A string of declared length -5 moves the cursor back into the header. -/
theorem negative_length_not_proper
    : ¬ProperRun [.string]
        ((default : NETInputPacket).copy
          [0, 11, 66, 89, 1, 1, 1, 2, 0, 255, 255, 255, 251]).2 := by
  rw [properRun_iff_soundRun _ (copy_cursorInside (by decide) (by decide))]
  rintro ⟨cut | minusOne | ⟨beyond, _⟩ | ⟨positive, _⟩, _⟩
  · exact absurd cut (by decide +kernel)
  · exact absurd minusOne (by decide +kernel)
  · exact absurd beyond (by decide +kernel)
  · exact absurd positive (by decide +kernel)

end FieldType

end ProxyServer.Packets
