import ProxyServer.Packets.RoundTrip
import ProxyServer.System.Routing

/-! The user counts of levels: helpers report them, and `CClientUnit::ProcessGetLevelCount` tells
clients. A request may ask for more levels than a reply has room for; the writes behind the end
of the buffer fail unseen.
-/

namespace ProxyServer.System

open Packets ProxyServer.Units WordBytes
open FaultState

-----------------------------------------------------------------------------------------
-- Counts up to 32000
-----------------------------------------------------------------------------------------

/-- Level counts that `ProcessGetLevelCount` announces alike: it lowers those above 32000. -/
def SameCounts (counts counts' : Std.TreeMap Int Int) : Prop :=
  ∀ level : Int, counts[level]?.map (min 32000) = counts'[level]?.map (min 32000)

namespace SameCounts

variable {counts counts' counts'' : Std.TreeMap Int Int}

theorem refl (counts : Std.TreeMap Int Int) : SameCounts counts counts :=
  fun _ => rfl

theorem trans (same : SameCounts counts counts') (also : SameCounts counts' counts'')
    : SameCounts counts counts'' :=
  fun level => (same level).trans (also level)

/-- A count above 32000 is lowered without anyone seeing it. -/
theorem lower {level userCount : Int} (found : counts[level]? = some userCount)
    (above : 32000 < userCount)
    : SameCounts counts (counts.insert level 32000) := by
  intro other
  rw [Std.TreeMap.getElem?_insert]
  split
  · rename_i equal
    obtain rfl := Std.LawfulEqCmp.eq_of_compare equal
    rw [found]
    exact congrArg some (Int.min_eq_left above.le)
  · rfl

end SameCounts

/-- What looking at a count leaves of the level counts. -/
def lowered (level : Int) (counts : Std.TreeMap Int Int) : Std.TreeMap Int Int :=
  if ∃ userCount ∈ counts[level]?, 32000 < userCount then counts.insert level 32000
  else counts

theorem lowered_same (level : Int) (counts : Std.TreeMap Int Int)
    : SameCounts counts (lowered level counts) := by
  rw [lowered]
  split
  · rename_i lowers
    obtain ⟨userCount, found, above⟩ := lowers
    exact SameCounts.lower found above
  · exact SameCounts.refl counts

/-- `levelUserCount` announces a count up to 32000, and lowers it. -/
theorem levelUserCount_run (level : Int) (proxy : Proxy)
    : levelUserCount level proxy
      = .ok ((proxy.pool.levelCountMap[level]?.map (min 32000)).getD 0,
          {
            proxy with
            pool := {
              proxy.pool with levelCountMap := lowered level proxy.pool.levelCountMap
            }
          }) := by
  rw [levelUserCount, bind_ends (yields_get.mpr ⟨rfl, rfl⟩), lowered]
  cases found : proxy.pool.levelCountMap[level]? with
  | none => simp; rfl
  | some userCount =>
      by_cases above : 32000 < userCount
      · simp [above, above.le]
        rfl
      · simp [above, not_lt.mp above]
        rfl

-----------------------------------------------------------------------------------------
-- Reports
-----------------------------------------------------------------------------------------

/-- What a frame with the counts of these levels has in its payload behind the announced count.
-/
def pairBytes (pairs : List (Int × Int)) : List UInt8 :=
  pairs.flatMap (fun pair => toBytes 2 (unsigned 16 pair.1) ++ toBytes 2 (unsigned 16 pair.2))

/-- The count that was reported last for a level. -/
def lastReported (reports : List (Int × Int)) (level : Int) : Option Int :=
  (reports.filter (fun report => report.1 = level)).getLast?.map Prod.snd

theorem lastReported_append (reports : List (Int × Int)) (report : Int × Int) (level : Int)
    : lastReported (reports ++ [report]) level
      = if report.1 = level then some report.2 else lastReported reports level := by
  unfold lastReported
  rw [List.filter_append]
  by_cases same : report.1 = level
  · simp [same]
  · simp [same]

theorem lastReported_mem {reports : List (Int × Int)} {level count : Int}
    (last : lastReported reports level = some count)
    : (level, count) ∈ reports := by
  unfold lastReported at last
  obtain ⟨report, found, rfl⟩ := Option.map_eq_some_iff.mp last
  obtain ⟨inside, same⟩ := List.mem_filter.mp (List.mem_of_getLast? found)
  obtain rfl := of_decide_eq_true same
  exact inside

/-- A count that fits a `short`. -/
def IsShort (value : Int) : Prop :=
  -32768 ≤ value ∧ value < 32768

/-- The table of level counts holds what was reported last, but that looking at a count may have
lowered it to 32000.
-/
structure Tallied (reports : List (Int × Int)) (counts : Std.TreeMap Int Int) : Prop where
  last
    : ∀ level : Int,
        counts[level]?.map (min 32000) = (lastReported reports level).map (min 32000)
  short : ∀ report ∈ reports, IsShort report.2

theorem Tallied.empty : Tallied [] ∅ where
  last := by simp [lastReported]
  short := nofun

theorem Tallied.same {reports : List (Int × Int)} {counts counts' : Std.TreeMap Int Int}
    (tallied : Tallied reports counts) (same : SameCounts counts counts')
    : Tallied reports counts' where
  last := fun level => (same level).symm.trans (tallied.last level)
  short := tallied.short

theorem Tallied.insert {reports : List (Int × Int)} {counts : Std.TreeMap Int Int}
    (tallied : Tallied reports counts) {report : Int × Int} (short : IsShort report.2)
    : Tallied (reports ++ [report]) (counts.insert report.1 report.2) where
  last := by
    intro level
    rw [lastReported_append, Std.TreeMap.getElem?_insert]
    by_cases same : report.1 = level
    · rw [if_pos same, if_pos (by rw [same]; exact Std.ReflCmp.compare_self)]
    · rw [if_neg same, if_neg (fun equal => same (Std.LawfulEqCmp.eq_of_compare equal))]
      exact tallied.last level
  short := by
    intro other member
    rcases List.mem_append.mp member with earlier | own
    · exact tallied.short other earlier
    · obtain rfl := List.mem_singleton.mp own
      exact short

/-- A field of two bytes is read as a `short`, and one that is missing as -1. -/
theorem readShort_short
    : Holds (fun _ => True) (InputPacket.readShort : PacketM 8192 Int)
        (fun value _ => IsShort value) := by
  refine Holds.bind (fun _ _ _ _ _ => trivial) (fun raw => ?_)
  cases raw with
  | none => exact Holds.pure (fun _ _ => ⟨by omega, by omega⟩)
  | some raw =>
      refine Holds.pure (fun _ _ => ?_)
      have low := @Int.le_bmod (ofBytes raw) (2 ^ 16) (by omega)
      have high := @Int.bmod_lt (ofBytes raw) (2 ^ 16) (by omega)
      unfold IsShort signed
      omega

theorem readPairs_short (count : Nat)
    : Holds (fun _ => True) (readPairs count)
        (fun pairs _ => ∀ pair ∈ pairs, IsShort pair.2) := by
  induction count with
  | zero => exact Holds.pure (fun _ _ => nofun)
  | succ count ih =>
      refine Holds.bind (fun _ _ _ _ _ => trivial) (fun nLevel => ?_)
      refine Holds.bind readShort_short (fun nUserCount => ?_)
      intro start pairs next short run
      obtain ⟨rest, _, reads, ends⟩ := yields_bind.mp run
      obtain ⟨rfl, -⟩ := yields_pure.mp ends
      intro pair member
      rcases List.mem_cons.mp member with rfl | later
      · exact short
      · exact ih trivial reads pair later

theorem setLevelCount_tallied {reports : List (Int × Int)} {report : Int × Int}
    (short : IsShort report.2) {start next : Proxy}
    (tallied : Tallied reports start.pool.levelCountMap)
    (run : Yields (setLevelCount report.1 report.2) start () next)
    : Tallied (reports ++ [report]) next.pool.levelCountMap := by
  rw [yields_modify.mp run]
  exact tallied.insert short

theorem setLevelCounts_tallied {reports : List (Int × Int)} (pairs : List (Int × Int))
    (short : ∀ pair ∈ pairs, IsShort pair.2) {start next : Proxy}
    (tallied : Tallied reports start.pool.levelCountMap)
    (run : Yields (pairs.forM (fun pair => setLevelCount pair.1 pair.2)) start () next)
    : Tallied (reports ++ pairs) next.pool.levelCountMap := by
  induction pairs generalizing reports start with
  | nil =>
      obtain ⟨-, rfl⟩ := yields_pure.mp run
      rw [List.append_nil]
      exact tallied
  | cons pair rest ih =>
      obtain ⟨_, _, sets, later⟩ := yields_bind.mp run
      have first := setLevelCount_tallied (short pair List.mem_cons_self) tallied sets
      have all := ih (fun other member => short other (List.mem_cons_of_mem _ member)) first later
      rw [List.append_assoc] at all
      exact all

-----------------------------------------------------------------------------------------
-- Replies
-----------------------------------------------------------------------------------------

/-- The payload of a frame that announces a count of levels in front of these pairs. -/
def levelReplyPayload (levelCount : Int) (pairs : List (Int × Int)) : List UInt8 :=
  toBytes 2 (unsigned 16 levelCount) ++ pairBytes pairs

theorem length_levelReplyPayload (levelCount : Int) (pairs : List (Int × Int))
    : (levelReplyPayload levelCount pairs).length = 2 + 4 * pairs.length := by
  have width : (pairBytes pairs).length = 4 * pairs.length := by
    induction pairs with
    | nil => rfl
    | cons pair rest ih =>
        rw [pairBytes, List.flatMap_cons, List.length_append, List.length_append,
          length_toBytes, length_toBytes, List.length_cons]
        rw [pairBytes] at ih
        omega
  rw [levelReplyPayload, List.length_append, length_toBytes, width]

theorem levelReplyPayload_append (levelCount : Int) (pairs : List (Int × Int))
    (pair : Int × Int)
    : levelReplyPayload levelCount (pairs ++ [pair])
      = levelReplyPayload levelCount pairs
        ++ (toBytes 2 (unsigned 16 pair.1) ++ toBytes 2 (unsigned 16 pair.2)) := by
  simp [levelReplyPayload, pairBytes]

/-- How many pairs a reply has room for. -/
def roomForPairs : Nat := 2045

variable {resPacket : NETOutputPacket} {levelCount : Int} {written : List (Int × Int)}

/-- Writing one more pair adds it as long as there is room. -/
theorem writePair_carries
    (carries
      : Carries resPacket cmdGetRoomLeverNum (levelReplyPayload levelCount written))
    (bounded : written.length ≤ roomForPairs) (pair : Int × Int)
    : Carries
        ((do let _ ← OutputPacket.writeShort pair.1; OutputPacket.writeShort pair.2
            : StateM NETOutputPacket Bool).run resPacket).2
        cmdGetRoomLeverNum
        (levelReplyPayload levelCount ((written ++ [pair]).take roomForPairs)) := by
  have width := length_levelReplyPayload levelCount written
  unfold roomForPairs at bounded ⊢
  by_cases room : written.length < 2045
  · have both := (carries.writeRaw_writeRaw (toBytes 2 (unsigned 16 pair.1))
      (toBytes 2 (unsigned 16 pair.2)) (by
        rw [List.length_append, List.length_append, length_toBytes, length_toBytes]
        omega)).2
    rw [← levelReplyPayload_append] at both
    rw [List.take_of_length_le (by rw [List.length_append, List.length_singleton]; omega)]
    exact both
  · have size := carries.size_eq
    have full (value : Int)
        : OutputPacket.writeShort value resPacket = (false, resPacket) := by
      refine writeRaw_full ?_
      rw [length_toBytes]
      omega
    have kept : (written ++ [pair]).take 2045 = written := List.take_left' (by omega)
    rw [kept]
    change Carries (OutputPacket.writeShort pair.2 (OutputPacket.writeShort pair.1 resPacket).2).2
      _ _
    rw [full, full]
    exact carries

theorem take_append_take {α : Type} (front back : List α) (count : Nat)
    : (front.take count ++ back).take count = (front ++ back).take count := by
  have left : count - (front.take count).length = count - front.length := by
    rw [List.length_take]
    omega
  rw [List.take_append, List.take_append, List.take_take, Nat.min_self, left]

/-- What a request asks for: the levels that `ProcessGetLevelCount` reads one after another. -/
def readLevels : Nat → PacketM 8192 (List Int)
  | 0 => pure []
  | count + 1 => do
      let level ← InputPacket.readShort
      let rest ← readLevels count
      pure (level :: rest)

theorem readLevels_length (count : Nat)
    : Holds (fun _ => True) (readLevels count) (fun levels _ => levels.length = count) := by
  induction count with
  | zero => exact Holds.pure (fun _ _ => rfl)
  | succ count ih =>
      refine Holds.bind (fun _ _ _ _ _ => trivial) (fun level => ?_)
      refine Holds.bind ih (fun rest => ?_)
      exact Holds.pure (fun _ length => congrArg (· + 1) length)

/-- A pair of a reply: the count is the one in the table, up to 32000, and something below 100.
-/
def CountedFrom (counts : Std.TreeMap Int Int) (pair : Int × Int) : Prop :=
  ∃ randCount : Nat, randCount < 100
    ∧ pair.2 = (counts[pair.1]?.map (min 32000)).getD 0 + randCount

/-- The loop writes a pair for each level of the request, as long as there is room; by induction
on the loop counter, with what is written so far.
-/
theorem writeLevelCounts_delivers {counts : Std.TreeMap Int Int} {count : Nat}
    {pPacket body : NETInputPacket} {levels : List Int}
    (reads : Yields (readLevels count) pPacket levels body)
    (carries
      : Carries resPacket cmdGetRoomLeverNum (levelReplyPayload levelCount written))
    (bounded : written.length ≤ roomForPairs) {proxy : Proxy}
    (same : SameCounts counts proxy.pool.levelCountMap)
    : Delivers (writeLevelCounts count pPacket resPacket) proxy
        (fun final next =>
          SameCounts counts next.pool.levelCountMap
            ∧ ∃ pairs : List (Int × Int), pairs.map Prod.fst = levels
              ∧ (∀ pair ∈ pairs, CountedFrom counts pair)
              ∧ Carries final cmdGetRoomLeverNum
                  (levelReplyPayload levelCount ((written ++ pairs).take roomForPairs))) := by
  induction count generalizing pPacket levels resPacket written proxy with
  | zero =>
      obtain ⟨rfl, -⟩ := yields_pure.mp reads
      refine Delivers.pure ⟨same, [], rfl, nofun, ?_⟩
      rw [List.append_nil, List.take_of_length_le bounded]
      exact carries
  | succ count ih =>
      obtain ⟨level, rest, first, later⟩ := yields_bind.mp reads
      obtain ⟨levels, _, readsRest, ends⟩ := yields_bind.mp later
      obtain ⟨rfl, rfl⟩ := yields_pure.mp ends
      let asked : Proxy := { proxy with asked := proxy.asked + 1 }
      let randCount := (proxy.world proxy.asked).random % 100
      let userCount := (proxy.pool.levelCountMap[level]?.map (min 32000)).getD 0
      refine Delivers.bind ⟨proxy.world proxy.asked, asked, rfl, ?_⟩
      have read : reading pPacket InputPacket.readShort asked = .ok ((level, rest), asked) := by
        rw [reading, show InputPacket.readShort pPacket = .ok (level, rest) from first]
        rfl
      refine Delivers.bind ⟨(level, rest), asked, read, ?_⟩
      refine Delivers.bind ⟨_, _, levelUserCount_run level asked, ?_⟩
      have carries' := writePair_carries carries bounded (level, userCount + randCount)
      have room : ((written ++ [(level, userCount + (randCount : Int))]).take
          roomForPairs).length ≤ roomForPairs := List.length_take_le _ _
      have looked := same.trans (lowered_same level asked.pool.levelCountMap)
      refine (ih readsRest carries' room looked).weaken ?_
      rintro final next ⟨same', pairs, firsts, counted, written'⟩
      refine ⟨same', (level, userCount + randCount) :: pairs, ?_, ?_, ?_⟩
      · rw [List.map_cons, firsts]
      · intro pair member
        rcases List.mem_cons.mp member with rfl | later
        · refine ⟨randCount, Nat.mod_lt _ (by omega), ?_⟩
          rw [same level]
        · exact counted pair later
      · rw [take_append_take, List.append_assoc] at written'
        exact written'

/-- The payload of an encrypted frame. -/
def plainPayload (frame : List UInt8) : List UInt8 :=
  (frame.drop 9).map EncryptDecrypt.mapRecvByte

/-- A request as `ProcessGetLevelCount` reads it: the count it announces, and the levels. -/
def readLevelRequest : PacketM 8192 (Int × List Int) :=
  decryptedThen do
    let levelCount ← InputPacket.readShort
    let levels ← readLevels levelCount.toNat
    pure (levelCount, levels)

/-- The frame of a finished packet holds its payload. -/
theorem encrypted_delivers {payload : List UInt8} {command : Int}
    (carries : Carries resPacket command payload) (room : 9 + payload.length ≤ 8192)
    (proxy : Proxy)
    : Delivers (encrypted resPacket.endPacket) proxy
        (fun reply next => next = proxy ∧ plainPayload reply = payload) := by
  obtain ⟨sealed, encrypts, whole⟩ := carries.encryptBuffer room (by omega)
  have size := whole.size_eq
  have contents : sealed.contents = .ok sealed.bytes := by
    rw [PacketBase.contents, if_neg (by omega)]
  refine ⟨sealed.bytes, proxy, ?_, rfl, ?_⟩
  · rw [Yields, encrypted, encrypts]
    change plain sealed proxy = _
    rw [plain, contents]
    rfl
  · have length : sealed.nPacketSize.toNat = 9 + payload.length := by omega
    rw [plainPayload, PacketBase.bytes, CellStore.drop_read _ _ _ _ (by omega), length,
      Nat.add_sub_cancel_left, Nat.zero_add, whole.cipher_eq, List.map_map]
    exact (List.map_congr_left
      (fun byte _ => EncryptDecrypt.mapRecvByte_mapSendByte byte)).trans (List.map_id payload)

/-- What the reply holds: the announced count, and the first pairs up to the end of the room. -/
theorem levelCountReply_delivers {pPacket body : NETInputPacket} {levels : List Int}
    (request : Yields readLevelRequest pPacket (levelCount, levels) body) (proxy : Proxy)
    : Delivers (levelCountReply pPacket) proxy
        (fun reply next =>
          SameCounts proxy.pool.levelCountMap next.pool.levelCountMap
            ∧ ∃ pairs : List (Int × Int), pairs.map Prod.fst = levels
              ∧ (∀ pair ∈ pairs, CountedFrom proxy.pool.levelCountMap pair)
              ∧ plainPayload reply
                = levelReplyPayload levelCount (pairs.take roomForPairs)) := by
  obtain ⟨status, opened, decrypts, rest⟩ := yields_bind.mp request
  obtain ⟨count, read, counts, rest⟩ := yields_bind.mp rest
  obtain ⟨asked, _, reads, ends⟩ := yields_bind.mp rest
  obtain ⟨same, rfl⟩ := yields_pure.mp ends
  obtain ⟨rfl, rfl⟩ := Prod.mk.inj same
  have head : decryptedThen InputPacket.readShort pPacket = .ok (levelCount, read) :=
    yields_bind.mpr ⟨status, opened, decrypts, counts⟩
  have reading' : reading pPacket (decryptedThen InputPacket.readShort) proxy
      = .ok ((levelCount, read), proxy) := by
    rw [reading, head]
    rfl
  refine Delivers.bind ⟨_, _, reading', ?_⟩
  have begun := carries_beginPacket (OutputPacket.ofStale (default : PacketBase 8192))
    cmdGetRoomLeverNum
  have announced := (begun.writeRaw (toBytes 2 (unsigned 16 levelCount)) (by simp)).2
  have started : Carries
      (OutputPacket.writeShort levelCount
        ((OutputPacket.ofStale (default : PacketBase 8192)).beginPacket cmdGetRoomLeverNum)).2
      cmdGetRoomLeverNum (levelReplyPayload levelCount []) := by
    rw [levelReplyPayload, pairBytes, List.flatMap_nil, List.append_nil]
    exact announced
  have loop := writeLevelCounts_delivers reads started (Nat.zero_le _)
    (SameCounts.refl proxy.pool.levelCountMap)
  refine Delivers.bind (loop.weaken ?_)
  rintro final next ⟨looked, pairs, firsts, counted, carries⟩
  rw [List.nil_append] at carries
  have width := length_levelReplyPayload levelCount (pairs.take roomForPairs)
  have most := List.length_take_le roomForPairs pairs
  unfold roomForPairs at most
  refine (encrypted_delivers carries (by unfold roomForPairs at width ⊢; omega) next).weaken ?_
  rintro reply _ ⟨rfl, payload⟩
  exact ⟨looked, pairs, firsts, counted, payload⟩

-----------------------------------------------------------------------------------------
-- Answers
-----------------------------------------------------------------------------------------

/-- The proxy behind these reports of helpers: reports are stored and requests are answered, and
nothing else changes the table of level counts.
-/
inductive Proxy.Counting : List (Int × Int) → Proxy → Prop
  | start {proxy} (empty : proxy.pool.levelCountMap = ∅) : Counting [] proxy
  | report {reports pPacket pairs body start next} (earlier : Counting reports start)
    (reads : Yields readLevelCounts pPacket pairs body)
    (stores : Yields (storeLevelCounts pPacket) start () next)
    : Counting (reports ++ pairs) next
  | answer {reports pPacket levelCount levels body start reply next}
    (earlier : Counting reports start)
    (request : Yields readLevelRequest pPacket (levelCount, levels) body)
    (answers : Yields (levelCountReply pPacket) start reply next)
    : Counting reports next
  | elsewhere {reports start next} (earlier : Counting reports start)
    (same : next.pool.levelCountMap = start.pool.levelCountMap)
    : Counting reports next

/-- The table holds what was reported last, whatever reports and requests came in which order. -/
theorem Proxy.Counting.tallied {reports : List (Int × Int)} {proxy : Proxy}
    (counting : proxy.Counting reports)
    : Tallied reports proxy.pool.levelCountMap := by
  induction counting with
  | start empty =>
      rw [empty]
      exact Tallied.empty
  | @report reports pPacket pairs body start next _ reads stores ih =>
      obtain ⟨status, opened, _, rest⟩ := yields_bind.mp reads
      obtain ⟨nCount, counted, _, readsPairs⟩ := yields_bind.mp rest
      have short := readPairs_short nCount.toNat trivial readsPairs
      have read : reading pPacket readLevelCounts start = .ok ((pairs, body), start) := by
        rw [reading, show readLevelCounts pPacket = .ok (pairs, body) from reads]
        rfl
      obtain ⟨_, _, reads', sets⟩ := yields_bind.mp stores
      obtain ⟨rfl, rfl⟩ := Yields.unique read reads'
      exact setLevelCounts_tallied pairs short ih sets
  | @answer reports pPacket levelCount levels body start reply next _ request answers ih =>
      exact ih.same ((levelCountReply_delivers request start).of_yields answers).1
  | elsewhere _ same ih =>
      rw [same]
      exact ih

/-- The reply answers a request for the counts of these levels: it announces how many there are,
and has a pair for each of them in order, with the count that was reported last, up to 32000, and
something below 100 added, as a `short`.
-/
def AnswersLevels (reports : List (Int × Int)) (levels : List Int) (reply : List UInt8) : Prop :=
  ∃ pairs : List (Int × Int), pairs.map Prod.fst = levels
    ∧ (∀ pair ∈ pairs,
        (∃ randCount : Nat, randCount < 100
          ∧ pair.2 = min 32000 ((lastReported reports pair.1).getD 0) + randCount)
        ∧ IsShort pair.2)
    ∧ plainPayload reply = levelReplyPayload levels.length pairs

theorem Tallied.answers {reports : List (Int × Int)} {counts : Std.TreeMap Int Int}
    (tallied : Tallied reports counts) {pair : Int × Int} (counted : CountedFrom counts pair)
    : (∃ randCount : Nat, randCount < 100
        ∧ pair.2 = min 32000 ((lastReported reports pair.1).getD 0) + randCount)
      ∧ IsShort pair.2 := by
  obtain ⟨randCount, small, count⟩ := counted
  rw [tallied.last pair.1] at count
  cases last : lastReported reports pair.1 with
  | none =>
      rw [last] at count
      refine ⟨⟨randCount, small, count⟩, ?_⟩
      change pair.2 = 0 + (randCount : Int) at count
      unfold IsShort
      omega
  | some userCount =>
      have short := tallied.short _ (lastReported_mem last)
      rw [last] at count
      refine ⟨⟨randCount, small, count⟩, ?_⟩
      change pair.2 = min 32000 userCount + (randCount : Int) at count
      unfold IsShort at short ⊢
      omega

/-- `ProcessGetLevelCount` reads as many levels as the request announces. -/
theorem readLevelRequest_length {pPacket body : NETInputPacket} {levels : List Int}
    (request : Yields readLevelRequest pPacket (levelCount, levels) body)
    : levels.length = levelCount.toNat := by
  obtain ⟨_, _, _, rest⟩ := yields_bind.mp request
  obtain ⟨count, read, _, rest⟩ := yields_bind.mp rest
  obtain ⟨asked, _, reads, ends⟩ := yields_bind.mp rest
  obtain ⟨same, -⟩ := yields_pure.mp ends
  obtain ⟨rfl, rfl⟩ := Prod.mk.inj same
  exact readLevels_length _ trivial reads

/-- No reply has pairs behind the end of its buffer. -/
theorem levels_unanswered {reports : List (Int × Int)} {proxy next : Proxy}
    {pPacket body : NETInputPacket} {levels : List Int} {reply : List UInt8}
    (request : Yields readLevelRequest pPacket (levelCount, levels) body)
    (many : 2045 < levelCount) (replies : Yields (levelCountReply pPacket) proxy reply next)
    : ¬AnswersLevels reports levels reply := by
  rintro ⟨pairs, firsts, -, payload⟩
  obtain ⟨-, pairs', -, -, payload'⟩ :=
    (levelCountReply_delivers request proxy).of_yields replies
  have asked := readLevelRequest_length request
  have answered : pairs.length = levels.length := by rw [← firsts, List.length_map]
  have sizes := congrArg List.length (payload.symm.trans payload')
  rw [length_levelReplyPayload, length_levelReplyPayload] at sizes
  have most := List.length_take_le roomForPairs pairs'
  unfold roomForPairs at most sizes
  omega

/-- A request is answered for all its levels exactly when it announces 2045 at most: behind the
end of the reply's buffer the writes of the loop fail, and nobody looks at that.
-/
theorem levels_answered_iff {reports : List (Int × Int)} {proxy : Proxy}
    (counting : proxy.Counting reports) {pPacket body : NETInputPacket} {levelCount : Int}
    {levels : List Int} (request : Yields readLevelRequest pPacket (levelCount, levels) body)
    (announced : 0 ≤ levelCount) (sid : SessionId)
    : (∃ reply next, Yields (levelCountReply pPacket) proxy reply next
          ∧ processGetLevelCount sid pPacket proxy = respond sid reply next
          ∧ AnswersLevels reports levels reply)
      ↔ levelCount ≤ 2045 := by
  constructor
  · rintro ⟨reply, next, replies, -, answers⟩
    by_contra many
    exact levels_unanswered request (not_le.mp many) replies answers
  · intro few
    obtain ⟨reply, next, replies, _, pairs, firsts, counted, payload⟩ :=
      levelCountReply_delivers request proxy
    have asked := readLevelRequest_length request
    have paired : pairs.length = levels.length := by rw [← firsts, List.length_map]
    have all : pairs.take roomForPairs = pairs :=
      List.take_of_length_le (by unfold roomForPairs; omega)
    refine ⟨reply, next, replies, bind_ends replies, pairs, firsts, ?_, ?_⟩
    · exact fun pair member => counting.tallied.answers (counted pair member)
    · have announces : (levels.length : Int) = levelCount := by omega
      rw [announces, ← all]
      exact payload

/-- The packet of a request without levels. -/
def bareLevelRequest (levelCount : Int) : NETInputPacket :=
  (PacketBase.copy default (frameOf (OutputPacket.build cmdGetRoomLeverNum do
    let _ ← OutputPacket.writeShort levelCount))).2

/-- Behind the end of a request every level is read as -1. -/
theorem readLevels_end {packet : NETInputPacket}
    (ended : packet.nPacketSize < toInt32 (2 + packet.nBufPos)) (count : Nat)
    : Yields (readLevels count) packet (List.replicate count (-1)) packet := by
  have none : Yields (PacketBase.read 2) packet none packet := by
    unfold Yields PacketBase.read
    rw [if_pos (Or.inl ended)]
  have level : Yields InputPacket.readShort packet (-1) packet :=
    yields_bind.mpr ⟨_, _, none, rfl⟩
  induction count with
  | zero => rfl
  | succ count ih =>
      exact yields_bind.mpr ⟨_, _, level, yields_bind.mpr ⟨_, _, ih, rfl⟩⟩

/-- A request that ends behind its count asks for levels -1. -/
theorem readLevelRequest_bare {pPacket read : NETInputPacket}
    (reads : Yields (decryptedThen InputPacket.readShort) pPacket levelCount read)
    (ended : read.nPacketSize < toInt32 (2 + read.nBufPos))
    : Yields readLevelRequest pPacket
        (levelCount, List.replicate levelCount.toNat (-1)) read := by
  obtain ⟨status, opened, decrypts, counts⟩ := yields_bind.mp reads
  have levels := readLevels_end ended levelCount.toNat
  exact yields_bind.mpr ⟨_, _, decrypts, yields_bind.mpr ⟨_, _, counts,
    yields_bind.mpr ⟨_, _, levels, rfl⟩⟩⟩

/-- The reply to a request that announces 2046 levels has no pair for the last one. -/
theorem levels_unanswered_past_room
    : Proxy.unused.Counting []
      ∧ ∃ body, Yields readLevelRequest (bareLevelRequest 2046)
          (2046, List.replicate 2046 (-1)) body
        ∧ ∀ sid : SessionId,
            ¬∃ reply next,
              Yields (levelCountReply (bareLevelRequest 2046)) Proxy.unused reply next
                ∧ processGetLevelCount sid (bareLevelRequest 2046) Proxy.unused
                  = respond sid reply next
                ∧ AnswersLevels [] (List.replicate 2046 (-1)) reply := by
  have checked : endsIn
      (fun levelCount read =>
        decide (levelCount = 2046 ∧ read.nPacketSize < toInt32 (2 + read.nBufPos)))
      (decryptedThen InputPacket.readShort (bareLevelRequest 2046)) = true := by
    decide +kernel
  obtain ⟨levelCount, read, reads, counted⟩ := endsIn_run checked
  obtain ⟨rfl, ended⟩ := of_decide_eq_true counted
  have request := readLevelRequest_bare reads ended
  refine ⟨.start rfl, read, request, ?_⟩
  rintro sid ⟨reply, next, replies, -, answers⟩
  exact levels_unanswered request (by omega) replies answers

/-- A request for two levels is answered. -/
theorem levels_answered_two
    : ∃ reply, AnswersLevels [] [2, 1] reply := by
  let request : NETInputPacket :=
    (PacketBase.copy default (frameOf (OutputPacket.build cmdGetRoomLeverNum do
      let _ ← OutputPacket.writeShort 2
      let _ ← OutputPacket.writeShort 2
      let _ ← OutputPacket.writeShort 1))).2
  have checked : endsIn (fun asked _ => decide (asked = (2, [2, 1])))
      (readLevelRequest request) = true := by
    decide +kernel
  obtain ⟨asked, body, reads, announced⟩ := endsIn_run checked
  obtain rfl := of_decide_eq_true announced
  have empty : Proxy.unused.Counting [] := .start rfl
  obtain ⟨reply, -, -, -, answers⟩ :=
    (levels_answered_iff empty reads (by omega) 1).mpr (by omega)
  exact ⟨reply, answers⟩

end ProxyServer.System
