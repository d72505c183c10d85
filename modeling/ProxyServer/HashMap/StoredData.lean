import ProxyServer.HashMap.MapRuns

/-! What the map stores, over an allocator that acts like a store of blocks.
Each node in use has a key of its own and a block of its own with the key's data, so the map is
a function from keys to data; an operation that fails leaves the function as it was.
-/

namespace ProxyServer.HashMap

open Function (update update_self update_of_ne)
open LawfulChunkAllocator (Represents)

variable {Key σ η : Type} [DecidableEq η] [ChunkAllocator σ η] [LawfulChunkAllocator σ]
  {map : HashMap Key σ η} {free recent : List Nat} {chain : Nat → List Nat}
  {contents : Key → Option (List UInt8)} {store : BlockStore η} {node : Nat}

-----------------------------------------------------------------------------------------
-- Keys and blocks
-----------------------------------------------------------------------------------------

/-- The nodes in use store the contents: one node for each key and one block for each node. -/
structure Stored (map : HashMap Key σ η) (recent : List Nat)
    (contents : Key → Option (List UInt8)) (store : BlockStore η)
    : Prop where
  represents : Represents map.allocator store
  distinct
    : ∀ node ∈ recent, ∀ other ∈ recent, map.key node = map.key other → node = other
  apart
    : ∀ node ∈ recent, ∀ other ∈ recent, map.chunkHead node = map.chunkHead other → node = other
  block
    : ∀ node ∈ recent,
        ∃ handle data,
          map.chunkHead node = some handle
          ∧ store.block handle = some { chunks := store.chunkNum data.length, data }
          ∧ map.chunkLen node = data.length
          ∧ contents (map.key node) = some data
  listed : ∀ key data, contents key = some data → ∃ node ∈ recent, map.key node = key

namespace Stored

theorem congr {map' : HashMap Key σ η} {recent' : List Nat}
    (stored : Stored map recent contents store) (same : map'.dataFields = map.dataFields)
    (members : ∀ node, node ∈ recent' ↔ node ∈ recent)
    : Stored map' recent' contents store := by
  simp only [dataFields, Prod.mk.injEq] at same
  obtain ⟨key, chunkLen, chunkHead, allocator⟩ := same
  constructor
  · exact allocator ▸ stored.represents
  · simp only [members, key]
    exact stored.distinct
  · simp only [members, chunkHead]
    exact stored.apart
  · simp only [members, key, chunkHead, chunkLen]
    exact stored.block
  · simp only [members, key]
    exact stored.listed

theorem accessed (stored : Stored map recent contents store) (member : node ∈ recent)
    : Stored map (HashMap.accessed recent (some node)) contents store :=
  stored.congr rfl (fun _ => (List.perm_cons_erase member).symm.mem_iff)

theorem absent_of_none (stored : Stored map recent contents store) {key : Key}
    (absent : contents key = none) (member : node ∈ recent)
    : map.key node ≠ key := by
  rintro rfl
  obtain ⟨_, data, -, -, -, present⟩ := stored.block node member
  simp [absent] at present

/-- One node gets data in a block of its own, under a key that no other node has; the other
nodes keep their keys and blocks. -/
theorem put [DecidableEq Key] {map' : HashMap Key σ η} {recent' : List Nat} {key : Key}
    {data : List UInt8} {handle : η} {store' : BlockStore η}
    (stored : Stored map recent contents store)
    (represents : Represents map'.allocator store')
    (chunkNum : store'.chunkNum = store.chunkNum)
    (members : ∀ other, other ∈ recent' ↔ other = node ∨ other ∈ recent)
    (own : node ∈ recent → map.key node = key)
    (written
      : map'.key node = key ∧ map'.chunkLen node = data.length ∧ map'.chunkHead node = some handle)
    (block : store'.block handle = some { chunks := store.chunkNum data.length, data })
    (kept
      : ∀ other ∈ recent, other ≠ node
          → map'.key other = map.key other ∧ map'.chunkLen other = map.chunkLen other
            ∧ map'.chunkHead other = map.chunkHead other)
    (otherKeys : ∀ other ∈ recent, other ≠ node → map.key other ≠ key)
    (otherBlocks
      : ∀ other ∈ recent, other ≠ node
          → ∀ handle', map.chunkHead other = some handle'
            → handle' ≠ handle ∧ store'.block handle' = store.block handle')
    : Stored map' recent' (update contents key (some data)) store' := by
  obtain ⟨ownKey, ownLen, ownHead⟩ := written
  have otherKeys' {other : Nat} (member : other ∈ recent) (differs : other ≠ node)
      : map'.key other ≠ key :=
    (kept other member differs).1 ▸ otherKeys other member differs
  have otherHeads {other : Nat} (member : other ∈ recent) (differs : other ≠ node)
      : map'.chunkHead other ≠ some handle := by
    rw [(kept other member differs).2.2]
    exact fun same => (otherBlocks other member differs handle same).1 rfl
  have others {other : Nat} (member : other ∈ recent') (differs : other ≠ node)
      : other ∈ recent :=
    ((members other).mp member).resolve_left differs
  refine ⟨represents, ?_, ?_, ?_, ?_⟩
  · intro one oneMember other otherMember same
    by_cases first : one = node <;> by_cases second : other = node
    · exact first.trans second.symm
    · rw [first, ownKey] at same
      exact absurd same.symm (otherKeys' (others otherMember second) second)
    · rw [second, ownKey] at same
      exact absurd same (otherKeys' (others oneMember first) first)
    · have one' := others oneMember first
      have other' := others otherMember second
      rw [(kept one one' first).1, (kept other other' second).1] at same
      exact stored.distinct one one' other other' same
  · intro one oneMember other otherMember same
    by_cases first : one = node <;> by_cases second : other = node
    · exact first.trans second.symm
    · rw [first, ownHead] at same
      exact absurd same.symm (otherHeads (others otherMember second) second)
    · rw [second, ownHead] at same
      exact absurd same (otherHeads (others oneMember first) first)
    · have one' := others oneMember first
      have other' := others otherMember second
      rw [(kept one one' first).2.2, (kept other other' second).2.2] at same
      exact stored.apart one one' other other' same
  · intro other member
    by_cases same : other = node
    · subst same
      exact ⟨handle, data, ownHead, chunkNum ▸ block, ownLen, by rw [ownKey, update_self]⟩
    · have member' := others member same
      obtain ⟨handle', data', head, block', len, content⟩ := stored.block other member'
      obtain ⟨key', len', head'⟩ := kept other member' same
      refine ⟨handle', data', head'.trans head, ?_, len'.trans len, ?_⟩
      · rw [(otherBlocks other member' same handle' head).2, chunkNum, block']
      · rw [key', update_of_ne (otherKeys other member' same), content]
  · intro key' data' content
    by_cases same : key' = key
    · exact ⟨node, (members node).mpr (Or.inl rfl), ownKey.trans same.symm⟩
    · rw [update_of_ne same] at content
      obtain ⟨other, member, keyed⟩ := stored.listed key' data' content
      have differs : other ≠ node := by
        rintro rfl
        exact same (keyed.symm.trans (own member))
      exact ⟨other, (members other).mpr (Or.inr member), (kept other member differs).1.trans keyed⟩

/-- A node goes out of use, with its key and its block. -/
theorem remove [DecidableEq Key] {map' : HashMap Key σ η} {handle : η}
    (stored : Stored map recent contents store) (nodup : recent.Nodup) (member : node ∈ recent)
    (head : map.chunkHead node = some handle)
    (represents : Represents map'.allocator (store.release handle))
    (keys : map'.key = map.key)
    (kept
      : ∀ other ∈ recent, other ≠ node
          → map'.chunkLen other = map.chunkLen other
            ∧ map'.chunkHead other = map.chunkHead other)
    : Stored map' (recent.erase node) (update contents (map.key node) none)
        (store.release handle) := by
  have others {other : Nat} (left : other ∈ recent.erase node)
      : other ≠ node ∧ other ∈ recent :=
    nodup.mem_erase_iff.mp left
  have otherKeys {other : Nat} (left : other ∈ recent.erase node)
      : map.key other ≠ map.key node :=
    fun same => (others left).1 (stored.distinct other (others left).2 node member same)
  refine ⟨represents, ?_, ?_, ?_, ?_⟩
  · intro one oneLeft other otherLeft same
    rw [keys] at same
    exact stored.distinct one (others oneLeft).2 other (others otherLeft).2 same
  · intro one oneLeft other otherLeft same
    rw [(kept one (others oneLeft).2 (others oneLeft).1).2,
      (kept other (others otherLeft).2 (others otherLeft).1).2] at same
    exact stored.apart one (others oneLeft).2 other (others otherLeft).2 same
  · intro other left
    obtain ⟨differs, member'⟩ := others left
    obtain ⟨handle', data, head', block, len, content⟩ := stored.block other member'
    obtain ⟨keptLen, keptHead⟩ := kept other member' differs
    have notFreed : handle' ≠ handle := by
      rintro rfl
      exact differs (stored.apart other member' node member (head'.trans head.symm))
    refine ⟨handle', data, keptHead.trans head', ?_, keptLen.trans len, ?_⟩
    · exact (update_of_ne notFreed _ _).trans block
    · rw [keys, update_of_ne (otherKeys left), content]
  · intro key data content
    have differs : key ≠ map.key node := by
      rintro rfl
      simp at content
    rw [update_of_ne differs] at content
    obtain ⟨other, member', keyed⟩ := stored.listed key data content
    refine ⟨other, nodup.mem_erase_iff.mpr ⟨?_, member'⟩, keys ▸ keyed⟩
    rintro rfl
    exact differs keyed.symm

-----------------------------------------------------------------------------------------
-- What the operations store
-----------------------------------------------------------------------------------------

/-- `update_node` fails and changes nothing, or replaces the node's data. -/
theorem updateNode [DecidableEq Key] (stored : Stored map recent contents store)
    (member : node ∈ recent) (newData : List UInt8) (old : OutArgs)
    : (map.updateNode node newData old).1 = none ∧ (map.updateNode node newData old).2.2 = map
      ∨ (map.updateNode node newData old).1 = some node
        ∧ ∃ store',
            Stored (map.updateNode node newData old).2.2 recent
              (update contents (map.key node) (some newData)) store' := by
  obtain ⟨handle, data, head, block, len, -⟩ := stored.block node member
  have chunkNum (length : Nat)
      : ChunkAllocator.getChunkNum map.allocator length = store.chunkNum length :=
    LawfulChunkAllocator.getChunkNum_eq length stored.represents
  have members (other : Nat) : other ∈ recent ↔ other = node ∨ other ∈ recent :=
    ⟨Or.inr, fun either => either.elim (fun same => same ▸ member) id⟩
  have otherKeys (other : Nat) (otherMember : other ∈ recent) (differs : other ≠ node)
      : map.key other ≠ map.key node :=
    fun same => differs (stored.distinct other otherMember node member same)
  have otherHandles {other : Nat} (otherMember : other ∈ recent) (differs : other ≠ node)
      {handle' : η} (head' : map.chunkHead other = some handle')
      : handle' ≠ handle := by
    rintro rfl
    exact differs (stored.apart other otherMember node member (head'.trans head.symm))
  unfold HashMap.updateNode
  simp only [chunkNum, len, head, LawfulChunkAllocator.getFreeChunkNum_eq stored.represents]
  split_ifs with unread moved lack
  · exact Or.inl ⟨rfl, rfl⟩
  · exact Or.inl ⟨rfl, rfl⟩
  · -- the old chunks are free again before the new ones are taken, so these suffice
    have released := LawfulChunkAllocator.free_release stored.represents block
    have enough
        : store.chunkNum newData.length ≤ (store.release handle).freeChunks := by
      rw [BlockStore.release_freeChunks block]
      dsimp only
      omega
    obtain ⟨handle', pool, run, fresh, allocated⟩ :=
      LawfulChunkAllocator.malloc_enough released enough
    have written
        : Represents (ChunkAllocator.split pool (some handle') newData)
            (((store.release handle).allocate handle' (store.chunkNum newData.length)).write
              handle' newData) :=
      LawfulChunkAllocator.split_write allocated (update_self ..) le_rfl
    rw [run]
    refine Or.inr ⟨rfl, _, stored.put written rfl members (fun _ => rfl)
      ⟨rfl, update_self .., update_self ..⟩ BlockStore.allocate_write_self ?_ otherKeys ?_⟩
    · intro other _ differs
      exact ⟨rfl, update_of_ne differs _ _, update_of_ne differs _ _⟩
    · intro other otherMember differs handle'' head'
      have kept := otherHandles otherMember differs head'
      have notNew : handle'' ≠ handle' := by
        rintro rfl
        obtain ⟨_, _, head'', block', -, -⟩ := stored.block other otherMember
        obtain rfl := Option.some.inj (head'.symm.trans head'')
        rw [BlockStore.release_of_ne kept, block'] at fresh
        simp at fresh
      exact ⟨notNew,
        (BlockStore.allocate_write_of_ne notNew).trans (BlockStore.release_of_ne kept)⟩
  · have same : store.chunkNum data.length = store.chunkNum newData.length :=
      Decidable.not_not.mp moved
    have written := LawfulChunkAllocator.split_write stored.represents block same.ge
    refine Or.inr ⟨rfl, _, stored.put written rfl members (fun _ => rfl)
      ⟨rfl, update_self .., head⟩ ?_ ?_ otherKeys ?_⟩
    · exact same ▸ BlockStore.write_self block
    · intro other _ differs
      exact ⟨rfl, update_of_ne differs _ _, rfl⟩
    · intro other otherMember differs handle' head'
      have kept := otherHandles otherMember differs head'
      exact ⟨kept, BlockStore.write_of_ne kept⟩

end Stored

/-- An insertion of the data lacks a free node or enough free chunks. -/
def NoRoom (map : HashMap Key σ η) (newData : List UInt8) : Prop :=
  map.freeList = none
  ∨ ChunkAllocator.getFreeChunkNum map.allocator
    < ChunkAllocator.getChunkNum map.allocator newData.length

/-- Without room `insert_node` fails, and changes the allocator at most, which keeps its
blocks. -/
theorem insertNode_noRoom (represents : Represents map.allocator store)
    {newData : List UInt8} (noRoom : map.NoRoom newData) (key : Key) (now : Int)
    : ∃ allocator,
        map.insertNode key newData now = some (none, { map with allocator })
        ∧ Represents allocator store := by
  by_cases full : map.freeList = none
  · exact ⟨map.allocator, insertNode_full full key newData now, represents⟩
  · obtain ⟨node, head⟩ := Option.ne_none_iff_exists'.mp full
    have lack := noRoom.resolve_left full
    rw [LawfulChunkAllocator.getChunkNum_eq _ represents,
      LawfulChunkAllocator.getFreeChunkNum_eq represents] at lack
    obtain ⟨allocator, run, represents'⟩ := LawfulChunkAllocator.malloc_lack represents lack
    rw [← LawfulChunkAllocator.getChunkNum_eq _ represents] at run
    exact ⟨allocator, insertNode_lack head key newData now run, represents'⟩

/-- All lists of the map are in shape, and it stores the contents. -/
def Holds (map : HashMap Key σ η) (contents : Key → Option (List UInt8)) : Prop :=
  ∃ free chain recent store, Shape map free chain recent ∧ Stored map recent contents store

/-- With room `insert_node` puts the data into a new block of a new node, whether or not the key
is stored. -/
theorem insertNode_room (shape : Shape map free chain recent)
    (represents : Represents map.allocator store) {newData : List UInt8}
    (room : ¬map.NoRoom newData) (key : Key) (now : Int)
    : ∃ node free' chain' handle map',
        map.insertNode key newData now = some (some node, map')
        ∧ node ∉ recent
        ∧ Shape map' free' chain' (node :: recent)
        ∧ map'.sizes = map.sizes
        ∧ map'.key = update map.key node key
        ∧ map'.chunkLen = update map.chunkLen node newData.length
        ∧ map'.chunkHead = update map.chunkHead node (some handle)
        ∧ store.block handle = none
        ∧ Represents map'.allocator
            ((store.allocate handle (store.chunkNum newData.length)).write handle newData) := by
  obtain ⟨hasNode, enough⟩ := not_or.mp room
  cases free with
  | nil => exact absurd shape.lists.freed hasNode
  | cons node free =>
      rw [LawfulChunkAllocator.getChunkNum_eq _ represents,
        LawfulChunkAllocator.getFreeChunkNum_eq represents, Nat.not_lt] at enough
      obtain ⟨handle, pool, run, fresh, allocated⟩ :=
        LawfulChunkAllocator.malloc_enough represents enough
      have written
          : Represents (ChunkAllocator.split pool (some handle) newData)
              ((store.allocate handle (store.chunkNum newData.length)).write handle newData) :=
        LawfulChunkAllocator.split_write allocated (update_self ..) le_rfl
      rw [← LawfulChunkAllocator.getChunkNum_eq _ represents] at run
      obtain ⟨map', inserted, shape', sizes, data⟩ := shape.insertNode_eq key newData now run
      simp only [dataFields, Prod.mk.injEq] at data
      obtain ⟨keys, lens, heads, allocator⟩ := data
      rw [← allocator] at written
      exact ⟨node, free, _, handle, map', inserted, shape.unused List.mem_cons_self, shape', sizes,
        keys, lens, heads, fresh, written⟩

section Operations

variable [DecidableEq Key]

/-- With room `insert_node` stores the data of an absent key. -/
theorem insertNode_stored (shape : Shape map free chain recent)
    (stored : Stored map recent contents store) {key : Key} (absent : contents key = none)
    {newData : List UInt8} (room : ¬map.NoRoom newData) (now : Int)
    : ∃ node map',
        map.insertNode key newData now = some (some node, map')
        ∧ Holds map' (update contents key (some newData))
        ∧ map'.sizes = map.sizes := by
  obtain ⟨node, free', chain', handle, map', inserted, unused, shape', sizes, keys, lens, heads,
    fresh, written⟩ := insertNode_room shape stored.represents room key now
  refine ⟨node, map', inserted, ⟨free', chain', node :: recent, _, shape',
    stored.put written rfl (fun _ => List.mem_cons) (fun member => absurd member unused)
      ⟨?_, ?_, ?_⟩ BlockStore.allocate_write_self ?_
      (fun other member _ => stored.absent_of_none absent member) ?_⟩, sizes⟩
  · rw [keys, update_self]
  · rw [lens, update_self]
  · rw [heads, update_self]
  · intro other _ differs
    rw [keys, lens, heads, update_of_ne differs, update_of_ne differs, update_of_ne differs]
    exact ⟨rfl, rfl, rfl⟩
  · intro other member _ handle' head
    have notNew : handle' ≠ handle := by
      rintro rfl
      obtain ⟨_, _, head', block, -, -⟩ := stored.block other member
      obtain rfl := Option.some.inj (head.symm.trans head')
      simp [fresh] at block
    exact ⟨notNew, BlockStore.allocate_write_of_ne notNew⟩

/-- `find_node` finds the key's node exactly when the key is stored. -/
theorem findNode_stored (shape : Shape map free chain recent)
    (stored : Stored map recent contents store) (key : Key) (now : Int)
    : ∃ found map',
        map.findNode key now = some (found, map')
        ∧ Shape map' free chain (accessed recent found)
        ∧ Stored map' (accessed recent found) contents store
        ∧ map'.sizes = map.sizes
        ∧ map'.dataFields = map.dataFields
        ∧ match found with
          | some node => node ∈ recent ∧ map.key node = key
          | none => contents key = none := by
  obtain ⟨found, map', run, search, shape', sizes, data⟩ := shape.findNode key now
  cases found with
  | none =>
      refine ⟨none, map', run, shape', stored.congr data (fun _ => Iff.rfl), sizes, data, ?_⟩
      rcases content : contents key with _ | bytes
      · rfl
      · -- a stored key has a node in its own bucket, which the search would have met
        obtain ⟨node, member, keyed⟩ := stored.listed key bytes content
        have chained := shape.mem_chain member
        rw [keyed] at chained
        have passed := List.find?_eq_none.mp search.symm node chained
        simp [keyed] at passed
  | some node =>
      have member := shape.mem_recent (List.mem_of_find?_eq_some search.symm)
      have keyed : map.key node = key := by
        simpa using List.find?_some search.symm
      exact ⟨some node, map', run, shape',
        (stored.accessed member).congr data (fun _ => Iff.rfl), sizes, data, member, keyed⟩

end Operations

end ProxyServer.HashMap
