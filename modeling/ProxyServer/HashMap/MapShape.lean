import ProxyServer.HashMap.AddList

/-! The lists together: a node is in use when it is on the list of a bucket, and then it is on
the additional list. What every operation of the map does to the lists, and which nodes it moves.
-/

namespace ProxyServer.HashMap

open Function (update update_self update_of_ne update_eq_iff update_eq_self)
open LinkedNodes

variable {Key σ η : Type} {map : HashMap Key σ η} {free recent : List Nat}
  {chain : Nat → List Nat} {loose : Option Nat} {node : Nat}

-----------------------------------------------------------------------------------------
-- What an operation leaves alone
-----------------------------------------------------------------------------------------

/-- What the stored keys and data depend on. -/
def dataFields (map : HashMap Key σ η) :=
  (map.key, map.chunkLen, map.chunkHead, map.allocator)

/-- What never changes in an open map. -/
def sizes (map : HashMap Key σ η) :=
  (map.nodeTotal, map.bucketSize, map.hashFunc)

theorem listFields_deleteFromAddList (map : HashMap Key σ η) (node : Nat)
    : (map.deleteFromAddList node).listFields = map.listFields := by
  rw [deleteFromAddList_eq]
  split <;> rfl

theorem dataFields_deleteFromAddList (map : HashMap Key σ η) (node : Nat)
    : (map.deleteFromAddList node).dataFields = map.dataFields := by
  rw [deleteFromAddList_eq]
  split <;> rfl

theorem listFields_access (map : HashMap Key σ η) (node : Nat) (now : Int)
    : (map.access node now).listFields = map.listFields := by
  unfold access
  rw [insertAddListHead_eq]
  exact listFields_deleteFromAddList _ node

theorem dataFields_access (map : HashMap Key σ η) (node : Nat) (now : Int)
    : (map.access node now).dataFields = map.dataFields := by
  unfold access
  rw [insertAddListHead_eq]
  exact dataFields_deleteFromAddList _ node

theorem sizes_of_listFields {map' : HashMap Key σ η} (same : map'.listFields = map.listFields)
    : map'.sizes = map.sizes := by
  simp only [listFields, Prod.mk.injEq] at same
  simp [sizes, same]

theorem getBucketId_congr {map' : HashMap Key σ η} (same : map'.sizes = map.sizes)
    : map'.getBucketId = map.getBucketId := by
  simp only [sizes, Prod.mk.injEq] at same
  funext key
  simp [getBucketId, same]

theorem AddList.congr {map' : HashMap Key σ η} (added : AddList map recent)
    (links : map'.addLinks = map.addLinks) (total : map'.nodeTotal = map.nodeTotal)
    : AddList map' recent := by
  have next : map'.addNext = map.addNext := congrArg Links.next links
  have prev : map'.addPrev = map.addPrev := congrArg Links.prev links
  exact ⟨links ▸ added.linked, next ▸ prev ▸ total ▸ added.loose⟩

theorem AddList.access (added : AddList map recent) (within : node < map.nodeTotal) (now : Int)
    : AddList (map.access node now) (node :: recent.erase node) := by
  have counted
      : AddList
          {
            map with
            addInfo1 := update map.addInfo1 node now
            addInfo2 := update map.addInfo2 node (toInt32 (map.addInfo2 node + 1))
          }
          recent :=
    added.congr rfl rfl
  exact counted.insertAddListHead within

-----------------------------------------------------------------------------------------
-- A node comes into use, and goes out of it
-----------------------------------------------------------------------------------------

theorem NodeLists.assign (lists : NodeLists map free chain (some node)) (key : Key)
    : NodeLists { map with key := update map.key node key } free chain (some node) := by
  obtain ⟨-, unused⟩ := lists.looseApart node rfl
  refine ⟨lists.buckets, lists.freed, lists.chained, ?_, lists.apart, lists.looseApart,
    lists.within, lists.usedNodes, lists.usedBuckets, lists.total⟩
  intro bucketId within other member
  have differs : other ≠ node := ne_of_mem_of_not_mem member (unused bucketId within)
  change map.getBucketId (update map.key node key other) = bucketId
  rw [update_of_ne differs]
  exact lists.keyed bucketId within other member

theorem insertNodeList_usedBucketNum (map : HashMap Key σ η) (node : Nat) (count : Int)
    : { map with usedBucketNum := count }.insertNodeList node
      = { map.insertNodeList node with usedBucketNum := count } := by
  rw [insertNodeList_eq, insertNodeList_eq]
  rfl

/-- The end of `use_node`: the node goes on the list of its bucket, and the counters follow. -/
theorem insertNodeList_counted (lists : NodeLists map free chain (some node)) {bucketId : Nat}
    (hashed : map.getBucketId (map.key node) = bucketId)
    : ∃ map',
        (do
          let bucketListLen ← map.getBucketListLen (map.getBucketId (map.key node))
          let map :=
            if bucketListLen = 0 then { map with usedBucketNum := map.usedBucketNum + 1 } else map
          pure (map.insertNodeList node))
          = some map'
        ∧ NodeLists map' free (update chain bucketId (node :: chain bucketId)) none
        ∧ map'.addLinks = map.addLinks
        ∧ map'.sizes = map.sizes
        ∧ map'.dataFields = map.dataFields := by
  have within : bucketId < map.bucketSize := hashed ▸ map.getBucketId_lt lists.buckets _
  refine ⟨
    {
      map.insertNodeList node with
      usedBucketNum := map.usedBucketNum + if chain bucketId = [] then 1 else 0
    }, ?_, ?_, ?_, ?_, ?_⟩
  · rw [hashed, lists.bucketListLen_eq within, ← insertNodeList_usedBucketNum]
    cases chain bucketId <;> simp
  · rw [insertNodeList_eq, hashed]
    exact lists.link hashed
  all_goals
    rw [insertNodeList_eq]
    rfl

/-- `use_node` puts a node on the list of its new key's bucket. -/
theorem useNode_eq (lists : NodeLists map free chain (some node)) (key : Key) (chunkLen : Nat)
    (chunkHead : Option η)
    : ∃ map',
        map.useNode node key chunkLen chunkHead = some map'
        ∧ NodeLists map' free
            (update chain (map.getBucketId key) (node :: chain (map.getBucketId key))) none
        ∧ map'.addLinks = map.addLinks
        ∧ map'.sizes = map.sizes
        ∧ map'.dataFields
          = (update map.key node key, update map.chunkLen node chunkLen,
              update map.chunkHead node chunkHead, map.allocator) := by
  have assigned
      : NodeLists
          {
            map with
            key := update map.key node key
            chunkLen := update map.chunkLen node chunkLen
            chunkHead := update map.chunkHead node chunkHead
            addInfo1 := update map.addInfo1 node 0
            addInfo2 := update map.addInfo2 node 0
          }
          free chain (some node) :=
    (lists.assign key).congr rfl
  have hashed : map.getBucketId (update map.key node key node) = map.getBucketId key := by
    rw [update_self]
  exact insertNodeList_counted assigned hashed

theorem update_none {links : Nat → Option Nat} (absent : links node = none)
    : update links node none = links :=
  update_eq_iff.mpr ⟨absent.symm, fun _ _ => rfl⟩

/-- What `delete_from_node_list` leaves alone, and that the node then names no neighbour. -/
theorem deleteFromNodeList_frame (map : HashMap Key σ η) (node : Nat)
    : (map.deleteFromNodeList node).addLinks = map.addLinks
      ∧ (map.deleteFromNodeList node).sizes = map.sizes
      ∧ (map.deleteFromNodeList node).dataFields = map.dataFields
      ∧ (map.deleteFromNodeList node).usedBucketNum = map.usedBucketNum
      ∧ (map.deleteFromNodeList node).nodeNext node = none
      ∧ (map.deleteFromNodeList node).nodePrev node = none := by
  rw [deleteFromNodeList_eq]
  exact ⟨rfl, rfl, rfl, rfl, update_self .., update_self ..⟩

section FreeNode

variable [ChunkAllocator σ η]

/-- `free_node` takes a node from the list of its bucket. -/
theorem freeNode_eq (lists : NodeLists map free chain none) {bucketId : Nat}
    (hashed : map.getBucketId (map.key node) = bucketId) (member : node ∈ chain bucketId)
    (unlisted : map.addNext node = none ∧ map.addPrev node = none)
    : ∃ map',
        map.freeNode node = some map'
        ∧ NodeLists map' free (update chain bucketId ((chain bucketId).erase node)) (some node)
        ∧ map'.addLinks = map.addLinks
        ∧ map'.sizes = map.sizes
        ∧ map'.dataFields
          = (map.key, update map.chunkLen node 0, update map.chunkHead node none,
              ChunkAllocator.free map.allocator (map.chunkHead node)) := by
  have within : bucketId < map.bucketSize := hashed ▸ map.getBucketId_lt lists.buckets _
  have unlinked
      : NodeLists
          {
            map.deleteFromNodeList node with
            usedBucketNum :=
              map.usedBucketNum - if (chain bucketId).erase node = [] then 1 else 0
          }
          free (update chain bucketId ((chain bucketId).erase node)) (some node) := by
    rw [deleteFromNodeList_eq, hashed]
    exact lists.unlink within member
  obtain ⟨links, sizes, data, usedBucketNum, next, prev⟩ := map.deleteFromNodeList_frame node
  unfold freeNode
  generalize map.deleteFromNodeList node = removed at *
  have ids := getBucketId_congr sizes
  simp only [HashMap.sizes, dataFields, addLinks, Prod.mk.injEq, Links.mk.injEq]
    at links sizes data
  obtain ⟨addNext, addPrev, addHead, addTail⟩ := links
  obtain ⟨key, chunkLen, chunkHead, allocator⟩ := data
  have counted := unlinked.bucketListLen_eq (sizes.2.1.symm ▸ within)
  rw [update_self] at counted
  have hashed' : removed.getBucketId (removed.key node) = bucketId := by
    rw [ids, key, hashed]
  refine ⟨
    {
      removed with
      allocator := ChunkAllocator.free removed.allocator (removed.chunkHead node)
      usedBucketNum :=
        map.usedBucketNum - if (chain bucketId).erase node = [] then 1 else 0
    }.initNode node, ?_, ?_, ?_, ?_, ?_⟩
  · have counted'
        : getBucketListLen
            {
              removed with
              allocator := ChunkAllocator.free removed.allocator (removed.chunkHead node)
            }
            (removed.getBucketId (removed.key node))
          = some ((chain bucketId).erase node).length :=
      hashed' ▸ counted
    refine (congrArg (fun len => Option.bind len _) counted').trans ?_
    cases (chain bucketId).erase node <;> simp [usedBucketNum]
  · refine unlinked.congr ?_
    simp only [listFields, initNode, update_none next, update_none prev]
  · simp only [addLinks, initNode, addNext, addPrev, addHead, addTail, update_none unlisted.1,
      update_none unlisted.2]
  · simp [HashMap.sizes, initNode, sizes]
  · simp [dataFields, initNode, key, chunkLen, chunkHead, allocator]

end FreeNode

-----------------------------------------------------------------------------------------
-- The operations
-----------------------------------------------------------------------------------------

section Unlinked

variable [ChunkAllocator σ η]

/-- Without a free node, `insert_node` changes nothing. -/
theorem insertNode_full (full : map.freeList = none) (key : Key) (newData : List UInt8)
    (now : Int)
    : map.insertNode key newData now = some (none, map) := by
  simp [insertNode, freeListRemove, full]

/-- Without enough chunks, `insert_node` puts the free node back. -/
theorem insertNode_lack {allocator : σ} (head : map.freeList = some node) (key : Key)
    (newData : List UInt8) (now : Int)
    (lack
      : ChunkAllocator.malloc map.allocator
          (ChunkAllocator.getChunkNum map.allocator newData.length)
        = (none, allocator))
    : map.insertNode key newData now = some (none, { map with allocator }) := by
  simp only [insertNode, freeListRemove_eq head, lack]
  refine congrArg (fun map => some (none, map)) ?_
  simp only [freeListInsert, Function.update_idem, update_eq_self, ← head]

/-- `update_node` relinks nothing. -/
theorem updateNode_frame (map : HashMap Key σ η) (node : Nat) (newData : List UInt8)
    (old : OutArgs)
    : (map.updateNode node newData old).2.2.listFields = map.listFields
      ∧ (map.updateNode node newData old).2.2.addLinks = map.addLinks := by
  unfold updateNode
  dsimp only
  split_ifs <;> exact ⟨rfl, rfl⟩

/-- When the data cannot be handed out, `delete_node` changes nothing. -/
theorem deleteNode_unread {out : OutArgs} (unread : (map.readStored node out).1 ≠ 0)
    : map.deleteNode node out = some (-1, (map.readStored node out).2, map) := by
  unfold deleteNode
  exact if_pos unread

end Unlinked

/-- All lists of the map. The nodes in use are on the list of a bucket and on the additional
list, `recent`. -/
structure Shape (map : HashMap Key σ η) (free : List Nat) (chain : Nat → List Nat)
    (recent : List Nat)
    : Prop where
  lists : NodeLists map free chain none
  added : AddList map recent
  used : ∀ node, node ∈ recent ↔ ∃ bucketId < map.bucketSize, node ∈ chain bucketId

namespace Shape

theorem within (shape : Shape map free chain recent) (member : node ∈ recent)
    : node < map.nodeTotal :=
  (shape.lists.within node).mpr (Or.inr (Or.inr ((shape.used node).mp member)))

/-- A node in use is on the list of its own key's bucket. -/
theorem mem_chain (shape : Shape map free chain recent) (member : node ∈ recent)
    : node ∈ chain (map.getBucketId (map.key node)) := by
  obtain ⟨bucketId, within, chained⟩ := (shape.used node).mp member
  rwa [shape.lists.keyed bucketId within node chained]

theorem mem_recent (shape : Shape map free chain recent) {key : Key}
    (member : node ∈ chain (map.getBucketId key))
    : node ∈ recent :=
  (shape.used node).mpr ⟨_, map.getBucketId_lt shape.lists.buckets key, member⟩

theorem unused (shape : Shape map free chain recent) (member : node ∈ free) : node ∉ recent := by
  intro used
  obtain ⟨bucketId, within, chained⟩ := (shape.used node).mp used
  exact shape.lists.apart node member bucketId within chained

/-- A change of other fields keeps every list. -/
theorem congr {map' : HashMap Key σ η} (shape : Shape map free chain recent)
    (lists : map'.listFields = map.listFields) (links : map'.addLinks = map.addLinks)
    : Shape map' free chain recent := by
  have sizes := sizes_of_listFields lists
  simp only [HashMap.sizes, Prod.mk.injEq] at sizes
  exact ⟨shape.lists.congr lists, shape.added.congr links sizes.1, sizes.2.1 ▸ shape.used⟩

/-- An access makes a node in use the most recent one. -/
theorem access (shape : Shape map free chain recent) (member : node ∈ recent) (now : Int)
    : Shape (map.access node now) free chain (node :: recent.erase node) := by
  have lists := map.listFields_access node now
  have sizes := sizes_of_listFields lists
  simp only [HashMap.sizes, Prod.mk.injEq] at sizes
  refine ⟨shape.lists.congr lists, shape.added.access (shape.within member) now, ?_⟩
  intro other
  rw [sizes.2.1, ← shape.used other]
  exact (List.perm_cons_erase member).symm.mem_iff

/-- `find_node` comes to its end, and finds the first node with the key in the key's bucket. -/
theorem findNode_eq [DecidableEq Key] (shape : Shape map free chain recent) (key : Key) (now : Int)
    : map.findNode key now
      = some
          (match (chain (map.getBucketId key)).find? (fun node => map.key node = key) with
            | some node => (some node, map.access node now)
            | none => (none, map)) := by
  have within := map.getBucketId_lt shape.lists.buckets key
  unfold findNode
  rw [findInList_eq (shape.lists.chain_path within) (shape.lists.chain_short within)]
  cases (chain (map.getBucketId key)).find? (fun node => map.key node = key) <;> rfl

section Operations

variable [ChunkAllocator σ η]

/-- With a node and chunks, `insert_node` puts the node at the head of its bucket's list and of
the additional list. -/
theorem insertNode_eq (shape : Shape map (node :: free) chain recent) (key : Key)
    (newData : List UInt8) (now : Int) {headHdr : η} {allocator : σ}
    (room
      : ChunkAllocator.malloc map.allocator
          (ChunkAllocator.getChunkNum map.allocator newData.length)
        = (some headHdr, allocator))
    : ∃ map',
        map.insertNode key newData now = some (some node, map')
        ∧ Shape map' free
            (update chain (map.getBucketId key) (node :: chain (map.getBucketId key)))
            (node :: recent)
        ∧ map'.sizes = map.sizes
        ∧ map'.dataFields
          = (update map.key node key, update map.chunkLen node newData.length,
              update map.chunkHead node (some headHdr),
              ChunkAllocator.split allocator (some headHdr) newData) := by
  have head : map.freeList = some node := shape.lists.freed.1
  obtain ⟨-, removed⟩ := shape.lists.freeListRemove
  rw [freeListRemove_eq head] at removed
  have loaded
      : NodeLists
          {
            map with
            freeList := map.nodeNext node
            nodeNext := update map.nodeNext node none
            allocator := ChunkAllocator.split allocator (some headHdr) newData
          }
          free chain (some node) :=
    removed.congr rfl
  obtain ⟨used, use, lists, links, sizes, data⟩ :=
    useNode_eq loaded key newData.length (some headHdr)
  have listFields := used.listFields_access node now
  have kept := sizes_of_listFields listFields
  have total : used.nodeTotal = map.nodeTotal := congrArg Prod.fst sizes
  have within : node < used.nodeTotal :=
    total ▸ (shape.lists.within node).mpr (Or.inl List.mem_cons_self)
  have added := (shape.added.congr links total).access within now
  rw [List.erase_of_not_mem (shape.unused List.mem_cons_self)] at added
  refine ⟨used.access node now, ?_, ⟨lists.congr listFields, added, ?_⟩, kept.trans sizes,
    (used.dataFields_access node now).trans data⟩
  · simp only [insertNode, freeListRemove_eq head, room, use]
    rfl
  · intro other
    have size : (used.access node now).bucketSize = map.bucketSize :=
      congrArg (fun sizes => sizes.2.1) (kept.trans sizes)
    have within := map.getBucketId_lt shape.lists.buckets key
    rw [size, exists_mem_update_cons within, ← shape.used other, List.mem_cons]

/-- When the data can be handed out, `delete_node` takes the node from its bucket's list and from
the additional list, to the front of the free ones.
-/
theorem deleteNode_eq (shape : Shape map free chain recent) (member : node ∈ recent)
    {out : OutArgs} (read : (map.readStored node out).1 = 0) {bucketId : Nat}
    (hashed : map.getBucketId (map.key node) = bucketId)
    : ∃ map',
        map.deleteNode node out = some (0, (map.readStored node out).2, map')
        ∧ Shape map' (node :: free) (update chain bucketId ((chain bucketId).erase node))
            (recent.erase node)
        ∧ map'.sizes = map.sizes
        ∧ map'.dataFields
          = (map.key, update map.chunkLen node 0, update map.chunkHead node none,
              ChunkAllocator.free map.allocator (map.chunkHead node)) := by
  have within : bucketId < map.bucketSize := hashed ▸ map.getBucketId_lt shape.lists.buckets _
  have chained : node ∈ chain bucketId := hashed ▸ shape.mem_chain member
  have added := shape.added.deleteFromAddList (shape.within member)
  have listFields := map.listFields_deleteFromAddList node
  have dataFields := map.dataFields_deleteFromAddList node
  have sizes := sizes_of_listFields listFields
  have lists := shape.lists.congr listFields
  have bucketOf := getBucketId_congr sizes
  unfold deleteNode
  simp only [read, ne_eq, not_true_eq_false, if_false]
  generalize map.deleteFromAddList node = removed at added dataFields sizes lists bucketOf
  simp only [HashMap.dataFields, Prod.mk.injEq] at dataFields
  obtain ⟨key, chunkLen, chunkHead, allocator⟩ := dataFields
  have total : removed.nodeTotal = map.nodeTotal := congrArg Prod.fst sizes
  have unlisted :=
    added.loose node (total.symm ▸ shape.within member) shape.added.linked.nodup.not_mem_erase
  have hashed' : removed.getBucketId (removed.key node) = bucketId := by
    rw [bucketOf, key, hashed]
  obtain ⟨freed, free, lists, links, sizes', data⟩ := freeNode_eq lists hashed' chained unlisted
  rw [free]
  refine ⟨freed.freeListInsert node, rfl, ⟨lists.freeListInsert, ?_, ?_⟩, sizes'.trans sizes, ?_⟩
  · exact added.congr links (congrArg Prod.fst sizes')
  · intro other
    have size : (freed.freeListInsert node).bucketSize = map.bucketSize :=
      congrArg (fun sizes => sizes.2.1) (sizes'.trans sizes)
    have elsewhere (i : Nat) (withinI : i < map.bucketSize) (differs : i ≠ bucketId)
        : node ∉ chain i :=
      fun both => differs (shape.lists.chain_disjoint withinI within both chained)
    rw [size, exists_mem_update_erase other (shape.lists.chain_path within).nodup elsewhere,
      ← shape.used other, shape.added.linked.nodup.mem_erase_iff]
  · rw [key, chunkLen, chunkHead, allocator] at data
    exact data

end Operations

end Shape

end ProxyServer.HashMap
