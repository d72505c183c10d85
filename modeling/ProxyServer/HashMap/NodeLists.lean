import ProxyServer.HashMap.HashMap
import ProxyServer.Library.LinkedNodes

/-! The free list and the lists of the buckets.
Each node of the pool is on one of them, once; between two relinkings one node may be on none.
The counters follow: they count the nodes in bucket lists and the buckets that have any.
-/

namespace ProxyServer.HashMap

open Function (update update_self update_of_ne)
open LinkedNodes

variable {Key σ η : Type} {map : HashMap Key σ η} {free : List Nat} {chain : Nat → List Nat}
  {loose : Option Nat} {node : Nat}

-----------------------------------------------------------------------------------------
-- Walks
-----------------------------------------------------------------------------------------

theorem countNodes_eq {next : Nat → Option Nat} {start : Option Nat} {nodes : List Nat}
    {turns : Nat} (num : Nat) (path : Path next start nodes none)
    (short : nodes.length ≤ turns)
    : countNodes next turns start num = some (num + nodes.length) := by
  induction nodes generalizing start turns num with
  | nil =>
      obtain rfl : start = none := path
      cases turns <;> rfl
  | cons node nodes ih =>
      obtain ⟨rfl, rest⟩ := path
      cases turns with
      | zero => simp at short
      | succ turns =>
          rw [countNodes, ih (num + 1) rest (by simpa using short), List.length_cons]
          congr 1
          omega

theorem findInList_eq [DecidableEq Key] {key : Key} {start : Option Nat} {nodes : List Nat}
    {turns : Nat} (path : Path map.nodeNext start nodes none)
    (short : nodes.length ≤ turns)
    : map.findInList key turns start = some (nodes.find? (fun node => map.key node = key)) := by
  induction nodes generalizing start turns with
  | nil =>
      obtain rfl : start = none := path
      cases turns <;> rfl
  | cons node nodes ih =>
      obtain ⟨rfl, rest⟩ := path
      cases turns with
      | zero => simp at short
      | succ turns =>
          rw [findInList, ih rest (by simpa using short)]
          by_cases found : map.key node = key <;> simp [found]

-----------------------------------------------------------------------------------------
-- What links the lists
-----------------------------------------------------------------------------------------

/-- The links of a bucket. No handler keeps its tail. -/
def bucketLinks (map : HashMap Key σ η) (bucketId : Nat) (tail : Option Nat) : Links Nat :=
  { next := map.nodeNext, prev := map.nodePrev, head := map.bucket bucketId, tail }

/-- What the lists of nodes and their counters depend on. -/
def listFields (map : HashMap Key σ η) :=
  (map.nodeTotal, map.bucketSize, map.usedNodeNum, map.usedBucketNum, map.freeList, map.bucket,
    map.key, map.nodePrev, map.nodeNext, map.hashFunc)

/-- The counters and links between two calls, with one node on no list within one. -/
structure NodeLists (map : HashMap Key σ η) (free : List Nat) (chain : Nat → List Nat)
    (loose : Option Nat)
    : Prop where
  buckets : 0 < map.bucketSize
  freed : Path map.nodeNext map.freeList free none
  chained
    : ∀ bucketId < map.bucketSize, ∃ tail, Linked (map.bucketLinks bucketId tail) (chain bucketId)
  keyed
    : ∀ bucketId < map.bucketSize, ∀ node ∈ chain bucketId,
        map.getBucketId (map.key node) = bucketId
  apart : ∀ node ∈ free, ∀ bucketId < map.bucketSize, node ∉ chain bucketId
  looseApart
    : ∀ node, loose = some node
        → node ∉ free ∧ ∀ bucketId < map.bucketSize, node ∉ chain bucketId
  within
    : ∀ node, node < map.nodeTotal
        ↔ node ∈ free ∨ loose = some node ∨ ∃ bucketId < map.bucketSize, node ∈ chain bucketId
  usedNodes
    : map.usedNodeNum = ∑ bucketId ∈ Finset.range map.bucketSize, ((chain bucketId).length : Int)
  usedBuckets
    : map.usedBucketNum
      = ∑ bucketId ∈ Finset.range map.bucketSize, (if chain bucketId = [] then 0 else 1 : Int)
  total
    : map.usedNodeNum + free.length + (if loose.isSome then 1 else 0 : Int) = map.nodeTotal

theorem getBucketId_lt (map : HashMap Key σ η) (buckets : 0 < map.bucketSize) (key : Key)
    : map.getBucketId key < map.bucketSize :=
  Nat.mod_lt _ buckets

namespace NodeLists

/-- The lists depend on their own fields only. -/
theorem congr {map' : HashMap Key σ η} (lists : NodeLists map free chain loose)
    (same : map'.listFields = map.listFields)
    : NodeLists map' free chain loose := by
  simp only [listFields, Prod.mk.injEq] at same
  obtain ⟨total, size, used, usedBucket, freeHead, bucket, key, prev, next, hash⟩ := same
  have ids (k : Key) : map'.getBucketId k = map.getBucketId k := by
    simp only [getBucketId, size, hash]
  have links (bucketId : Nat) (tail : Option Nat)
      : map'.bucketLinks bucketId tail = map.bucketLinks bucketId tail := by
    simp only [bucketLinks, prev, next, bucket]
  constructor
  · exact size ▸ lists.buckets
  · exact next ▸ freeHead ▸ lists.freed
  · simp only [links, size]
    exact lists.chained
  · simp only [ids, size, key]
    exact lists.keyed
  · exact size ▸ lists.apart
  · exact size ▸ lists.looseApart
  · exact size ▸ total ▸ lists.within
  · exact size ▸ used ▸ lists.usedNodes
  · exact size ▸ usedBucket ▸ lists.usedBuckets
  · exact total ▸ used ▸ lists.total

theorem chain_path (lists : NodeLists map free chain loose) {bucketId : Nat}
    (within : bucketId < map.bucketSize)
    : Path map.nodeNext (map.bucket bucketId) (chain bucketId) none := by
  obtain ⟨tail, linked⟩ := lists.chained bucketId within
  exact linked.forward

/-- A list of distinct nodes of the pool is no longer than the pool. -/
theorem length_le {nodes : List Nat} {nodeTotal : Nat} (nodup : nodes.Nodup)
    (within : ∀ node ∈ nodes, node < nodeTotal)
    : nodes.length ≤ nodeTotal := by
  have subset : nodes ⊆ List.range nodeTotal :=
    fun node member => List.mem_range.mpr (within node member)
  simpa using (nodup.subperm subset).length_le

theorem chain_short (lists : NodeLists map free chain loose) {bucketId : Nat}
    (within : bucketId < map.bucketSize)
    : (chain bucketId).length ≤ map.nodeTotal :=
  length_le (lists.chain_path within).nodup
    (fun node member => (lists.within node).mpr (Or.inr (Or.inr ⟨bucketId, within, member⟩)))

theorem free_short (lists : NodeLists map free chain loose) : free.length ≤ map.nodeTotal :=
  length_le lists.freed.nodup (fun node member => (lists.within node).mpr (Or.inl member))

theorem bucketListLen_eq (lists : NodeLists map free chain loose) {bucketId : Nat}
    (within : bucketId < map.bucketSize)
    : map.getBucketListLen bucketId = some (chain bucketId).length := by
  have counted := countNodes_eq 0 (lists.chain_path within) (lists.chain_short within)
  rwa [Nat.zero_add] at counted

/-- `verify_pool_data` accepts the pool under the sizes it was opened with. -/
theorem verifyPoolData_eq (lists : NodeLists map free chain none)
    : map.verifyPoolData map.nodeTotal map.bucketSize = some 0 := by
  have freeNodes := countNodes_eq 0 lists.freed lists.free_short
  have buckets
      : (((List.range map.bucketSize).countP (fun i => (map.bucket i).isSome) : Nat) : Int)
        = map.usedBucketNum := by
    rw [lists.usedBuckets, List.countP_eq_length_filter, ← List.toFinset_card_of_nodup]
    · rw [List.toFinset_filter, List.toFinset_range, Finset.card_filter]
      push_cast
      refine Finset.sum_congr rfl ?_
      intro bucketId member
      have path := lists.chain_path (Finset.mem_range.mp member)
      rw [path.start_eq]
      cases chain bucketId <;> simp
    · exact List.nodup_range.filter _
  have total := lists.total
  simp only [Option.isSome_none, Bool.false_eq_true, if_false, add_zero] at total
  simp only [verifyPoolData, ne_eq, not_true_eq_false, if_false, buckets, freeNodes, Nat.zero_add]
  simp [total]

end NodeLists

-----------------------------------------------------------------------------------------
-- Relinking
-----------------------------------------------------------------------------------------

/-- The links of one bucket replaced. -/
def withBucketLinks (map : HashMap Key σ η) (bucketId : Nat) (links : Links Nat)
    : HashMap Key σ η :=
  {
    map with
    nodeNext := links.next
    nodePrev := links.prev
    bucket := update map.bucket bucketId links.head
  }

theorem insertNodeList_eq (map : HashMap Key σ η) (node : Nat)
    : map.insertNodeList node
      = {
          map.withBucketLinks (map.getBucketId (map.key node))
            ((map.bucketLinks (map.getBucketId (map.key node)) none).pushFront node) with
          usedNodeNum := map.usedNodeNum + 1
        } := by
  rcases first : map.bucket (map.getBucketId (map.key node)) with _ | next <;>
    simp [insertNodeList, withBucketLinks, bucketLinks, Links.pushFront, first]

theorem deleteFromNodeList_eq (map : HashMap Key σ η) (node : Nat)
    : map.deleteFromNodeList node
      = {
          map.withBucketLinks (map.getBucketId (map.key node))
            ((map.bucketLinks (map.getBucketId (map.key node)) none).detach node) with
          usedNodeNum := map.usedNodeNum - 1
        } := by
  rcases next : map.nodeNext node with _ | nextNode <;>
    rcases prev : map.nodePrev node with _ | prevNode <;>
    by_cases first
        : map.bucket (wrap32 (map.hashFunc (map.key node)) % map.bucketSize) = some node <;>
    simp [deleteFromNodeList, withBucketLinks, bucketLinks, Links.detach, skipped, next, prev,
      getBucketId, eq_comm (a := some node), first]

theorem freeListRemove_eq (head : map.freeList = some node)
    : map.freeListRemove
      = (
          some node,
          {
            map with
            freeList := map.nodeNext node
            nodeNext := update map.nodeNext node none
          }
        ) := by
  simp [freeListRemove, head]

theorem sum_update_chain (chain : Nat → List Nat) {size bucketId : Nat} (within : bucketId < size)
    (count : List Nat → Int) (nodes : List Nat)
    : ∑ i ∈ Finset.range size, count (update chain bucketId nodes i)
      = ∑ i ∈ Finset.range size, count (chain i) - count (chain bucketId) + count nodes := by
  have counts (i : Nat)
      : count (update chain bucketId nodes i)
        = update (fun i => count (chain i)) bucketId (count nodes) i := by
    by_cases same : i = bucketId
    · subst same
      simp
    · simp [same]
  have member := Finset.mem_range.mpr within
  simp only [counts]
  rw [Finset.sum_update_of_mem member, Finset.sdiff_singleton_eq_erase,
    ← Finset.add_sum_erase _ (fun i => count (chain i)) member]
  ring

/-- The nodes of the buckets after one of them gets a node in front. -/
theorem exists_mem_update_cons {size bucketId other : Nat} (within : bucketId < size)
    : (∃ i < size, other ∈ update chain bucketId (node :: chain bucketId) i)
      ↔ other = node ∨ ∃ i < size, other ∈ chain i := by
  constructor
  · rintro ⟨i, withinI, member⟩
    by_cases same : i = bucketId
    · subst same
      rw [update_self, List.mem_cons] at member
      exact member.imp_right (fun member => ⟨i, withinI, member⟩)
    · rw [update_of_ne same] at member
      exact Or.inr ⟨i, withinI, member⟩
  · rintro (rfl | ⟨i, withinI, member⟩)
    · exact ⟨bucketId, within, by simp⟩
    · refine ⟨i, withinI, ?_⟩
      by_cases same : i = bucketId
      · subst same
        rw [update_self]
        exact List.mem_cons_of_mem _ member
      · rwa [update_of_ne same]

/-- The nodes of the buckets after a node is taken from the only one that it is in. -/
theorem exists_mem_update_erase {size bucketId : Nat} (other : Nat)
    (nodup : (chain bucketId).Nodup)
    (elsewhere : ∀ i < size, i ≠ bucketId → node ∉ chain i)
    : (∃ i < size, other ∈ update chain bucketId ((chain bucketId).erase node) i)
      ↔ other ≠ node ∧ ∃ i < size, other ∈ chain i := by
  constructor
  · rintro ⟨i, withinI, kept⟩
    by_cases same : i = bucketId
    · subst same
      rw [update_self, nodup.mem_erase_iff] at kept
      exact ⟨kept.1, i, withinI, kept.2⟩
    · rw [update_of_ne same] at kept
      exact ⟨ne_of_mem_of_not_mem kept (elsewhere i withinI same), i, withinI, kept⟩
  · rintro ⟨differs, i, withinI, member⟩
    refine ⟨i, withinI, ?_⟩
    by_cases same : i = bucketId
    · subst same
      rw [update_self]
      exact (List.mem_erase_of_ne differs).mpr member
    · rwa [update_of_ne same]

namespace NodeLists

/-- No node is in two buckets. -/
theorem chain_disjoint (lists : NodeLists map free chain loose) {bucketId bucketId' : Nat}
    (within : bucketId < map.bucketSize) (within' : bucketId' < map.bucketSize)
    (member : node ∈ chain bucketId) (member' : node ∈ chain bucketId')
    : bucketId = bucketId' :=
  (lists.keyed _ within _ member).symm.trans (lists.keyed _ within' _ member')

section Relinking

variable {bucketId : Nat} {links : Links Nat} {nodes : List Nat}

/-- New links for one bucket leave the free list and the other buckets alone, when they differ
from the old ones only in its nodes and in one node that is on none of the others. -/
theorem relink (lists : NodeLists map free chain loose) (within : bucketId < map.bucketSize)
    (linked : Linked links nodes)
    (frame
      : ∀ other, other ≠ node → other ∉ chain bucketId
          → links.next other = map.nodeNext other ∧ links.prev other = map.nodePrev other)
    (notFree : node ∉ free)
    (elsewhere : ∀ i < map.bucketSize, i ≠ bucketId → node ∉ chain i)
    : Path links.next map.freeList free none
      ∧ ∀ i < map.bucketSize,
          ∃ tail,
            Linked ((map.withBucketLinks bucketId links).bucketLinks i tail)
              (update chain bucketId nodes i) := by
  constructor
  · refine lists.freed.congr ?_
    intro other member
    have differs : other ≠ node := by
      rintro rfl
      exact notFree member
    exact (frame other differs (lists.apart other member bucketId within)).1
  · intro i withinI
    by_cases same : i = bucketId
    · subst same
      refine ⟨links.tail, ?_⟩
      rw [update_self]
      refine linked.congr (fun _ _ => rfl) (fun _ _ => rfl) ?_ rfl
      exact update_self ..
    · obtain ⟨tail, chained⟩ := lists.chained i withinI
      refine ⟨tail, ?_⟩
      rw [update_of_ne same]
      have frame' (other : Nat) (member : other ∈ chain i) :=
        frame other
          (fun moved => elsewhere i withinI same (moved ▸ member))
          (fun both => same (lists.chain_disjoint withinI within member both))
      refine chained.congr (fun x member => (frame' x member).1)
        (fun x member => (frame' x member).2) ?_ rfl
      exact update_of_ne same _ _

end Relinking

/-- Taking the first free node leaves it on no list. -/
theorem freeListRemove (lists : NodeLists map (node :: free) chain none)
    : (map.freeListRemove).1 = some node
      ∧ NodeLists (map.freeListRemove).2 free chain (some node) := by
  obtain ⟨head, rest⟩ := lists.freed
  have apart := (List.nodup_cons.mp lists.freed.nodup).1
  have used := lists.apart node List.mem_cons_self
  rw [freeListRemove_eq head]
  refine ⟨rfl, lists.buckets, ?_, ?_, lists.keyed, ?_, ?_, ?_, lists.usedNodes,
    lists.usedBuckets, ?_⟩
  · refine rest.congr ?_
    intro other member
    exact update_of_ne (ne_of_mem_of_not_mem member apart) _ _
  · intro bucketId within
    obtain ⟨tail, linked⟩ := lists.chained bucketId within
    refine ⟨tail, linked.congr ?_ (fun _ _ => rfl) rfl rfl⟩
    intro other member
    exact update_of_ne (ne_of_mem_of_not_mem member (used bucketId within)) _ _
  · exact fun other member => lists.apart other (List.mem_cons_of_mem _ member)
  · rintro _ ⟨⟩
    exact ⟨apart, used⟩
  · intro other
    rw [lists.within other, List.mem_cons]
    simp only [reduceCtorEq, Option.some.injEq, false_or, eq_comm (a := node)]
    tauto
  · have total := lists.total
    simp only [List.length_cons, Option.isSome_none, Option.isSome_some, Bool.false_eq_true,
      if_false, if_true] at total ⊢
    omega

/-- A node on no list goes to the front of the free ones. -/
theorem freeListInsert (lists : NodeLists map free chain (some node))
    : NodeLists (map.freeListInsert node) (node :: free) chain none := by
  obtain ⟨apart, used⟩ := lists.looseApart node rfl
  refine ⟨lists.buckets, ⟨rfl, ?_⟩, ?_, lists.keyed, ?_, ?_, ?_, lists.usedNodes,
    lists.usedBuckets, ?_⟩
  · simp only [HashMap.freeListInsert, update_self]
    refine lists.freed.congr ?_
    intro other member
    exact update_of_ne (ne_of_mem_of_not_mem member apart) _ _
  · intro bucketId within
    obtain ⟨tail, linked⟩ := lists.chained bucketId within
    refine ⟨tail, linked.congr ?_ (fun _ _ => rfl) rfl rfl⟩
    intro other member
    exact update_of_ne (ne_of_mem_of_not_mem member (used bucketId within)) _ _
  · intro other member
    rcases List.mem_cons.mp member with rfl | member
    · exact used
    · exact lists.apart other member
  · simp
  · intro other
    refine (lists.within other).trans ?_
    rw [List.mem_cons]
    simp only [reduceCtorEq, Option.some.injEq, false_or, eq_comm (a := node)]
    tauto
  · have total := lists.total
    simp only [HashMap.freeListInsert, List.length_cons, Option.isSome_none,
      Option.isSome_some, Bool.false_eq_true, if_false, if_true] at total ⊢
    omega

/-- The node on no list goes to the front of its bucket. -/
theorem link (lists : NodeLists map free chain (some node)) {bucketId : Nat}
    (hashed : map.getBucketId (map.key node) = bucketId)
    : NodeLists
        {
          map.withBucketLinks bucketId ((map.bucketLinks bucketId none).pushFront node) with
          usedNodeNum := map.usedNodeNum + 1
          usedBucketNum := map.usedBucketNum + (if chain bucketId = [] then 1 else 0)
        }
        free (update chain bucketId (node :: chain bucketId)) none := by
  have within : bucketId < map.bucketSize := hashed ▸ map.getBucketId_lt lists.buckets _
  obtain ⟨notFree, unused⟩ := lists.looseApart node rfl
  obtain ⟨tail, linked⟩ := lists.chained bucketId within
  obtain ⟨freed, chained⟩ :=
    lists.relink within
      (linked.pushFront (unused bucketId within))
      (fun other differs outside => linked.pushFront_frame differs outside)
      notFree (fun i withinI _ => unused i withinI)
  refine ⟨lists.buckets, freed, chained, ?_, ?_, by simp, ?_, ?_, ?_, ?_⟩
  · intro i withinI other member
    by_cases same : i = bucketId
    · subst same
      rw [update_self, List.mem_cons] at member
      rcases member with rfl | member
      · exact hashed
      · exact lists.keyed i withinI other member
    · rw [update_of_ne same] at member
      exact lists.keyed i withinI other member
  · intro other member i withinI
    by_cases same : i = bucketId
    · subst same
      rw [update_self, List.mem_cons, not_or]
      exact ⟨ne_of_mem_of_not_mem member notFree, lists.apart other member i withinI⟩
    · rw [update_of_ne same]
      exact lists.apart other member i withinI
  · intro other
    refine (lists.within other).trans ?_
    simp only [reduceCtorEq, false_or, Option.some.injEq]
    rw [← eq_comm (a := other)]
    exact or_congr_right (exists_mem_update_cons within).symm
  · change map.usedNodeNum + 1 = _
    have counted :=
      sum_update_chain chain within (fun nodes => (nodes.length : Int))
        (node :: chain bucketId)
    rw [lists.usedNodes]
    refine Eq.trans ?_ counted.symm
    rw [List.length_cons]
    push_cast
    ring
  · change map.usedBucketNum + _ = _
    have counted :=
      sum_update_chain chain within (fun nodes => if nodes = [] then 0 else 1)
        (node :: chain bucketId)
    rw [lists.usedBuckets]
    refine Eq.trans ?_ counted.symm
    by_cases empty : chain bucketId = [] <;> simp [empty]
  · have total := lists.total
    simp only [Option.isSome_some, if_true, Option.isSome_none, Bool.false_eq_true,
      if_false] at total ⊢
    change map.usedNodeNum + 1 + _ + 0 = (map.nodeTotal : Int)
    omega

/-- A node of a bucket is unlinked, and is on no list. -/
theorem unlink (lists : NodeLists map free chain none) {bucketId : Nat}
    (within : bucketId < map.bucketSize) (member : node ∈ chain bucketId)
    : NodeLists
        {
          map.withBucketLinks bucketId ((map.bucketLinks bucketId none).detach node) with
          usedNodeNum := map.usedNodeNum - 1
          usedBucketNum :=
            map.usedBucketNum - (if (chain bucketId).erase node = [] then 1 else 0)
        }
        free (update chain bucketId ((chain bucketId).erase node)) (some node) := by
  obtain ⟨tail, linked⟩ := lists.chained bucketId within
  have notFree : node ∉ free := fun freed => lists.apart node freed bucketId within member
  have elsewhere (i : Nat) (withinI : i < map.bucketSize) (other : i ≠ bucketId)
      : node ∉ chain i :=
    fun both => other (lists.chain_disjoint withinI within both member)
  obtain ⟨freed, chained⟩ :=
    lists.relink within
      (linked.detach member)
      (fun other differs outside => linked.detach_frame member outside)
      notFree elsewhere
  have remains (i : Nat) (other : Nat)
      : other ∈ update chain bucketId ((chain bucketId).erase node) i → other ∈ chain i := by
    by_cases same : i = bucketId
    · subst same
      rw [update_self]
      exact List.mem_of_mem_erase
    · rw [update_of_ne same]
      exact id
  refine ⟨lists.buckets, freed, chained, ?_, ?_, ?_, ?_, ?_, ?_, ?_⟩
  · exact fun i withinI other kept => lists.keyed i withinI other (remains i other kept)
  · exact fun other freed i withinI kept => lists.apart other freed i withinI (remains i other kept)
  · rintro _ ⟨⟩
    refine ⟨notFree, ?_⟩
    intro i withinI kept
    by_cases same : i = bucketId
    · subst same
      rw [update_self] at kept
      exact linked.nodup.not_mem_erase kept
    · exact elsewhere i withinI same (remains i node kept)
  · intro other
    refine (lists.within other).trans ?_
    simp only [reduceCtorEq, false_or, Option.some.injEq]
    refine or_congr_right ?_
    have left := exists_mem_update_erase other linked.nodup elsewhere
    refine Iff.trans ?_ (or_congr_right left.symm)
    by_cases moved : other = node
    · subst moved
      exact ⟨fun _ => Or.inl rfl, fun _ => ⟨bucketId, within, member⟩⟩
    · simp [moved, Ne.symm moved]
  · change map.usedNodeNum - 1 = _
    have counted :=
      sum_update_chain chain within (fun nodes => (nodes.length : Int))
        ((chain bucketId).erase node)
    have length := List.length_erase_of_mem member
    have positive := List.length_pos_of_mem member
    rw [lists.usedNodes]
    refine Eq.trans ?_ counted.symm
    simp only [length]
    omega
  · change map.usedBucketNum - _ = _
    have counted :=
      sum_update_chain chain within (fun nodes => if nodes = [] then 0 else 1)
        ((chain bucketId).erase node)
    have nonempty : chain bucketId ≠ [] := List.ne_nil_of_mem member
    rw [lists.usedBuckets]
    refine Eq.trans ?_ counted.symm
    by_cases empty : (chain bucketId).erase node = [] <;> simp [empty, nonempty]
  · have total := lists.total
    simp only [Option.isSome_some, if_true, Option.isSome_none, Bool.false_eq_true,
      if_false] at total ⊢
    change map.usedNodeNum - 1 + _ + 1 = (map.nodeTotal : Int)
    omega

end NodeLists

end ProxyServer.HashMap
