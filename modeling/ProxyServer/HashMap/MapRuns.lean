import ProxyServer.HashMap.MapShape
import ProxyServer.Library.Reachability

/-! Runs of the map: the calls on it, and what holds of its lists after any sequence of them.
The additional list is the history of the accesses: the nodes in use, the last one found or
inserted first.
-/

namespace ProxyServer.HashMap

open Function (update update_self update_of_ne)
open LinkedNodes Reachability

variable {Key σ η : Type} {map : HashMap Key σ η} {free recent : List Nat}
  {chain : Nat → List Nat} {node : Nat}

-----------------------------------------------------------------------------------------
-- Opening a pool
-----------------------------------------------------------------------------------------

/-- What `init_node` and `free_list_insert` leave alone. -/
def headFields (map : HashMap Key σ η) :=
  (map.nodeTotal, map.bucketSize, map.usedNodeNum, map.usedBucketNum, map.addHead, map.addTail,
    map.bucket, map.allocator)

theorem initBuckets_eq (map : HashMap Key σ η) (count : Nat)
    : (List.range count).foldl (fun map i => { map with bucket := update map.bucket i none }) map
      = { map with bucket := fun i => if i < count then none else map.bucket i } := by
  induction count with
  | zero => simp
  | succ count ih =>
      rw [List.range_succ, List.foldl_append, ih]
      simp only [List.foldl_cons, List.foldl_nil]
      congr 1
      funext i
      by_cases same : i = count
      · simp [same]
      · rw [update_of_ne same]
        by_cases earlier : i < count
        · simp [earlier, Nat.lt_succ_of_lt earlier]
        · rw [if_neg earlier, if_neg (by omega)]

/-- Each turn puts the next node in front of the free ones. -/
theorem initNodes_spec (empty : map.freeList = none) (count : Nat)
    {after : HashMap Key σ η}
    (initialized
      : (List.range count).foldl (fun map i => (map.initNode i).freeListInsert i) map = after)
    : after.headFields = map.headFields
      ∧ Path after.nodeNext after.freeList (List.range count).reverse none
      ∧ ∀ node < count, after.addNext node = none ∧ after.addPrev node = none := by
  induction count generalizing after with
  | zero =>
      subst initialized
      exact ⟨rfl, empty, by simp⟩
  | succ count ih =>
      rw [List.range_succ, List.foldl_append] at initialized
      obtain ⟨fields, path, cleared⟩ := ih rfl
      generalize (List.range count).foldl (fun map i => (map.initNode i).freeListInsert i) map
        = before at initialized fields path cleared
      subst initialized
      refine ⟨fields, ?_, ?_⟩
      · rw [List.range_succ, List.reverse_append]
        refine ⟨rfl, ?_⟩
        simp only [List.foldl_cons, List.foldl_nil, freeListInsert, initNode, update_self]
        refine path.congr ?_
        intro node member
        have earlier : node < count := by simpa using member
        simp [Nat.ne_of_lt earlier]
      · intro node within
        simp only [List.foldl_cons, List.foldl_nil, freeListInsert, initNode]
        by_cases same : node = count
        · simp [same]
        · simpa [same] using cleared node (by omega)

/-- An initialized pool has every node on the free list. -/
theorem initPoolData_shape (map : HashMap Key σ η) (nodeTotal : Nat) {bucketSize : Nat}
    (buckets : 0 < bucketSize)
    : Shape (map.initPoolData nodeTotal bucketSize) (List.range nodeTotal).reverse (fun _ => [])
        []
      ∧ (map.initPoolData nodeTotal bucketSize).nodeTotal = nodeTotal
      ∧ (map.initPoolData nodeTotal bucketSize).bucketSize = bucketSize
      ∧ (map.initPoolData nodeTotal bucketSize).allocator = map.allocator := by
  unfold initPoolData
  dsimp only
  rw [initBuckets_eq]
  generalize initialized
    : (List.range nodeTotal).foldl
        (fun (map : HashMap Key σ η) i => (map.initNode i).freeListInsert i) _ = after
  obtain ⟨fields, path, cleared⟩ := initNodes_spec rfl nodeTotal initialized
  simp only [headFields, Prod.mk.injEq] at fields
  obtain ⟨total, size, usedNodes, usedBuckets, addHead, addTail, bucket, allocator⟩ := fields
  have emptyBuckets (i : Nat) (within : i < bucketSize) : after.bucket i = none := by
    rw [bucket]
    exact if_pos within
  refine ⟨⟨⟨size ▸ buckets, path, ?_, by simp, by simp, by simp, ?_, ?_, ?_, ?_⟩,
    ⟨⟨addHead, addTail⟩, ?_⟩, by simp⟩, total, size, allocator⟩
  · intro i within
    exact ⟨none, emptyBuckets i (size ▸ within), rfl⟩
  · simp [total]
  · simp [usedNodes]
  · simp [usedBuckets]
  · simp [usedNodes, total]
  · exact fun node within _ => cleared node (total ▸ within)

-----------------------------------------------------------------------------------------
-- Calls
-----------------------------------------------------------------------------------------

/-- A call of one of the operations, with the time that it reads. -/
inductive Operation (Key : Type) where
  | find (key : Key) (now : Int)
  | insert (key : Key) (newData : List UInt8) (now : Int)
  | update (node : Nat) (newData : List UInt8) (old : OutArgs)
  | replace (key : Key) (newData : List UInt8) (old : OutArgs) (now : Int)
  | delete (node : Nat) (out : OutArgs)

/-- What a call returns: a node or null, or a code, beside what it puts out. -/
inductive Answer where
  | node (found : Option Nat) (out : OutData)
  | code (ret : Int) (out : OutData)
  deriving DecidableEq

/-- A node is in use when the list of its key's bucket leads to it. -/
def InUse (map : HashMap Key σ η) (node : Nat) : Prop :=
  ∃ nodes,
    Path map.nodeNext (map.bucket (map.getBucketId (map.key node))) nodes none ∧ node ∈ nodes

theorem Shape.inUse_iff (shape : Shape map free chain recent) : map.InUse node ↔ node ∈ recent := by
  have path := shape.lists.chain_path (map.getBucketId_lt shape.lists.buckets (map.key node))
  constructor
  · rintro ⟨nodes, also, member⟩
    exact shape.mem_recent (also.unique path ▸ member)
  · exact fun member => ⟨_, path, shape.mem_chain member⟩

section Calls

variable [ChunkAllocator σ η] [DecidableEq Key]

/-- One call. Without a result it does not return. -/
def perform (map : HashMap Key σ η) : Operation Key → Option (Answer × HashMap Key σ η)
  | .find key now => do
      let (found, map) ← map.findNode key now
      pure (.node found { bytes := [], length := none }, map)
  | .insert key newData now => do
      let (found, map) ← map.insertNode key newData now
      pure (.node found { bytes := [], length := none }, map)
  | .update node newData old =>
      let (found, out, map) := map.updateNode node newData old
      pure (.node found out, map)
  | .replace key newData old now => do
      let (found, out, map) ← map.replaceNode key newData old now
      pure (.node found out, map)
  | .delete node out => do
      let (ret, out, map) ← map.deleteNode node out
      pure (.code ret out, map)

-----------------------------------------------------------------------------------------
-- The history of accesses
-----------------------------------------------------------------------------------------

/-- The node that a call finds by its key, the one inside `replace_node` included. -/
def foundBy (map : HashMap Key σ η) (key : Key) (now : Int) : Option Nat :=
  (map.findNode key now).bind Prod.fst

/-- The nodes in use, the last accessed first, after an access of a node. -/
def accessed (recent : List Nat) : Option Nat → List Nat
  | some node => node :: recent.erase node
  | none => recent

/-- The nodes in use after a call, the last one found or inserted first. -/
def recentAfter (map : HashMap Key σ η) (recent : List Nat) : Operation Key → Answer → List Nat
  | .find _ _, .node found _ => accessed recent found
  | .insert _ _ _, .node inserted _ => accessed recent inserted
  | .replace key _ _ now, .node stored _ => accessed recent ((map.foundBy key now).or stored)
  | .delete node _, .code ret _ => if ret = 0 then recent.erase node else recent
  | _, _ => recent

namespace Shape

omit [ChunkAllocator σ η] in
/-- `find_node` comes to its end, and makes the node that it finds the most recent one. -/
theorem findNode (shape : Shape map free chain recent) (key : Key) (now : Int)
    : ∃ found map',
        map.findNode key now = some (found, map')
        ∧ found = (chain (map.getBucketId key)).find? (fun node => map.key node = key)
        ∧ Shape map' free chain (accessed recent found)
        ∧ map'.sizes = map.sizes
        ∧ map'.dataFields = map.dataFields := by
  rw [shape.findNode_eq]
  cases found : (chain (map.getBucketId key)).find? (fun node => map.key node = key) with
  | none => exact ⟨none, map, rfl, rfl, shape, rfl, rfl⟩
  | some node =>
      have member := shape.mem_recent (List.mem_of_find?_eq_some found)
      exact ⟨some node, _, rfl, rfl, shape.access member now,
        sizes_of_listFields (map.listFields_access node now), map.dataFields_access node now⟩

omit [DecidableEq Key] in
/-- `insert_node` comes to its end with the lists in shape. -/
theorem insertNode (shape : Shape map free chain recent) (key : Key) (newData : List UInt8)
    (now : Int)
    : ∃ inserted map' free' chain',
        map.insertNode key newData now = some (inserted, map')
        ∧ Shape map' free' chain' (accessed recent inserted)
        ∧ map'.sizes = map.sizes := by
  cases free with
  | nil =>
      exact ⟨none, map, [], chain, insertNode_full shape.lists.freed key newData now, shape, rfl⟩
  | cons node free =>
      have head : map.freeList = some node := shape.lists.freed.1
      rcases room
        : ChunkAllocator.malloc map.allocator
            (ChunkAllocator.getChunkNum map.allocator newData.length)
        with ⟨_ | headHdr, allocator⟩
      · exact ⟨none, _, node :: free, chain, insertNode_lack head key newData now room,
          shape.congr rfl rfl, rfl⟩
      · obtain ⟨map', inserted, shape', sizes, -⟩ := shape.insertNode_eq key newData now room
        have first : accessed recent (some node) = node :: recent := by
          rw [accessed, List.erase_of_not_mem (shape.unused List.mem_cons_self)]
        exact ⟨some node, map', free, _, inserted, first ▸ shape', sizes⟩

/-- A call on nodes in use comes to its end with the lists in shape. -/
theorem perform (shape : Shape map free chain recent) (operation : Operation Key)
    (inUse : ∀ node out, operation = .delete node out → map.InUse node)
    : ∃ answer map' free' chain',
        map.perform operation = some (answer, map')
        ∧ Shape map' free' chain' (map.recentAfter recent operation answer)
        ∧ map'.sizes = map.sizes := by
  cases operation with
  | find key now =>
      obtain ⟨found, map', run, -, shape', sizes, -⟩ := shape.findNode key now
      exact ⟨.node found { bytes := [], length := none }, map', _, _,
        by simp [HashMap.perform, run], shape', sizes⟩
  | insert key newData now =>
      obtain ⟨inserted, map', _, _, run, shape', sizes⟩ := shape.insertNode key newData now
      exact ⟨.node inserted { bytes := [], length := none }, map', _, _,
        by simp [HashMap.perform, run], shape', sizes⟩
  | update node newData old =>
      obtain ⟨lists, links⟩ := map.updateNode_frame node newData old
      exact ⟨_, _, free, chain, rfl, shape.congr lists links, sizes_of_listFields lists⟩
  | replace key newData old now =>
      obtain ⟨found, map', run, -, shape', sizes, -⟩ := shape.findNode key now
      have foundBy : map.foundBy key now = found := by simp [HashMap.foundBy, run]
      cases found with
      | some node =>
          obtain ⟨lists, links⟩ := map'.updateNode_frame node newData old
          refine ⟨
            .node (map'.updateNode node newData old).1 (map'.updateNode node newData old).2.1,
            (map'.updateNode node newData old).2.2, free, chain,
            by simp [HashMap.perform, replaceNode, run], ?_,
            (sizes_of_listFields lists).trans sizes⟩
          simp only [recentAfter, foundBy, Option.some_or]
          exact shape'.congr lists links
      | none =>
          obtain ⟨inserted, map'', free', chain', run', shape'', sizes'⟩ :=
            shape'.insertNode key newData now
          refine ⟨.node inserted { bytes := [], length := none }, map'', free', chain',
            by simp [HashMap.perform, replaceNode, run, run'], ?_, sizes'.trans sizes⟩
          simp only [recentAfter, foundBy, Option.none_or]
          exact shape''
  | delete node out =>
      by_cases read : (map.readStored node out).1 = 0
      · have member := shape.inUse_iff.mp (inUse node out rfl)
        obtain ⟨map', run, shape', sizes, -⟩ := shape.deleteNode_eq member read rfl
        have after
            : map.recentAfter recent (.delete node out) (.code 0 (map.readStored node out).2)
              = recent.erase node := by
          simp [recentAfter]
        exact ⟨_, map', _, _, by simp [HashMap.perform, run], after ▸ shape', sizes⟩
      · refine ⟨.code (-1) (map.readStored node out).2, map, free, chain,
          by simp [HashMap.perform, deleteNode_unread read], ?_, rfl⟩
        simpa [recentAfter] using shape

end Shape

-----------------------------------------------------------------------------------------
-- Any sequence of calls
-----------------------------------------------------------------------------------------

/-- A process attaches to the pool of an open map, or calls an operation. -/
inductive Event (Key : Type) where
  | attach (nodeTotal bucketSize nChunks chunkSize : Nat)
  | call (operation : Operation Key)

/-- A map and the history of its accesses take an event. A node is deleted only while it is in
use. -/
inductive Step : HashMap Key σ η × List Nat → Event Key → HashMap Key σ η × List Nat → Prop
  | attach {map map' : HashMap Key σ η} {recent : List Nat} {ret : Int}
    {nodeTotal bucketSize nChunks chunkSize : Nat}
    (attached : map.openPool false nodeTotal bucketSize nChunks chunkSize = some (ret, map'))
    : Step (map, recent) (.attach nodeTotal bucketSize nChunks chunkSize) (map', recent)
  | call {map map' : HashMap Key σ η} {recent : List Nat} {operation : Operation Key}
    {answer : Answer}
    (inUse : ∀ node out, operation = .delete node out → map.InUse node)
    (performed : map.perform operation = some (answer, map'))
    : Step (map, recent) (.call operation) (map', map.recentAfter recent operation answer)

/-- A map is opened over any pool, with at least one bucket. -/
inductive Opened : HashMap Key σ η × List Nat → Prop
  | init {pool map : HashMap Key σ η} {nodeTotal bucketSize nChunks chunkSize : Nat}
    (buckets : 0 < bucketSize)
    (opened : pool.openPool true nodeTotal bucketSize nChunks chunkSize = some (0, map))
    : Opened (map, [])

omit [DecidableEq Key] in
theorem openPool_init (pool : HashMap Key σ η) (nodeTotal bucketSize nChunks chunkSize : Nat)
    : pool.openPool true nodeTotal bucketSize nChunks chunkSize
      = some
          (
            (ChunkAllocator.openPool (pool.initPoolData nodeTotal bucketSize).allocator true
              nChunks chunkSize).1,
            {
              pool.initPoolData nodeTotal bucketSize with
              allocator :=
                (ChunkAllocator.openPool (pool.initPoolData nodeTotal bucketSize).allocator true
                  nChunks chunkSize).2
            }
          ) :=
  rfl

omit [DecidableEq Key] in
theorem Opened.shape {start : HashMap Key σ η × List Nat} (opened : Opened start)
    : ∃ free chain, Shape start.1 free chain start.2 := by
  obtain @⟨pool, map, nodeTotal, bucketSize, _, _, buckets, opened⟩ := opened
  rw [openPool_init, Option.some.injEq, Prod.mk.injEq] at opened
  obtain ⟨-, rfl⟩ := opened
  exact ⟨_, _, (initPoolData_shape pool nodeTotal buckets).1.congr rfl rfl⟩

omit [DecidableEq Key] in
/-- Attaching changes the allocator at most. -/
theorem openPool_attach {map map' : HashMap Key σ η} {ret : Int}
    {nodeTotal bucketSize nChunks chunkSize : Nat}
    (attached : map.openPool false nodeTotal bucketSize nChunks chunkSize = some (ret, map'))
    : ∃ allocator, map' = { map with allocator } := by
  unfold openPool at attached
  rcases verified : map.verifyPoolData nodeTotal bucketSize with _ | code
  · simp [verified] at attached
  · by_cases accepted : code = 0
    · simp [verified, accepted] at attached
      exact ⟨_, attached.2.symm⟩
    · simp [verified, accepted] at attached
      exact ⟨map.allocator, attached.2.symm⟩

/-- Every event keeps the lists in shape. -/
theorem Step.shape {state next : HashMap Key σ η × List Nat} {event : Event Key}
    (step : Step state event next) (shaped : ∃ free chain, Shape state.1 free chain state.2)
    : ∃ free chain, Shape next.1 free chain next.2 := by
  obtain ⟨free, chain, shape⟩ := shaped
  cases step with
  | attach attached =>
      obtain ⟨allocator, rfl⟩ := openPool_attach attached
      exact ⟨free, chain, shape.congr rfl rfl⟩
  | call inUse performed =>
      obtain ⟨_, _, free', chain', run, shape', -⟩ := shape.perform _ inUse
      cases performed.symm.trans run
      exact ⟨free', chain', shape'⟩

theorem reachable_shape {state : HashMap Key σ η × List Nat}
    (reached : Reachable Opened Step state)
    : ∃ free chain, Shape state.1 free chain state.2 :=
  reached.invariant (fun state => ∃ free chain, Shape state.1 free chain state.2)
    (fun _ opened => opened.shape) (fun _ _ _ shaped step => step.shape shaped)

/-- After any sequence of calls the additional list leads from its head through the nodes in
use, each once and the last one found or inserted first, to its tail, and `add_prev_` leads the
same way back. Every further call returns.
-/
theorem addList_recent {map : HashMap Key σ η} {recent : List Nat}
    (reached : Reachable Opened Step (map, recent))
    : Path map.addNext map.addHead recent none
      ∧ Path map.addPrev map.addTail recent.reverse none
      ∧ recent.Nodup
      ∧ (∀ node, node ∈ recent ↔ map.InUse node)
      ∧ ∀ operation,
          (∀ node out, operation = .delete node out → map.InUse node)
          → (map.perform operation).isSome := by
  obtain ⟨free, chain, shape⟩ := reachable_shape reached
  have linked := shape.added.linked
  refine ⟨linked.forward, linked.backward, linked.nodup, fun node => shape.inUse_iff.symm, ?_⟩
  intro operation inUse
  obtain ⟨_, _, _, _, run, -⟩ := shape.perform operation inUse
  rw [run]
  rfl

end Calls

-----------------------------------------------------------------------------------------
-- A small map
-----------------------------------------------------------------------------------------

/-- A pool before it is opened, with numbers for keys that hash to themselves. -/
def blankPool : HashMap Nat CountingAllocator Nat where
  nodeTotal := 0
  bucketSize := 0
  usedNodeNum := 0
  usedBucketNum := 0
  addHead := none
  addTail := none
  freeList := none
  bucket := fun _ => none
  key := fun _ => 0
  chunkLen := fun _ => 0
  chunkHead := fun _ => none
  nodePrev := fun _ => none
  nodeNext := fun _ => none
  addPrev := fun _ => none
  addNext := fun _ => none
  addInfo1 := fun _ => 0
  addInfo2 := fun _ => 0
  flag := fun _ => 0
  hashFunc := fun key => key
  allocator := { issued := 0, store := .empty (fun _ => 0) 0 }

/-- Two keys are inserted, and the first one is found again. -/
theorem addList_recent_found
    : ∃ map : HashMap Nat CountingAllocator Nat,
        Reachable Opened Step (map, [1, 0])
        ∧ Path map.addNext map.addHead [1, 0] none
        ∧ Path map.addPrev map.addTail [0, 1] none := by
  have opened : Reachable Opened Step (_, []) :=
    .start (.init (by decide) (openPool_init blankPool 2 2 4 8))
  have first :=
    opened.step
      (.call (by simp) (rfl : HashMap.perform _ (Operation.insert 7 [1] 0) = some (_, _)))
  have second :=
    first.step
      (.call (by simp) (rfl : HashMap.perform _ (Operation.insert 9 [2] 0) = some (_, _)))
  have found :=
    second.step
      (.call (by simp) (rfl : HashMap.perform _ (Operation.find 7 0) = some (_, _)))
  have listed := addList_recent found
  exact ⟨_, found, listed.1, listed.2.1⟩

end ProxyServer.HashMap
