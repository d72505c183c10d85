import ProxyServer.HashMap.StoredData

/-! Runs of the map over an allocator that acts like a store of blocks.
The contents are what the calls stored: they change when a call succeeds, and the map holds them
after any sequence of calls that inserts no stored key with room for it.
-/

namespace ProxyServer.HashMap

open Function (update update_self update_of_ne)
open LinkedNodes Reachability

variable {Key σ η : Type} [DecidableEq Key]

-----------------------------------------------------------------------------------------
-- The contents after a call
-----------------------------------------------------------------------------------------

/-- The keys and their data after a call: only a call that succeeds changes them. -/
def contentsAfter (map : HashMap Key σ η) (contents : Key → Option (List UInt8))
    : Operation Key → Answer → Key → Option (List UInt8)
  | .insert key newData _, .node (some _) _ => update contents key (some newData)
  | .replace key newData _ _, .node (some _) _ => update contents key (some newData)
  | .update node newData _, .node (some _) _ => update contents (map.key node) (some newData)
  | .delete node _, .code ret _ =>
      if ret = 0 then update contents (map.key node) none else contents
  | _, _ => contents

/-- A call returns null or a code other than 0. -/
def Answer.Failed : Answer → Prop
  | .node found _ => found = none
  | .code ret _ => ret ≠ 0

theorem contentsAfter_failed (map : HashMap Key σ η) (contents : Key → Option (List UInt8))
    (operation : Operation Key) {answer : Answer} (failed : answer.Failed)
    : map.contentsAfter contents operation answer = contents := by
  cases operation <;> rcases answer with ⟨_ | _, _⟩ | ⟨ret, _⟩ <;>
    simp_all [contentsAfter, Answer.Failed]

variable [DecidableEq η] [ChunkAllocator σ η] [LawfulChunkAllocator σ]
  {map : HashMap Key σ η} {contents : Key → Option (List UInt8)}

/-- Nodes are updated and deleted while they are in use, and a stored key is inserted only when
there is no room for it. -/
def Operation.Proper (map : HashMap Key σ η) (contents : Key → Option (List UInt8))
    : Operation Key → Prop
  | .insert key newData _ => contents key ≠ none → map.NoRoom newData
  | .update node _ _ => map.InUse node
  | .delete node _ => map.InUse node
  | _ => True

namespace Holds

theorem insertNode (holds : Holds map contents) {key : Key} {newData : List UInt8}
    (proper : contents key ≠ none → map.NoRoom newData) (now : Int)
    : ∃ inserted map',
        map.insertNode key newData now = some (inserted, map')
        ∧ Holds map' (if inserted.isSome then update contents key (some newData) else contents)
        ∧ map'.sizes = map.sizes := by
  obtain ⟨free, chain, recent, store, shape, stored⟩ := holds
  by_cases noRoom : map.NoRoom newData
  · obtain ⟨allocator, run, represents⟩ :=
      insertNode_noRoom stored.represents noRoom key now
    refine ⟨none, _, run, ⟨free, chain, recent, store, shape.congr rfl rfl, ?_⟩, rfl⟩
    exact { stored with represents }
  · have absent : contents key = none := by
      by_contra present
      exact noRoom (proper present)
    obtain ⟨node, map', run, holds', sizes⟩ := insertNode_stored shape stored absent noRoom now
    exact ⟨some node, map', run, holds', sizes⟩

theorem updateNode (holds : Holds map contents) {node : Nat} (inUse : map.InUse node)
    (newData : List UInt8) (old : OutArgs)
    : Holds (map.updateNode node newData old).2.2
        (if (map.updateNode node newData old).1.isSome then
          update contents (map.key node) (some newData)
        else contents) := by
  obtain ⟨free, chain, recent, store, shape, stored⟩ := holds
  obtain ⟨lists, links⟩ := updateNode_frame map node newData old
  have shape' := shape.congr lists links
  rcases stored.updateNode (shape.inUse_iff.mp inUse) newData old with
    ⟨failed, same⟩ | ⟨succeeded, store', stored'⟩
  · rw [failed, same]
    exact ⟨free, chain, recent, store, shape, stored⟩
  · rw [succeeded]
    exact ⟨free, chain, recent, store', shape', stored'⟩

theorem replaceNode (holds : Holds map contents) (key : Key) (newData : List UInt8)
    (old : OutArgs) (now : Int)
    : ∃ replaced out map',
        map.replaceNode key newData old now = some (replaced, out, map')
        ∧ Holds map' (if replaced.isSome then update contents key (some newData) else contents)
        ∧ map'.sizes = map.sizes := by
  obtain ⟨free, chain, recent, store, shape, stored⟩ := holds
  obtain ⟨found, map', run, shape', stored', sizes, data, outcome⟩ :=
    findNode_stored shape stored key now
  have holds' : Holds map' contents := ⟨free, chain, _, store, shape', stored'⟩
  cases found with
  | some node =>
      obtain ⟨member, keyed⟩ := outcome
      have inUse : map'.InUse node := shape'.inUse_iff.mpr List.mem_cons_self
      have keyed' : map'.key node = key := by
        have keys : map'.key = map.key := congrArg Prod.fst data
        rw [keys, keyed]
      have updated := holds'.updateNode inUse newData old
      rw [keyed'] at updated
      obtain ⟨lists, -⟩ := updateNode_frame map' node newData old
      exact ⟨(map'.updateNode node newData old).1, (map'.updateNode node newData old).2.1,
        (map'.updateNode node newData old).2.2, by simp [HashMap.replaceNode, run], updated,
        (sizes_of_listFields lists).trans sizes⟩
  | none =>
      have absent : contents key = none := outcome
      obtain ⟨inserted, map'', run', holds'', sizes'⟩ :=
        holds'.insertNode
          (fun present => absurd absent present : contents key ≠ none → map'.NoRoom newData) now
      exact ⟨inserted, { bytes := [], length := none }, map'',
        by simp [HashMap.replaceNode, run, run'], holds'', sizes'.trans sizes⟩

theorem deleteNode (holds : Holds map contents) {node : Nat} (inUse : map.InUse node)
    (out : OutArgs)
    : ∃ ret data map',
        map.deleteNode node out = some (ret, data, map')
        ∧ Holds map' (if ret = 0 then update contents (map.key node) none else contents)
        ∧ map'.sizes = map.sizes := by
  obtain ⟨free, chain, recent, store, shape, stored⟩ := holds
  have member := shape.inUse_iff.mp inUse
  by_cases read : (map.readStored node out).1 = 0
  · obtain ⟨map', run, shape', sizes, data⟩ := shape.deleteNode_eq member read rfl
    obtain ⟨handle, bytes, head, block, -, -⟩ := stored.block node member
    simp only [dataFields, Prod.mk.injEq] at data
    obtain ⟨keys, lens, heads, allocator⟩ := data
    have released := LawfulChunkAllocator.free_release stored.represents block
    rw [head] at allocator
    rw [← allocator] at released
    refine ⟨0, (map.readStored node out).2, map', run,
      ⟨_, _, _, store.release handle, shape', ?_⟩, sizes⟩
    simp only [if_true]
    refine stored.remove shape.added.linked.nodup member head released keys ?_
    intro other _ differs
    rw [lens, heads, update_of_ne differs, update_of_ne differs]
    exact ⟨rfl, rfl⟩
  · exact ⟨-1, (map.readStored node out).2, map, deleteNode_unread read,
      ⟨free, chain, recent, store, shape, stored⟩, rfl⟩

/-- Every proper call returns, and the map holds the contents after it. -/
theorem perform (holds : Holds map contents) (operation : Operation Key)
    (proper : operation.Proper map contents)
    : ∃ answer map',
        map.perform operation = some (answer, map')
        ∧ Holds map' (map.contentsAfter contents operation answer)
        ∧ map'.sizes = map.sizes := by
  cases operation with
  | find key now =>
      obtain ⟨free, chain, recent, store, shape, stored⟩ := holds
      obtain ⟨found, map', run, shape', stored', sizes, -⟩ := findNode_stored shape stored key now
      exact ⟨.node found { bytes := [], length := none }, map', by simp [HashMap.perform, run],
        ⟨free, chain, _, store, shape', stored'⟩, sizes⟩
  | insert key newData now =>
      obtain ⟨inserted, map', run, holds', sizes⟩ := holds.insertNode proper now
      refine ⟨.node inserted { bytes := [], length := none }, map',
        by simp [HashMap.perform, run], ?_, sizes⟩
      cases inserted <;> exact holds'
  | update node newData old =>
      obtain ⟨lists, -⟩ := updateNode_frame map node newData old
      refine ⟨
        .node (map.updateNode node newData old).1 (map.updateNode node newData old).2.1,
        (map.updateNode node newData old).2.2, rfl, ?_, sizes_of_listFields lists⟩
      have updated := holds.updateNode proper newData old
      cases answered : (map.updateNode node newData old).1 <;> rw [answered] at updated <;>
        exact updated
  | replace key newData old now =>
      obtain ⟨replaced, out, map', run, holds', sizes⟩ :=
        holds.replaceNode key newData old now
      refine ⟨.node replaced out, map', by simp [HashMap.perform, run], ?_, sizes⟩
      cases replaced <;> exact holds'
  | delete node out =>
      obtain ⟨ret, data, map', run, holds', sizes⟩ := holds.deleteNode proper out
      exact ⟨.code ret data, map', by simp [HashMap.perform, run], holds', sizes⟩

end Holds

-----------------------------------------------------------------------------------------
-- What a caller sees
-----------------------------------------------------------------------------------------

/-- `find_node` returns, and finds a key exactly when the contents have it. Its node hands out
the data to any buffer that is large enough. -/
def Finds (map : HashMap Key σ η) (contents : Key → Option (List UInt8)) : Prop :=
  ∀ key now,
    ∃ found map',
      map.findNode key now = some (found, map')
      ∧ (found.isSome ↔ (contents key).isSome)
      ∧ ∀ node data, found = some node → contents key = some data
          → map'.key node = key
            ∧ map'.chunkLen node = data.length
            ∧ ∀ capacity : Int, data.length ≤ capacity
              → map'.mergeNodeData node (.buffer capacity)
                = (0, { bytes := data, length := some data.length })

theorem Holds.finds (holds : Holds map contents) : map.Finds contents := by
  intro key now
  obtain ⟨free, chain, recent, store, shape, stored⟩ := holds
  obtain ⟨found, map', run, shape', stored', sizes, data, outcome⟩ :=
    findNode_stored shape stored key now
  cases found with
  | none => exact ⟨none, map', run, by simp [show contents key = none from outcome], by simp⟩
  | some node =>
      obtain ⟨member, keyed⟩ := outcome
      have keyed' : map'.key node = key := by
        have keys : map'.key = map.key := congrArg Prod.fst data
        rw [keys, keyed]
      obtain ⟨handle, bytes, head, block, len, content⟩ :=
        stored'.block node List.mem_cons_self
      rw [keyed'] at content
      refine ⟨some node, map', run, by simp [content], ?_⟩
      rintro _ data ⟨⟩ same
      obtain rfl : bytes = data := Option.some.inj (content.symm.trans same)
      refine ⟨keyed', len, ?_⟩
      intro capacity large
      have read := LawfulChunkAllocator.merge_read stored'.represents block large
      simp only [mergeNodeData, head, len]
      dsimp only at read
      rw [read]

/-- Each node is on the free list once, or once on the list of its own key's bucket, and the
counters count the nodes and buckets in use. -/
structure EachOnce (map : HashMap Key σ η) (free : List Nat) (chain : Nat → List Nat) : Prop where
  freeList : Path map.nodeNext map.freeList free none
  freeOnce : free.Nodup
  buckets
    : ∀ bucketId < map.bucketSize,
        Path map.nodeNext (map.bucket bucketId) (chain bucketId) none ∧ (chain bucketId).Nodup
  inPool
    : (∀ node ∈ free, node < map.nodeTotal)
      ∧ ∀ bucketId < map.bucketSize, ∀ node ∈ chain bucketId,
          node < map.nodeTotal ∧ map.getBucketId (map.key node) = bucketId
  oneOf
    : ∀ node < map.nodeTotal,
        Xor (node ∈ free) (node ∈ chain (map.getBucketId (map.key node)))
  usedNodes
    : map.usedNodeNum = ∑ bucketId ∈ Finset.range map.bucketSize, ((chain bucketId).length : Int)
  usedBuckets
    : map.usedBucketNum
      = ((Finset.range map.bucketSize).filter (fun bucketId => chain bucketId ≠ [])).card

omit [DecidableEq Key] [DecidableEq η] [ChunkAllocator σ η] [LawfulChunkAllocator σ] in
theorem NodeLists.eachOnce {free : List Nat} {chain : Nat → List Nat}
    (lists : NodeLists map free chain none)
    : EachOnce map free chain where
  freeList := lists.freed
  freeOnce := lists.freed.nodup
  buckets := fun _ within => ⟨lists.chain_path within, (lists.chain_path within).nodup⟩
  inPool := by
    refine ⟨fun node member => (lists.within node).mpr (Or.inl member), ?_⟩
    intro bucketId within node member
    exact ⟨(lists.within node).mpr (Or.inr (Or.inr ⟨bucketId, within, member⟩)),
      lists.keyed bucketId within node member⟩
  oneOf := by
    intro node within
    rcases (lists.within node).mp within with freed | loose | ⟨bucketId, withinB, member⟩
    · exact Or.inl ⟨freed, lists.apart node freed _ (map.getBucketId_lt lists.buckets _)⟩
    · simp at loose
    · refine Or.inr ⟨?_, fun freed => lists.apart node freed bucketId withinB member⟩
      rwa [lists.keyed bucketId withinB node member]
  usedNodes := lists.usedNodes
  usedBuckets := by
    rw [lists.usedBuckets, Finset.card_filter]
    push_cast
    refine Finset.sum_congr rfl ?_
    intro bucketId _
    by_cases empty : chain bucketId = [] <;> simp [empty]

-----------------------------------------------------------------------------------------
-- Any sequence of calls
-----------------------------------------------------------------------------------------

/-- A map opened with these sizes over any pool, before anything is stored. -/
def OpenedWith (nodeTotal bucketSize : Nat)
    (state : HashMap Key σ η × (Key → Option (List UInt8)))
    : Prop :=
  (∃ pool : HashMap Key σ η,
    ∃ nChunks chunkSize,
      pool.openPool true nodeTotal bucketSize nChunks chunkSize = some (0, state.1))
  ∧ state.2 = fun _ => none

/-- A call that is allowed, and what it stores. -/
inductive ContentStep
    (allowed : HashMap Key σ η → (Key → Option (List UInt8)) → Operation Key → Prop)
    : HashMap Key σ η × (Key → Option (List UInt8)) → Operation Key
      → HashMap Key σ η × (Key → Option (List UInt8)) → Prop
  | call {map map' : HashMap Key σ η} {contents : Key → Option (List UInt8)}
    {operation : Operation Key} {answer : Answer} (allow : allowed map contents operation)
    (performed : map.perform operation = some (answer, map'))
    : ContentStep allowed (map, contents) operation
        (map', map.contentsAfter contents operation answer)

/-- Only absent keys are inserted, and nodes are updated and deleted while they are in use. -/
def Operation.InsertsAbsent (map : HashMap Key σ η) (contents : Key → Option (List UInt8))
    : Operation Key → Prop
  | .insert key _ _ => contents key = none
  | .update node _ _ => map.InUse node
  | .delete node _ => map.InUse node
  | _ => True

omit [DecidableEq Key] [DecidableEq η] [LawfulChunkAllocator σ] in
theorem Operation.InsertsAbsent.proper {operation : Operation Key}
    (absent : operation.InsertsAbsent map contents)
    : operation.Proper map contents := by
  cases operation with
  | insert key newData now => exact fun present => absurd absent present
  | _ => exact absent

omit [DecidableEq Key] in
theorem OpenedWith.holds {nodeTotal bucketSize : Nat} (buckets : 0 < bucketSize)
    {state : HashMap Key σ η × (Key → Option (List UInt8))}
    (opened : OpenedWith nodeTotal bucketSize state)
    : Holds state.1 state.2 ∧ state.1.nodeTotal = nodeTotal ∧ state.1.bucketSize = bucketSize := by
  obtain ⟨⟨pool, nChunks, chunkSize, opened⟩, empty⟩ := opened
  obtain ⟨map, contents⟩ := state
  obtain rfl : contents = fun _ => none := empty
  rw [openPool_init, Option.some.injEq, Prod.mk.injEq] at opened
  obtain ⟨accepted, rfl⟩ := opened
  obtain ⟨shape, total, size, -⟩ := initPoolData_shape pool nodeTotal buckets
  obtain ⟨chunkNum, represents⟩ := LawfulChunkAllocator.opened _ _ _ accepted
  refine ⟨⟨_, _, [], _, shape.congr rfl rfl, represents, ?_, ?_, ?_, ?_⟩, total, size⟩ <;> simp

/-- After any sequence of proper calls the map holds the contents. -/
theorem reachable_holds {nodeTotal bucketSize : Nat} (buckets : 0 < bucketSize)
    {allowed : HashMap Key σ η → (Key → Option (List UInt8)) → Operation Key → Prop}
    (proper : ∀ {map contents operation}, allowed map contents operation
      → operation.Proper map contents)
    {state : HashMap Key σ η × (Key → Option (List UInt8))}
    (reached : Reachable (OpenedWith nodeTotal bucketSize) (ContentStep allowed) state)
    : Holds state.1 state.2 ∧ state.1.nodeTotal = nodeTotal ∧ state.1.bucketSize = bucketSize := by
  refine reached.invariant
    (fun state =>
      Holds state.1 state.2 ∧ state.1.nodeTotal = nodeTotal ∧ state.1.bucketSize = bucketSize)
    (fun _ opened => opened.holds buckets) ?_
  rintro _ operation _ ⟨holds, total, size⟩ ⟨allow, performed⟩
  obtain ⟨answer, map', run, holds', sizes⟩ := holds.perform operation (proper allow)
  cases performed.symm.trans run
  simp only [HashMap.sizes, Prod.mk.injEq] at sizes
  exact ⟨holds', sizes.1.trans total, sizes.2.1.trans size⟩

/-- After any sequence of calls that insert absent keys, every node is on the free list or in
its key's bucket, the counters agree, `verify_pool_data` accepts the pool, and `find_node` finds
what was stored last and not deleted. A further call returns, and one that fails leaves the
contents as they are.
-/
theorem contents_held {nodeTotal bucketSize : Nat} (buckets : 0 < bucketSize)
    (reached
      : Reachable (OpenedWith nodeTotal bucketSize) (ContentStep Operation.InsertsAbsent)
          (map, contents))
    : (∃ free chain, EachOnce map free chain)
      ∧ map.nodeTotal = nodeTotal
      ∧ map.bucketSize = bucketSize
      ∧ map.verifyPoolData nodeTotal bucketSize = some 0
      ∧ map.Finds contents
      ∧ ∀ operation : Operation Key, operation.InsertsAbsent map contents
          → ∃ answer map',
              map.perform operation = some (answer, map')
              ∧ (answer.Failed → map'.Finds contents) := by
  obtain ⟨holds, total, size⟩ :=
    reachable_holds buckets (fun absent => absent.proper) reached
  have finds := holds.finds
  obtain ⟨free, chain, recent, store, shape, stored⟩ := id holds
  refine ⟨⟨free, chain, shape.lists.eachOnce⟩, total, size, ?_, finds, ?_⟩
  · exact total ▸ size ▸ shape.lists.verifyPoolData_eq
  · intro operation absent
    obtain ⟨answer, map', run, holds', -⟩ := holds.perform operation absent.proper
    refine ⟨answer, map', run, ?_⟩
    intro failed
    rw [contentsAfter_failed map contents operation failed] at holds'
    exact holds'.finds

/-- Two keys are stored, in a pool of two nodes. -/
theorem contents_held_stored
    : ∃ (map : HashMap Nat CountingAllocator Nat) (contents : Nat → Option (List UInt8)),
        contents 7 = some [1]
        ∧ contents 9 = some [2, 3]
        ∧ map.verifyPoolData 2 2 = some 0
        ∧ map.Finds contents := by
  have opened : Reachable (OpenedWith 2 2) (ContentStep Operation.InsertsAbsent) (_, _) :=
    .start ⟨⟨blankPool, 4, 8, openPool_init blankPool 2 2 4 8⟩, rfl⟩
  have first :=
    opened.step
      (.call (by exact rfl) (rfl : HashMap.perform _ (Operation.insert 7 [1] 0) = some (_, _)))
  have second :=
    first.step
      (.call (by exact rfl) (rfl : HashMap.perform _ (Operation.insert 9 [2, 3] 0) = some (_, _)))
  have held := contents_held (by decide) second
  exact ⟨_, _, rfl, rfl, held.2.2.2.1, held.2.2.2.2.1⟩

end ProxyServer.HashMap
