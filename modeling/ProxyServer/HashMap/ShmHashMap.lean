import ProxyServer.HashMap.ContentRuns

/-! The map in shared memory, and the keys that are inserted twice.
A call holds the semaphore from its start to its end, so it is one step on the map. No insertion
asks whether the key is stored: a second node takes the key while there is room for it.
-/

namespace ProxyServer

namespace ShmHashMap

open Reachability

variable {Key σ η : Type} [ChunkAllocator σ η] [DecidableEq Key]

def find (map : HashMap Key σ η) (key : Key) (now : Int) : Option (Bool × HashMap Key σ η) := do
  let (found, map) ← map.findNode key now
  pure (found.isSome, map)

/-- `Find` with a buffer. -/
def findData (map : HashMap Key σ η) (key : Key) (buf : OutArgs) (now : Int)
    : Option (Int × OutData × HashMap Key σ η) := do
  match ← map.findNode key now with
  | (some node, map) =>
      let (ret, out) := map.mergeNodeData node buf
      pure (ret, out, map)
  | (none, map) => pure (-1, { bytes := [], length := none }, map)

def insert (map : HashMap Key σ η) (key : Key) (data : List UInt8) (now : Int)
    : Option (Int × HashMap Key σ η) := do
  let (inserted, map) ← map.insertNode key data now
  pure (if inserted = none then -1 else 0, map)

def setValue (map : HashMap Key σ η) (key : Key) (data : List UInt8) (now : Int)
    : Option (Int × HashMap Key σ η) := do
  let (replaced, _, map) ← map.replaceNode key data .neither now
  pure (if replaced = none then -1 else 0, map)

def delete (map : HashMap Key σ η) (key : Key) (now : Int)
    : Option (Int × HashMap Key σ η) := do
  match ← map.findNode key now with
  | (some node, map) =>
      let (ret, _, map) ← map.deleteNode node .neither
      pure (ret, map)
  | (none, map) => pure (-1, map)

-----------------------------------------------------------------------------------------
-- Calls of either class
-----------------------------------------------------------------------------------------

/-- A call on the map in shared memory. -/
inductive Call (Key : Type) where
  | find (key : Key) (now : Int)
  | findData (key : Key) (buf : OutArgs) (now : Int)
  | insert (key : Key) (data : List UInt8) (now : Int)
  | setValue (key : Key) (data : List UInt8) (now : Int)
  | delete (key : Key) (now : Int)

/-- What a call returns, and the map after it; `true` is 1. -/
def perform (map : HashMap Key σ η) : Call Key → Option (Int × HashMap Key σ η)
  | .find key now => do
      let (found, map) ← find map key now
      pure (if found then 1 else 0, map)
  | .findData key buf now => do
      let (ret, _, map) ← findData map key buf now
      pure (ret, map)
  | .insert key data now => insert map key data now
  | .setValue key data now => setValue map key data now
  | .delete key now => delete map key now

omit [ChunkAllocator σ η] in
/-- The keys and their data after a call. -/
def contentsAfter (contents : Key → Option (List UInt8)) (ret : Int)
    : Call Key → Key → Option (List UInt8)
  | .insert key data _ => if ret = 0 then Function.update contents key (some data) else contents
  | .setValue key data _ => if ret = 0 then Function.update contents key (some data) else contents
  | .delete key _ => if ret = 0 then Function.update contents key none else contents
  | _ => contents

/-- A stored key is inserted only when there is no room for it. -/
def Call.Proper (map : HashMap Key σ η) (contents : Key → Option (List UInt8))
    : Call Key → Prop
  | .insert key data _ => contents key ≠ none → map.NoRoom data
  | _ => True

variable [DecidableEq η] [LawfulChunkAllocator σ] {map : HashMap Key σ η}
  {contents : Key → Option (List UInt8)}

/-- Every proper call returns, and the map holds the contents after it. -/
theorem perform_holds (holds : HashMap.Holds map contents) (call : Call Key)
    (proper : call.Proper map contents)
    : ∃ ret map',
        perform map call = some (ret, map')
        ∧ HashMap.Holds map' (contentsAfter contents ret call)
        ∧ map'.sizes = map.sizes := by
  cases call with
  | find key now =>
      obtain ⟨free, chain, recent, store, shape, stored⟩ := holds
      obtain ⟨found, map', run, shape', stored', sizes, -⟩ :=
        HashMap.findNode_stored shape stored key now
      exact ⟨if found.isSome then 1 else 0, map', by simp [perform, find, run],
        ⟨free, chain, _, store, shape', stored'⟩, sizes⟩
  | findData key buf now =>
      obtain ⟨free, chain, recent, store, shape, stored⟩ := holds
      obtain ⟨found, map', run, shape', stored', sizes, -⟩ :=
        HashMap.findNode_stored shape stored key now
      have holds' : HashMap.Holds map' contents := ⟨free, chain, _, store, shape', stored'⟩
      cases found with
      | some node =>
          exact ⟨(map'.mergeNodeData node buf).1, map', by simp [perform, findData, run], holds',
            sizes⟩
      | none => exact ⟨-1, map', by simp [perform, findData, run], holds', sizes⟩
  | insert key data now =>
      obtain ⟨inserted, map', run, holds', sizes⟩ := holds.insertNode proper now
      refine ⟨if inserted = none then -1 else 0, map', by simp [perform, insert, run], ?_, sizes⟩
      cases inserted <;> exact holds'
  | setValue key data now =>
      obtain ⟨replaced, out, map', run, holds', sizes⟩ :=
        holds.replaceNode key data .neither now
      refine ⟨if replaced = none then -1 else 0, map', by simp [perform, setValue, run], ?_, sizes⟩
      cases replaced <;> exact holds'
  | delete key now =>
      obtain ⟨free, chain, recent, store, shape, stored⟩ := holds
      obtain ⟨found, map', run, shape', stored', sizes, fields, outcome⟩ :=
        HashMap.findNode_stored shape stored key now
      have holds' : HashMap.Holds map' contents := ⟨free, chain, _, store, shape', stored'⟩
      cases found with
      | none =>
          refine ⟨-1, map', by simp [perform, delete, run], ?_, sizes⟩
          simpa [contentsAfter] using holds'
      | some node =>
          obtain ⟨member, keyed⟩ := outcome
          have keyed' : map'.key node = key := by
            have keys : map'.key = map.key := congrArg Prod.fst fields
            rw [keys, keyed]
          have inUse : map'.InUse node := shape'.inUse_iff.mpr List.mem_cons_self
          obtain ⟨ret, out, map'', run', holds'', sizes'⟩ := holds'.deleteNode inUse .neither
          rw [keyed'] at holds''
          exact ⟨ret, map'', by simp [perform, delete, run, run'], holds'', sizes'.trans sizes⟩

/-- The map takes a call of its own class or of the one in shared memory. Nodes are updated and
deleted while they are in use, and a stored key is inserted only when there is no room for it.
-/
inductive KeyedStep
    : HashMap Key σ η × (Key → Option (List UInt8)) → HashMap.Operation Key ⊕ Call Key
      → HashMap Key σ η × (Key → Option (List UInt8)) → Prop
  | own {map map' : HashMap Key σ η} {contents : Key → Option (List UInt8)}
    {operation : HashMap.Operation Key} {answer : HashMap.Answer}
    (proper : operation.Proper map contents)
    (performed : map.perform operation = some (answer, map'))
    : KeyedStep (map, contents) (.inl operation)
        (map', map.contentsAfter contents operation answer)
  | shared {map map' : HashMap Key σ η} {contents : Key → Option (List UInt8)}
    {call : Call Key} {ret : Int} (proper : call.Proper map contents)
    (performed : perform map call = some (ret, map'))
    : KeyedStep (map, contents) (.inr call) (map', contentsAfter contents ret call)

theorem reachable_holds {nodeTotal bucketSize : Nat} (buckets : 0 < bucketSize)
    {state : HashMap Key σ η × (Key → Option (List UInt8))}
    (reached : Reachable (HashMap.OpenedWith nodeTotal bucketSize) KeyedStep state)
    : HashMap.Holds state.1 state.2 := by
  refine reached.invariant (fun state => HashMap.Holds state.1 state.2)
    (fun _ opened => (opened.holds buckets).1) ?_
  rintro _ _ _ holds (⟨proper, performed⟩ | ⟨proper, performed⟩)
  · obtain ⟨_, _, run, holds', -⟩ := holds.perform _ proper
    cases performed.symm.trans run
    exact holds'
  · obtain ⟨_, _, run, holds', -⟩ := perform_holds holds _ proper
    cases performed.symm.trans run
    exact holds'

-----------------------------------------------------------------------------------------
-- The insertion of a stored key
-----------------------------------------------------------------------------------------

/-- Both insertions of the key fail, and leave all but the allocator and the contents as they
are. -/
def InsertFails (map : HashMap Key σ η) (contents : Key → Option (List UInt8)) (key : Key)
    (data : List UInt8) (now : Int)
    : Prop :=
  ∃ allocator,
    map.insertNode key data now = some (none, { map with allocator })
    ∧ insert map key data now = some (-1, { map with allocator })
    ∧ HashMap.Finds { map with allocator } contents

/-- At most one node in use has the key. -/
def OneNodePerKey (map : HashMap Key σ η) : Prop :=
  ∀ node other, map.InUse node → map.InUse other → map.key node = map.key other → node = other

/-- In a run that inserts stored keys only without room for them, no two nodes have one key; and
inserting a stored key fails and leaves the map unchanged exactly when there is no room.
-/
theorem insert_stored_iff {nodeTotal bucketSize : Nat} (buckets : 0 < bucketSize)
    (reached
      : Reachable (HashMap.OpenedWith nodeTotal bucketSize) KeyedStep (map, contents))
    : OneNodePerKey map
      ∧ ∀ key data now, (∃ node, map.InUse node ∧ map.key node = key)
          → (InsertFails map contents key data now ↔ map.NoRoom data) := by
  obtain ⟨free, chain, recent, store, shape, stored⟩ := reachable_holds buckets reached
  constructor
  · intro node other inUse otherInUse same
    exact stored.distinct node (shape.inUse_iff.mp inUse) other (shape.inUse_iff.mp otherInUse)
      same
  · rintro key data now -
    constructor
    · rintro ⟨allocator, failed, -, -⟩
      by_contra room
      obtain ⟨_, _, _, _, _, inserted, -⟩ :=
        HashMap.insertNode_room shape stored.represents room key now
      rw [inserted] at failed
      simp at failed
    · intro noRoom
      obtain ⟨allocator, failed, represents⟩ :=
        HashMap.insertNode_noRoom stored.represents noRoom key now
      refine ⟨allocator, failed, by simp [insert, failed], ?_⟩
      have holds : HashMap.Holds { map with allocator } contents :=
        ⟨free, chain, recent, store, shape.congr rfl rfl, { stored with represents }⟩
      exact holds.finds

/-- In a pool of one node a second insertion of the key fails. -/
theorem insert_stored_iff_full
    : ∃ (map : HashMap Nat CountingAllocator Nat) (contents : Nat → Option (List UInt8)),
        contents 7 = some [1]
        ∧ OneNodePerKey map
        ∧ InsertFails map contents 7 [2] 0 := by
  have opened : Reachable (HashMap.OpenedWith 1 2) KeyedStep (_, _) :=
    .start ⟨⟨HashMap.blankPool, 4, 8, HashMap.openPool_init HashMap.blankPool 1 2 4 8⟩, rfl⟩
  have stored :=
    opened.step
      (.own (by exact fun present => absurd rfl present)
        (rfl : HashMap.perform _ (HashMap.Operation.insert 7 [1] 0) = some (_, _)))
  obtain ⟨single, fails⟩ := insert_stored_iff (by decide) stored
  have failed :=
    (fails 7 [2] 0 ⟨0, ⟨[0], ⟨rfl, rfl⟩, List.mem_cons_self⟩, rfl⟩).mpr (Or.inl rfl)
  exact ⟨_, _, rfl, single, failed⟩

/-- In a pool of two nodes the key 7 is inserted twice, through either class: the second
insertion succeeds, and both nodes have the key. -/
theorem insert_stored_succeeds
    : ∃ (map map' : HashMap Nat CountingAllocator Nat) (contents : Nat → Option (List UInt8)),
        Reachable (HashMap.OpenedWith 2 2) KeyedStep (map, contents)
        ∧ (∃ node, map.InUse node ∧ map.key node = 7)
        ∧ map.insertNode 7 [2] 0 = some (some 0, map')
        ∧ insert map 7 [2] 0 = some (0, map')
        ∧ ¬OneNodePerKey map' := by
  have opened : Reachable (HashMap.OpenedWith 2 2) KeyedStep (_, _) :=
    .start ⟨⟨HashMap.blankPool, 4, 8, HashMap.openPool_init HashMap.blankPool 2 2 4 8⟩, rfl⟩
  have stored :=
    opened.step
      (.own (by exact fun present => absurd rfl present)
        (rfl : HashMap.perform _ (HashMap.Operation.insert 7 [1] 0) = some (_, _)))
  refine ⟨_, _, _, stored, ⟨1, ⟨[1], ⟨rfl, rfl⟩, List.mem_cons_self⟩, rfl⟩, rfl, rfl, ?_⟩
  intro single
  have same :=
    single 0 1 ⟨[0, 1], ⟨rfl, rfl, rfl⟩, by decide⟩ ⟨[0, 1], ⟨rfl, rfl, rfl⟩, by decide⟩ rfl
  exact absurd same (by decide)

end ShmHashMap

end ProxyServer
