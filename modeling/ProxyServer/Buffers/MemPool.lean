import ProxyServer.Library.CellStore
import ProxyServer.Library.BoundedLoop
import ProxyServer.Runtime

/-! The block pool shared by the caches of every connection.
The pool keeps, for each block size, the blocks it made (`_stub`) and those not handed out
(`_free`). Blocks are heap objects of their own; addresses can come back after a `delete []`.
-/

namespace ProxyServer.Buffers

-----------------------------------------------------------------------------------------
-- The heap under the pool
-----------------------------------------------------------------------------------------

/-- The address of a heap object; a null pointer is an absent address. -/
abbrev Addr := Nat

/-- Where `new char[]` places an object: any choice that avoids the live ones. -/
structure Allocator where
  pick : Finset Addr → Nat → Addr
  fresh : ∀ live requests, pick live requests ∉ live

/-- The data members of `CMemPool` and the heap it draws from.
The `mml` and `mms` maps hold pointers to a list and a set for each block size; here they
hold the list and the set. `live` are the objects that `new char[]` made and `delete []` has
not removed, with their sizes and cells.
-/
structure Memory where
  free : Nat → Option (List Addr)
  stub : Nat → Option (Finset Addr)
  allocatedSize : Nat
  waterMark : Nat
  live : Finset Addr
  size : Addr → Nat
  cells : Addr → CellStore UInt8
  requests : Nat

abbrev PoolM := StateT Memory (Except Fault)

-----------------------------------------------------------------------------------------
-- Sizes
-----------------------------------------------------------------------------------------

def extendSet : Nat := 128
def slot1 : Nat := 1048576
def slot2 : Nat := 67108864
def allocCapacity : Nat := 134217728
def maxPoolSize : Nat := 2097152000
def maxWaterMark : Nat := 1073741824

/-- `CMemPool()`, over a heap with no objects. -/
def Memory.initial (cells : Addr → CellStore UInt8) : Memory where
  free := fun _ => none
  stub := fun _ => none
  allocatedSize := 0
  waterMark := maxWaterMark
  live := ∅
  size := fun _ => 0
  cells := cells
  requests := 0

/-- The `for` of `fit_block_size`: counts `i` up while bits of `size` remain. -/
def fitLoop : Nat → Nat → Nat → Nat
  | 0, i, _ => i
  | turns + 1, i, size => if size = 0 then i else fitLoop turns (i + 1) (size >>> 1)

/-- `fit_block_size`. An `unsigned int` has 32 bits, so 32 turns empty it. -/
def fitBlockSize (size : Nat) : Nat :=
  let i := fitLoop 32 10 (size >>> 10)
  2 ^ (if i < 10 then 10 else i)

/-- `fit_extend_set`: how many blocks of a size are made at a time. -/
def fitExtendSet (size : Nat) : Nat :=
  if size < slot1 then extendSet
  else if slot1 ≤ size ∧ size < slot2 then allocCapacity / size
  else 1

/-- The `release_size` of three arguments: how many free blocks of a size go back. -/
def releaseSizeCount (waterMark blockSize freeCount stubCount : Nat) : Nat :=
  if wrap32 (freeCount * blockSize) < 1048576 then 0
  else if slot2 < blockSize then
    if 1 < freeCount then freeCount / 2 else freeCount
  else if stubCount / 2 ≤ freeCount ∨ waterMark ≤ wrap32 (freeCount * blockSize) then
    freeCount / 2
  else 0

-----------------------------------------------------------------------------------------
-- Lists, sets and heap objects
-----------------------------------------------------------------------------------------

/-- The list at `_free.find(size)->second`. -/
def freeList (size : Nat) : PoolM (List Addr) := do
  match (← get).free size with
  | some blocks => pure blocks
  | none => throw .memory

/-- The set at `_stub.find(size)->second`. -/
def stubSet (size : Nat) : PoolM (Finset Addr) := do
  match (← get).stub size with
  | some blocks => pure blocks
  | none => throw .memory

def setFree (size : Nat) (blocks : List Addr) : PoolM Unit :=
  modify (fun memory => { memory with free := Function.update memory.free size (some blocks) })

def setStub (size : Nat) (blocks : Finset Addr) : PoolM Unit :=
  modify (fun memory => { memory with stub := Function.update memory.stub size (some blocks) })

def setAllocatedSize (allocatedSize : Nat) : PoolM Unit :=
  modify (fun memory => { memory with allocatedSize := allocatedSize })

def setWaterMark (waterMark : Nat) : PoolM Unit :=
  modify (fun memory => { memory with waterMark := waterMark })

/-- `delete []`. -/
def deleteBlock (block : Addr) : PoolM Unit := do
  if block ∈ (← get).live then
    modify (fun memory => { memory with live := memory.live.erase block })
  else
    throw .memory

/-- The pool itself checks nothing. -/
def unchecked (_values : List Int) : PoolM Unit := pure ()

-- What looks at the values that a function computes in `unsigned int`, before it does.
variable (check : List Int → PoolM Unit)
variable (allocator : Allocator)

/-- `new char[size]`: the object's cells hold whatever was there. -/
def newBlock (size : Nat) : PoolM Addr := do
  let memory ← get
  let block := allocator.pick memory.live memory.requests
  modify
    (fun memory =>
      { memory with
        live := insert block memory.live
        size := Function.update memory.size block size
        requests := memory.requests + 1 })
  pure block

-----------------------------------------------------------------------------------------
-- Giving blocks back to the heap
-----------------------------------------------------------------------------------------

/-- One turn of the loop of `release`. -/
def releaseFront (size : Nat) : PoolM Unit := do
  match ← freeList size with
  | [] => throw .memory
  | block :: rest => do
      setStub size ((← stubSet size).erase block)
      deleteBlock block
      setFree size rest

def releaseFronts (size : Nat) : Nat → PoolM Unit
  | 0 => pure ()
  | count + 1 => do
      releaseFront size
      releaseFronts size count

/-- `release`. -/
def release (size : Nat) : PoolM Unit := do
  let blocks ← freeList size
  let made ← stubSet size
  let memory ← get
  let todoCount := releaseSizeCount memory.waterMark size blocks.length made.card
  check [
    blocks.length, made.card, (blocks.length * size : Nat), (size * todoCount : Nat),
    memory.allocatedSize - (size * todoCount : Nat)
  ]
  if todoCount = 0 then
    pure ()
  else if memory.allocatedSize < wrap32 (size * todoCount) then
    throw .assertion
  else do
    releaseFronts size todoCount
    setAllocatedSize ((← get).allocatedSize - wrap32 (size * todoCount))

/-- What the pool gave back since `lastAllocSize` was read. -/
def purged (lastAllocSize : Nat) (memory : Memory) : Nat :=
  wrap32 (lastAllocSize + 4294967296 - memory.allocatedSize)

/-- One turn of the `while` of `release_size`. -/
def purgeTurn (lastAllocSize memSize purgeSize : Nat)
    : PoolM (BoundedLoop.Turn Unit Nat) := do
  let memory ← get
  check [lastAllocSize - memory.allocatedSize]
  if purged lastAllocSize memory < memSize ∧ slot1 ≤ purgeSize then do
    let purgeSize := purgeSize >>> 1
    if (memory.stub purgeSize).isSome ∧ (memory.free purgeSize).isSome then
      release check purgeSize
    pure (.again purgeSize)
  else
    pure (.leave ())

/-- The `release_size` of one argument: purges free blocks, large ones first, under a
lowered water mark.
-/
def releaseSize (memSize : Nat) : PoolM Int := do
  setWaterMark allocCapacity
  let lastAllocSize := (← get).allocatedSize
  BoundedLoop.run .endless (purgeTurn check lastAllocSize memSize) 33 2147483648
  setWaterMark maxWaterMark
  let memory ← get
  check [lastAllocSize - memory.allocatedSize]
  if purged lastAllocSize memory < memSize then pure (-1) else pure 0

-----------------------------------------------------------------------------------------
-- Making blocks
-----------------------------------------------------------------------------------------

/-- One turn of the loop of `extend`. -/
def extendFront (size : Nat) : PoolM Unit := do
  let block ← newBlock allocator size
  setFree size (block :: (← freeList size))
  setStub size (insert block (← stubSet size))

def extendFronts (size : Nat) : Nat → PoolM Unit
  | 0 => pure ()
  | count + 1 => do
      extendFront allocator size
      extendFronts size count

/-- `extend` once the pool has room. -/
def extendRoom (size : Nat) : PoolM Int := do
  extendFronts allocator size (fitExtendSet size)
  let memory ← get
  check [
    (size * fitExtendSet size : Nat), (memory.allocatedSize + size * fitExtendSet size : Nat)
  ]
  setAllocatedSize (wrap32 (memory.allocatedSize + size * fitExtendSet size))
  pure 0

/-- `extend`. -/
def extend (size : Nat) : PoolM Int := do
  let memory ← get
  check [
    (size * fitExtendSet size : Nat), (memory.allocatedSize + size * fitExtendSet size : Nat)
  ]
  let wanted := wrap32 (memory.allocatedSize + size * fitExtendSet size)
  if maxPoolSize ≤ wanted then do
    check [wanted - maxPoolSize]
    if (← releaseSize check (wanted - maxPoolSize)) ≠ 0 then
      pure (-1)
    else
      extendRoom check allocator size
  else
    extendRoom check allocator size

/-- `extend_new_size`. -/
def extendNewSize (size : Nat) : PoolM Int := do
  setFree size []
  setStub size ∅
  extend check allocator size

-----------------------------------------------------------------------------------------
-- Handing blocks out and taking them back
-----------------------------------------------------------------------------------------

/-- The end of `allocate`: the front of a free list is handed out. -/
def popFront (blockSize : Nat) : PoolM (Option (Addr × Nat)) := do
  match ← freeList blockSize with
  | [] => pure none
  | block :: rest => do
      setFree blockSize rest
      pure (some (block, blockSize))

/-- `allocate` once the block size has a list. -/
def allocateListed (blockSize : Nat) : PoolM (Option (Addr × Nat)) := do
  if (← freeList blockSize).isEmpty then
    if (← extend check allocator blockSize) ≠ 0 then pure none else popFront blockSize
  else
    popFront blockSize

/-- `allocate`: the block and its size, or `NULL`. `result_size` is only written with a
block.
-/
def allocate (size : Nat) : PoolM (Option (Addr × Nat)) := do
  let blockSize := fitBlockSize size
  if ((← get).free blockSize).isNone then
    if (← extendNewSize check allocator blockSize) ≠ 0 then
      pure none
    else if ((← get).free blockSize).isNone then
      pure none
    else
      allocateListed check allocator blockSize
  else
    allocateListed check allocator blockSize

/-- `recycle`. -/
def recycle (mem : Addr) (memSize : Nat) : PoolM Int := do
  match (← get).stub memSize, (← get).free memSize with
  | some made, some blocks =>
      if mem ∈ made then do
        setFree memSize (mem :: blocks)
        release check memSize
        pure 0
      else
        pure (-1)
  | _, _ => pure (-1)

end ProxyServer.Buffers
