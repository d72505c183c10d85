import ProxyServer.Buffers.MemPoolInvariant

/-! The byte caches of a connection, each in one block of the shared pool.
A cache stores the bytes `[dataHead, dataHead + dataLen)` of its block.
-/

namespace ProxyServer.Buffers
open FaultState

/-- The data members of `CRawCache`; `_mp` is the pool of the state. -/
structure RawCache where
  mem : Option Addr
  blockSize : Nat
  dataHead : Nat
  dataLen : Nat
  deriving DecidableEq, Repr

namespace RawCache

-----------------------------------------------------------------------------------------
-- Operations
-----------------------------------------------------------------------------------------

/-- `CRawCache(mp)`. -/
def empty : RawCache := ⟨none, 0, 0, 0⟩

/-- `memcpy` into a block; a copy past the object's end is out of bounds. -/
def copyIn (block : Addr) (offset : Nat) (bytes : List UInt8) : PoolM Unit := do
  let memory ← get
  if block ∈ memory.live ∧ offset + bytes.length ≤ memory.size block then
    modify
      (fun memory =>
        { memory with
          cells :=
            Function.update memory.cells block ((memory.cells block).write offset bytes) })
  else
    throw .memory

/-- The source side of a `memcpy` or `memmove`. -/
def copyOut (block : Addr) (offset count : Nat) : PoolM (List UInt8) := do
  let memory ← get
  if block ∈ memory.live ∧ offset + count ≤ memory.size block then
    pure ((memory.cells block).read offset count)
  else
    throw .memory

variable (allocator : Allocator)

/-- `append` to a cache without a block. -/
def appendFirst (data : List UInt8) : PoolM (Option RawCache) := do
  match ← allocate unchecked allocator data.length with
  | none => pure none
  | some (mem, blockSize) => do
      copyIn mem 0 data
      pure (some ⟨some mem, blockSize, 0, data.length⟩)

/-- `append` by reallocation: the old block is copied before it is recycled. -/
def appendMoved (cache : RawCache) (mem : Addr) (data : List UInt8)
    : PoolM (Option RawCache) := do
  match ← allocate unchecked allocator (wrap32 (data.length + cache.dataLen)) with
  | none => pure none
  | some (newMem, newBlockSize) => do
      copyIn newMem 0 (← copyOut mem cache.dataHead cache.dataLen)
      copyIn newMem cache.dataLen data
      let _ ← recycle unchecked mem cache.blockSize
      pure (some ⟨some newMem, newBlockSize, 0, wrap32 (cache.dataLen + data.length)⟩)

/-- `append`. No cache is the `throw(0)` of a full pool, which leaves the data members. -/
def append (cache : RawCache) (data : List UInt8) : PoolM (Option RawCache) := do
  match cache.mem with
  | none => appendFirst allocator data
  | some mem =>
      if wrap32 (data.length + cache.dataHead + cache.dataLen) ≤ cache.blockSize then do
        copyIn mem (cache.dataHead + cache.dataLen) data
        pure (some { cache with dataLen := wrap32 (cache.dataLen + data.length) })
      else if cache.blockSize < wrap32 (data.length + cache.dataLen) then
        appendMoved allocator cache mem data
      else do
        copyIn mem 0 (← copyOut mem cache.dataHead cache.dataLen)
        copyIn mem cache.dataLen data
        pure
          (some
            { cache with
              dataHead := 0
              dataLen := wrap32 (cache.dataLen + data.length) })

/-- `skip`. -/
def skip (cache : RawCache) (length : Nat) : PoolM RawCache := do
  match cache.mem with
  | none => pure cache
  | some mem =>
      if cache.dataLen ≤ length then do
        let _ ← recycle unchecked mem cache.blockSize
        pure empty
      else
        pure
          { cache with
            dataHead := cache.dataHead + length
            dataLen := cache.dataLen - length }

/-- `data`: a pointer into the block, or `NULL` when nothing is stored. -/
def data (cache : RawCache) : Except Fault (Option (Addr × Nat)) :=
  if cache.dataLen = 0 then .ok none
  else if cache.dataHead < cache.blockSize then
    .ok (cache.mem.map (fun mem => (mem, cache.dataHead)))
  else .error .assertion

/-- What a reader of `data()` and `data_len()` finds. -/
def bytes (memory : Memory) (cache : RawCache) : Except Fault (List UInt8) := do
  match ← cache.data with
  | none => pure []
  | some (block, offset) => pure ((memory.cells block).read offset cache.dataLen)

-----------------------------------------------------------------------------------------
-- A cache stores a byte queue
-----------------------------------------------------------------------------------------

/-- The cache stores exactly these bytes, in a block that is handed out to it. -/
inductive Stores (memory : Memory) : RawCache → List UInt8 → Prop
  | empty : Stores memory empty []
  | block {mem : Addr} {blockSize dataHead dataLen : Nat}
    (held : Held memory mem blockSize) (fits : dataHead + dataLen ≤ blockSize)
    : Stores memory ⟨some mem, blockSize, dataHead, dataLen⟩
        ((memory.cells mem).read dataHead dataLen)

variable {memory after : Memory} {cache : RawCache} {queue : List UInt8}

theorem Stores.dataLen_eq (stores : Stores memory cache queue)
    : cache.dataLen = queue.length := by
  cases stores with
  | empty => rfl
  | block held fits => exact (CellStore.length_read _ _ _).symm

theorem Stores.within (stores : Stores memory cache queue)
    : cache.dataHead + cache.dataLen ≤ cache.blockSize := by
  cases stores with
  | empty => exact Nat.le_refl _
  | block held fits => exact fits

theorem Stores.held (stores : Stores memory cache queue) {mem : Addr}
    (same : cache.mem = some mem)
    : Held memory mem cache.blockSize := by
  cases stores with
  | empty => simp [RawCache.empty] at same
  | block held fits => cases same; exact held

/-- The stored queue is what `data()` points at. -/
theorem Stores.bytes_eq (stores : Stores memory cache queue)
    : cache.bytes memory = .ok queue := by
  cases stores with
  | empty => rfl
  | @block mem blockSize dataHead dataLen held fits =>
      unfold bytes data
      by_cases zero : dataLen = 0
      · subst zero
        rfl
      · rw [if_neg zero, if_pos (show dataHead < blockSize by omega)]
        rfl

/-- A cache whose block is undisturbed keeps its queue. -/
theorem Stores.keep (stores : Stores memory cache queue)
    (undisturbed : ∀ mem, cache.mem = some mem → Undisturbed memory after mem)
    : Stores after cache queue := by
  cases stores with
  | empty => exact Stores.empty
  | @block mem blockSize dataHead dataLen held fits =>
      obtain ⟨held', same⟩ := undisturbed mem rfl blockSize held
      rw [← same]
      exact Stores.block held' fits

-----------------------------------------------------------------------------------------
-- Copies into a held block
-----------------------------------------------------------------------------------------

/-- `after` has other cells in one block. -/
def withCells (memory : Memory) (block : Addr) (cells : CellStore UInt8) : Memory :=
  { memory with cells := Function.update memory.cells block cells }

@[simp]
theorem withCells_cells (memory : Memory) (block : Addr) (cells : CellStore UInt8)
    : (withCells memory block cells).cells block = cells :=
  Function.update_self ..

theorem withCells_invariant (invariant : PoolInvariant memory) (block : Addr)
    (cells : CellStore UInt8)
    : PoolInvariant (withCells memory block cells) :=
  ⟨⟨invariant.classes, invariant.paired, invariant.owned, invariant.nodup, invariant.live⟩,
    invariant.accounted, invariant.bounded⟩

theorem withCells_undisturbed {block other : Addr} (cells : CellStore UInt8)
    (differs : other ≠ block)
    : Undisturbed memory (withCells memory block cells) other :=
  fun _ held => ⟨held, Function.update_of_ne differs ..⟩

/-- A second copy into the same block goes on from the first. -/
@[simp]
theorem withCells_withCells (memory : Memory) (block : Addr) (first second : CellStore UInt8)
    : withCells (withCells memory block first) block second
      = withCells memory block second := by
  simp only [withCells, Function.update_idem]

theorem Stores.of_cells {mem : Addr} {blockSize dataHead dataLen : Nat}
    {cells : CellStore UInt8} (held : Held memory mem blockSize)
    (fits : dataHead + dataLen ≤ blockSize) (read : cells.read dataHead dataLen = queue)
    : Stores (withCells memory mem cells) ⟨some mem, blockSize, dataHead, dataLen⟩ queue := by
  have same : ((withCells memory mem cells).cells mem).read dataHead dataLen = queue := by
    rw [withCells_cells]; exact read
  rw [← same]
  exact Stores.block held fits

theorem copyIn_delivers {block : Addr} {offset size : Nat} {bytes : List UInt8}
    {post : Unit → Memory → Prop} (invariant : PoolInvariant memory)
    (held : Held memory block size) (fits : offset + bytes.length ≤ size)
    (established
      : post () (withCells memory block ((memory.cells block).write offset bytes)))
    : Delivers (copyIn block offset bytes) memory post := by
  obtain ⟨live, sized⟩ := invariant.live size block held.1
  refine Delivers.bind (Delivers.get ?_)
  rw [if_pos ⟨live, by rw [sized]; exact fits⟩]
  exact Delivers.modify established

theorem copyOut_delivers {block : Addr} {offset count size : Nat}
    {post : List UInt8 → Memory → Prop} (invariant : PoolInvariant memory)
    (held : Held memory block size) (fits : offset + count ≤ size)
    (established : post ((memory.cells block).read offset count) memory)
    : Delivers (copyOut block offset count) memory post := by
  obtain ⟨live, sized⟩ := invariant.live size block held.1
  refine Delivers.bind (Delivers.get ?_)
  rw [if_pos ⟨live, by rw [sized]; exact fits⟩]
  exact Delivers.pure established

-----------------------------------------------------------------------------------------
-- Specifications
-----------------------------------------------------------------------------------------

/-- What a call on one cache leaves: its new queue, and every other held block as it was.
The cache's block is its old one or one that nobody held.
-/
structure Updates (memory : Memory) (cache : RawCache) (queue : List UInt8)
    (after : Memory) (cache' : RawCache) : Prop where
  invariant : PoolInvariant after
  stores : Stores after cache' queue
  undisturbed : ∀ block, cache.mem ≠ some block → Undisturbed memory after block
  placed
    : ∀ block, cache'.mem = some block
      → cache.mem = some block ∨ ∀ size, ¬Held memory block size

/-- What an `append` leaves; a thrown one leaves every held block as it was. -/
def Appends (memory : Memory) (cache : RawCache) (queue : List UInt8) (after : Memory)
    : Option RawCache → Prop
  | some cache' => Updates memory cache queue after cache'
  | none => PoolInvariant after ∧ ∀ block, Undisturbed memory after block

variable {allocator}

/-- Writing the block just handed out disturbs no block that was held before. -/
theorem undisturbed_write {size : Nat} {middle : Memory} {result : Option (Addr × Nat)}
    {mem : Addr} (allocated : Allocated size memory middle result)
    (unheld : ∀ size, ¬Held memory mem size) (cells : CellStore UInt8) (block : Addr)
    : Undisturbed memory (withCells middle mem cells) block := by
  intro blockSize held
  have differs : block ≠ mem := by
    rintro rfl
    exact unheld blockSize held
  exact (allocated.undisturbed block).trans (withCells_undisturbed cells differs) _ held

/-- The first block of a cache: data at its start. -/
theorem appendFirst_delivers {data : List UInt8} (invariant : PoolInvariant memory)
    (small : data.length < 1073741824)
    : Delivers (appendFirst allocator data) memory
        (fun result after => Appends memory empty data after result) := by
  have request : data.length < 2147483648 := by omega
  have large := (fitBlockSize_fits request).2
  refine Delivers.bind ((allocate_delivers invariant request).weaken ?_)
  intro result middle allocated
  cases result with
  | none => exact Delivers.pure ⟨allocated.invariant, allocated.undisturbed⟩
  | some handed =>
      obtain ⟨mem, blockSize⟩ := handed
      obtain ⟨sized, held, unheld⟩ := allocated.handed mem blockSize rfl
      refine Delivers.bind (copyIn_delivers allocated.invariant held (by omega) ?_)
      refine Delivers.pure ⟨withCells_invariant allocated.invariant _ _, ?_, ?_, ?_⟩
      · exact Stores.of_cells held (by omega) (CellStore.read_write_self _ 0 data)
      · intro block _
        exact undisturbed_write allocated unheld _ block
      · intro block same
        cases same
        exact Or.inr unheld

/-- Reallocation copies the queue to the new block before the old one is recycled. -/
theorem appendMoved_delivers {mem : Addr} {blockSize dataHead dataLen : Nat}
    {data : List UInt8} (invariant : PoolInvariant memory)
    (held : Held memory mem blockSize) (fits : dataHead + dataLen ≤ blockSize)
    (small : dataLen + data.length < 1073741824)
    : Delivers (appendMoved allocator ⟨some mem, blockSize, dataHead, dataLen⟩ mem data) memory
        (fun result after =>
          Appends memory ⟨some mem, blockSize, dataHead, dataLen⟩
            ((memory.cells mem).read dataHead dataLen ++ data) after result) := by
  have request : data.length + dataLen < 2147483648 := by omega
  have large := (fitBlockSize_fits request).2
  unfold appendMoved
  dsimp only
  rw [wrap32_of_lt (show data.length + dataLen < 4294967296 by omega),
    wrap32_of_lt (show dataLen + data.length < 4294967296 by omega)]
  refine Delivers.bind ((allocate_delivers invariant request).weaken ?_)
  intro result middle allocated
  cases result with
  | none => exact Delivers.pure ⟨allocated.invariant, allocated.undisturbed⟩
  | some handed =>
      obtain ⟨newMem, newBlockSize⟩ := handed
      obtain ⟨sized, newHeld, unheld⟩ := allocated.handed newMem newBlockSize rfl
      obtain ⟨stillHeld, same⟩ := allocated.undisturbed mem blockSize held
      have differs : mem ≠ newMem := by
        rintro rfl
        exact unheld blockSize held
      have stored := CellStore.length_read (memory.cells mem) dataHead dataLen
      refine Delivers.bind (copyOut_delivers allocated.invariant stillHeld fits ?_)
      rw [same]
      generalize (memory.cells mem).read dataHead dataLen = queue at stored ⊢
      have copied := withCells_invariant allocated.invariant newMem
        ((middle.cells newMem).write 0 queue)
      refine Delivers.bind (copyIn_delivers allocated.invariant newHeld (by omega) ?_)
      refine Delivers.bind (copyIn_delivers copied newHeld (by omega) ?_)
      rw [withCells_withCells, withCells_cells]
      have written := withCells_invariant allocated.invariant newMem
        (((middle.cells newMem).write 0 queue).write dataLen data)
      refine Delivers.bind ((recycle_delivers written stillHeld).weaken ?_)
      rintro _ after ⟨-, invariant', recycled⟩
      refine Delivers.pure ⟨invariant', ?_, ?_, ?_⟩
      · have moved : Stores
            (withCells middle newMem (((middle.cells newMem).write 0 queue).write dataLen data))
            ⟨some newMem, newBlockSize, 0, dataLen + data.length⟩ (queue ++ data) := by
          refine Stores.of_cells newHeld (by omega) ?_
          have appended := CellStore.read_write_append
            ((middle.cells newMem).write 0 queue) 0 dataLen data
          rw [Nat.zero_add] at appended
          rw [appended, ← stored, CellStore.read_write_self]
        exact moved.keep (fun block same => by cases same; exact recycled newMem differs.symm)
      · intro block other
        have apart : block ≠ mem := fun same => other (congrArg some same.symm)
        exact (undisturbed_write allocated unheld _ block).trans (recycled block apart)
      · intro block same
        cases same
        exact Or.inr unheld

/-- `append` within the block, at its end or after moving the queue to its start. -/
theorem Stores.write_within {mem : Addr} {blockSize dataHead dataLen dataHead' : Nat}
    {cells : CellStore UInt8} {data : List UInt8} (invariant : PoolInvariant memory)
    (held : Held memory mem blockSize) (fits : dataHead' + (dataLen + data.length) ≤ blockSize)
    (kept : cells.read dataHead' dataLen = (memory.cells mem).read dataHead dataLen)
    : Updates memory ⟨some mem, blockSize, dataHead, dataLen⟩
        ((memory.cells mem).read dataHead dataLen ++ data)
        (withCells memory mem (cells.write (dataHead' + dataLen) data))
        ⟨some mem, blockSize, dataHead', dataLen + data.length⟩ where
  invariant := withCells_invariant invariant _ _
  stores := by
    refine Stores.of_cells held fits ?_
    rw [CellStore.read_write_append, kept]
  undisturbed := fun block other =>
    withCells_undisturbed _ (fun same => other (congrArg some same.symm))
  placed := fun block same => Or.inl same

/-- Every path of `append` adds the data at the end of the queue, or throws. -/
theorem append_delivers {data : List UInt8} (invariant : PoolInvariant memory)
    (stores : Stores memory cache queue) (small : queue.length + data.length < 1073741824)
    : Delivers (append allocator cache data) memory
        (fun result after => Appends memory cache (queue ++ data) after result) := by
  cases stores with
  | empty => exact appendFirst_delivers invariant (by simpa using small)
  | @block mem blockSize dataHead dataLen held fits =>
      rw [CellStore.length_read] at small
      obtain ⟨_, most⟩ := (invariant.classes blockSize (by
        have member := held.1
        cases listed : memory.stub blockSize with
        | none => rw [stubOf, listed] at member; simp at member
        | some made => rfl)).bounds
      unfold append
      dsimp only
      rw [wrap32_of_lt (show data.length + dataHead + dataLen < 4294967296 by omega),
        wrap32_of_lt (show data.length + dataLen < 4294967296 by omega),
        wrap32_of_lt (show dataLen + data.length < 4294967296 by omega)]
      split
      · -- room behind the queue
        refine Delivers.bind (copyIn_delivers invariant held (by omega) (Delivers.pure ?_))
        exact Stores.write_within invariant held (by omega) rfl
      · split
        · exact appendMoved_delivers invariant held fits small
        · -- room after moving the queue to the start of the block
          have stored := CellStore.length_read (memory.cells mem) dataHead dataLen
          refine Delivers.bind (copyOut_delivers invariant held fits ?_)
          refine Delivers.bind (copyIn_delivers invariant held (by omega) ?_)
          have moved := withCells_invariant invariant mem ((memory.cells mem).write 0
            ((memory.cells mem).read dataHead dataLen))
          refine Delivers.bind (copyIn_delivers moved held (by omega) (Delivers.pure ?_))
          rw [withCells_withCells, withCells_cells]
          have kept := CellStore.read_write_self (memory.cells mem) 0
            ((memory.cells mem).read dataHead dataLen)
          rw [stored] at kept
          have room : 0 + (dataLen + data.length) ≤ blockSize := by omega
          have update := Stores.write_within invariant held room kept
          rw [Nat.zero_add] at update
          exact update

/-- `skip` drops bytes from the front, and recycles the block once the queue is empty. -/
theorem skip_delivers (invariant : PoolInvariant memory)
    (stores : Stores memory cache queue) (length : Nat)
    : Delivers (skip cache length) memory
        (fun cache' after => Updates memory cache (queue.drop length) after cache') := by
  cases stores with
  | empty =>
      refine Delivers.pure ⟨invariant, ?_, fun block _ => Undisturbed.refl memory block,
        fun block same => Or.inl same⟩
      rw [List.drop_nil]
      exact Stores.empty
  | @block mem blockSize dataHead dataLen held fits =>
      unfold skip
      dsimp only
      split
      · refine Delivers.bind ((recycle_delivers invariant held).weaken ?_)
        rintro _ after ⟨-, invariant', recycled⟩
        refine Delivers.pure ⟨invariant', ?_, ?_, fun block same => by cases same⟩
        · rw [List.drop_eq_nil_of_le (by simpa using ‹dataLen ≤ length›)]
          exact Stores.empty
        · exact fun block other => recycled block (fun same => other (congrArg some same.symm))
      · refine Delivers.pure ⟨invariant, ?_, fun block _ => Undisturbed.refl memory block,
          fun block same => Or.inl same⟩
        rw [CellStore.drop_read _ _ _ _ (by omega)]
        exact Stores.block held (by omega)

end RawCache
end ProxyServer.Buffers
