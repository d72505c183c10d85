import Mathlib

/-! The chunk allocator under the hash map.
Its header is part of the sources and its bodies are not, so its methods are parameters. What
the map relies on is that they act like a store of blocks: a block has a number of chunks, and
holds the data that was split over them last.
-/

namespace ProxyServer

/-- The methods of `CChunkAllocator` that the hash map calls.
`σ` is the allocator with its pool and `η` a valid chunk handler; `none` is
`INVALID_BC_MEM_HANDLER`. `merge` takes the capacity in `*data_len` and returns its result, the
bytes that it puts into the buffer, and the new `*data_len`.
-/
class ChunkAllocator (σ : Type) (η : outParam Type) where
  openPool : σ → Bool → Nat → Nat → Int × σ
  malloc : σ → Nat → Option η × σ
  free : σ → Option η → σ
  merge : σ → Option η → Nat → Int → Int × List UInt8 × Int
  split : σ → Option η → List UInt8 → σ
  getChunkNum : σ → Nat → Nat
  getFreeChunkNum : σ → Nat

-----------------------------------------------------------------------------------------
-- The store of blocks
-----------------------------------------------------------------------------------------

/-- An allocated block: its number of chunks and its data. -/
structure Block where
  chunks : Nat
  data : List UInt8
  deriving DecidableEq, Repr

/-- The chunks that are free, the blocks that are allocated, and how many chunks hold data of a
length. -/
structure BlockStore (η : Type) where
  chunkNum : Nat → Nat
  freeChunks : Nat
  block : η → Option Block

namespace BlockStore

variable {η : Type} [DecidableEq η]

/-- A pool in which every chunk is free. -/
def empty (chunkNum : Nat → Nat) (freeChunks : Nat) : BlockStore η :=
  { chunkNum, freeChunks, block := fun _ => none }

/-- Takes free chunks for a new block. -/
def allocate (store : BlockStore η) (handle : η) (chunks : Nat) : BlockStore η :=
  {
    store with
    freeChunks := store.freeChunks - chunks
    block := Function.update store.block handle (some ⟨chunks, []⟩)
  }

/-- Gives the chunks of a block back. -/
def release (store : BlockStore η) (handle : η) : BlockStore η :=
  {
    store with
    freeChunks := store.freeChunks + ((store.block handle).map Block.chunks).getD 0
    block := Function.update store.block handle none
  }

/-- Puts data into a block. -/
def write (store : BlockStore η) (handle : η) (data : List UInt8) : BlockStore η :=
  {
    store with
    block :=
      Function.update store.block handle
        ((store.block handle).map (fun block => { block with data }))
  }

variable {store : BlockStore η} {handle other : η} {chunks : Nat} {data : List UInt8}

theorem allocate_write_self
    : ((store.allocate handle chunks).write handle data).block handle
      = some { chunks, data } := by
  simp [write, allocate]

theorem allocate_write_of_ne (differs : other ≠ handle)
    : ((store.allocate handle chunks).write handle data).block other = store.block other := by
  simp [write, allocate, differs]

theorem write_self {block : Block} (stored : store.block handle = some block)
    : (store.write handle data).block handle = some { block with data } := by
  simp [write, stored]

theorem write_of_ne (differs : other ≠ handle)
    : (store.write handle data).block other = store.block other :=
  Function.update_of_ne differs _ _

theorem release_of_ne (differs : other ≠ handle)
    : (store.release handle).block other = store.block other :=
  Function.update_of_ne differs _ _

theorem release_freeChunks {block : Block} (stored : store.block handle = some block)
    : (store.release handle).freeChunks = store.freeChunks + block.chunks := by
  simp [release, stored]

end BlockStore

-----------------------------------------------------------------------------------------
-- What the hash map relies on
-----------------------------------------------------------------------------------------

/-- The allocator stores and returns data, and allocates exactly when enough chunks are free.
`Represents` relates an allocator to the blocks that it keeps.
-/
class LawfulChunkAllocator (σ : Type) {η : outParam Type} [DecidableEq η]
    [ChunkAllocator σ η] where
  Represents : σ → BlockStore η → Prop
  opened
    : ∀ (pool : σ) (nChunks chunkSize : Nat),
        (ChunkAllocator.openPool pool true nChunks chunkSize).1 = 0
          → ∃ chunkNum,
              Represents (ChunkAllocator.openPool pool true nChunks chunkSize).2
                (.empty chunkNum nChunks)
  getChunkNum_eq
    : ∀ {pool : σ} {store : BlockStore η} (length : Nat), Represents pool store
        → ChunkAllocator.getChunkNum pool length = store.chunkNum length
  getFreeChunkNum_eq
    : ∀ {pool : σ} {store : BlockStore η}, Represents pool store
        → ChunkAllocator.getFreeChunkNum pool = store.freeChunks
  malloc_enough
    : ∀ {pool : σ} {store : BlockStore η} {chunks : Nat}, Represents pool store
        → chunks ≤ store.freeChunks
        → ∃ handle pool',
            ChunkAllocator.malloc pool chunks = (some handle, pool')
            ∧ store.block handle = none
            ∧ Represents pool' (store.allocate handle chunks)
  malloc_lack
    : ∀ {pool : σ} {store : BlockStore η} {chunks : Nat}, Represents pool store
        → store.freeChunks < chunks
        → ∃ pool',
            ChunkAllocator.malloc pool chunks = (none, pool') ∧ Represents pool' store
  free_release
    : ∀ {pool : σ} {store : BlockStore η} {handle : η} {block : Block},
        Represents pool store → store.block handle = some block
        → Represents (ChunkAllocator.free pool (some handle)) (store.release handle)
  split_write
    : ∀ {pool : σ} {store : BlockStore η} {handle : η} {block : Block} {data : List UInt8},
        Represents pool store → store.block handle = some block
        → store.chunkNum data.length ≤ block.chunks
        → Represents (ChunkAllocator.split pool (some handle) data) (store.write handle data)
  merge_read
    : ∀ {pool : σ} {store : BlockStore η} {handle : η} {block : Block} {capacity : Int},
        Represents pool store → store.block handle = some block
        → block.data.length ≤ capacity
        → ChunkAllocator.merge pool (some handle) block.data.length capacity
          = (0, block.data, (block.data.length : Int))

-----------------------------------------------------------------------------------------
-- An allocator that acts so
-----------------------------------------------------------------------------------------

/-- A store of blocks that hands out its handles by counting. -/
structure CountingAllocator where
  issued : Nat
  store : BlockStore Nat

namespace CountingAllocator

def openPool (pool : CountingAllocator) (init : Bool) (nChunks chunkSize : Nat)
    : Int × CountingAllocator :=
  if init then
    (0,
      {
        issued := 0
        store := .empty (fun length => (length + chunkSize - 1) / chunkSize) nChunks
      })
  else
    (0, pool)

def malloc (pool : CountingAllocator) (chunks : Nat) : Option Nat × CountingAllocator :=
  if chunks ≤ pool.store.freeChunks then
    (
      some pool.issued,
      { issued := pool.issued + 1, store := pool.store.allocate pool.issued chunks }
    )
  else
    (none, pool)

def free (pool : CountingAllocator) (handle : Option Nat) : CountingAllocator :=
  match handle with
  | some handle => { pool with store := pool.store.release handle }
  | none => pool

def merge (pool : CountingAllocator) (handle : Option Nat) (length : Nat) (capacity : Int)
    : Int × List UInt8 × Int :=
  match handle.bind pool.store.block with
  | some block =>
      if length ≤ capacity then (0, block.data.take length, length) else (-1, [], length)
  | none => (-1, [], length)

def split (pool : CountingAllocator) (handle : Option Nat) (data : List UInt8)
    : CountingAllocator :=
  match handle with
  | some handle => { pool with store := pool.store.write handle data }
  | none => pool

instance : ChunkAllocator CountingAllocator Nat where
  openPool := openPool
  malloc := malloc
  free := free
  merge := merge
  split := split
  getChunkNum := fun pool length => pool.store.chunkNum length
  getFreeChunkNum := fun pool => pool.store.freeChunks

/-- The store is the allocator's own, and handles not yet issued name no block. -/
structure Represents (pool : CountingAllocator) (store : BlockStore Nat) : Prop where
  same : pool.store = store
  fresh : ∀ handle, pool.issued ≤ handle → store.block handle = none

instance : LawfulChunkAllocator CountingAllocator where
  Represents := Represents
  opened := fun _ _ _ _ => ⟨_, rfl, fun _ _ => rfl⟩
  getChunkNum_eq := fun _ represents => by rw [← represents.same]; rfl
  getFreeChunkNum_eq := fun represents => by rw [← represents.same]; rfl
  malloc_enough := by
    rintro pool _ chunks ⟨rfl, fresh⟩ enough
    refine ⟨pool.issued, _, if_pos enough, fresh _ le_rfl, rfl, ?_⟩
    intro handle later
    have later : pool.issued + 1 ≤ handle := later
    have other : handle ≠ pool.issued := by omega
    exact (Function.update_of_ne other _ _).trans (fresh handle (by omega))
  malloc_lack := by
    rintro pool store chunks ⟨rfl, fresh⟩ lack
    exact ⟨pool, if_neg (Nat.not_le.mpr lack), rfl, fresh⟩
  free_release := by
    rintro pool _ handle block ⟨rfl, fresh⟩ -
    refine ⟨rfl, ?_⟩
    intro other later
    simp only [BlockStore.release, Function.update_apply]
    split
    · rfl
    · exact fresh other later
  split_write := by
    rintro pool _ handle block data ⟨rfl, fresh⟩ - -
    refine ⟨rfl, ?_⟩
    intro other later
    simp only [BlockStore.write, Function.update_apply]
    split
    · rename_i same
      rw [← same, fresh other later]
      rfl
    · exact fresh other later
  merge_read := by
    rintro pool _ handle block capacity ⟨rfl, -⟩ stored large
    simp [ChunkAllocator.merge, merge, stored, large]

end CountingAllocator

end ProxyServer
