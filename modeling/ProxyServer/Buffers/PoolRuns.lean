import ProxyServer.Buffers.CacheSystem

/-! Whole runs of the pool, with every 32-bit expression watched.
Watched functions are those of the pool with a check that fails at each expression that leaves
the range of an `unsigned int`; in a reachable pool they do what the unchecked ones do.
-/

namespace ProxyServer.Buffers
open FaultState

-----------------------------------------------------------------------------------------
-- Watching changes nothing
-----------------------------------------------------------------------------------------

/-- Ends the run as a failed `assert` does, unless all values are an `unsigned int`. -/
def fits32 (values : List Int) : PoolM Unit :=
  if ∀ value ∈ values, 0 ≤ value ∧ value < 4294967296 then pure () else throw .assertion

/-- Values in range are let through, as without a check. -/
theorem fits32_passes {values : List Int} {memory : Memory}
    (fits : ∀ value ∈ values, 0 ≤ value ∧ value < 4294967296)
    : fits32 values memory = unchecked values memory := by
  rw [fits32, if_pos fits]
  rfl

theorem fits32_one {value : Int} {memory : Memory} (nonneg : 0 ≤ value)
    (small : value < 4294967296)
    : fits32 [value] memory = unchecked [value] memory :=
  fits32_passes (by simp [nonneg, small])

theorem freeList_yields {memory : Memory} {size : Nat} {blocks : List Addr}
    (listed : memory.free size = some blocks)
    : Yields (freeList size) memory blocks memory := by
  refine yields_bind.mpr ⟨memory, memory, yields_get.mpr ⟨rfl, rfl⟩, ?_⟩
  rw [listed]
  exact yields_pure.mpr ⟨rfl, rfl⟩

theorem stubSet_yields {memory : Memory} {size : Nat} {made : Finset Addr}
    (stubbed : memory.stub size = some made)
    : Yields (stubSet size) memory made memory := by
  refine yields_bind.mpr ⟨memory, memory, yields_get.mpr ⟨rfl, rfl⟩, ?_⟩
  rw [stubbed]
  exact yields_pure.mpr ⟨rfl, rfl⟩

/-- In a sound pool the blocks of a class are no more than the bytes allocated. -/
theorem made_bytes {memory : Memory} (invariant : PoolInvariant memory) {size : Nat}
    {made : Finset Addr} (stubbed : memory.stub size = some made)
    : size * made.card ≤ memory.allocatedSize := by
  obtain ⟨k, _, high, rfl⟩ := invariant.classes size (by rw [stubbed]; rfl)
  have stub : stubOf memory (2 ^ k) = made := by rw [stubOf, stubbed]; rfl
  have member : k ∈ Finset.range 32 := Finset.mem_range.mpr (by omega)
  have part : 2 ^ k * (stubOf memory (2 ^ k)).card ≤ footprint memory :=
    Finset.single_le_sum (f := fun k => 2 ^ k * (stubOf memory (2 ^ k)).card)
      (fun _ _ => Nat.zero_le _) member
  rw [invariant.accounted, ← stub]
  exact part

/-- `release` in a sound pool. -/
theorem release_agrees {memory : Memory} {size : Nat} {blocks : List Addr}
    (invariant : PoolInvariant memory) (listed : memory.free size = some blocks)
    : release fits32 size memory = release unchecked size memory := by
  obtain ⟨made, stubbed⟩ := invariant.stub_of_free listed
  have least := (invariant.classes size (by rw [stubbed]; rfl)).bounds.1
  have freeBytes := invariant.free_bytes listed
  have madeBytes := made_bytes invariant stubbed
  have bounded : memory.allocatedSize ≤ 2097152000 := invariant.bounded
  have fewer := releaseSizeCount_le memory.waterMark size blocks.length made.card
  have todoBytes := (Nat.mul_le_mul_left size fewer).trans freeBytes
  have lengthSmall : blocks.length ≤ size * blocks.length := Nat.le_mul_of_pos_left _ (by omega)
  have cardSmall : made.card ≤ size * made.card := Nat.le_mul_of_pos_left _ (by omega)
  have lists : Yields (freeList size) memory blocks memory := freeList_yields listed
  have stubs : Yields (stubSet size) memory made memory := stubSet_yields stubbed
  rw [release, release, bind_ends lists, bind_ends stubs, bind_ends (yields_get.mpr ⟨rfl, rfl⟩),
    bind_ends lists, bind_ends stubs, bind_ends (yields_get.mpr ⟨rfl, rfl⟩)]
  refine bind_agrees (fits32_passes ?_) (fun _ _ _ => rfl)
  simp only [List.forall_mem_cons, List.not_mem_nil, false_imp_iff, implies_true, and_true]
  rw [Nat.mul_comm blocks.length size]
  omega

/-- A turn of the purge, in a pool that has not grown since its size was read. -/
theorem purgeTurn_agrees {memory : Memory} {lastAllocSize : Nat} (memSize purgeSize : Nat)
    (invariant : PoolInvariant memory) (shrunk : memory.allocatedSize ≤ lastAllocSize)
    (bounded : lastAllocSize ≤ maxPoolSize)
    : purgeTurn fits32 lastAllocSize memSize purgeSize memory
      = purgeTurn unchecked lastAllocSize memSize purgeSize memory := by
  unfold maxPoolSize at bounded
  rw [purgeTurn, purgeTurn, bind_ends (yields_get.mpr ⟨rfl, rfl⟩),
    bind_ends (yields_get.mpr ⟨rfl, rfl⟩)]
  refine bind_agrees (fits32_one (by omega) (by omega)) (fun _ after checked => ?_)
  obtain ⟨-, rfl⟩ := yields_pure.mp checked
  dsimp only
  split
  · split
    · next present =>
        obtain ⟨blocks, listed⟩ := Option.isSome_iff_exists.mp present.2
        exact bind_agrees (release_agrees invariant listed) (fun _ _ _ => rfl)
    · rfl
  · rfl

/-- A turn of the purge has only given blocks back. -/
theorem purgeTurn_settles {before memory next : Memory}
    {lastAllocSize memSize purgeSize : Nat} {turn : BoundedLoop.Turn Unit Nat}
    (settled : Settles before memory)
    (run : Yields (purgeTurn unchecked lastAllocSize memSize purgeSize) memory turn next)
    : Settles before next := by
  obtain ⟨_, _, got, checking⟩ := yields_bind.mp run
  obtain ⟨rfl, rfl⟩ := yields_get.mp got
  clear got
  obtain ⟨_, _, checked, branch⟩ := yields_bind.mp checking
  obtain ⟨-, rfl⟩ := yields_pure.mp checked
  clear checked
  dsimp only at branch
  split at branch
  · split at branch
    · next present =>
        obtain ⟨blocks, listed⟩ := Option.isSome_iff_exists.mp present.2
        obtain ⟨_, after, released, ended⟩ := yields_bind.mp branch
        obtain ⟨-, rfl⟩ := yields_pure.mp ended
        exact settled.trans ((release_delivers settled.invariant listed).of_yields released)
    · obtain ⟨-, rfl⟩ := yields_pure.mp branch
      exact settled
  · obtain ⟨-, rfl⟩ := yields_pure.mp branch
    exact settled

/-- The purge of `release_size` in a sound pool, turn by turn. -/
theorem releaseSize_agrees {memory : Memory} (memSize : Nat)
    (invariant : PoolInvariant memory)
    : releaseSize fits32 memSize memory = releaseSize unchecked memSize memory := by
  have bounded := invariant.bounded
  refine bind_agrees rfl (fun _ lowered sets => ?_)
  obtain rfl := yields_modify.mp sets
  have initial := settles_waterMark invariant allocCapacity
  refine bind_agrees rfl (fun _ _ gets => ?_)
  obtain ⟨rfl, rfl⟩ := yields_get.mp gets
  dsimp only
  have turns : BoundedLoop.run Fault.endless
        (purgeTurn fits32 memory.allocatedSize memSize) 33 2147483648
        { memory with waterMark := allocCapacity }
      = BoundedLoop.run Fault.endless
        (purgeTurn unchecked memory.allocatedSize memSize) 33 2147483648
        { memory with waterMark := allocCapacity } := by
    apply BoundedLoop.run_agrees Fault.endless (fun _ state => Settles memory state)
    · intro purgeSize state settled
      exact purgeTurn_agrees memSize purgeSize settled.invariant settled.shrinks bounded
    · intro _ _ _ _ settled run
      exact purgeTurn_settles settled run
    · exact initial
  refine bind_agrees turns (fun _ purged run => ?_)
  have kept : Holds (Settles memory)
      (BoundedLoop.run Fault.endless (purgeTurn unchecked memory.allocatedSize memSize) 33
        2147483648) (fun _ => Settles memory) := by
    refine BoundedLoop.holds_run Fault.endless (fun _ => Settles memory)
      (fun purgeSize => ?_) 33 2147483648
    intro state turn next settled ran
    cases turn <;> exact purgeTurn_settles settled ran
  have settled : Settles memory purged := kept initial run
  refine bind_agrees rfl (fun _ raised sets => ?_)
  obtain rfl := yields_modify.mp sets
  have shrinks := settled.shrinks
  unfold maxPoolSize at bounded
  rw [bind_ends (yields_get.mpr ⟨rfl, rfl⟩), bind_ends (yields_get.mpr ⟨rfl, rfl⟩)]
  dsimp only
  exact bind_agrees (fits32_one (by omega) (by omega)) (fun _ _ _ => rfl)

variable {allocator : Allocator}

/-- An extension with room left. -/
theorem extendRoom_agrees {memory : Memory} {size : Nat} {blocks : List Addr}
    (invariant : PoolInvariant memory) (listed : memory.free size = some blocks)
    (room : memory.allocatedSize + size * fitExtendSet size ≤ maxPoolSize)
    : extendRoom fits32 allocator size memory = extendRoom unchecked allocator size memory := by
  unfold maxPoolSize at room
  refine bind_agrees rfl (fun _ after made => ?_)
  obtain ⟨moved, _⟩ := (extendFronts_delivers invariant.toShape listed).of_yields made
  have same := moved.allocatedSize
  rw [bind_ends (yields_get.mpr ⟨rfl, rfl⟩), bind_ends (yields_get.mpr ⟨rfl, rfl⟩)]
  refine bind_agrees (fits32_passes ?_) (fun _ _ _ => rfl)
  simp only [List.forall_mem_cons, List.not_mem_nil, false_imp_iff, implies_true, and_true]
  omega

/-- An extension, which may purge the other classes first. -/
theorem extend_agrees {memory : Memory} {size : Nat} {blocks : List Addr}
    (invariant : PoolInvariant memory) (listed : memory.free size = some blocks)
    : extend fits32 allocator size memory = extend unchecked allocator size memory := by
  obtain ⟨made, stubbed⟩ := invariant.stub_of_free listed
  have isClass : SizeClass size := invariant.classes size (by rw [stubbed]; rfl)
  have most := (fitExtendSet_bounds isClass).2
  have bounded : memory.allocatedSize ≤ 2097152000 := invariant.bounded
  have exact : wrap32 (memory.allocatedSize + size * fitExtendSet size)
      = memory.allocatedSize + size * fitExtendSet size := wrap32_of_lt (by omega)
  rw [extend, extend, bind_ends (yields_get.mpr ⟨rfl, rfl⟩),
    bind_ends (yields_get.mpr ⟨rfl, rfl⟩)]
  refine bind_agrees (fits32_passes ?_) (fun _ same checked => ?_)
  · simp only [List.forall_mem_cons, List.not_mem_nil, false_imp_iff, implies_true, and_true]
    omega
  obtain ⟨-, rfl⟩ := yields_pure.mp checked
  rw [exact]
  split
  · next tight =>
      have deficit := tight
      unfold maxPoolSize at deficit
      have passes := @fits32_one
        ((same.allocatedSize + size * fitExtendSet size : Nat) - maxPoolSize) same
        (by unfold maxPoolSize; omega) (by unfold maxPoolSize; omega)
      refine bind_agrees passes (fun _ after checked => ?_)
      obtain ⟨-, rfl⟩ := yields_pure.mp checked
      refine bind_agrees (releaseSize_agrees _ invariant) (fun code middle released => ?_)
      obtain ⟨settled, freed⟩ := (releaseSize_delivers _ invariant).of_yields released
      split
      · rfl
      · next succeeded =>
          have enough := freed (not_not.mp succeeded)
          have shrinks := settled.shrinks
          obtain ⟨blocks', listed'⟩ := settled.still_listed listed
          exact extendRoom_agrees settled.invariant listed' (by omega)
  · next loose => exact extendRoom_agrees invariant listed (Nat.le_of_not_le loose)

/-- Handing out from a class that has a list. -/
theorem allocateListed_agrees {memory : Memory} {size : Nat} {blocks : List Addr}
    (invariant : PoolInvariant memory) (listed : memory.free size = some blocks)
    : allocateListed fits32 allocator size memory
      = allocateListed unchecked allocator size memory := by
  rw [allocateListed, allocateListed, bind_ends (freeList_yields listed),
    bind_ends (freeList_yields listed)]
  split
  · exact bind_agrees (extend_agrees invariant listed) (fun _ _ _ => rfl)
  · rfl

/-- A class without a list gets one, and its first blocks. -/
theorem extendNewSize_agrees {memory : Memory} {size : Nat}
    (invariant : PoolInvariant memory) (isClass : SizeClass size)
    (absent : memory.free size = none)
    : extendNewSize fits32 allocator size memory
        = extendNewSize unchecked allocator size memory
      ∧ ∀ code after,
          Yields (extendNewSize unchecked allocator size) memory code after
          → PoolInvariant after := by
  obtain ⟨listedPool, _⟩ := newClass_shape invariant isClass absent
  have fresh := Function.update_self size (some []) memory.free
  constructor
  · refine bind_agrees rfl (fun _ _ lists => bind_agrees rfl (fun _ _ stubs => ?_))
    obtain rfl := yields_modify.mp lists
    obtain rfl := yields_modify.mp stubs
    exact extend_agrees listedPool fresh
  · intro code after run
    obtain ⟨_, _, lists, more⟩ := yields_bind.mp run
    obtain ⟨_, _, stubs, made⟩ := yields_bind.mp more
    obtain rfl := yields_modify.mp lists
    obtain rfl := yields_modify.mp stubs
    exact ((extend_delivers listedPool fresh).of_yields made).1.invariant

/-- `allocate` in a sound pool. -/
theorem allocate_agrees {memory : Memory} {size : Nat} (invariant : PoolInvariant memory)
    (small : size < 2147483648)
    : allocate fits32 allocator size memory = allocate unchecked allocator size memory := by
  have isClass := (fitBlockSize_fits small).1
  rw [allocate, allocate]
  generalize fitBlockSize size = blockSize at isClass ⊢
  rw [bind_ends (yields_get.mpr ⟨rfl, rfl⟩), bind_ends (yields_get.mpr ⟨rfl, rfl⟩)]
  cases listed : memory.free blockSize with
  | none =>
      rw [Option.isNone_none, if_pos rfl, if_pos rfl]
      obtain ⟨extended, keeps⟩ := extendNewSize_agrees invariant isClass listed
      refine bind_agrees extended (fun code after run => ?_)
      split
      · rfl
      · have evolved := keeps code after run
        rw [bind_ends (yields_get.mpr ⟨rfl, rfl⟩), bind_ends (yields_get.mpr ⟨rfl, rfl⟩)]
        cases listed' : after.free blockSize with
        | none => rw [Option.isNone_none, if_pos rfl, if_pos rfl]
        | some blocks =>
            rw [if_neg (by simp), if_neg (by simp)]
            exact allocateListed_agrees evolved listed'
  | some blocks =>
      rw [if_neg (by simp), if_neg (by simp)]
      exact allocateListed_agrees invariant listed

/-- `recycle` of a block that is handed out, under any size. -/
theorem recycle_agrees {memory : Memory} {mem : Addr} {memSize size : Nat}
    (invariant : PoolInvariant memory) (held : Held memory mem size)
    : recycle fits32 mem memSize memory = recycle unchecked mem memSize memory := by
  rw [recycle, recycle]
  rw [bind_ends (yields_get.mpr ⟨rfl, rfl⟩), bind_ends (yields_get.mpr ⟨rfl, rfl⟩),
    bind_ends (yields_get.mpr ⟨rfl, rfl⟩), bind_ends (yields_get.mpr ⟨rfl, rfl⟩)]
  by_cases same : memSize = size
  · subst same
    obtain ⟨made, blocks, stubbed, listed, member, outside⟩ := invariant.held_listed held
    obtain ⟨pushed, _⟩ := push_evolves invariant stubbed listed member outside
    rw [stubbed, listed]
    dsimp only
    rw [if_pos member, if_pos member]
    refine bind_agrees rfl (fun _ _ sets => ?_)
    obtain rfl := yields_modify.mp sets
    have fresh := Function.update_self memSize (some (mem :: blocks)) memory.free
    exact bind_agrees (release_agrees pushed fresh) (fun _ _ _ => rfl)
  · cases stubbed : memory.stub memSize with
    | none => rfl
    | some made =>
        cases listed : memory.free memSize with
        | none => rfl
        | some blocks =>
            have absent : mem ∉ made := fun member => by
              have made' : mem ∈ stubOf memory memSize := by rwa [stubOf, stubbed]
              exact same (invariant.held_unique made' held.1)
            dsimp only
            rw [if_neg absent, if_neg absent]

-----------------------------------------------------------------------------------------
-- Runs
-----------------------------------------------------------------------------------------

/-- The pools that calls reach from a new one, each with the blocks that `allocate` has
returned and that have not been given back. Requests are below 2G; a block that is handed out
is given back under any size, and stays handed out when `recycle` refuses it.
-/
inductive Reached (allocator : Allocator) : Memory → Finset (Addr × Nat) → Prop
  | created (cells : Addr → CellStore UInt8) : Reached allocator (Memory.initial cells) ∅
  | allocated {memory after : Memory} {handed : Finset (Addr × Nat)} {size : Nat}
    {result : Option (Addr × Nat)} (reached : Reached allocator memory handed)
    (small : size < 2147483648)
    (run : Yields (allocate unchecked allocator size) memory result after)
    : Reached allocator after (handed ∪ result.toFinset)
  | recycled {memory after : Memory} {handed : Finset (Addr × Nat)} {mem : Addr}
    {memSize size : Nat} {code : Int} (reached : Reached allocator memory handed)
    (out : (mem, size) ∈ handed) (run : Yields (recycle unchecked mem memSize) memory code after)
    : Reached allocator after (if code = 0 then handed.erase (mem, size) else handed)

/-- The pool's invariant holds after every run of calls, and what was handed out is held, by
induction over the calls.
-/
theorem Reached.invariant {memory : Memory} {handed : Finset (Addr × Nat)}
    (reached : Reached allocator memory handed)
    : PoolInvariant memory ∧ ∀ block size, (block, size) ∈ handed → Held memory block size := by
  induction reached with
  | created cells => exact ⟨initial_invariant cells, fun _ _ member => by simp at member⟩
  | @allocated memory after handed size result _ small run ih =>
      obtain ⟨invariant, held⟩ := ih
      have allocated := (allocate_delivers invariant small).of_yields run
      refine ⟨allocated.invariant, fun block blockSize member => ?_⟩
      rcases Finset.mem_union.mp member with before | given
      · exact (allocated.undisturbed block blockSize (held block blockSize before)).1
      · exact (allocated.handed block blockSize (Option.mem_toFinset.mp given)).2.1
  | @recycled memory after handed mem memSize size code _ out run ih =>
      obtain ⟨invariant, held⟩ := ih
      have isHeld := held mem size out
      by_cases same : memSize = size
      · subst same
        obtain ⟨rfl, recycled, others⟩ := (recycle_delivers invariant isHeld).of_yields run
        refine ⟨recycled, fun block blockSize member => ?_⟩
        obtain ⟨differs, before⟩ := Finset.mem_erase.mp member
        have isHeld' := held block blockSize before
        -- one block has one size class, so another pair is another block
        refine (others block ?_ blockSize isHeld').1
        rintro rfl
        exact differs (by rw [invariant.held_unique isHeld'.1 isHeld.1])
      · obtain ⟨rfl, rfl⟩ := (recycle_refuses invariant.toShape isHeld same).unique run
        exact ⟨invariant, held⟩

/-- What the pool promises between two calls, and of the next call, when some blocks are handed
out.
-/
structure PoolSound (allocator : Allocator) (memory : Memory) (handed : Finset (Addr × Nat))
    : Prop where
  accounted : memory.allocatedSize = footprint memory
  classes : ∀ size, (stubOf memory size).Nonempty → ∃ k < 32, size = 2 ^ k
  bounded : memory.allocatedSize ≤ maxPoolSize
  listed : ∀ size, ∀ block ∈ freeOf memory size, block ∈ stubOf memory size
  once : ∀ size, (freeOf memory size).Nodup
  handedOut : ∀ block size, (block, size) ∈ handed → Held memory block size
  allocateWatched
    : ∀ size < 2147483648,
        allocate fits32 allocator size memory = allocate unchecked allocator size memory
  recycleWatched
    : ∀ mem memSize size, Held memory mem size
        → recycle fits32 mem memSize memory = recycle unchecked mem memSize memory
  allocates
    : ∀ size < 2147483648,
        ∃ result after,
          Yields (allocate unchecked allocator size) memory result after
          ∧ (∀ other, Undisturbed memory after other)
          ∧ ∀ block blockSize, result = some (block, blockSize)
            → size ≤ blockSize ∧ after.size block = blockSize ∧ Held after block blockSize
              ∧ ∀ size', ¬Held memory block size' ∧ (block, size') ∉ handed
  recycles
    : ∀ mem memSize size, Held memory mem size
        → ∃ code after,
            Yields (recycle unchecked mem memSize) memory code after
            ∧ (code = 0 ↔ memSize = size)
            ∧ ∀ other ≠ mem, Undisturbed memory after other

/-- Every pool that calls reach is sound. -/
theorem Reached.poolSound {memory : Memory} {handed : Finset (Addr × Nat)}
    (reached : Reached allocator memory handed)
    : PoolSound allocator memory handed := by
  obtain ⟨invariant, handedOut⟩ := reached.invariant
  refine ⟨invariant.accounted, ?_, invariant.bounded, invariant.owned, invariant.nodup,
    handedOut, fun _ => allocate_agrees invariant,
    fun _ _ _ => recycle_agrees invariant, ?_, ?_⟩
  · rintro size ⟨block, member⟩
    have stubbed : (memory.stub size).isSome := by
      rw [stubOf] at member
      cases found : memory.stub size with
      | none => rw [found] at member; simp at member
      | some made => rfl
    obtain ⟨k, _, high, same⟩ := invariant.classes size stubbed
    exact ⟨k, by omega, same⟩
  · intro size small
    obtain ⟨result, after, run, allocated⟩ := allocate_delivers invariant small
    refine ⟨result, after, run, allocated.undisturbed, fun block blockSize same => ?_⟩
    obtain ⟨rfl, held, fresh⟩ := allocated.handed block blockSize same
    have sized := (allocated.invariant.live _ block held.1).2
    exact ⟨(fitBlockSize_fits small).2.le, sized, held,
      fun size' => ⟨fresh size', fun out => fresh size' (handedOut block size' out)⟩⟩
  · intro mem memSize size held
    by_cases same : memSize = size
    · subst same
      obtain ⟨code, after, run, returned, _, others⟩ := recycle_delivers invariant held
      exact ⟨code, after, run, iff_of_true returned rfl, others⟩
    · exact ⟨_, _, recycle_refuses invariant.toShape held same, iff_of_false (by decide) same,
        fun other _ => Undisturbed.refl memory other⟩

/-- Two requests of 16M, and the first block given back. -/
def borrowTwo : PoolM (Option (Addr × Nat) × Option (Addr × Nat) × Int) := do
  let first ← allocate unchecked Allocator.above 16777216
  let second ← allocate unchecked Allocator.above 16777216
  let code ← recycle unchecked 4 33554432
  pure (first, second, code)

/-- Of four new blocks the first two are handed out, and the first of them is given back. -/
theorem reached_poolSound_borrowTwo
    : ∃ memory, Reached Allocator.above memory {(3, 33554432)}
        ∧ PoolSound Allocator.above memory {(3, 33554432)} := by
  have passed : endsIn
      (fun returned _ => decide (returned = (some (4, 33554432), some (3, 33554432), 0)))
      (borrowTwo (Memory.initial (fun _ _ => 0))) = true := by
    decide +kernel
  obtain ⟨returned, after, run, same⟩ := endsIn_run passed
  obtain rfl := of_decide_eq_true same
  obtain ⟨first, one, firstRun, run⟩ := yields_bind.mp run
  obtain ⟨second, two, secondRun, run⟩ := yields_bind.mp run
  obtain ⟨code, three, thirdRun, run⟩ := yields_bind.mp run
  obtain ⟨results, rfl⟩ := yields_pure.mp run
  cases results
  have small : 16777216 < 2147483648 := by decide
  have reached := ((Reached.created (fun _ _ => 0)).allocated small firstRun).allocated small
    secondRun
  have out : (4, 33554432)
      ∈ (∅ ∪ (some (4, 33554432)).toFinset ∪ (some (3, 33554432)).toFinset
        : Finset (Addr × Nat)) := by
    decide
  have back := Reached.recycled reached out thirdRun
  have left
      : (∅ ∪ (some (4, 33554432)).toFinset ∪ (some (3, 33554432)).toFinset).erase (4, 33554432)
        = ({(3, 33554432)} : Finset (Addr × Nat)) := by
    decide
  rw [if_pos rfl, left] at back
  exact ⟨after, back, Reached.poolSound back⟩

end ProxyServer.Buffers
