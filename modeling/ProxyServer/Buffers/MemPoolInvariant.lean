import ProxyServer.Buffers.MemPool

/-! The pool's invariant, and that no pool operation disturbs a block that is handed out.
Free lists hold made blocks once each, made blocks are live heap objects of their size, and
the allocated size is the sum over the size classes.
-/

namespace ProxyServer.Buffers
open FaultState

-----------------------------------------------------------------------------------------
-- Sizes
-----------------------------------------------------------------------------------------

/-- The block sizes of the pool, from 1K to 2G. -/
def SizeClass (size : Nat) : Prop := ∃ k, 10 ≤ k ∧ k ≤ 31 ∧ size = 2 ^ k

theorem fitLoop_counts {turns size : Nat} (i : Nat) (small : size < 2 ^ turns)
    : fitLoop turns i size = i + Nat.size size := by
  induction turns generalizing i size with
  | zero =>
      have zero : size = 0 := by omega
      subst zero
      rfl
  | succ turns ih =>
      unfold fitLoop
      by_cases zero : size = 0
      · subst zero
        simp
      · have half : size >>> 1 < 2 ^ turns := by
          rw [Nat.shiftRight_eq_div_pow]
          omega
        have bits : Nat.size size = Nat.size (size >>> 1) + 1 := by
          rw [Nat.shiftRight_eq_div_pow, pow_one]
          conv_lhs => rw [← Nat.bit_bodd_div2 size]
          rw [Nat.size_bit (by rw [Nat.bit_bodd_div2]; exact zero), Nat.div2_val]
        rw [if_neg zero, ih (i + 1) half, bits]
        omega

theorem highBits_lt {size : Nat} (small : size < 2147483648) : size >>> 10 < 2 ^ 21 := by
  rw [Nat.shiftRight_eq_div_pow]
  omega

/-- The block size, by the number of bits that the loop counts. -/
theorem fitBlockSize_eq {size : Nat} (small : size < 2147483648)
    : fitBlockSize size = 2 ^ (10 + Nat.size (size >>> 10)) := by
  have count : fitLoop 32 10 (size >>> 10) = 10 + Nat.size (size >>> 10) :=
    fitLoop_counts 10 ((highBits_lt small).trans (by decide))
  simp only [fitBlockSize, count]
  rw [if_neg (Nat.not_lt_of_le (Nat.le_add_right _ _))]

/-- A requested size below 2G is served by a size class that holds it, by counting bits. -/
theorem fitBlockSize_fits {size : Nat} (small : size < 2147483648)
    : SizeClass (fitBlockSize size) ∧ size < fitBlockSize size := by
  have high := highBits_lt small
  have bits : Nat.size (size >>> 10) ≤ 21 := Nat.size_le.mpr high
  have fits := fitBlockSize_eq small
  refine ⟨⟨10 + Nat.size (size >>> 10), by omega, by omega, fits⟩, ?_⟩
  have below : size / 1024 < 2 ^ Nat.size (size >>> 10) := by
    have := Nat.lt_size_self (size >>> 10)
    rwa [Nat.shiftRight_eq_div_pow] at this ⊢
  rw [fits, pow_add]
  omega

/-- The `for` of `fit_block_size` ends, from its variables `i` and `size`, with the last `i`. -/
inductive FitEnds : Nat → Nat → Nat → Prop where
  | emptied (i : Nat) : FitEnds i 0 i
  | shifted {i size last : Nat}
    : size ≠ 0 → FitEnds (i + 1) (size >>> 1) last → FitEnds i size last

theorem fitLoop_ends {turns size : Nat} (i : Nat) (small : size < 2 ^ turns)
    : FitEnds i size (fitLoop turns i size) := by
  induction turns generalizing i size with
  | zero =>
      have zero : size = 0 := by omega
      subst zero
      exact .emptied i
  | succ turns ih =>
      unfold fitLoop
      split
      · rename_i zero
        subst zero
        exact .emptied i
      · rename_i nonzero
        have half : size >>> 1 < 2 ^ turns := by
          rw [Nat.shiftRight_eq_div_pow]
          omega
        exact .shifted nonzero (ih (i + 1) half)

/-- The loop of `fit_block_size` ends by itself, the shift it leaves is below 32, and the block
size is the least power of two from 1024 on that exceeds the request.
-/
theorem fitBlockSize_least {size : Nat} (small : size < 2147483648)
    : (∃ i,
        FitEnds 10 (size >>> 10) i
        ∧ (if i < 10 then 10 else i) < 32
        ∧ fitBlockSize size = 2 ^ (if i < 10 then 10 else i))
      ∧ IsLeast {block | (∃ k, block = 2 ^ k) ∧ 1024 ≤ block ∧ size < block}
          (fitBlockSize size) := by
  have high := highBits_lt small
  have bits : Nat.size (size >>> 10) ≤ 21 := Nat.size_le.mpr high
  have ends : FitEnds 10 (size >>> 10) (10 + Nat.size (size >>> 10)) := by
    rw [← fitLoop_counts 10 high]
    exact fitLoop_ends 10 high
  have fits := fitBlockSize_eq small
  refine ⟨⟨10 + Nat.size (size >>> 10), ends, ?_, ?_⟩, ?_, ?_⟩
  · split <;> omega
  · rw [fits, if_neg (by omega)]
  · obtain ⟨⟨k, least, -, power⟩, larger⟩ := fitBlockSize_fits small
    refine ⟨⟨k, power⟩, ?_, larger⟩
    rw [power]
    exact Nat.pow_le_pow_right Nat.two_pos least
  · rintro block ⟨⟨k, rfl⟩, least, larger⟩
    -- k is at least 10, so the bits of `size` from the tenth on fit in `k - 10`
    have tens : 10 ≤ k := (Nat.pow_le_pow_iff_right (a := 2) (by omega)).mp least
    obtain ⟨j, rfl⟩ := Nat.exists_eq_add_of_le tens
    have below : size >>> 10 < 2 ^ j := by
      rw [Nat.shiftRight_eq_div_pow]
      exact Nat.div_lt_of_lt_mul (pow_add 2 10 j ▸ larger)
    rw [fits]
    exact Nat.pow_le_pow_right Nat.two_pos (Nat.add_le_add_left (Nat.size_le.mpr below) 10)

/-- A request of exactly 1024 bytes takes a block of 2048. -/
theorem fitBlockSize_least_kilobyte
    : (∃ i,
        FitEnds 10 (1024 >>> 10) i
        ∧ (if i < 10 then 10 else i) < 32
        ∧ fitBlockSize 1024 = 2 ^ (if i < 10 then 10 else i))
      ∧ IsLeast {block | (∃ k, block = 2 ^ k) ∧ 1024 ≤ block ∧ 1024 < block}
          (fitBlockSize 1024)
      ∧ fitBlockSize 1024 = 2048 :=
  have least := fitBlockSize_least (show 1024 < 2147483648 by decide)
  ⟨least.1, least.2, by decide⟩

theorem SizeClass.bounds {size : Nat} (isClass : SizeClass size)
    : 1024 ≤ size ∧ size ≤ 2147483648 := by
  obtain ⟨k, low, high, rfl⟩ := isClass
  have least : 2 ^ 10 ≤ 2 ^ k := Nat.pow_le_pow_right Nat.two_pos low
  have most : 2 ^ k ≤ 2 ^ 31 := Nat.pow_le_pow_right Nat.two_pos high
  exact ⟨least, most⟩

/-- One extension makes at least one block, and at most 2G in all. -/
theorem fitExtendSet_bounds {size : Nat} (isClass : SizeClass size)
    : 0 < fitExtendSet size ∧ size * fitExtendSet size ≤ 2147483648 := by
  obtain ⟨low, high⟩ := isClass.bounds
  unfold fitExtendSet extendSet slot1 slot2 allocCapacity
  split
  · omega
  · split
    · rename_i below between
      refine ⟨Nat.div_pos (by omega) (by omega), ?_⟩
      exact (Nat.mul_div_le 134217728 size).trans (by omega)
    · omega

theorem releaseSizeCount_le (waterMark blockSize freeCount stubCount : Nat)
    : releaseSizeCount waterMark blockSize freeCount stubCount ≤ freeCount := by
  unfold releaseSizeCount
  split_ifs <;> omega

-----------------------------------------------------------------------------------------
-- The invariant
-----------------------------------------------------------------------------------------

/-- The blocks of a size that can be handed out. -/
def freeOf (memory : Memory) (size : Nat) : List Addr := (memory.free size).getD []

/-- The blocks of a size that the pool made. -/
def stubOf (memory : Memory) (size : Nat) : Finset Addr := (memory.stub size).getD ∅

/-- A block is handed out: made, and not on the free list of its size. -/
def Held (memory : Memory) (block : Addr) (size : Nat) : Prop :=
  block ∈ stubOf memory size ∧ block ∉ freeOf memory size

/-- The lists and sets agree with each other and with the heap. -/
structure Shape (memory : Memory) : Prop where
  classes : ∀ size, (memory.stub size).isSome → SizeClass size
  paired : ∀ size, (memory.free size).isSome = (memory.stub size).isSome
  owned : ∀ size, ∀ block ∈ freeOf memory size, block ∈ stubOf memory size
  nodup : ∀ size, (freeOf memory size).Nodup
  live
    : ∀ size, ∀ block ∈ stubOf memory size,
        block ∈ memory.live ∧ memory.size block = size

/-- The bytes of all blocks made. -/
def footprint (memory : Memory) : Nat :=
  ∑ k ∈ Finset.range 32, 2 ^ k * (stubOf memory (2 ^ k)).card

/-- What holds of the pool between any two calls. -/
structure PoolInvariant (memory : Memory) : Prop extends Shape memory where
  accounted : memory.allocatedSize = footprint memory
  bounded : memory.allocatedSize ≤ maxPoolSize

/-- A handed-out block stays handed out with the same cells. -/
def Undisturbed (before after : Memory) (block : Addr) : Prop :=
  ∀ size, Held before block size
    → Held after block size ∧ after.cells block = before.cells block

theorem Undisturbed.refl (memory : Memory) (block : Addr)
    : Undisturbed memory memory block :=
  fun _ held => ⟨held, rfl⟩

theorem Undisturbed.trans {before middle after : Memory} {block : Addr}
    (first : Undisturbed before middle block) (second : Undisturbed middle after block)
    : Undisturbed before after block := by
  intro size held
  obtain ⟨held, same⟩ := first size held
  obtain ⟨held, same'⟩ := second size held
  exact ⟨held, same'.trans same⟩

/-- A block belongs to one size class, the one the heap has for it. -/
theorem Shape.held_unique {memory : Memory} (shape : Shape memory) {block : Addr}
    {size size' : Nat} (made : block ∈ stubOf memory size)
    (made' : block ∈ stubOf memory size')
    : size = size' :=
  (shape.live size block made).2.symm.trans (shape.live size' block made').2

theorem Shape.stub_of_free {memory : Memory} (shape : Shape memory) {size : Nat}
    {blocks : List Addr} (listed : memory.free size = some blocks)
    : ∃ made, memory.stub size = some made := by
  have paired := shape.paired size
  rw [listed] at paired
  exact Option.isSome_iff_exists.mp paired.symm

-----------------------------------------------------------------------------------------
-- Changing one size class
-----------------------------------------------------------------------------------------

section Reclassed

variable {memory after : Memory} {size : Nat} {blocks : List Addr} {made : Finset Addr}

/-- `after` differs from `memory` in one size class, and maybe in the heap. -/
structure Reclassed (memory after : Memory) (size : Nat) (blocks : List Addr)
    (made : Finset Addr) : Prop where
  free : after.free = Function.update memory.free size (some blocks)
  stub : after.stub = Function.update memory.stub size (some made)

theorem Reclassed.freeOf_eq (change : Reclassed memory after size blocks made)
    (size' : Nat)
    : freeOf after size' = if size' = size then blocks else freeOf memory size' := by
  unfold freeOf
  rw [change.free, Function.update_apply]
  split <;> rfl

theorem Reclassed.stubOf_eq (change : Reclassed memory after size blocks made)
    (size' : Nat)
    : stubOf after size' = if size' = size then made else stubOf memory size' := by
  unfold stubOf
  rw [change.stub, Function.update_apply]
  split <;> rfl

/-- The shape survives a change of one class that fits the heap. -/
theorem Reclassed.shape (change : Reclassed memory after size blocks made)
    (shape : Shape memory) (isClass : SizeClass size)
    (owned : ∀ block ∈ blocks, block ∈ made) (nodup : blocks.Nodup)
    (live : ∀ block ∈ made, block ∈ after.live ∧ after.size block = size)
    (others
      : ∀ size' ≠ size, ∀ block ∈ stubOf memory size',
          block ∈ after.live ∧ after.size block = size')
    : Shape after where
  classes := by
    intro size' listed
    rw [change.stub, Function.update_apply] at listed
    split at listed
    · subst size'; exact isClass
    · exact shape.classes size' listed
  paired := by
    intro size'
    rw [change.stub, change.free, Function.update_apply, Function.update_apply]
    split
    · rfl
    · exact shape.paired size'
  owned := by
    intro size' block
    rw [change.freeOf_eq, change.stubOf_eq]
    split
    · exact owned block
    · exact shape.owned size' block
  nodup := by
    intro size'
    rw [change.freeOf_eq]
    split
    · exact nodup
    · exact shape.nodup size'
  live := by
    intro size' block
    rw [change.stubOf_eq]
    split
    · subst size'; exact live block
    · rename_i differs; exact others size' differs block

/-- The footprint changes by the blocks of the one class. -/
theorem Reclassed.footprint_eq (change : Reclassed memory after size blocks made)
    (isClass : SizeClass size)
    : footprint after + size * (stubOf memory size).card
      = footprint memory + size * made.card := by
  obtain ⟨k, _, high, rfl⟩ := isClass
  have member : k ∈ Finset.range 32 := Finset.mem_range.mpr (by omega)
  unfold footprint
  rw [← Finset.add_sum_erase _ _ member, ← Finset.add_sum_erase (Finset.range 32) _ member]
  have rest
      : ∀ j ∈ (Finset.range 32).erase k,
          2 ^ j * (stubOf after (2 ^ j)).card = 2 ^ j * (stubOf memory (2 ^ j)).card := by
    intro j hj
    have differs : 2 ^ j ≠ 2 ^ k :=
      fun same => Finset.ne_of_mem_erase hj (Nat.pow_right_injective (le_refl 2) same)
    rw [change.stubOf_eq, if_neg differs]
  rw [Finset.sum_congr rfl rest, change.stubOf_eq, if_pos rfl]
  omega

/-- A block is undisturbed when the changed class still hands it out. -/
theorem Reclassed.undisturbed (change : Reclassed memory after size blocks made)
    {block : Addr} (cells : after.cells block = memory.cells block)
    (kept : Held memory block size → block ∈ made ∧ block ∉ blocks)
    : Undisturbed memory after block := by
  intro size' held
  refine ⟨?_, cells⟩
  unfold Held
  rw [change.freeOf_eq, change.stubOf_eq]
  by_cases same : size' = size
  · subst same
    rw [if_pos rfl, if_pos rfl]
    exact kept held
  · rw [if_neg same, if_neg same]
    exact held

end Reclassed

-----------------------------------------------------------------------------------------
-- Lists, sets and heap objects
-----------------------------------------------------------------------------------------

theorem freeList_delivers {memory : Memory} {size : Nat} {blocks : List Addr}
    {post : List Addr → Memory → Prop} (listed : memory.free size = some blocks)
    (established : post blocks memory)
    : Delivers (freeList size) memory post := by
  refine Delivers.bind (Delivers.get ?_)
  rw [listed]
  exact Delivers.pure established

theorem stubSet_delivers {memory : Memory} {size : Nat} {made : Finset Addr}
    {post : Finset Addr → Memory → Prop} (stubbed : memory.stub size = some made)
    (established : post made memory)
    : Delivers (stubSet size) memory post := by
  refine Delivers.bind (Delivers.get ?_)
  rw [stubbed]
  exact Delivers.pure established

theorem deleteBlock_delivers {memory : Memory} {block : Addr}
    {post : Unit → Memory → Prop} (live : block ∈ memory.live)
    (established : post () { memory with live := memory.live.erase block })
    : Delivers (deleteBlock block) memory post := by
  refine Delivers.bind (Delivers.get ?_)
  rw [if_pos live]
  exact Delivers.modify established

/-- What making and deleting blocks does to the pool around them. -/
structure Moves (before after : Memory) : Prop where
  shape : Shape after
  undisturbed : ∀ block, Undisturbed before after block
  listed : ∀ size, (after.free size).isSome = (before.free size).isSome
  allocatedSize : after.allocatedSize = before.allocatedSize

theorem Moves.refl {memory : Memory} (shape : Shape memory) : Moves memory memory :=
  ⟨shape, Undisturbed.refl memory, fun _ => rfl, rfl⟩

theorem Moves.trans {before middle after : Memory} (first : Moves before middle)
    (second : Moves middle after)
    : Moves before after where
  shape := second.shape
  undisturbed := fun block => (first.undisturbed block).trans (second.undisturbed block)
  listed := fun size => (second.listed size).trans (first.listed size)
  allocatedSize := second.allocatedSize.trans first.allocatedSize

theorem Reclassed.listed {memory after : Memory} {size : Nat}
    {old blocks : List Addr} {made : Finset Addr}
    (change : Reclassed memory after size blocks made) (listed : memory.free size = some old)
    (size' : Nat)
    : (after.free size').isSome = (memory.free size').isSome := by
  rw [change.free, Function.update_apply]
  split
  · subst size'; rw [listed]; rfl
  · rfl

-----------------------------------------------------------------------------------------
-- Giving blocks back to the heap
-----------------------------------------------------------------------------------------

/-- A turn of `release` deletes the front of the free list, which nobody holds. -/
theorem releaseFront_delivers {memory : Memory} {size : Nat} {block : Addr}
    {rest : List Addr} (shape : Shape memory)
    (listed : memory.free size = some (block :: rest))
    : Delivers (releaseFront size) memory
        (fun _ after =>
          Moves memory after ∧ after.free size = some rest
            ∧ footprint after + size = footprint memory) := by
  obtain ⟨made, stubbed⟩ := shape.stub_of_free listed
  have isClass : SizeClass size := shape.classes size (by rw [stubbed]; rfl)
  have free : freeOf memory size = block :: rest := by rw [freeOf, listed]; rfl
  have stub : stubOf memory size = made := by rw [stubOf, stubbed]; rfl
  have owned : ∀ other ∈ block :: rest, other ∈ made := by
    rw [← free, ← stub]; exact shape.owned size
  have nodup : (block :: rest).Nodup := by rw [← free]; exact shape.nodup size
  have live : ∀ other ∈ made, other ∈ memory.live ∧ memory.size other = size := by
    rw [← stub]; exact shape.live size
  have fronted : block ∈ made := owned block List.mem_cons_self
  obtain ⟨absent, restNodup⟩ := List.nodup_cons.mp nodup
  refine Delivers.bind (freeList_delivers listed ?_)
  refine Delivers.bind (stubSet_delivers stubbed ?_)
  refine Delivers.bind (Delivers.modify ?_)
  refine Delivers.bind (deleteBlock_delivers (live block fronted).1 ?_)
  refine Delivers.modify ?_
  dsimp only
  have change : Reclassed memory
      { memory with
        free := Function.update memory.free size (some rest)
        stub := Function.update memory.stub size (some (made.erase block))
        live := memory.live.erase block } size rest (made.erase block) := ⟨rfl, rfl⟩
  refine ⟨⟨?_, ?_, change.listed listed, rfl⟩, Function.update_self .., ?_⟩
  · refine change.shape shape isClass ?_ restNodup ?_ ?_
    · intro other member
      refine Finset.mem_erase.mpr ⟨?_, owned other (List.mem_cons_of_mem _ member)⟩
      rintro rfl
      exact absent member
    · intro other member
      obtain ⟨differs, member⟩ := Finset.mem_erase.mp member
      exact ⟨Finset.mem_erase.mpr ⟨differs, (live other member).1⟩, (live other member).2⟩
    · intro size' differs other member
      have known := shape.live size' other member
      refine ⟨Finset.mem_erase.mpr ⟨?_, known.1⟩, known.2⟩
      rintro rfl
      exact differs (known.2.symm.trans (live other fronted).2)
  · intro other
    refine change.undisturbed rfl ?_
    rintro ⟨held, outside⟩
    rw [stub] at held
    rw [free] at outside
    obtain ⟨differs, outside⟩ := not_or.mp (List.mem_cons.not.mp outside)
    exact ⟨Finset.mem_erase.mpr ⟨differs, held⟩, outside⟩
  · have total := change.footprint_eq isClass
    rw [stub, Finset.card_erase_of_mem fronted] at total
    have positive : 0 < made.card := Finset.card_pos.mpr ⟨block, fronted⟩
    obtain ⟨count, hcount⟩ := Nat.exists_eq_add_of_lt positive
    rw [hcount] at total
    simp only [Nat.zero_add, Nat.add_sub_cancel, Nat.mul_add, Nat.mul_one] at total
    omega

/-- The loop of `release`, by induction on the blocks to give back. -/
theorem releaseFronts_delivers {memory : Memory} {size count : Nat} {blocks : List Addr}
    (shape : Shape memory) (listed : memory.free size = some blocks)
    (enough : count ≤ blocks.length)
    : Delivers (releaseFronts size count) memory
        (fun _ after =>
          Moves memory after ∧ footprint after + size * count = footprint memory) := by
  induction count generalizing memory blocks with
  | zero => exact Delivers.pure ⟨Moves.refl shape, by rw [Nat.mul_zero, Nat.add_zero]⟩
  | succ count ih =>
      obtain _ | ⟨block, rest⟩ := blocks
      · simp at enough
      · have turn := releaseFront_delivers shape listed
        refine Delivers.bind (turn.weaken ?_)
        rintro _ middle ⟨moved, listed', total⟩
        refine (ih moved.shape listed' (Nat.le_of_succ_le_succ enough)).weaken ?_
        rintro _ after ⟨moved', total'⟩
        refine ⟨moved.trans moved', ?_⟩
        rw [Nat.mul_succ]
        omega

/-- What an operation of the pool leaves its callers. -/
structure Evolves (before after : Memory) : Prop where
  invariant : PoolInvariant after
  undisturbed : ∀ block, Undisturbed before after block
  listed : ∀ size, (after.free size).isSome = (before.free size).isSome

theorem Evolves.trans {before middle after : Memory} (first : Evolves before middle)
    (second : Evolves middle after)
    : Evolves before after where
  invariant := second.invariant
  undisturbed := fun block => (first.undisturbed block).trans (second.undisturbed block)
  listed := fun size => (second.listed size).trans (first.listed size)

/-- What giving blocks back leaves. -/
structure Settles (before after : Memory) : Prop extends Evolves before after where
  shrinks : after.allocatedSize ≤ before.allocatedSize

theorem Settles.refl {memory : Memory} (invariant : PoolInvariant memory)
    : Settles memory memory :=
  ⟨⟨invariant, Undisturbed.refl memory, fun _ => rfl⟩, Nat.le_refl _⟩

theorem Settles.trans {before middle after : Memory} (first : Settles before middle)
    (second : Settles middle after)
    : Settles before after where
  toEvolves := first.toEvolves.trans second.toEvolves
  shrinks := second.shrinks.trans first.shrinks

/-- Free blocks are part of the footprint, so their bytes fit an `unsigned int`. -/
theorem PoolInvariant.free_bytes {memory : Memory} (invariant : PoolInvariant memory)
    {size : Nat} {blocks : List Addr} (listed : memory.free size = some blocks)
    : size * blocks.length ≤ memory.allocatedSize := by
  obtain ⟨made, stubbed⟩ := invariant.stub_of_free listed
  have isClass : SizeClass size := invariant.classes size (by rw [stubbed]; rfl)
  have free : freeOf memory size = blocks := by rw [freeOf, listed]; rfl
  have fewer : blocks.length ≤ (stubOf memory size).card := by
    rw [← free, ← List.toFinset_card_of_nodup (invariant.nodup size)]
    exact Finset.card_le_card
      (fun block member => invariant.owned size block (List.mem_toFinset.mp member))
  obtain ⟨k, _, high, rfl⟩ := isClass
  have member : k ∈ Finset.range 32 := Finset.mem_range.mpr (by omega)
  have part : 2 ^ k * (stubOf memory (2 ^ k)).card ≤ footprint memory :=
    Finset.single_le_sum (f := fun k => 2 ^ k * (stubOf memory (2 ^ k)).card)
      (fun _ _ => Nat.zero_le _) member
  rw [invariant.accounted]
  exact (Nat.mul_le_mul_left _ fewer).trans part

/-- `release` neither fails its assertion nor touches a block that is handed out. -/
theorem release_delivers {memory : Memory} {size : Nat} {blocks : List Addr}
    (invariant : PoolInvariant memory) (listed : memory.free size = some blocks)
    : Delivers (release unchecked size) memory (fun _ after => Settles memory after) := by
  obtain ⟨made, stubbed⟩ := invariant.stub_of_free listed
  have bytes : size * blocks.length ≤ memory.allocatedSize := invariant.free_bytes listed
  have bounded : memory.allocatedSize ≤ 2097152000 := invariant.bounded
  have fewer := releaseSizeCount_le memory.waterMark size blocks.length made.card
  refine Delivers.bind (freeList_delivers listed ?_)
  refine Delivers.bind (stubSet_delivers stubbed ?_)
  refine Delivers.bind (Delivers.get ?_)
  generalize releaseSizeCount memory.waterMark size blocks.length made.card = todoCount
    at fewer ⊢
  have todoBytes : size * todoCount ≤ memory.allocatedSize :=
    (Nat.mul_le_mul_left size fewer).trans bytes
  have unwrapped : wrap32 (size * todoCount) = size * todoCount := wrap32_of_lt (by omega)
  dsimp only
  refine Delivers.bind (Delivers.pure ?_)
  split
  · exact Delivers.pure (Settles.refl invariant)
  · rw [unwrapped, if_neg (by omega)]
    refine Delivers.bind ((releaseFronts_delivers invariant.toShape listed fewer).weaken ?_)
    rintro _ after ⟨moved, total⟩
    refine Delivers.bind (Delivers.get ?_)
    refine Delivers.modify ?_
    have accounted := invariant.accounted
    have same := moved.allocatedSize
    refine ⟨⟨⟨⟨moved.shape.classes, moved.shape.paired, moved.shape.owned,
      moved.shape.nodup, moved.shape.live⟩, ?_, ?_⟩, moved.undisturbed, moved.listed⟩, ?_⟩
    · change after.allocatedSize - size * todoCount = footprint after
      omega
    · change after.allocatedSize - size * todoCount ≤ 2097152000
      omega
    · change after.allocatedSize - size * todoCount ≤ memory.allocatedSize
      omega

/-- The water mark is no part of the invariant. -/
theorem settles_waterMark {memory : Memory} (invariant : PoolInvariant memory)
    (waterMark : Nat)
    : Settles memory { memory with waterMark := waterMark } :=
  ⟨⟨⟨⟨invariant.classes, invariant.paired, invariant.owned, invariant.nodup,
    invariant.live⟩, invariant.accounted, invariant.bounded⟩, Undisturbed.refl memory,
    fun _ => rfl⟩, Nat.le_refl _⟩

/-- What a purge gave back, without the wrapping of `unsigned int`. -/
theorem Settles.purged_eq {before after : Memory} (settles : Settles before after)
    (bounded : before.allocatedSize ≤ maxPoolSize)
    : purged before.allocatedSize after = before.allocatedSize - after.allocatedSize := by
  have shrinks := settles.shrinks
  unfold maxPoolSize at bounded
  unfold purged wrap32
  omega

/-- Each turn of the purge loop lowers its size, by counting the bits left in it. -/
theorem size_shiftRight_lt {purgeSize : Nat} (large : slot1 ≤ purgeSize)
    : Nat.size (purgeSize >>> 1) < Nat.size purgeSize := by
  unfold slot1 at large
  have bits : 0 < Nat.size purgeSize := Nat.size_pos.mpr (by omega)
  have below := Nat.lt_size_self purgeSize
  have half : purgeSize >>> 1 < 2 ^ (Nat.size purgeSize - 1) := by
    rw [Nat.shiftRight_eq_div_pow, pow_one]
    have double : 2 ^ Nat.size purgeSize = 2 ^ (Nat.size purgeSize - 1) * 2 := by
      rw [← pow_succ]
      congr 1
      omega
    omega
  exact (Nat.size_le.mpr half).trans_lt (by omega)

/-- The purge keeps the pool settled, and reports success only with enough given back. -/
theorem releaseSize_delivers {memory : Memory} (memSize : Nat)
    (invariant : PoolInvariant memory)
    : Delivers (releaseSize unchecked memSize) memory
        (fun code after =>
          Settles memory after
            ∧ (code = 0 → memSize ≤ memory.allocatedSize - after.allocatedSize)) := by
  refine Delivers.bind (Delivers.modify ?_)
  have lowered := settles_waterMark invariant allocCapacity
  refine Delivers.bind (Delivers.get ?_)
  dsimp only
  have loop : Delivers
      (BoundedLoop.run Fault.endless (purgeTurn unchecked memory.allocatedSize memSize) 33
        2147483648)
      { memory with waterMark := allocCapacity } (fun _ after => Settles memory after) := by
    refine BoundedLoop.run_total Fault.endless (fun _ after => Settles memory after)
      (fun purgeSize _ => Nat.size purgeSize) ?_ lowered
      (Nat.lt_succ_of_le (Nat.size_le.mpr (by decide)))
    intro purgeSize state settled
    refine Delivers.bind (Delivers.get ?_)
    refine Delivers.bind (Delivers.pure ?_)
    split
    · rename_i goes
      have lower := size_shiftRight_lt goes.2
      dsimp only
      split
      · rename_i present
        obtain ⟨blocks, listed⟩ := Option.isSome_iff_exists.mp present.2
        refine Delivers.bind ((release_delivers settled.invariant listed).weaken ?_)
        intro _ after settled'
        exact Delivers.pure ⟨settled.trans settled', lower⟩
      · exact Delivers.pure ⟨settled, lower⟩
    · exact Delivers.pure settled
  refine Delivers.bind (loop.weaken ?_)
  intro _ after settled
  refine Delivers.bind (Delivers.modify ?_)
  have raised := settled.trans (settles_waterMark settled.invariant maxWaterMark)
  refine Delivers.bind (Delivers.get ?_)
  refine Delivers.bind (Delivers.pure ?_)
  rw [raised.purged_eq invariant.bounded]
  split
  · exact Delivers.pure ⟨raised, fun failed => by simp at failed⟩
  · rename_i enough
    exact Delivers.pure ⟨raised, fun _ => Nat.le_of_not_lt enough⟩

-----------------------------------------------------------------------------------------
-- Making blocks
-----------------------------------------------------------------------------------------

variable {allocator : Allocator}

/-- A new block is at the front of its free list, at an address no live block has. -/
theorem extendFront_delivers {memory : Memory} {size : Nat} {blocks : List Addr}
    (shape : Shape memory) (listed : memory.free size = some blocks)
    : Delivers (extendFront allocator size) memory
        (fun _ after =>
          Moves memory after ∧ footprint after = footprint memory + size
            ∧ ∃ block, after.free size = some (block :: blocks)) := by
  obtain ⟨made, stubbed⟩ := shape.stub_of_free listed
  have isClass : SizeClass size := shape.classes size (by rw [stubbed]; rfl)
  have free : freeOf memory size = blocks := by rw [freeOf, listed]; rfl
  have stub : stubOf memory size = made := by rw [stubOf, stubbed]; rfl
  have owned : ∀ other ∈ blocks, other ∈ made := by
    rw [← free, ← stub]; exact shape.owned size
  have nodup : blocks.Nodup := by rw [← free]; exact shape.nodup size
  have live : ∀ other ∈ made, other ∈ memory.live ∧ memory.size other = size := by
    rw [← stub]; exact shape.live size
  have fresh := allocator.fresh memory.live memory.requests
  refine Delivers.bind (Delivers.bind (Delivers.get (Delivers.bind (Delivers.modify
    (Delivers.pure ?_)))))
  refine Delivers.bind (freeList_delivers listed ?_)
  refine Delivers.bind (Delivers.modify ?_)
  refine Delivers.bind (stubSet_delivers stubbed ?_)
  refine Delivers.modify ?_
  dsimp only
  generalize allocator.pick memory.live memory.requests = block at fresh ⊢
  have distinct : ∀ size', ∀ other ∈ stubOf memory size', other ≠ block := by
    rintro size' other member rfl
    exact fresh (shape.live size' other member).1
  have change : Reclassed memory
      { memory with
        free := Function.update memory.free size (some (block :: blocks))
        stub := Function.update memory.stub size (some (insert block made))
        live := insert block memory.live
        size := Function.update memory.size block size
        requests := memory.requests + 1 } size (block :: blocks) (insert block made) :=
    ⟨rfl, rfl⟩
  have old
      : ∀ size', ∀ other ∈ stubOf memory size',
          other ∈ insert block memory.live
            ∧ Function.update memory.size block size other = size' := by
    intro size' other member
    obtain ⟨known, sized⟩ := shape.live size' other member
    refine ⟨Finset.mem_insert_of_mem known, ?_⟩
    rw [Function.update_of_ne (distinct size' other member)]
    exact sized
  refine ⟨⟨?_, ?_, change.listed listed, rfl⟩, ?_, block, Function.update_self ..⟩
  · refine change.shape shape isClass ?_ ?_ ?_ (fun size' _ => old size')
    · intro other member
      rcases List.mem_cons.mp member with rfl | member
      · exact Finset.mem_insert_self _ _
      · exact Finset.mem_insert_of_mem (owned other member)
    · refine List.nodup_cons.mpr ⟨fun member => ?_, nodup⟩
      exact distinct size block (by rw [stub]; exact owned block member) rfl
    · intro other member
      rcases Finset.mem_insert.mp member with rfl | member
      · exact ⟨Finset.mem_insert_self _ _, Function.update_self ..⟩
      · exact old size other (by rw [stub]; exact member)
  · intro other
    refine change.undisturbed rfl ?_
    rintro ⟨held, outside⟩
    have differs := distinct size other held
    rw [stub] at held
    rw [free] at outside
    refine ⟨Finset.mem_insert_of_mem held, fun member => ?_⟩
    rcases List.mem_cons.mp member with same | member
    · exact differs same
    · exact outside member
  · have total := change.footprint_eq isClass
    have absent : block ∉ made := fun member => fresh (live block member).1
    rw [stub, Finset.card_insert_of_notMem absent, Nat.mul_add, Nat.mul_one] at total
    omega

/-- The loop of `extend`, by induction on the blocks to make. -/
theorem extendFronts_delivers {memory : Memory} {size count : Nat} {blocks : List Addr}
    (shape : Shape memory) (listed : memory.free size = some blocks)
    : Delivers (extendFronts allocator size count) memory
        (fun _ after =>
          Moves memory after ∧ footprint after = footprint memory + size * count
            ∧ ∃ more, after.free size = some more
                ∧ more.length = blocks.length + count) := by
  induction count generalizing memory blocks with
  | zero =>
      refine Delivers.pure ⟨Moves.refl shape, ?_, blocks, listed, rfl⟩
      rw [Nat.mul_zero, Nat.add_zero]
  | succ count ih =>
      refine Delivers.bind ((extendFront_delivers shape listed).weaken ?_)
      rintro _ middle ⟨moved, total, block, listed'⟩
      refine (ih moved.shape listed').weaken ?_
      rintro _ after ⟨moved', total', more, listed'', length⟩
      refine ⟨moved.trans moved', ?_, more, listed'', ?_⟩
      · rw [Nat.mul_succ]
        omega
      · rw [length, List.length_cons]
        omega

/-- With room left, an extension leaves free blocks of its size. -/
theorem extendRoom_delivers {memory : Memory} {size : Nat} {blocks : List Addr}
    (invariant : PoolInvariant memory) (listed : memory.free size = some blocks)
    (room : memory.allocatedSize + size * fitExtendSet size ≤ maxPoolSize)
    : Delivers (extendRoom unchecked allocator size) memory
        (fun code after =>
          Evolves memory after ∧ code = 0
            ∧ ∃ block rest, after.free size = some (block :: rest)) := by
  obtain ⟨made, stubbed⟩ := invariant.stub_of_free listed
  have isClass : SizeClass size := invariant.classes size (by rw [stubbed]; rfl)
  obtain ⟨some, most⟩ := fitExtendSet_bounds isClass
  unfold maxPoolSize at room
  refine Delivers.bind ((extendFronts_delivers invariant.toShape listed).weaken ?_)
  rintro _ after ⟨moved, total, more, listed', length⟩
  refine Delivers.bind (Delivers.get ?_)
  refine Delivers.bind (Delivers.pure ?_)
  refine Delivers.bind (Delivers.modify (Delivers.pure ?_))
  have same := moved.allocatedSize
  have accounted := invariant.accounted
  rw [same, wrap32_of_lt (by omega)]
  refine ⟨⟨⟨⟨moved.shape.classes, moved.shape.paired, moved.shape.owned, moved.shape.nodup,
    moved.shape.live⟩, ?_, ?_⟩, moved.undisturbed, moved.listed⟩, rfl, ?_⟩
  · change memory.allocatedSize + size * fitExtendSet size = footprint after
    omega
  · exact room
  · obtain _ | ⟨block, rest⟩ := more
    · rw [List.length_nil] at length
      omega
    · exact ⟨block, rest, listed'⟩

/-- A class that a pool operation finds listed is still listed after it. -/
theorem Evolves.still_listed {before after : Memory} (evolves : Evolves before after)
    {size : Nat} {blocks : List Addr} (listed : before.free size = some blocks)
    : ∃ blocks', after.free size = some blocks' := by
  have same := evolves.listed size
  rw [listed] at same
  exact Option.isSome_iff_exists.mp same

/-- `extend` leaves free blocks of its size, or reports that the pool is full. -/
theorem extend_delivers {memory : Memory} {size : Nat} {blocks : List Addr}
    (invariant : PoolInvariant memory) (listed : memory.free size = some blocks)
    : Delivers (extend unchecked allocator size) memory
        (fun code after =>
          Evolves memory after
            ∧ (code = 0 → ∃ block rest, after.free size = some (block :: rest))) := by
  obtain ⟨made, stubbed⟩ := invariant.stub_of_free listed
  have isClass : SizeClass size := invariant.classes size (by rw [stubbed]; rfl)
  have most := (fitExtendSet_bounds isClass).2
  have bounded : memory.allocatedSize ≤ 2097152000 := invariant.bounded
  refine Delivers.bind (Delivers.get ?_)
  refine Delivers.bind (Delivers.pure ?_)
  dsimp only
  rw [wrap32_of_lt (by omega)]
  split
  · rename_i tight
    refine Delivers.bind (Delivers.pure ?_)
    refine Delivers.bind ((releaseSize_delivers _ invariant).weaken ?_)
    rintro code middle ⟨settled, freed⟩
    split
    · rename_i failed
      exact Delivers.pure ⟨settled.toEvolves, fun code => by simp at code⟩
    · rename_i succeeded
      have enough := freed (not_not.mp succeeded)
      have shrinks := settled.shrinks
      obtain ⟨blocks', listed'⟩ := settled.still_listed listed
      have room : middle.allocatedSize + size * fitExtendSet size ≤ maxPoolSize := by omega
      refine (extendRoom_delivers settled.invariant listed' room).weaken ?_
      rintro _ after ⟨evolves, _, filled⟩
      exact ⟨settled.toEvolves.trans evolves, fun _ => filled⟩
  · rename_i loose
    refine (extendRoom_delivers invariant listed (Nat.le_of_not_le loose)).weaken ?_
    rintro _ after ⟨evolves, _, filled⟩
    exact ⟨evolves, fun _ => filled⟩

-----------------------------------------------------------------------------------------
-- Handing blocks out and taking them back
-----------------------------------------------------------------------------------------

/-- What `allocate` leaves: handed-out blocks as they were, and one more when it succeeds. -/
structure Allocated (size : Nat) (before after : Memory) (result : Option (Addr × Nat))
    : Prop where
  invariant : PoolInvariant after
  undisturbed : ∀ block, Undisturbed before after block
  handed
    : ∀ block blockSize, result = some (block, blockSize)
      → blockSize = size ∧ Held after block blockSize
        ∧ ∀ size', ¬Held before block size'

/-- A block of a nonempty free list is handed out; nobody held it, since it was free. -/
theorem popFront_delivers {before memory : Memory} {size : Nat} {block : Addr}
    {rest : List Addr} (invariant : PoolInvariant memory)
    (undisturbed : ∀ block, Undisturbed before memory block)
    (listed : memory.free size = some (block :: rest))
    : Delivers (popFront size) memory (fun result after => Allocated size before after result)
    := by
  obtain ⟨made, stubbed⟩ := invariant.stub_of_free listed
  have isClass : SizeClass size := invariant.classes size (by rw [stubbed]; rfl)
  have free : freeOf memory size = block :: rest := by rw [freeOf, listed]; rfl
  have stub : stubOf memory size = made := by rw [stubOf, stubbed]; rfl
  have nodup : (block :: rest).Nodup := by rw [← free]; exact invariant.nodup size
  obtain ⟨absent, restNodup⟩ := List.nodup_cons.mp nodup
  have fronted : block ∈ stubOf memory size :=
    invariant.owned size block (by rw [free]; exact List.mem_cons_self)
  refine Delivers.bind (freeList_delivers listed ?_)
  refine Delivers.bind (Delivers.modify (Delivers.pure ?_))
  have change : Reclassed memory
      { memory with free := Function.update memory.free size (some rest) } size rest made :=
    ⟨rfl, by rw [← stubbed]; exact (Function.update_eq_self size memory.stub).symm⟩
  have shape := change.shape invariant.toShape isClass
    (fun other member => by
      rw [← stub]
      exact invariant.owned size other (by rw [free]; exact List.mem_cons_of_mem _ member))
    restNodup
    (by rw [← stub]; exact invariant.live size)
    (fun size' _ => invariant.live size')
  have total := change.footprint_eq isClass
  rw [stub] at total
  have accounted := invariant.accounted
  refine ⟨⟨shape, ?_, invariant.bounded⟩, ?_, ?_⟩
  · change memory.allocatedSize = _
    omega
  · intro other
    refine (undisturbed other).trans (change.undisturbed rfl ?_)
    rintro ⟨held, outside⟩
    rw [stub] at held
    rw [free] at outside
    exact ⟨held, fun member => outside (List.mem_cons_of_mem _ member)⟩
  · rintro block' blockSize same
    cases same
    refine ⟨rfl, ?_, ?_⟩
    · unfold Held
      rw [change.freeOf_eq, change.stubOf_eq, if_pos rfl, if_pos rfl, ← stub]
      exact ⟨fronted, absent⟩
    · intro size' held
      obtain ⟨⟨held, outside⟩, _⟩ := undisturbed block size' held
      obtain rfl := invariant.held_unique held fronted
      exact outside (by rw [free]; exact List.mem_cons_self)

theorem allocated_none {size : Nat} {before after : Memory}
    (invariant : PoolInvariant after) (undisturbed : ∀ block, Undisturbed before after block)
    : Allocated size before after none :=
  ⟨invariant, undisturbed, fun _ _ same => by simp at same⟩

theorem allocateListed_delivers {before memory : Memory} {size : Nat} {blocks : List Addr}
    (invariant : PoolInvariant memory)
    (undisturbed : ∀ block, Undisturbed before memory block)
    (listed : memory.free size = some blocks)
    : Delivers (allocateListed unchecked allocator size) memory
        (fun result after => Allocated size before after result) := by
  refine Delivers.bind (freeList_delivers listed ?_)
  obtain _ | ⟨block, rest⟩ := blocks
  · rw [List.isEmpty_nil, if_pos rfl]
    refine Delivers.bind ((extend_delivers invariant listed).weaken ?_)
    rintro code middle ⟨evolves, filled⟩
    have undisturbed' := fun block => (undisturbed block).trans (evolves.undisturbed block)
    split
    · exact Delivers.pure (allocated_none evolves.invariant undisturbed')
    · rename_i succeeded
      obtain ⟨block, rest, listed'⟩ := filled (not_not.mp succeeded)
      exact popFront_delivers evolves.invariant undisturbed' listed'
  · rw [if_neg (by simp)]
    exact popFront_delivers invariant undisturbed listed

/-- A new size class starts with no block. -/
theorem newClass_shape {memory : Memory} {size : Nat} (invariant : PoolInvariant memory)
    (isClass : SizeClass size) (absent : memory.free size = none)
    : PoolInvariant
        { memory with
          free := Function.update memory.free size (some [])
          stub := Function.update memory.stub size (some ∅) }
      ∧ ∀ block, Undisturbed memory
          { memory with
            free := Function.update memory.free size (some [])
            stub := Function.update memory.stub size (some ∅) } block := by
  have change : Reclassed memory
      { memory with
        free := Function.update memory.free size (some [])
        stub := Function.update memory.stub size (some ∅) } size [] ∅ := ⟨rfl, rfl⟩
  have unstubbed : stubOf memory size = ∅ := by
    have paired := invariant.paired size
    rw [absent] at paired
    rw [stubOf, Option.isSome_eq_false_iff.mp paired.symm |> Option.isNone_iff_eq_none.mp]
    rfl
  have shape := change.shape invariant.toShape isClass (fun _ member => by simp at member)
    List.nodup_nil (fun _ member => by simp at member) (fun size' _ => invariant.live size')
  have total := change.footprint_eq isClass
  rw [unstubbed] at total
  have accounted := invariant.accounted
  refine ⟨⟨shape, ?_, invariant.bounded⟩, fun block => change.undisturbed rfl ?_⟩
  · change memory.allocatedSize = _
    omega
  · rintro ⟨held, _⟩
    rw [unstubbed] at held
    simp at held

/-- `allocate` never faults, and hands out a block that nobody held. -/
theorem allocate_delivers {memory : Memory} {size : Nat} (invariant : PoolInvariant memory)
    (small : size < 2147483648)
    : Delivers (allocate unchecked allocator size) memory
        (fun result after => Allocated (fitBlockSize size) memory after result) := by
  have isClass := (fitBlockSize_fits small).1
  unfold allocate
  generalize fitBlockSize size = blockSize at isClass ⊢
  refine Delivers.bind (Delivers.get ?_)
  cases listed : memory.free blockSize with
  | none =>
      obtain ⟨invariant', undisturbed⟩ := newClass_shape invariant isClass listed
      refine Delivers.bind (Delivers.bind (Delivers.modify (Delivers.bind (Delivers.modify ?_))))
      have fresh := Function.update_self blockSize (some []) memory.free
      refine (extend_delivers invariant' fresh).weaken ?_
      rintro code after ⟨evolves, filled⟩
      have undisturbed' := fun block =>
        (undisturbed block).trans (evolves.undisturbed block)
      split
      · exact Delivers.pure (allocated_none evolves.invariant undisturbed')
      · rename_i succeeded
        obtain ⟨block, rest, listed'⟩ := filled (not_not.mp succeeded)
        refine Delivers.bind (Delivers.get ?_)
        rw [listed', if_neg (by simp)]
        exact allocateListed_delivers evolves.invariant undisturbed' listed'
  | some blocks =>
      rw [if_neg (by simp)]
      exact allocateListed_delivers invariant (Undisturbed.refl memory) listed

/-- A held block is made and off its class's free list. -/
theorem PoolInvariant.held_listed {memory : Memory} {mem : Addr} {memSize : Nat}
    (invariant : PoolInvariant memory) (held : Held memory mem memSize)
    : ∃ made blocks,
        memory.stub memSize = some made ∧ memory.free memSize = some blocks
          ∧ mem ∈ made ∧ mem ∉ blocks := by
  obtain ⟨made, stubbed⟩ : ∃ made, memory.stub memSize = some made := by
    cases stubbed : memory.stub memSize with
    | none =>
        have member := held.1
        rw [stubOf, stubbed] at member
        simp at member
    | some made => exact ⟨made, rfl⟩
  obtain ⟨blocks, listed⟩ : ∃ blocks, memory.free memSize = some blocks := by
    have paired := invariant.paired memSize
    rw [stubbed] at paired
    exact Option.isSome_iff_exists.mp paired
  obtain ⟨member, outside⟩ := held
  rw [stubOf, stubbed] at member
  rw [freeOf, listed] at outside
  exact ⟨made, blocks, stubbed, listed, member, outside⟩

/-- A held block pushed back on its free list leaves a sound pool, and every other held
block as it was.
-/
theorem push_evolves {memory : Memory} {mem : Addr} {memSize : Nat} {made : Finset Addr}
    {blocks : List Addr} (invariant : PoolInvariant memory)
    (stubbed : memory.stub memSize = some made) (listed : memory.free memSize = some blocks)
    (member : mem ∈ made) (outside : mem ∉ blocks)
    : PoolInvariant
        { memory with free := Function.update memory.free memSize (some (mem :: blocks)) }
      ∧ ∀ block ≠ mem, Undisturbed memory
        { memory with free := Function.update memory.free memSize (some (mem :: blocks)) }
        block := by
  have isClass : SizeClass memSize := invariant.classes memSize (by rw [stubbed]; rfl)
  have free : freeOf memory memSize = blocks := by rw [freeOf, listed]; rfl
  have stub : stubOf memory memSize = made := by rw [stubOf, stubbed]; rfl
  have change : Reclassed memory
      { memory with free := Function.update memory.free memSize (some (mem :: blocks)) }
      memSize (mem :: blocks) made :=
    ⟨rfl, by rw [← stubbed]; exact (Function.update_eq_self memSize memory.stub).symm⟩
  have shape := change.shape invariant.toShape isClass
    (fun other pushed => by
      rcases List.mem_cons.mp pushed with rfl | old
      · exact member
      · rw [← stub]
        exact invariant.owned memSize other (by rw [free]; exact old))
    (List.nodup_cons.mpr ⟨outside, by rw [← free]; exact invariant.nodup memSize⟩)
    (by rw [← stub]; exact invariant.live memSize)
    (fun size' _ => invariant.live size')
  have total := change.footprint_eq isClass
  rw [stub] at total
  have accounted := invariant.accounted
  refine ⟨⟨shape, ?_, invariant.bounded⟩, fun block differs => change.undisturbed rfl ?_⟩
  · change memory.allocatedSize = _
    omega
  · rintro ⟨held, elsewhere⟩
    rw [stub] at held
    rw [free] at elsewhere
    refine ⟨held, fun back => ?_⟩
    rcases List.mem_cons.mp back with same | old
    · exact differs same
    · exact elsewhere old

/-- `recycle` of a held block succeeds and leaves every other held block as it was. -/
theorem recycle_delivers {memory : Memory} {mem : Addr} {memSize : Nat}
    (invariant : PoolInvariant memory) (held : Held memory mem memSize)
    : Delivers (recycle unchecked mem memSize) memory
        (fun code after =>
          code = 0 ∧ PoolInvariant after ∧ ∀ block ≠ mem, Undisturbed memory after block) := by
  obtain ⟨made, blocks, stubbed, listed, member, outside⟩ := invariant.held_listed held
  obtain ⟨pushed, others⟩ := push_evolves invariant stubbed listed member outside
  refine Delivers.bind (Delivers.get (Delivers.bind (Delivers.get ?_)))
  rw [stubbed, listed]
  dsimp only
  rw [if_pos member]
  refine Delivers.bind (Delivers.modify ?_)
  have released := release_delivers pushed
    (Function.update_self memSize (some (mem :: blocks)) memory.free)
  refine Delivers.bind (released.weaken ?_)
  intro _ after settled
  exact Delivers.pure ⟨rfl, settled.invariant,
    fun block differs => (others block differs).trans (settled.undisturbed block)⟩

/-- `recycle` of a held block under another class's size is refused. -/
theorem recycle_refuses {memory : Memory} {mem : Addr} {memSize size : Nat}
    (shape : Shape memory) (held : Held memory mem size) (other : memSize ≠ size)
    : Yields (recycle unchecked mem memSize) memory (-1) memory := by
  refine yields_bind.mpr ⟨_, _, yields_get.mpr ⟨rfl, rfl⟩,
    yields_bind.mpr ⟨_, _, yields_get.mpr ⟨rfl, rfl⟩, ?_⟩⟩
  cases stubbed : memory.stub memSize with
  | none => exact yields_pure.mpr ⟨rfl, rfl⟩
  | some made =>
      cases listed : memory.free memSize with
      | none => exact yields_pure.mpr ⟨rfl, rfl⟩
      | some blocks =>
          have absent : mem ∉ made := fun member => by
            have made' : mem ∈ stubOf memory memSize := by rwa [stubOf, stubbed]
            exact other (shape.held_unique made' held.1)
          dsimp only
          rw [if_neg absent]
          exact yields_pure.mpr ⟨rfl, rfl⟩

/-- The empty pool satisfies the invariant. -/
theorem initial_invariant (cells : Addr → CellStore UInt8)
    : PoolInvariant (Memory.initial cells) where
  classes := fun _ listed => by simp [Memory.initial] at listed
  paired := fun _ => rfl
  owned := fun _ _ member => by simp [freeOf, Memory.initial] at member
  nodup := fun _ => List.nodup_nil
  live := fun _ _ member => by simp [stubOf, Memory.initial] at member
  accounted := by simp [footprint, stubOf, Memory.initial]
  bounded := Nat.zero_le _

end ProxyServer.Buffers
