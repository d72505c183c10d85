import ProxyServer.Buffers.RawCache

/-! Any number of caches on one pool, under any interleaving of `append` and `skip`.
The abstract model is a byte queue for each cache; a run pairs the caches with the queues.
-/

namespace ProxyServer.Buffers
open FaultState

-----------------------------------------------------------------------------------------
-- Caches and queues
-----------------------------------------------------------------------------------------

/-- The caches that share one pool. -/
structure CacheSystem (n : Nat) where
  memory : Memory
  cache : Fin n → RawCache

/-- A call on one of the caches. -/
inductive CacheCall (n : Nat)
  | append (i : Fin n) (data : List UInt8)
  | skip (i : Fin n) (length : Nat)

variable {n : Nat}

def CacheSystem.initial (n : Nat) (cells : Addr → CellStore UInt8) : CacheSystem n where
  memory := Memory.initial cells
  cache := fun _ => RawCache.empty

/-- Runs a program of the pool inside the system. -/
def onPool {α : Type} (program : PoolM α) : StateT (CacheSystem n) (Except Fault) α :=
  fun system => do
    let (value, memory) ← program system.memory
    pure (value, { system with memory := memory })

def setCache (i : Fin n) (cache : RawCache) : StateT (CacheSystem n) (Except Fault) Unit :=
  modify (fun system => { system with cache := Function.update system.cache i cache })

/-- A call, and whether it returned; an `append` that does not return throws. -/
def perform (allocator : Allocator)
    : CacheCall n → StateT (CacheSystem n) (Except Fault) Bool
  | .append i data => do
      let system ← get
      match ← onPool (RawCache.append allocator (system.cache i) data) with
      | none => pure false
      | some cache => do
          setCache i cache
          pure true
  | .skip i length => do
      let system ← get
      setCache i (← onPool (RawCache.skip (system.cache i) length))
      pure true

/-- The bytes a call adds. -/
def CacheCall.added : CacheCall n → Nat
  | .append _ data => data.length
  | .skip _ _ => 0

/-- The cache a call is made on. -/
def CacheCall.target : CacheCall n → Fin n
  | .append i _ => i
  | .skip i _ => i

/-- The abstract effect of a call that returned on its queue. -/
def CacheCall.result : CacheCall n → List UInt8 → List UInt8
  | .append _ data, queue => queue ++ data
  | .skip _ length, queue => queue.drop length

/-- The abstract effect of a call that returned on all queues. -/
def CacheCall.apply (call : CacheCall n) (queues : Fin n → List UInt8) : Fin n → List UInt8 :=
  Function.update queues call.target (call.result (queues call.target))

/-- The bytes buffered in all caches. -/
def buffered (queues : Fin n → List UInt8) : Nat :=
  ∑ i, (queues i).length

/-- Runs of the caches beside their queues, below 1G of buffered bytes. -/
inductive CacheRun (allocator : Allocator) (cells : Addr → CellStore UInt8)
    : CacheSystem n → (Fin n → List UInt8) → Prop
  | start : CacheRun allocator cells (CacheSystem.initial n cells) (fun _ => [])
  | returned {system next : CacheSystem n} {queues : Fin n → List UInt8}
    {call : CacheCall n} (earlier : CacheRun allocator cells system queues)
    (within : buffered queues + call.added < 1073741824)
    (performed : Yields (perform allocator call) system true next)
    : CacheRun allocator cells next (call.apply queues)
  | thrown {system next : CacheSystem n} {queues : Fin n → List UInt8}
    {call : CacheCall n} (earlier : CacheRun allocator cells system queues)
    (within : buffered queues + call.added < 1073741824)
    (performed : Yields (perform allocator call) system false next)
    : CacheRun allocator cells next queues

-----------------------------------------------------------------------------------------
-- The refinement
-----------------------------------------------------------------------------------------

/-- Each cache stores its queue, in a block of its own. -/
structure SystemInvariant (system : CacheSystem n) (queues : Fin n → List UInt8) : Prop where
  pool : PoolInvariant system.memory
  stores : ∀ i, RawCache.Stores system.memory (system.cache i) (queues i)
  apart
    : ∀ i j block, (system.cache i).mem = some block → (system.cache j).mem = some block
      → i = j

theorem length_le_buffered (queues : Fin n → List UInt8) (i : Fin n)
    : (queues i).length ≤ buffered queues :=
  Finset.single_le_sum (f := fun i => (queues i).length) (fun _ _ => Nat.zero_le _)
    (Finset.mem_univ i)

theorem onPool_delivers {α : Type} {program : PoolM α} {system : CacheSystem n}
    {post : α → CacheSystem n → Prop}
    (delivered
      : Delivers program system.memory
          (fun value memory => post value { system with memory := memory }))
    : Delivers (onPool program) system post := by
  obtain ⟨value, memory, run, established⟩ := delivered
  refine ⟨value, { system with memory := memory }, ?_, established⟩
  unfold Yields onPool
  rw [run]
  rfl

/-- An updated cache keeps the system's invariant: its block is its own, old or new. -/
theorem SystemInvariant.update {system : CacheSystem n} {queues : Fin n → List UInt8}
    (invariant : SystemInvariant system queues) {i : Fin n} {queue : List UInt8}
    {after : Memory} {cache : RawCache}
    (updates : RawCache.Updates system.memory (system.cache i) queue after cache)
    : SystemInvariant ⟨after, Function.update system.cache i cache⟩
        (Function.update queues i queue) where
  pool := updates.invariant
  stores := by
    intro j
    by_cases same : j = i
    · subst same
      simp only [Function.update_self]
      exact updates.stores
    · simp only [Function.update_of_ne same]
      refine (invariant.stores j).keep (fun block mine => updates.undisturbed block ?_)
      exact fun other => same (invariant.apart j i block mine other)
  apart := by
    have placed
        : ∀ j ≠ i, ∀ block, (system.cache j).mem = some block → cache.mem ≠ some block := by
      intro j differs block other mine
      rcases updates.placed block mine with old | unheld
      · exact differs (invariant.apart j i block other old)
      · exact unheld _ ((invariant.stores j).held other)
    intro j k block first second
    dsimp only at first second
    rw [Function.update_apply] at first second
    split at first <;> split at second
    · rename_i hj hk; exact hj.trans hk.symm
    · rename_i hj hk; exact (placed k hk block second first).elim
    · rename_i hj hk; exact (placed j hj block first second).elim
    · exact invariant.apart j k block first second

/-- What a call leaves: the queues advanced, or every cache as it was when it threw. -/
def Performed (system : CacheSystem n) (queues : Fin n → List UInt8) (call : CacheCall n)
    (returned : Bool) (next : CacheSystem n) : Prop :=
  if returned then SystemInvariant next (call.apply queues)
  else next.cache = system.cache ∧ SystemInvariant next queues

/-- Every call within the bound runs without a fault and follows the queues. -/
theorem perform_delivers {allocator : Allocator} {system : CacheSystem n}
    {queues : Fin n → List UInt8} (invariant : SystemInvariant system queues)
    (call : CacheCall n) (within : buffered queues + call.added < 1073741824)
    : Delivers (perform allocator call) system (Performed system queues call) := by
  cases call with
  | append i data =>
      have fits := length_le_buffered queues i
      have small : (queues i).length + data.length < 1073741824 := by
        have added : (CacheCall.append i data).added = data.length := rfl
        omega
      refine Delivers.bind (Delivers.get (Delivers.bind (onPool_delivers ?_)))
      have appended : Delivers (RawCache.append allocator (system.cache i) data) _ _ :=
        RawCache.append_delivers invariant.pool (invariant.stores i) small
      refine appended.weaken ?_
      intro result after appends
      cases result with
      | none =>
          obtain ⟨pool, undisturbed⟩ := appends
          refine Delivers.pure ⟨rfl, pool, fun j => ?_, invariant.apart⟩
          exact (invariant.stores j).keep (fun block _ => undisturbed block)
      | some cache => exact Delivers.bind (Delivers.modify (Delivers.pure
          (invariant.update appends)))
  | skip i length =>
      refine Delivers.bind (Delivers.get (Delivers.bind (onPool_delivers ?_)))
      refine (RawCache.skip_delivers invariant.pool (invariant.stores i) length).weaken ?_
      intro cache after updates
      exact Delivers.bind (Delivers.modify (Delivers.pure (invariant.update updates)))

theorem CacheRun.invariant {allocator : Allocator} {cells : Addr → CellStore UInt8}
    {system : CacheSystem n} {queues : Fin n → List UInt8}
    (run : CacheRun allocator cells system queues)
    : SystemInvariant system queues := by
  induction run with
  | start =>
      refine ⟨initial_invariant cells, fun _ => RawCache.Stores.empty, ?_⟩
      intro _ _ _ mine
      simp [CacheSystem.initial, RawCache.empty] at mine
  | returned _ within performed ih =>
      exact (perform_delivers ih _ within).of_yields performed
  | thrown _ within performed ih =>
      exact ((perform_delivers ih _ within).of_yields performed).2

/-- What a run's caches show against their queues. -/
structure Refines (system : CacheSystem n) (queues : Fin n → List UInt8) : Prop where
  bytes : ∀ i, (system.cache i).bytes system.memory = .ok (queues i)
  dataLen : ∀ i, (system.cache i).dataLen = (queues i).length
  unshared
    : ∀ i j block, (system.cache i).mem = some block → (system.cache j).mem = some block
      → i = j
  unlisted
    : ∀ i block size, (system.cache i).mem = some block → block ∉ freeOf system.memory size
  within : ∀ i, (system.cache i).dataHead + (system.cache i).dataLen
      ≤ (system.cache i).blockSize

theorem SystemInvariant.refines {system : CacheSystem n} {queues : Fin n → List UInt8}
    (invariant : SystemInvariant system queues)
    : Refines system queues where
  bytes := fun i => (invariant.stores i).bytes_eq
  dataLen := fun i => (invariant.stores i).dataLen_eq
  unshared := invariant.apart
  unlisted := by
    intro i block size mine listed
    obtain ⟨made, outside⟩ := (invariant.stores i).held mine
    have same := invariant.pool.held_unique made (invariant.pool.owned size block listed)
    rw [same] at outside
    exact outside listed
  within := fun i => (invariant.stores i).within

/-- Caches on one pool are independent byte queues in every run. A further call never
faults, and one that throws leaves every cache and its bytes as they were.
-/
theorem caches_are_queues {allocator : Allocator} {cells : Addr → CellStore UInt8}
    {system : CacheSystem n} {queues : Fin n → List UInt8}
    (run : CacheRun allocator cells system queues)
    : Refines system queues
      ∧ ∀ call : CacheCall n, buffered queues + call.added < 1073741824
        → ∃ returned next, Yields (perform allocator call) system returned next
            ∧ (returned = true → Refines next (call.apply queues))
            ∧ (returned = false → next.cache = system.cache ∧ Refines next queues) := by
  have invariant := run.invariant
  refine ⟨invariant.refines, fun call within => ?_⟩
  have delivered : Delivers (perform allocator call) system _ :=
    perform_delivers invariant call within
  obtain ⟨returned, next, performed, left⟩ := delivered
  refine ⟨returned, next, performed, ?_, ?_⟩
  · rintro rfl
    exact SystemInvariant.refines left
  · rintro rfl
    exact ⟨left.1, left.2.refines⟩

/-- A call adds at most its own bytes to what is buffered. -/
theorem buffered_apply_le (call : CacheCall n) (queues : Fin n → List UInt8)
    : buffered (call.apply queues) ≤ buffered queues + call.added := by
  have each : ∀ i, (call.apply queues i).length
      ≤ (queues i).length + if i = call.target then call.added else 0 := by
    intro i
    rw [CacheCall.apply]
    by_cases same : i = call.target
    · subst same
      rw [Function.update_self, if_pos rfl]
      cases call with
      | append j data => exact Nat.le_of_eq List.length_append
      | skip j length =>
          simp only [CacheCall.result, CacheCall.added, List.length_drop]
          omega
    · rw [Function.update_of_ne same, if_neg same]
      exact Nat.le_refl _
  calc buffered (call.apply queues)
      ≤ ∑ i, ((queues i).length + if i = call.target then call.added else 0) :=
        Finset.sum_le_sum (fun i _ => each i)
    _ = buffered queues + call.added := by
        rw [Finset.sum_add_distrib, Finset.sum_ite_eq', if_pos (Finset.mem_univ _)]
        rfl

/-- Calls that all return, one after the other, go on with a run. -/
theorem CacheRun.calls {allocator : Allocator} {cells : Addr → CellStore UInt8}
    {system next : CacheSystem n} {queues : Fin n → List UInt8} {calls : List (CacheCall n)}
    (run : CacheRun allocator cells system queues)
    (within : buffered queues + (calls.map CacheCall.added).sum < 1073741824)
    {answers : List Bool}
    (performed : Yields (calls.mapM (perform allocator)) system answers next)
    (returned : ∀ answer ∈ answers, answer = true)
    : CacheRun allocator cells next
        (calls.foldl (fun queues call => call.apply queues) queues) := by
  induction calls generalizing system queues answers with
  | nil =>
      rw [List.mapM_nil] at performed
      obtain ⟨-, rfl⟩ := yields_pure.mp performed
      exact run
  | cons call calls ih =>
      rw [List.mapM_cons] at performed
      obtain ⟨answer, middle, performs, rest⟩ := yields_bind.mp performed
      obtain ⟨answers', last, later, ends⟩ := yields_bind.mp rest
      obtain ⟨rfl, rfl⟩ := yields_pure.mp ends
      obtain rfl := returned answer List.mem_cons_self
      rw [List.map_cons, List.sum_cons] at within
      have grown := buffered_apply_le call queues
      refine ih (CacheRun.returned run (by omega) performs) ?_ later
        (fun answer member => returned answer (List.mem_cons_of_mem _ member))
      change buffered (call.apply queues) + _ < 1073741824
      omega

/-- An allocator that places each object above all live ones. -/
def Allocator.above : Allocator where
  pick := fun live _ => live.sup id + 1
  fresh := fun _ _ member => Nat.not_succ_le_self _ (Finset.le_sup (f := id) member)

/-- Two caches in turn: each is appended to, the first is skipped into and appended to again, the
second is emptied and gives its block back.
-/
theorem caches_are_queues_behind_skips
    : ∃ next : CacheSystem 2,
        CacheRun Allocator.above (fun _ _ => 0) next (fun i => if i = 0 then [89, 7] else [])
          ∧ Refines next (fun i => if i = 0 then [89, 7] else [])
          ∧ ∃ returned last,
            Yields (perform Allocator.above (.append 1 [5])) next returned last
              ∧ (returned = true → Refines last (fun i => if i = 0 then [89, 7] else [5])) := by
  let calls : List (CacheCall 2) :=
    [.append 0 [66, 89], .append 1 [1, 2, 3], .skip 0 1, .append 0 [7], .skip 1 3]
  have passed : endsIn (fun answers _ => answers.all id)
      (calls.mapM (perform Allocator.above) (CacheSystem.initial 2 (fun _ _ => 0))) = true := by
    decide +kernel
  obtain ⟨answers, next, performed, returned⟩ := endsIn_run passed
  have left : calls.foldl (fun queues call => call.apply queues) (fun _ => [])
      = fun i => if i = 0 then [89, 7] else [] := by
    decide
  have run := CacheRun.start.calls (by decide) performed
    (fun answer member => List.all_eq_true.mp returned answer member)
  rw [left] at run
  obtain ⟨refines, further⟩ := caches_are_queues run
  obtain ⟨returned, last, appends, after, -⟩ := further (.append 1 [5]) (by decide)
  refine ⟨next, run, refines, returned, last, appends, fun returns => ?_⟩
  have both : (CacheCall.append (1 : Fin 2) [5]).apply (fun i => if i = 0 then [89, 7] else [])
      = fun i => if i = 0 then [89, 7] else [5] := by
    decide
  rw [← both]
  exact after returns

end ProxyServer.Buffers
