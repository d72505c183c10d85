import Mathlib

/-! Block reads and writes on an unbounded store of cells.
A store is total, so a bounded buffer keeps its own length and checks its own offsets.
-/

/-- Cells addressed by natural offsets. -/
abbrev CellStore (α : Type) := Nat → α

namespace CellStore

variable {α : Type}

/-- The `count` cells from `offset` on. -/
def read (store : CellStore α) (offset count : Nat) : List α :=
  (List.range count).map (fun i => store (offset + i))

/-- Overwrites the cells from `offset` on with `cells`. -/
def write (store : CellStore α) (offset : Nat) (cells : List α) : CellStore α :=
  fun i => if offset ≤ i then cells[i - offset]?.getD (store i) else store i

@[simp]
theorem length_read (store : CellStore α) (offset count : Nat)
    : (store.read offset count).length = count := by
  simp [read]

@[simp]
theorem read_zero (store : CellStore α) (offset : Nat) : store.read offset 0 = [] := rfl

@[simp]
theorem getElem_read (store : CellStore α) (offset count i : Nat)
    (bound : i < (store.read offset count).length)
    : (store.read offset count)[i] = store (offset + i) := by
  simp [read]

theorem read_succ (store : CellStore α) (offset count : Nat)
    : store.read offset (count + 1) = store offset :: store.read (offset + 1) count := by
  simp only [read, List.range_succ_eq_map, List.map_cons, List.map_map, Nat.add_zero]
  congr 1
  exact List.map_congr_left (fun i _ => congrArg store (by simp only [Nat.succ_eq_add_one]; omega))

/-- A read splits at any point, by comparing the cells. -/
theorem read_add (store : CellStore α) (offset front back : Nat)
    : store.read offset (front + back)
      = store.read offset front ++ store.read (offset + front) back := by
  simp only [read, List.range_add, List.map_append, List.map_map]
  congr 1
  exact List.map_congr_left (fun i _ => congrArg store (Nat.add_assoc _ _ _).symm)

/-- A read singles out any of its cells. -/
theorem read_around (store : CellStore α) (offset front back : Nat)
    : store.read offset (front + (back + 1))
      = store.read offset front
        ++ store (offset + front) :: store.read (offset + front + 1) back := by
  rw [read_add, read_succ]

/-- Reads agree when the stores agree on the cells read. -/
theorem read_congr {left right : CellStore α} {offset offset' count : Nat}
    (same : ∀ i < count, left (offset + i) = right (offset' + i))
    : left.read offset count = right.read offset' count :=
  List.map_congr_left (fun i member => same i (List.mem_range.mp member))

/-- Stores whose reads agree agree on the cells read. -/
theorem apply_eq_of_read {left right : CellStore α} {offset count i : Nat}
    (same : left.read offset count = right.read offset count) (bound : i < count)
    : left (offset + i) = right (offset + i) := by
  have cells := congrArg (fun cells => cells[i]?) same
  simpa [read, bound] using cells

theorem take_read (store : CellStore α) (offset count shorter : Nat)
    (le : shorter ≤ count)
    : (store.read offset count).take shorter = store.read offset shorter := by
  obtain ⟨rest, rfl⟩ := Nat.exists_eq_add_of_le le
  rw [read_add, List.take_append_of_le_length (by simp), List.take_of_length_le (by simp)]

theorem drop_read (store : CellStore α) (offset count skipped : Nat)
    (le : skipped ≤ count)
    : (store.read offset count).drop skipped
      = store.read (offset + skipped) (count - skipped) := by
  obtain ⟨rest, rfl⟩ := Nat.exists_eq_add_of_le le
  rw [read_add, List.drop_left' (by simp), Nat.add_sub_cancel_left]

/-- A cell outside the written block keeps its value. -/
theorem write_apply_outside (store : CellStore α) {offset i : Nat} {cells : List α}
    (outside : i < offset ∨ offset + cells.length ≤ i)
    : store.write offset cells i = store i := by
  unfold write
  split
  · rw [List.getElem?_eq_none (by omega), Option.getD_none]
  · rfl

theorem write_apply_inside (store : CellStore α) {offset i : Nat} {cells : List α}
    (bound : i < cells.length)
    : store.write offset cells (offset + i) = cells[i] := by
  simp [write, bound]

/-- Writing a block cell by cell, front first. -/
theorem write_cons (store : CellStore α) (offset : Nat) (head : α) (tail : List α)
    : (store.write offset [head]).write (offset + 1) tail
      = store.write offset (head :: tail) := by
  funext i
  simp only [write]
  rcases Nat.lt_trichotomy i offset with before | rfl | after
  · rw [if_neg (by omega), if_neg (by omega), if_neg (by omega)]
  · simp
  · obtain ⟨k, rfl⟩ := Nat.exists_eq_add_of_lt after
    have past : offset + k + 1 - offset = k + 1 := by omega
    have next : offset + k + 1 - (offset + 1) = k := by omega
    rw [if_pos (by omega), if_pos (by omega), if_pos (by omega), past, next]
    simp

/-- Reading back a written block returns it. -/
@[simp]
theorem read_write_self (store : CellStore α) (offset : Nat) (cells : List α)
    : (store.write offset cells).read offset cells.length = cells := by
  apply List.ext_getElem (by simp)
  intro i _ bound
  rw [getElem_read, write_apply_inside store bound]

/-- A block disjoint from the written one reads as before. -/
theorem read_write_disjoint (store : CellStore α) {offset start count : Nat}
    {cells : List α}
    (disjoint : start + count ≤ offset ∨ offset + cells.length ≤ start)
    : (store.write offset cells).read start count = store.read start count :=
  read_congr (fun i bound => write_apply_outside store (by omega))

/-- Appending at the end of a read block extends the block by the written cells. -/
theorem read_write_append (store : CellStore α) (offset count : Nat) (cells : List α)
    : (store.write (offset + count) cells).read offset (count + cells.length)
      = store.read offset count ++ cells := by
  rw [read_add, read_write_self, read_write_disjoint store (Or.inl (Nat.le_refl _))]

end CellStore
