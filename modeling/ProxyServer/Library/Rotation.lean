import Mathlib

/-! Counters that go round: each step advances by one, and the last position is followed by the
first. A counter that has left the positions starts over.
-/

namespace Rotation

variable {count : Nat}

/-- The position behind the given one, among `count` positions. -/
def advance (count : Nat) (position : Int) : Int :=
  if position < (count : Int) - 1 ∧ 0 ≤ position then position + 1 else 0

/-- What `advance` makes of a counter it makes of the position that the counter stands for. -/
def standing (count : Nat) (position : Int) : Nat :=
  if position < (count : Int) - 1 ∧ 0 ≤ position then position.toNat else count - 1

theorem advance_eq (position : Int) (some : 0 < count)
    : advance count position = ((standing count position + 1) % count : Nat) := by
  rw [advance, standing]
  split
  · rename_i inside
    rw [Nat.mod_eq_of_lt (by omega)]
    omega
  · rw [Nat.sub_add_cancel some, Nat.mod_self]
    rfl

theorem advance_inside (position : Int) (some : 0 < count)
    : 0 ≤ advance count position ∧ (advance count position).toNat < count := by
  rw [advance_eq position some, Int.toNat_natCast]
  exact ⟨Int.natCast_nonneg _, Nat.mod_lt _ some⟩

/-- A position stands for itself. -/
theorem standing_of_inside {position : Nat} (inside : position < count)
    : standing count position = position := by
  rw [standing]
  split
  · exact Int.toNat_natCast _
  · omega

/-- The positions of some steps, from a counter on. -/
def positions (count : Nat) : Nat → Int → List Nat
  | 0, _ => []
  | steps + 1, position =>
      (advance count position).toNat :: positions count steps (advance count position)

/-- The positions go on one by one, by induction on the steps. -/
theorem positions_eq (some : 0 < count) (steps : Nat) (position : Int)
    : positions count steps position
      = (List.range steps).map (fun step => (standing count position + 1 + step) % count) := by
  induction steps generalizing position with
  | zero => rfl
  | succ steps ih =>
      have inside : (standing count position + 1) % count < count := Nat.mod_lt _ some
      rw [positions, ih, advance_eq position some, Int.toNat_natCast,
        standing_of_inside inside, List.range_succ_eq_map, List.map_cons, List.map_map]
      refine congrArg (_ :: ·) (List.map_congr_left (fun step _ => ?_))
      change ((standing count position + 1) % count + 1 + step) % count
        = (standing count position + 1 + (step + 1)) % count
      rw [Nat.add_assoc, Nat.mod_add_mod, Nat.add_comm 1 step]

/-- In as many steps as there are positions, each position comes once. -/
theorem positions_perm (some : 0 < count) (position : Int)
    : (positions count count position).Perm (List.range count) := by
  have rotated : positions count count position
      = (List.range count).rotate (standing count position + 1) := by
    rw [positions_eq some]
    apply List.ext_getElem
    · rw [List.length_map, List.length_rotate]
    · intro step _ _
      rw [List.getElem_map, List.getElem_range, List.getElem_rotate, List.getElem_range,
        List.length_range, Nat.add_comm]
  exact rotated ▸ List.rotate_perm _ _

end Rotation
