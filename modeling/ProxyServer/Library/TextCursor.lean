import Mathlib

/-! Reading a text from a position on: what is left behind a segment, how far a run of equal kind
goes, and where a pattern occurs first.
-/

namespace TextCursor

variable {α : Type} {text front rest : List α} {position : Nat}

/-- What is left behind a segment. -/
theorem drop_past (left : text.drop position = front ++ rest)
    : text.drop (position + front.length) = rest := by
  rw [← List.drop_drop, left, List.drop_left]

theorem drop_next {first : α} (left : text.drop position = first :: rest)
    : text.drop (position + 1) = rest := by
  rw [← List.drop_drop, left, List.drop_one, List.tail_cons]

theorem length_le_of_drop (left : text.drop position = front ++ rest)
    : front.length + rest.length ≤ text.length := by
  have length := congrArg List.length left
  rw [List.length_drop, List.length_append] at length
  omega

theorem getD_of_drop {first : α} (left : text.drop position = first :: rest) (default : α)
    : text.getD position default = first := by
  have here : (text.drop position).head? = some first := by
    rw [left]
    rfl
  rw [List.head?_drop] at here
  rw [List.getD_eq_getElem?_getD, here, Option.getD_some]

/-- A run of a kind ends where the kind does. -/
theorem takeWhile_run {kind : α → Bool} {stop : α} (run : ∀ item ∈ front, kind item = true)
    (ends : kind stop = false)
    : (front ++ stop :: rest).takeWhile kind = front := by
  rw [List.takeWhile_append_of_pos run, List.takeWhile_cons_of_neg (by rw [ends]; simp),
    List.append_nil]

section Patterns

variable [DecidableEq α]

/-- The first position at which a pattern occurs. -/
def firstAt (pattern : List α) : List α → Option Nat
  | [] => if pattern = [] then some 0 else none
  | item :: rest =>
      if pattern <+: item :: rest then some 0 else (firstAt pattern rest).map (· + 1)

/-- The pattern ends this text, and occurs nowhere before. -/
def Closes (pattern : List α) (text : List α) : Prop :=
  ∃ front, text = front ++ pattern ∧ firstAt pattern text = some front.length

theorem firstAt_le {pattern : List α} {found : Nat} (first : firstAt pattern text = some found)
    : found + pattern.length ≤ text.length := by
  induction text generalizing found with
  | nil =>
      rw [firstAt] at first
      split at first
      · rename_i empty
        cases first
        rw [empty]
        exact Nat.le_refl _
      · cases first
  | cons item rest ih =>
      rw [firstAt] at first
      split at first
      · rename_i here
        cases first
        rw [Nat.zero_add]
        exact here.length_le
      · obtain ⟨found', later, rfl⟩ := Option.map_eq_some_iff.mp first
        have bound := ih later
        rw [List.length_cons]
        omega

/-- The first occurrence stays the first one when more follows. -/
theorem firstAt_append {pattern : List α} {found : Nat}
    (first : firstAt pattern text = some found) (more : List α)
    : firstAt pattern (text ++ more) = some found := by
  induction text generalizing found with
  | nil =>
      rw [firstAt] at first
      split at first
      · rename_i empty
        cases first
        rw [empty]
        cases more with
        | nil => rfl
        | cons item rest => exact if_pos List.nil_prefix
      · cases first
  | cons item rest ih =>
      rw [firstAt] at first
      rw [List.cons_append, firstAt, ← List.cons_append]
      split at first
      · rename_i here
        rw [if_pos (here.trans (List.prefix_append (item :: rest) more))]
        exact first
      · rename_i absent
        obtain ⟨found', later, rfl⟩ := Option.map_eq_some_iff.mp first
        have short := firstAt_le later
        have still : ¬pattern <+: (item :: rest) ++ more := by
          intro here
          refine absurd (List.prefix_of_prefix_length_le here (List.prefix_append _ more) ?_) absent
          rw [List.length_cons]
          omega
        rw [if_neg still, ih later, Option.map_some]

end Patterns

end TextCursor
