import Mathlib

/-! Lists whose nodes name each other: what a chain of links leads through, and what
unlinking a node or putting one in front does to it.
A link is an optional node; the nodes themselves hold the links, so an operation writes to the
neighbours of the node that it moves.
-/

namespace LinkedNodes

variable {α : Type} {next : α → Option α} {start stop : Option α} {xs ys : List α} {x y : α}

-----------------------------------------------------------------------------------------
-- Paths in one direction
-----------------------------------------------------------------------------------------

/-- Following `next` from `start` leads through the nodes of a list and then to `stop`. -/
def Path (next : α → Option α) : Option α → List α → Option α → Prop
  | start, [], stop => start = stop
  | start, x :: xs, stop => start = some x ∧ Path next (next x) xs stop

@[simp] theorem path_nil : Path next start [] stop ↔ start = stop := Iff.rfl

@[simp] theorem path_cons
    : Path next start (x :: xs) stop ↔ start = some x ∧ Path next (next x) xs stop :=
  Iff.rfl

/-- Paths compose at the node where the second one starts. -/
theorem path_append
    : Path next start (xs ++ ys) stop
      ↔ ∃ middle, Path next start xs middle ∧ Path next middle ys stop := by
  induction xs generalizing start with
  | nil => simp
  | cons x xs ih => simp [ih, and_assoc]

/-- A path depends only on the links of its own nodes. -/
theorem Path.congr {next' : α → Option α} (path : Path next start xs stop)
    (agree : ∀ x ∈ xs, next' x = next x)
    : Path next' start xs stop := by
  induction xs generalizing start with
  | nil => exact path
  | cons x xs ih =>
      obtain ⟨first, rest⟩ := path
      refine ⟨first, ?_⟩
      rw [agree x List.mem_cons_self]
      exact ih rest (fun y member => agree y (List.mem_cons_of_mem x member))

theorem Path.start_eq (path : Path next start xs none) : start = xs.head? := by
  cases xs with
  | nil => exact path
  | cons x xs => exact path.1

/-- Links determine the nodes that they lead through. -/
theorem Path.unique (left : Path next start xs none) (right : Path next start ys none)
    : xs = ys := by
  induction xs generalizing start ys with
  | nil =>
      have ended := right.start_eq
      rw [show start = none from left] at ended
      exact (List.head?_eq_none_iff.mp ended.symm).symm
  | cons x xs ih =>
      cases ys with
      | nil => exact absurd (left.1.symm.trans right) (by simp)
      | cons y ys =>
          obtain rfl : x = y := Option.some.inj (left.1.symm.trans right.1)
          exact congrArg (x :: ·) (ih left.2 right.2)

/-- A path that ends meets no node twice: from both places it would lead on alike. -/
theorem Path.nodup (path : Path next start xs none) : xs.Nodup := by
  induction xs generalizing start with
  | nil => exact List.nodup_nil
  | cons x xs ih =>
      obtain ⟨-, rest⟩ := path
      refine List.nodup_cons.mpr ⟨?_, ih rest⟩
      intro again
      obtain ⟨before, behind, rfl⟩ := List.append_of_mem again
      obtain ⟨_, _, -, onward⟩ := path_append.mp rest
      have same := congrArg List.length (rest.unique onward)
      simp at same
      omega

-----------------------------------------------------------------------------------------
-- Lists linked in both directions
-----------------------------------------------------------------------------------------

/-- The links of a list: two for each node, and the two ends. -/
structure Links (α : Type) where
  next : α → Option α
  prev : α → Option α
  head : Option α
  tail : Option α

namespace Links

/-- The same links, read from the other end. -/
def reverse (links : Links α) : Links α :=
  { next := links.prev, prev := links.next, head := links.tail, tail := links.head }

end Links

/-- The links lead through a list, forward and backward. -/
structure Linked (links : Links α) (xs : List α) : Prop where
  forward : Path links.next links.head xs none
  backward : Path links.prev links.tail xs.reverse none

namespace Linked

variable {links : Links α}

theorem reverse (linked : Linked links xs) : Linked links.reverse xs.reverse :=
  ⟨linked.backward, by rw [List.reverse_reverse]; exact linked.forward⟩

theorem nodup (linked : Linked links xs) : xs.Nodup := linked.forward.nodup

theorem head_eq (linked : Linked links xs) : links.head = xs.head? :=
  linked.forward.start_eq

theorem tail_eq (linked : Linked links xs) : links.tail = xs.getLast? := by
  rw [linked.backward.start_eq, List.head?_reverse]

/-- A node names the one behind it. -/
theorem next_eq {before behind : List α} (linked : Linked links (before ++ x :: behind))
    : links.next x = behind.head? := by
  obtain ⟨_, -, -, trailing⟩ := path_append.mp linked.forward
  exact trailing.start_eq

/-- A node names the one before it. -/
theorem prev_eq {before behind : List α} (linked : Linked links (before ++ x :: behind))
    : links.prev x = before.getLast? := by
  have mirrored := linked.reverse
  rw [List.reverse_append, List.reverse_cons, List.append_assoc] at mirrored
  rw [← List.head?_reverse]
  exact mirrored.next_eq

theorem next_mem (linked : Linked links xs) (member : x ∈ xs) (link : links.next x = some y)
    : y ∈ xs := by
  obtain ⟨before, behind, rfl⟩ := List.append_of_mem member
  rw [linked.next_eq] at link
  have first := List.mem_of_mem_head? link
  exact List.mem_append_right _ (List.mem_cons_of_mem _ first)

theorem prev_mem (linked : Linked links xs) (member : x ∈ xs) (link : links.prev x = some y)
    : y ∈ xs := by
  rw [← List.mem_reverse] at member ⊢
  exact linked.reverse.next_mem member link

/-- Other links that agree on the nodes and at the ends lead through the same list. -/
theorem congr {others : Links α} (linked : Linked links xs)
    (next : ∀ x ∈ xs, others.next x = links.next x)
    (prev : ∀ x ∈ xs, others.prev x = links.prev x)
    (head : others.head = links.head) (tail : others.tail = links.tail)
    : Linked others xs where
  forward := head ▸ linked.forward.congr next
  backward :=
    tail ▸ linked.backward.congr (fun x member => prev x (List.mem_reverse.mp member))

end Linked

-----------------------------------------------------------------------------------------
-- Unlinking a node, and putting one in front
-----------------------------------------------------------------------------------------

variable [DecidableEq α]

/-- What the links of one direction become when `x`, behind `before`, is unlinked. -/
def skipped (next : α → Option α) (before : Option α) (x : α) : α → Option α :=
  Function.update
    (match before with
      | some last => Function.update next last (next x)
      | none => next)
    x none

theorem skipped_of_ne {before : Option α} (other : y ≠ x) (apart : before ≠ some y)
    : skipped next before x y = next y := by
  unfold skipped
  rw [Function.update_of_ne other]
  cases before with
  | none => rfl
  | some last =>
      exact Function.update_of_ne (fun same => apart (congrArg some same.symm)) _ _

/-- Without `x` the path leads through the rest: from the node before it, or from the start. -/
theorem Path.skip {before behind : List α}
    (path : Path next start (before ++ x :: behind) none)
    : Path (skipped next before.getLast? x) (if start = some x then next x else start)
        (before ++ behind) none := by
  have nodup := path.nodup
  obtain ⟨_, leading, rfl, trailing⟩ := path_append.mp path
  obtain rfl | ⟨earlier, last, rfl⟩ := List.eq_nil_or_concat before
  · have first : start = some x := leading
    rw [if_pos first]
    refine trailing.congr ?_
    rintro y member
    have other : y ≠ x := by
      rintro rfl
      exact (List.nodup_cons.mp nodup).1 member
    exact skipped_of_ne other (by simp)
  · rw [List.concat_eq_append] at nodup path leading ⊢
    simp only [List.nodup_append, List.nodup_cons, List.mem_append, List.mem_cons,
      List.not_mem_nil, or_false] at nodup
    obtain ⟨middle, upTo, rfl, link⟩ := path_append.mp leading
    have notFirst : start ≠ some x := by
      rw [path.start_eq]
      cases earlier with
      | nil => simpa using nodup.2.2 last (Or.inr rfl) x (Or.inl rfl)
      | cons y _ => simpa using nodup.2.2 y (Or.inl List.mem_cons_self) x (Or.inl rfl)
    have distinct : last ≠ x := nodup.2.2 last (Or.inr rfl) x (Or.inl rfl)
    rw [if_neg notFirst, List.getLast?_concat, List.append_assoc]
    refine path_append.mpr ⟨some last, upTo.congr ?_, rfl, ?_⟩
    · intro y member
      have other := nodup.2.2 y (Or.inl member) x (Or.inl rfl)
      have apart := nodup.1.2.2 y member last rfl
      exact skipped_of_ne other (fun same => apart (Option.some.inj same).symm)
    · have jumped : skipped next (some last) x last = next x := by
        simp [skipped, Function.update_of_ne distinct]
      rw [jumped]
      refine trailing.congr ?_
      intro y member
      have other : y ≠ x := by
        rintro rfl
        exact nodup.2.1.1 member
      have apart := nodup.2.2 last (Or.inr rfl) y (Or.inr member)
      exact skipped_of_ne other (fun same => apart (Option.some.inj same))

namespace Links

/-- Unlinks a node: its neighbours name each other, and it names no node. -/
def detach (links : Links α) (x : α) : Links α where
  next := skipped links.next (links.prev x) x
  prev := skipped links.prev (links.next x) x
  head := if links.head = some x then links.next x else links.head
  tail := if links.tail = some x then links.prev x else links.tail

/-- Puts a node before the first one. -/
def pushFront (links : Links α) (x : α) : Links α where
  next := Function.update links.next x links.head
  prev :=
    match links.head with
    | some first => Function.update (Function.update links.prev x none) first (some x)
    | none => Function.update links.prev x none
  head := some x
  tail := if links.tail = none then some x else links.tail

theorem reverse_detach (links : Links α) (x : α)
    : (links.detach x).reverse = links.reverse.detach x :=
  rfl

end Links

namespace Linked

variable {links : Links α}

theorem detach_forward (linked : Linked links xs) (member : x ∈ xs)
    : Path (links.detach x).next (links.detach x).head (xs.erase x) none := by
  have nodup := linked.nodup
  obtain ⟨before, behind, rfl⟩ := List.append_of_mem member
  have apart : x ∉ before := by
    intro earlier
    exact (List.nodup_append.mp nodup).2.2 x earlier x List.mem_cons_self rfl
  rw [List.erase_append_right _ apart, List.erase_cons_head]
  simp only [Links.detach, linked.prev_eq]
  exact linked.forward.skip

/-- Unlinking a node leaves the others in their order. -/
theorem detach (linked : Linked links xs) (member : x ∈ xs)
    : Linked (links.detach x) (xs.erase x) where
  forward := linked.detach_forward member
  backward := by
    have mirrored := linked.reverse.detach_forward (List.mem_reverse.mpr member)
    rw [← Links.reverse_detach] at mirrored
    rw [linked.nodup.erase_eq_filter, ← List.filter_reverse]
    rwa [(List.nodup_reverse.mpr linked.nodup).erase_eq_filter] at mirrored

/-- Unlinking writes to nodes of the list only. -/
theorem detach_frame (linked : Linked links xs) (member : x ∈ xs) (outside : y ∉ xs)
    : (links.detach x).next y = links.next y ∧ (links.detach x).prev y = links.prev y := by
  have other : y ≠ x := by
    rintro rfl
    exact outside member
  exact ⟨
    skipped_of_ne other (fun link => outside (linked.prev_mem member link)),
    skipped_of_ne other (fun link => outside (linked.next_mem member link))
  ⟩

theorem pushFront (linked : Linked links xs) (outside : x ∉ xs)
    : Linked (links.pushFront x) (x :: xs) where
  forward := by
    refine ⟨rfl, ?_⟩
    simp only [Links.pushFront, Function.update_self]
    refine linked.forward.congr ?_
    intro y member
    have other : y ≠ x := by
      rintro rfl
      exact outside member
    exact Function.update_of_ne other _ _
  backward := by
    rw [List.reverse_cons]
    cases xs with
    | nil =>
        have head := linked.head_eq
        have tail := linked.tail_eq
        simp only [List.head?_nil, List.getLast?_nil] at head tail
        simp [Links.pushFront, head, tail]
    | cons first rest =>
        have head : links.head = some first := linked.head_eq
        have tail : links.tail ≠ none := by
          rw [linked.tail_eq]
          simp
        have backward := linked.backward
        have nodup := linked.nodup
        simp only [List.mem_cons, not_or] at outside
        simp only [List.reverse_cons, Links.pushFront, head, if_neg tail] at backward ⊢
        obtain ⟨_, leading, rfl, last⟩ := path_append.mp backward
        rw [List.append_assoc]
        refine path_append.mpr ⟨some first, leading.congr ?_, rfl, ?_⟩
        · intro y member
          have inRest := List.mem_reverse.mp member
          have notFirst : y ≠ first := by
            rintro rfl
            exact (List.nodup_cons.mp nodup).1 inRest
          have notNew : y ≠ x := by
            rintro rfl
            exact outside.2 inRest
          rw [Function.update_of_ne notFirst, Function.update_of_ne notNew]
        · simp [Function.update_of_ne outside.1]

/-- Putting a node in front writes to it and to nodes of the list only. -/
theorem pushFront_frame (linked : Linked links xs) (other : y ≠ x) (outside : y ∉ xs)
    : (links.pushFront x).next y = links.next y
      ∧ (links.pushFront x).prev y = links.prev y := by
  refine ⟨Function.update_of_ne other _ _, ?_⟩
  unfold Links.pushFront
  rcases head : links.head with _ | first
  · simp [Function.update_of_ne other]
  · have member : first ∈ xs := List.mem_of_mem_head? (linked.head_eq ▸ head)
    have notFirst : y ≠ first := by
      rintro rfl
      exact outside member
    simp [Function.update_of_ne notFirst, Function.update_of_ne other]

end Linked

end LinkedNodes
