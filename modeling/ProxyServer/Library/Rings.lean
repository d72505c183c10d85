import Mathlib

/-! Rings of nodes: each node names the next one, and the one before it. Every node is in exactly
one ring, a node that is linked to nothing in a ring of its own.
A ring is read from one of its nodes on, up to that node again.
-/

namespace Rings

variable {α : Type} {next prev : α → α} {start stop x y : α} {xs ys : List α}

/-- Each direction leads back the other one. -/
structure Inverse (next prev : α → α) : Prop where
  back : ∀ x, prev (next x) = x
  forth : ∀ x, next (prev x) = x

/-- Following `next` from `start` leads through the nodes of a list to `stop`. -/
def Walk (next : α → α) : α → List α → α → Prop
  | start, [], stop => start = stop
  | start, x :: xs, stop => start = x ∧ Walk next (next x) xs stop

/-- A ring, read from one of its nodes on. -/
def Ring (next : α → α) (x : α) (others : List α) : Prop :=
  Walk next (next x) others x

theorem Inverse.symm (inverse : Inverse next prev) : Inverse prev next :=
  ⟨inverse.forth, inverse.back⟩

theorem Inverse.next_eq (inverse : Inverse next prev) : next x = y ↔ x = prev y := by
  constructor
  · rintro rfl
    exact (inverse.back x).symm
  · rintro rfl
    exact inverse.forth y

/-- The first node of a kind that is met on the way determines the walk. -/
theorem Walk.unique {stop' : α} {ends : α → Prop} (left : Walk next start xs stop)
    (right : Walk next start ys stop') (inLeft : ∀ x ∈ xs, ¬ends x) (inRight : ∀ y ∈ ys, ¬ends y)
    (atLeft : ends stop) (atRight : ends stop')
    : xs = ys ∧ stop = stop' := by
  induction xs generalizing start ys with
  | nil =>
      cases ys with
      | nil => exact ⟨rfl, left.symm.trans right⟩
      | cons y ys =>
          have met : stop = y := Eq.trans (Eq.symm left) right.1
          exact absurd (met ▸ atLeft) (inRight y List.mem_cons_self)
  | cons x xs ih =>
      cases ys with
      | nil =>
          have met : stop' = x := Eq.trans (Eq.symm right) left.1
          exact absurd (met ▸ atRight) (inLeft x List.mem_cons_self)
      | cons y ys =>
          obtain rfl := left.1.symm.trans right.1
          obtain ⟨rfl, same⟩ := ih left.2 right.2
            (fun other member => inLeft other (List.mem_cons_of_mem _ member))
            (fun other member => inRight other (List.mem_cons_of_mem _ member))
          exact ⟨rfl, same⟩

/-- A part of a walk. -/
theorem Walk.from_mem {before behind : List α} (walk : Walk next start (before ++ x :: behind) stop)
    : Walk next x (x :: behind) stop := by
  induction before generalizing start with
  | nil => exact ⟨rfl, walk.2⟩
  | cons y before ih => exact ih walk.2

/-- A walk reads the links of its own nodes only. -/
theorem Walk.congr {next' : α → α} (walk : Walk next start xs stop)
    (same : ∀ x ∈ xs, next x = next' x)
    : Walk next' start xs stop := by
  induction xs generalizing start with
  | nil => exact walk
  | cons x xs ih =>
      obtain ⟨rfl, rest⟩ := walk
      refine ⟨rfl, ?_⟩
      rw [← same start List.mem_cons_self]
      exact ih rest (fun y member => same y (List.mem_cons_of_mem _ member))

theorem Ring.congr {next' : α → α} (ring : Ring next x xs) (atStart : next x = next' x)
    (same : ∀ y ∈ xs, next y = next' y)
    : Ring next' x xs := by
  rw [Ring, ← atStart]
  exact Walk.congr ring same

variable [DecidableEq α]

/-- The links when `entry` has been taken out, into a ring of its own. -/
def without (next : α → α) (entry x : α) : α :=
  if x = entry then entry else if next x = entry then next entry else next x

/-- The links when `entry`, alone so far, has been put in front of `head`. -/
def inserted (next : α → α) (head entry x : α) : α :=
  if x = entry then head else if next x = head then entry else next x

variable {entry head : α}

/-- Taking a node out takes it out of a walk, by induction on the walk. -/
theorem Walk.without (walk : Walk next start xs stop) (notStop : stop ≠ entry)
    : Walk (without next entry) (if start = entry then next entry else start)
        (xs.filter (· ≠ entry)) stop := by
  induction xs generalizing start with
  | nil =>
      rw [Walk] at walk
      rw [walk, if_neg notStop]
      rfl
  | cons x xs ih =>
      obtain ⟨rfl, rest⟩ := walk
      have rest' := ih rest
      by_cases same : start = entry
      · subst same
        rw [if_pos rfl, List.filter_cons_of_neg (by simp)]
        rwa [ite_self] at rest'
      · rw [if_neg same, List.filter_cons_of_pos (by simpa using same)]
        refine ⟨rfl, ?_⟩
        rw [Rings.without, if_neg same]
        exact rest'

theorem Ring.without (ring : Ring next x xs) (other : x ≠ entry)
    : Ring (without next entry) x (xs.filter (· ≠ entry)) := by
  have walk := Walk.without ring other
  rw [Ring, Rings.without, if_neg other]
  exact walk

/-- A node is put at the end of the ring of `head`, by induction on the walk. -/
theorem Walk.inserted (walk : Walk next start xs head) (fresh : ∀ x ∈ xs, x ≠ entry ∧ x ≠ head)
    : Walk (inserted next head entry) (if start = head then entry else start) (xs ++ [entry])
        head := by
  induction xs generalizing start with
  | nil =>
      rw [Walk] at walk
      rw [if_pos walk]
      exact ⟨rfl, if_pos rfl⟩
  | cons x xs ih =>
      obtain ⟨rfl, rest⟩ := walk
      obtain ⟨notEntry, notHead⟩ := fresh start List.mem_cons_self
      rw [if_neg notHead]
      refine ⟨rfl, ?_⟩
      rw [Rings.inserted, if_neg notEntry]
      exact ih rest (fun y member => fresh y (List.mem_cons_of_mem _ member))

theorem Ring.inserted (ring : Ring next head xs) (fresh : ∀ x ∈ xs, x ≠ entry ∧ x ≠ head)
    (other : head ≠ entry)
    : Ring (inserted next head entry) head (xs ++ [entry]) := by
  have walk := Walk.inserted ring fresh
  rw [Ring, Rings.inserted, if_neg other]
  exact walk

/-- A node that is put in front of `head` is put into no other ring. -/
theorem Walk.inserted_other (walk : Walk next start xs stop) (notStop : stop ≠ head)
    (apart : ∀ x ∈ xs, x ≠ entry ∧ x ≠ head)
    : Walk (Rings.inserted next head entry) start xs stop ∧ start ≠ head := by
  induction xs generalizing start with
  | nil =>
      rw [Walk] at walk
      exact ⟨walk, walk ▸ notStop⟩
  | cons x xs ih =>
      obtain ⟨rfl, rest⟩ := walk
      obtain ⟨notEntry, notHead⟩ := apart start List.mem_cons_self
      obtain ⟨rest', nextOther⟩ := ih rest (fun y member => apart y (List.mem_cons_of_mem _ member))
      refine ⟨⟨rfl, ?_⟩, notHead⟩
      rw [Rings.inserted, if_neg notEntry, if_neg nextOther]
      exact rest'

theorem Ring.inserted_other (ring : Ring next x xs) (notHead : x ≠ head) (notEntry : x ≠ entry)
    (apart : ∀ y ∈ xs, y ≠ entry ∧ y ≠ head)
    : Ring (Rings.inserted next head entry) x xs := by
  obtain ⟨walk, nextOther⟩ := Walk.inserted_other ring notHead apart
  rw [Ring, Rings.inserted, if_neg notEntry, if_neg nextOther]
  exact walk

/-- Both directions skip a node that is taken out. -/
theorem Inverse.without (inverse : Inverse next prev)
    : Inverse (without next entry) (without prev entry) := by
  have half {next prev : α → α} (inverse : Inverse next prev) (x : α)
      : Rings.without prev entry (Rings.without next entry x) = x := by
    unfold Rings.without
    by_cases own : x = entry
    · simp [own]
    · by_cases before : next x = entry
      · have notOwn : next entry ≠ entry := fun same =>
          own (by rw [inverse.next_eq.mp before, ← inverse.next_eq.mp same])
        rw [if_neg own, if_pos before, if_neg notOwn, if_pos (inverse.back entry)]
        exact (inverse.next_eq.mp before).symm
      · rw [if_neg own, if_neg before, if_neg before, inverse.back x, if_neg own]
  exact ⟨half inverse, half inverse.symm⟩

/-- Both directions lead through a node that is put in. -/
theorem Inverse.inserted (inverse : Inverse next prev) (alone : next entry = entry)
    (other : head ≠ entry)
    : Inverse (inserted next head entry)
        (Function.update (Function.update prev head entry) entry (prev head)) := by
  have alone' : prev entry = entry := by
    rw [← inverse.next_eq.mp alone]
  have lastOther : prev head ≠ entry := by
    intro same
    exact other (by rw [← inverse.forth head, same, alone])
  constructor
  · intro x
    unfold Rings.inserted
    by_cases own : x = entry
    · rw [if_pos own, Function.update_of_ne other, Function.update_self, own]
    · rw [if_neg own]
      by_cases last : next x = head
      · rw [if_pos last, Function.update_self]
        exact (inverse.next_eq.mp last).symm
      · have notEntry : next x ≠ entry := fun same =>
          own (by rw [inverse.next_eq.mp same, alone'])
        rw [if_neg last, Function.update_of_ne notEntry, Function.update_of_ne last,
          inverse.back]
  · intro x
    unfold Rings.inserted
    by_cases own : x = entry
    · rw [own, Function.update_self, if_neg lastOther, if_pos (inverse.forth head)]
    · rw [Function.update_of_ne own]
      by_cases isHead : x = head
      · rw [isHead, Function.update_self, if_pos rfl]
      · have notEntry : prev x ≠ entry := fun same =>
          own (by rw [← inverse.forth x, same, alone])
        rw [Function.update_of_ne isHead, if_neg notEntry, inverse.forth, if_neg isHead]

end Rings
