import ProxyServer.HashMap.NodeLists

/-! The additional list: what unlinking a node and moving one to its head do.
A node outside the list names no neighbour and is neither end, so the four conditions of
`delete_from_add_list` tell it from every node of the list.
-/

namespace ProxyServer.HashMap

open Function (update update_self update_of_ne)
open LinkedNodes

variable {Key σ η : Type} {map : HashMap Key σ η} {recent : List Nat} {node : Nat}

/-- The links of the additional list. -/
def addLinks (map : HashMap Key σ η) : Links Nat :=
  { next := map.addNext, prev := map.addPrev, head := map.addHead, tail := map.addTail }

def withAddLinks (map : HashMap Key σ η) (links : Links Nat) : HashMap Key σ η :=
  {
    map with
    addNext := links.next
    addPrev := links.prev
    addHead := links.head
    addTail := links.tail
  }

/-- The additional list leads through these nodes, and the others name none. -/
structure AddList (map : HashMap Key σ η) (recent : List Nat) : Prop where
  linked : Linked map.addLinks recent
  loose
    : ∀ node < map.nodeTotal, node ∉ recent → map.addNext node = none ∧ map.addPrev node = none

-----------------------------------------------------------------------------------------
-- What the functions link
-----------------------------------------------------------------------------------------

theorem deleteFromAddList_eq (map : HashMap Key σ η) (node : Nat)
    : map.deleteFromAddList node
      = if map.addNext node = none ∧ map.addPrev node = none
            ∧ map.addHead ≠ some node ∧ map.addTail ≠ some node then
          map
        else map.withAddLinks (map.addLinks.detach node) := by
  rcases next : map.addNext node with _ | nextNode <;>
    rcases prev : map.addPrev node with _ | prevNode <;>
    by_cases first : map.addHead = some node <;>
    by_cases last : map.addTail = some node <;>
    simp [deleteFromAddList, withAddLinks, addLinks, Links.detach, skipped, next, prev, first,
      last]

theorem insertAddListHead_eq (map : HashMap Key σ η) (node : Nat)
    : map.insertAddListHead node
      = (map.deleteFromAddList node).withAddLinks
          ((map.deleteFromAddList node).addLinks.pushFront node) := by
  unfold insertAddListHead
  generalize map.deleteFromAddList node = map
  rcases first : map.addHead with _ | firstNode <;>
    by_cases last : map.addTail = none <;>
    simp [withAddLinks, addLinks, Links.pushFront, first, last]

-----------------------------------------------------------------------------------------
-- What becomes of the list
-----------------------------------------------------------------------------------------

namespace AddList

theorem member_listed (added : AddList map recent) (member : node ∈ recent)
    : ¬(map.addNext node = none ∧ map.addPrev node = none
        ∧ map.addHead ≠ some node ∧ map.addTail ≠ some node) := by
  rintro ⟨next, prev, first, -⟩
  have linked := added.linked
  obtain ⟨before, behind, rfl⟩ := List.append_of_mem member
  -- a node without neighbours is the whole list, so it is the head
  obtain rfl : behind = [] := List.head?_eq_none_iff.mp (linked.next_eq.symm.trans next)
  obtain rfl : before = [] := List.getLast?_eq_none_iff.mp (linked.prev_eq.symm.trans prev)
  exact first linked.head_eq

theorem outside_unlisted (added : AddList map recent) (within : node < map.nodeTotal)
    (outside : node ∉ recent)
    : map.addNext node = none ∧ map.addPrev node = none
      ∧ map.addHead ≠ some node ∧ map.addTail ≠ some node := by
  obtain ⟨next, prev⟩ := added.loose node within outside
  refine ⟨next, prev, ?_, ?_⟩
  · intro first
    exact outside (List.mem_of_mem_head? (added.linked.head_eq ▸ first))
  · intro last
    exact outside (List.mem_of_getLast? (added.linked.tail_eq ▸ last))

/-- Unlinking a node removes it from the list, or changes nothing. -/
theorem deleteFromAddList (added : AddList map recent) (within : node < map.nodeTotal)
    : AddList (map.deleteFromAddList node) (recent.erase node) := by
  rw [deleteFromAddList_eq]
  by_cases member : node ∈ recent
  · rw [if_neg (added.member_listed member)]
    refine ⟨added.linked.detach member, ?_⟩
    intro other withinOther outside
    by_cases same : other = node
    · subst same
      exact ⟨update_self .., update_self ..⟩
    · have elsewhere : other ∉ recent :=
        fun kept => outside ((List.mem_erase_of_ne same).mpr kept)
      obtain ⟨next, prev⟩ := added.linked.detach_frame member elsewhere
      obtain ⟨noNext, noPrev⟩ := added.loose other withinOther elsewhere
      exact ⟨next.trans noNext, prev.trans noPrev⟩
  · rw [if_pos (added.outside_unlisted within member), List.erase_of_not_mem member]
    exact added

/-- A node moves to the head of the list, wherever it was. -/
theorem insertAddListHead (added : AddList map recent) (within : node < map.nodeTotal)
    : AddList (map.insertAddListHead node) (node :: recent.erase node) := by
  rw [insertAddListHead_eq]
  have removed := added.deleteFromAddList within
  have total : (map.deleteFromAddList node).nodeTotal = map.nodeTotal := by
    rw [deleteFromAddList_eq]
    split <;> rfl
  have apart : node ∉ recent.erase node := added.linked.nodup.not_mem_erase
  generalize map.deleteFromAddList node = map' at removed total
  refine ⟨removed.linked.pushFront apart, ?_⟩
  intro other withinOther outside
  obtain ⟨differs, elsewhere⟩ := List.ne_and_not_mem_of_not_mem_cons outside
  obtain ⟨next, prev⟩ := removed.linked.pushFront_frame differs elsewhere
  obtain ⟨noNext, noPrev⟩ := removed.loose other withinOther elsewhere
  exact ⟨next.trans noNext, prev.trans noPrev⟩

end AddList

end ProxyServer.HashMap
