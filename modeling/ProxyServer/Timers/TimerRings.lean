import ProxyServer.Library.Rings
import ProxyServer.Timers.CheckExpired

/-! The rings behind the timer lists: `list_head` inside the lists and the objects, and the
functions of `CListObject` that write to it. Whatever the timers do, the rings of the objects that
have been constructed hold the lists; what other memory holds is never read.
-/

namespace ProxyServer.Timers

open Rings

/-- A `list_head`: the one inside a `CTimerList`, or the one inside a `CTimerObject`. -/
abbrev ListHead := TimerListId ⊕ TimerObject

/-- The `next` and `prev` of every `list_head`. -/
structure ListLinks where
  next : ListHead → ListHead
  prev : ListHead → ListHead

namespace ListLinks

/-- `INIT_LIST_HEAD`. -/
def initListHead (ptr : ListHead) (links : ListLinks) : ListLinks where
  next := Function.update links.next ptr ptr
  prev := Function.update links.prev ptr ptr

/-- `__list_del`. -/
def listDelBetween (prev next : ListHead) (links : ListLinks) : ListLinks where
  prev := Function.update links.prev next prev
  next := Function.update links.next prev next

/-- `__list_add`. -/
def listAddBetween (p prev next : ListHead) (links : ListLinks) : ListLinks where
  prev := Function.update (Function.update links.prev next p) p prev
  next := Function.update (Function.update links.next p next) prev p

/-- `list_del_init`. -/
def listDelInit (entry : ListHead) (links : ListLinks) : ListLinks :=
  (links.listDelBetween (links.prev entry) (links.next entry)).initListHead entry

/-- `list_add_tail`. -/
def listAddTail (p head : ListHead) (links : ListLinks) : ListLinks :=
  links.listAddBetween p (links.prev head) head

/-- `list_move_tail`. -/
def listMoveTail (list head : ListHead) (links : ListLinks) : ListLinks :=
  (links.listDelBetween (links.prev list) (links.next list)).listAddTail list head

/-- `list_empty`. -/
def listEmpty (head : ListHead) (links : ListLinks) : Bool :=
  links.next head = head

/-- The loop of `FreeList`. -/
def freeList (head : ListHead) : Nat → ListLinks → Option ListLinks
  | 0, _ => none
  | fuel + 1, links =>
      if links.listEmpty head then some links
      else freeList head fuel (links.listDelInit (links.next head))

end ListLinks

/-- The timers with the rings in the place of the lists. -/
structure TimerRings where
  timeout : TimerListId → Int32
  links : ListLinks
  objexp : TimerObject → Int
  clock : Timestamp

namespace TimerRings

/-- Every list is empty. No object is constructed, and where it will be there is any memory. -/
def initial (timeout : TimerListId → Int32) (memory : ListLinks) (objexp : TimerObject → Int)
    (clock : Timestamp)
    : TimerRings :=
  {
    timeout
    links := {
      next := Sum.elim Sum.inl (fun obj => memory.next (.inr obj))
      prev := Sum.elim Sum.inl (fun obj => memory.prev (.inr obj))
    }
    objexp
    clock
  }

/-- `ResetList` and `ListDel`, `DisableTimer`, and what `~CListObject` does. -/
def resetList (rings : TimerRings) (obj : TimerObject) : TimerRings :=
  { rings with links := rings.links.listDelInit (.inr obj) }

/-- `CTimerObject()`: `InitList`. -/
def create (rings : TimerRings) (obj : TimerObject) (garbage : Int) : TimerRings :=
  {
    rings with
    links := rings.links.initListHead (.inr obj)
    objexp := Function.update rings.objexp obj garbage
  }

/-- `AttachTimer`. -/
def attachTimer (rings : TimerRings) (obj : TimerObject) (lst : TimerListId) : TimerRings :=
  let armed :=
    if 0 < (rings.timeout lst).toInt then
      {
        rings with
        objexp := Function.update rings.objexp obj
          (toInt64 (rings.clock.val + (rings.timeout lst).toInt * 1000000))
      }
    else
      rings
  { armed with links := armed.links.listMoveTail (.inr obj) (.inl lst) }

def perform (rings : TimerRings) : TimerOp → TimerRings
  | .pass reading => { rings with clock := reading }
  | .create obj garbage => rings.create obj garbage
  | .attachTimer obj lst => rings.attachTimer obj lst
  | .disableTimer obj => rings.resetList obj
  | .destroy obj => rings.resetList obj

def performAll (rings : TimerRings) (ops : List TimerOp) : TimerRings :=
  ops.foldl perform rings

/-- The object that `NextOwner` of a list gives, unless the list is empty. -/
def nextOwner (rings : TimerRings) (lst : TimerListId) : Option TimerObject :=
  if rings.links.listEmpty (.inl lst) then none else (rings.links.next (.inl lst)).getRight?

/-- The loop of `CheckExpired`: the objects it has notified, and the rings it leaves. -/
def checkExpired (timerNotify : TimerObject → TimerRings → List TimerOp) (lst : TimerListId)
    (now : Int)
    : Nat → TimerRings → Option (List TimerObject × TimerRings)
  | 0, _ => none
  | fuel + 1, rings =>
      match rings.nextOwner lst with
      | none => some ([], rings)
      | some tobj =>
          if now < rings.objexp tobj then some ([], rings)
          else
            let removed := rings.resetList tobj
            (checkExpired timerNotify lst now fuel
                (removed.performAll (timerNotify tobj removed))).map
              (fun (later, final) => (tobj :: later, final))

end TimerRings

/-- Every `list_head` is in a ring, and the rings are the lists. -/
structure Mirrors (rings : TimerRings) (timers : TimerState) : Prop where
  timeout : rings.timeout = timers.timeout
  objexp : rings.objexp = timers.objexp
  clock : rings.clock = timers.clock
  inverse : Inverse rings.links.next rings.links.prev
  lists : ∀ lst, Ring rings.links.next (.inl lst) ((timers.tlist lst).map .inr)
  alone : ∀ obj, (∀ lst, obj ∉ timers.tlist lst) → rings.links.next (.inr obj) = .inr obj

/-- The `list_head`s that have been constructed: every one inside a list, and those inside the
objects that are made.
-/
def Made (made : Finset TimerObject) : ListHead → Bool
  | .inl _ => true
  | .inr obj => obj ∈ made

/-- The links of one direction as the constructed heads have them; any other head is read as if
it were alone.
-/
def masked (made : Finset TimerObject) (onward : ListHead → ListHead) (head : ListHead)
    : ListHead :=
  if Made made head then onward head else head

/-- The links that have been constructed. -/
def ListLinks.seen (made : Finset TimerObject) (links : ListLinks) : ListLinks where
  next := masked made links.next
  prev := masked made links.prev

def TimerRings.seen (made : Finset TimerObject) (rings : TimerRings) : TimerRings :=
  { rings with links := rings.links.seen made }

/-- The rings of the objects that are made hold the lists. -/
structure Holds (made : Finset TimerObject) (rings : TimerRings) (timers : TimerState)
    : Prop where
  constructed : ∀ lst, ∀ obj ∈ timers.tlist lst, obj ∈ made
  mirrors : Mirrors (rings.seen made) timers

/-- The objects that are made when an operation has been performed. -/
def TimerOp.leaves (made : Finset TimerObject) : TimerOp → Finset TimerObject
  | .create obj _ => insert obj made
  | .destroy obj => made.erase obj
  | _ => made

def leavesAll (made : Finset TimerObject) (ops : List TimerOp) : Finset TimerObject :=
  ops.foldl TimerOp.leaves made

/-- A constructor runs on memory that is in no list, everything else on an object that is made. -/
def Constructs (made : Finset TimerObject) (timers : TimerState) : TimerOp → Prop
  | .pass _ => True
  | .create obj _ => ∀ lst, obj ∉ timers.tlist lst
  | .attachTimer obj _ => obj ∈ made
  | .disableTimer obj => obj ∈ made
  | .destroy obj => obj ∈ made

def ConstructsAll : Finset TimerObject → TimerState → List TimerOp → Prop
  | _, _, [] => True
  | made, timers, op :: rest =>
      Constructs made timers op ∧ ConstructsAll (op.leaves made) (op.perform timers) rest

-----------------------------------------------------------------------------------------
-- What the writes come to
-----------------------------------------------------------------------------------------

variable {links : ListLinks} {entry head : ListHead}

theorem listDelInit_next (inverse : Inverse links.next links.prev)
    : (links.listDelInit entry).next = without links.next entry := by
  funext x
  simp only [ListLinks.listDelInit, ListLinks.initListHead, ListLinks.listDelBetween, without]
  rcases eq_or_ne x entry with rfl | other
  · rw [Function.update_self, if_pos rfl]
  · rw [Function.update_of_ne other, if_neg other]
    by_cases before : links.next x = entry
    · rw [if_pos before, inverse.next_eq.mp before, Function.update_self]
    · rw [if_neg before, Function.update_of_ne (fun same => before (inverse.next_eq.mpr same))]

theorem listDelInit_prev (inverse : Inverse links.next links.prev)
    : (links.listDelInit entry).prev = without links.prev entry := by
  funext x
  simp only [ListLinks.listDelInit, ListLinks.initListHead, ListLinks.listDelBetween, without]
  rcases eq_or_ne x entry with rfl | other
  · rw [Function.update_self, if_pos rfl]
  · rw [Function.update_of_ne other, if_neg other]
    by_cases behind : links.prev x = entry
    · rw [if_pos behind, inverse.symm.next_eq.mp behind, Function.update_self]
    · rw [if_neg behind, Function.update_of_ne (fun same => behind (inverse.symm.next_eq.mpr same))]

/-- Moving an entry is taking it out and putting it in front of the head: what its own links name
in between is not read.
-/
theorem listMoveTail_eq (other : head ≠ entry)
    : links.listMoveTail entry head = (links.listDelInit entry).listAddTail entry head := by
  simp only [ListLinks.listMoveTail, ListLinks.listDelInit, ListLinks.listAddTail,
    ListLinks.listAddBetween, ListLinks.initListHead, Function.update_of_ne other]
  congr 1
  · rw [Function.update_idem]
  · funext x
    rcases eq_or_ne x entry with rfl | notEntry
    · rw [Function.update_self, Function.update_self]
    · rw [Function.update_of_ne notEntry, Function.update_of_ne notEntry]
      rcases eq_or_ne x head with rfl | notHead
      · rw [Function.update_self, Function.update_self]
      · rw [Function.update_of_ne notHead, Function.update_of_ne notHead,
          Function.update_of_ne notEntry]

theorem listAddTail_next (inverse : Inverse links.next links.prev)
    (alone : links.next entry = entry) (other : head ≠ entry)
    : (links.listAddTail entry head).next = inserted links.next head entry := by
  funext x
  simp only [ListLinks.listAddTail, ListLinks.listAddBetween, inserted]
  have last : links.prev head ≠ entry := by
    intro same
    exact other (by rw [← inverse.forth head, same, alone])
  rcases eq_or_ne x entry with rfl | notEntry
  · rw [if_pos rfl, Function.update_of_ne last.symm, Function.update_self]
  · rw [if_neg notEntry]
    by_cases before : links.next x = head
    · rw [if_pos before, inverse.next_eq.mp before, Function.update_self]
    · rw [if_neg before, Function.update_of_ne (fun same => before (inverse.next_eq.mpr same)),
        Function.update_of_ne notEntry]

-----------------------------------------------------------------------------------------
-- What one operation does to the rings
-----------------------------------------------------------------------------------------

variable {rings : TimerRings} {timers : TimerState} {obj : TimerObject} {lst : TimerListId}

theorem map_filter_inr (objs : List TimerObject) (obj : TimerObject)
    : (objs.map Sum.inr).filter (fun x : ListHead => x ≠ Sum.inr obj)
      = (objs.filter (· ≠ obj)).map Sum.inr := by
  rw [List.filter_map]
  congr 1
  exact List.filter_congr (fun other _ => by simp)

theorem Mirrors.resetList (mirrors : Mirrors rings timers) (obj : TimerObject)
    : Mirrors (rings.resetList obj) (timers.resetList obj) where
  timeout := mirrors.timeout
  objexp := mirrors.objexp
  clock := mirrors.clock
  inverse := by
    simp only [TimerRings.resetList]
    rw [listDelInit_next mirrors.inverse, listDelInit_prev mirrors.inverse]
    exact mirrors.inverse.without
  lists := by
    intro lst
    simp only [TimerRings.resetList, TimerState.resetList]
    rw [listDelInit_next mirrors.inverse, ← map_filter_inr]
    exact (mirrors.lists lst).without (by simp)
  alone := by
    intro other absent
    simp only [TimerRings.resetList]
    rw [listDelInit_next mirrors.inverse, without]
    by_cases same : (Sum.inr other : ListHead) = .inr obj
    · rw [if_pos same, same]
    · have free : ∀ lst, other ∉ timers.tlist lst := fun lst member =>
        absent lst (List.mem_filter.mpr ⟨member, by simpa using same⟩)
      rw [if_neg same, mirrors.alone other free, if_neg same]

/-- An object that is in no list is in front of a list when it has been moved there. -/
theorem Mirrors.listAddTail (mirrors : Mirrors rings timers) (free : ∀ lst, obj ∉ timers.tlist lst)
    (lst : TimerListId)
    : Mirrors { rings with links := rings.links.listAddTail (.inr obj) (.inl lst) }
        { timers with tlist := Function.update timers.tlist lst (timers.tlist lst ++ [obj]) }
    where
  timeout := mirrors.timeout
  objexp := mirrors.objexp
  clock := mirrors.clock
  inverse := by
    have alone := mirrors.alone obj free
    have back := mirrors.inverse.inserted alone (by simp : (.inl lst : ListHead) ≠ .inr obj)
    rw [← listAddTail_next mirrors.inverse alone (by simp)] at back
    exact back
  lists := by
    intro other
    have alone := mirrors.alone obj free
    have apart : ∀ lst', ∀ x ∈ (timers.tlist lst').map Sum.inr,
        x ≠ (.inr obj : ListHead) ∧ x ≠ .inl lst := by
      intro lst' x member
      obtain ⟨obj', inside, rfl⟩ := List.mem_map.mp member
      refine ⟨?_, by simp⟩
      rintro same
      cases same
      exact free lst' inside
    dsimp only
    rw [listAddTail_next mirrors.inverse alone (by simp)]
    rcases eq_or_ne other lst with rfl | different
    · rw [Function.update_self, List.map_append]
      exact (mirrors.lists other).inserted (apart other) (by simp)
    · rw [Function.update_of_ne different]
      exact (mirrors.lists other).inserted_other (by simpa using different) (by simp) (apart other)
  alone := by
    intro other absent
    have alone := mirrors.alone obj free
    have different : other ≠ obj := by
      rintro rfl
      exact absent lst (by simp)
    have elsewhere : ∀ lst', other ∉ timers.tlist lst' := by
      intro lst' member
      refine absent lst' ?_
      dsimp only
      rcases eq_or_ne lst' lst with rfl | apart
      · rw [Function.update_self]
        exact List.mem_append_left _ member
      · rwa [Function.update_of_ne apart]
    dsimp only
    rw [listAddTail_next mirrors.inverse alone (by simp), inserted,
      if_neg (by simpa using different), mirrors.alone other elsewhere, if_neg (by simp)]

/-- An object that was taken out is in no list. -/
theorem resetList_absent (timers : TimerState) (obj : TimerObject)
    : ∀ lst, obj ∉ (timers.resetList obj).tlist lst := by
  intro lst member
  simpa using (List.mem_filter.mp member).2

/-- Taking out an object that is in no list changes nothing. -/
theorem resetList_free (free : ∀ lst, obj ∉ timers.tlist lst) : timers.resetList obj = timers := by
  rw [TimerState.resetList]
  congr 1
  funext lst
  refine List.filter_eq_self.mpr (fun other member => ?_)
  exact decide_eq_true (fun equal => free lst (equal ▸ member))

/-- Moving an object to the end of a list, from whatever list it is in. -/
theorem Mirrors.listMoveTail (mirrors : Mirrors rings timers) (obj : TimerObject)
    (lst : TimerListId)
    : Mirrors { rings with links := rings.links.listMoveTail (.inr obj) (.inl lst) }
        (timers.listMoveTail obj lst) := by
  rw [listMoveTail_eq (by simp)]
  exact (mirrors.resetList obj).listAddTail (resetList_absent timers obj) lst

-----------------------------------------------------------------------------------------
-- What is seen of the writes
-----------------------------------------------------------------------------------------

variable {made : Finset TimerObject} {onward : ListHead → ListHead} {x : ListHead}

/-- A constructed head is read as it is. -/
theorem masked_of (constructed : Made made x = true) : masked made onward x = onward x :=
  if_pos constructed

/-- A write to a constructed head is seen. -/
theorem masked_update (constructed : Made made x = true) (y : ListHead)
    : masked made (Function.update onward x y) = Function.update (masked made onward) x y := by
  funext z
  rcases eq_or_ne z x with rfl | other
  · rw [Function.update_self, masked_of constructed, Function.update_self]
  · rw [Function.update_of_ne other, masked, masked, Function.update_of_ne other]

/-- What a constructed head names is constructed: no other head is seen to lead back to it. -/
theorem made_of_inverse {back : ListHead → ListHead}
    (inverse : Inverse (masked made onward) (masked made back)) (constructed : Made made x = true)
    : Made made (onward x) = true := by
  by_contra unmade
  have there := inverse.back x
  rw [masked_of constructed] at there
  have stays : masked made back (onward x) = onward x := if_neg unmade
  rw [stays] at there
  rw [there] at unmade
  exact unmade constructed

/-- Initialising a constructed head is seen. -/
theorem initListHead_seen (constructed : Made made entry = true)
    : (links.initListHead entry).seen made = (links.seen made).initListHead entry := by
  simp only [ListLinks.seen, ListLinks.initListHead, masked_update constructed]

/-- Taking a constructed entry out writes to constructed heads only. -/
theorem listDelInit_seen (inverse : Inverse (links.seen made).next (links.seen made).prev)
    (constructed : Made made entry = true)
    : (links.listDelInit entry).seen made = (links.seen made).listDelInit entry := by
  have behind : Made made (links.next entry) = true := made_of_inverse inverse constructed
  have before : Made made (links.prev entry) = true := made_of_inverse inverse.symm constructed
  rw [ListLinks.listDelInit, initListHead_seen constructed, ListLinks.listDelInit]
  simp only [ListLinks.seen, ListLinks.listDelBetween, masked_of constructed,
    masked_update before, masked_update behind]

/-- Putting a constructed entry in front of a constructed head writes to constructed heads only. -/
theorem listAddTail_seen (inverse : Inverse (links.seen made).next (links.seen made).prev)
    (constructed : Made made entry = true) (atHead : Made made head = true)
    : (links.listAddTail entry head).seen made = (links.seen made).listAddTail entry head := by
  have last : Made made (links.prev head) = true := made_of_inverse inverse.symm atHead
  simp only [ListLinks.seen, ListLinks.listAddTail, ListLinks.listAddBetween, masked_of atHead,
    masked_update constructed, masked_update atHead, masked_update last]

theorem made_inl (made : Finset TimerObject) (lst : TimerListId) : Made made (.inl lst) = true :=
  rfl

theorem made_inr : Made made (.inr obj) = true ↔ obj ∈ made :=
  decide_eq_true_iff

/-- Whether an object that is alone is made or not, it is seen alone, and so are the others seen
as they were.
-/
theorem masked_alone {made' : Finset TimerObject} {onward' : ListHead → ListHead}
    (alone : masked made onward (.inr obj) = .inr obj)
    (alone' : masked made' onward' (.inr obj) = .inr obj)
    (others : ∀ other, other ≠ obj → (other ∈ made' ↔ other ∈ made))
    (same : ∀ x, x ≠ .inr obj → onward' x = onward x)
    : masked made' onward' = masked made onward := by
  funext x
  rcases eq_or_ne x (.inr obj) with rfl | apart
  · rw [alone, alone']
  · have equal : Made made' x = Made made x := by
      cases x with
      | inl lst => rfl
      | inr other =>
          have different : other ≠ obj := fun equal => apart (by rw [equal])
          exact Bool.eq_iff_iff.mpr (made_inr.trans ((others other different).trans made_inr.symm))
    rw [masked, masked, equal, same x apart]

/-- An object in no list is seen alone in both directions. -/
theorem Holds.seen_alone (holds : Holds made rings timers) (free : ∀ lst, obj ∉ timers.tlist lst)
    : masked made rings.links.next (.inr obj) = .inr obj
      ∧ masked made rings.links.prev (.inr obj) = .inr obj := by
  have alone := holds.mirrors.alone obj free
  exact ⟨alone, (holds.mirrors.inverse.next_eq.mp alone).symm⟩

/-- The links of constructed heads are the rings of the lists. -/
theorem Holds.ring (holds : Holds made rings timers) (lst : TimerListId)
    : Ring rings.links.next (.inl lst) ((timers.tlist lst).map .inr) := by
  refine (holds.mirrors.lists lst).congr (masked_of (made_inl made lst)) ?_
  intro x member
  obtain ⟨obj', inside, rfl⟩ := List.mem_map.mp member
  exact masked_of (made_inr.mpr (holds.constructed lst obj' inside))

/-- Taking an object that is made out of its list. -/
theorem Holds.resetList (holds : Holds made rings timers) (inside : obj ∈ made)
    : Holds made (rings.resetList obj) (timers.resetList obj) where
  constructed := fun lst other member =>
    holds.constructed lst other (List.mem_filter.mp member).1
  mirrors := by
    have seen : (rings.resetList obj).seen made = (rings.seen made).resetList obj := by
      simp only [TimerRings.seen, TimerRings.resetList]
      rw [listDelInit_seen holds.mirrors.inverse (made_inr.mpr inside)]
    rw [seen]
    exact holds.mirrors.resetList obj

/-- Moving an object that is made to the end of a list. -/
theorem Holds.listMoveTail (holds : Holds made rings timers) (inside : obj ∈ made)
    (lst : TimerListId)
    : Holds made { rings with links := rings.links.listMoveTail (.inr obj) (.inl lst) }
        (timers.listMoveTail obj lst) where
  constructed := by
    intro other obj' member
    have removed := (holds.resetList inside).constructed
    simp only [TimerState.listMoveTail] at member
    rcases eq_or_ne other lst with rfl | apart
    · rw [Function.update_self, List.mem_append, List.mem_singleton] at member
      rcases member with before | rfl
      · exact removed other obj' before
      · exact inside
    · rw [Function.update_of_ne apart] at member
      exact removed other obj' member
  mirrors := by
    have removed : Inverse ((rings.links.listDelInit (.inr obj)).seen made).next
        ((rings.links.listDelInit (.inr obj)).seen made).prev :=
      (holds.resetList inside).mirrors.inverse
    have seen : (rings.links.listMoveTail (.inr obj) (.inl lst)).seen made
        = (rings.links.seen made).listMoveTail (.inr obj) (.inl lst) := by
      rw [listMoveTail_eq (by simp), listMoveTail_eq (by simp),
        listAddTail_seen removed (made_inr.mpr inside) (made_inl made lst),
        listDelInit_seen holds.mirrors.inverse (made_inr.mpr inside)]
    have moved := holds.mirrors.listMoveTail obj lst
    simp only [TimerRings.seen] at moved ⊢
    rw [seen]
    exact moved

/-- A constructor writes over whatever the memory holds. -/
theorem Holds.create (holds : Holds made rings timers) (free : ∀ lst, obj ∉ timers.tlist lst)
    (garbage : Int)
    : Holds (insert obj made) (rings.create obj garbage) (timers.create obj garbage) where
  constructed := fun lst other member =>
    Finset.mem_insert_of_mem (holds.constructed lst other (List.mem_filter.mp member).1)
  mirrors := by
    obtain ⟨next, prev⟩ := holds.seen_alone free
    have written : Made (insert obj made) (.inr obj) = true :=
      made_inr.mpr (Finset.mem_insert_self obj made)
    have others : ∀ other, other ≠ obj → (other ∈ insert obj made ↔ other ∈ made) :=
      fun other different => Finset.mem_insert.trans (or_iff_right different)
    have seen : (rings.links.initListHead (.inr obj)).seen (insert obj made)
        = rings.links.seen made := by
      simp only [ListLinks.seen, ListLinks.initListHead]
      congr 1
      · exact masked_alone next (by rw [masked_of written, Function.update_self]) others
          (fun _ apart => Function.update_of_ne apart _ _)
      · exact masked_alone prev (by rw [masked_of written, Function.update_self]) others
          (fun _ apart => Function.update_of_ne apart _ _)
    have objexp : rings.objexp = timers.objexp := holds.mirrors.objexp
    rw [TimerRings.seen, TimerRings.create, seen, TimerState.create, resetList_free free, objexp]
    exact { holds.mirrors with objexp := rfl }

/-- An object that is in no list can be forgotten. -/
theorem Holds.forget (holds : Holds made rings timers) (free : ∀ lst, obj ∉ timers.tlist lst)
    : Holds (made.erase obj) rings timers where
  constructed := fun lst other member =>
    Finset.mem_erase.mpr
      ⟨fun equal => free lst (equal ▸ member), holds.constructed lst other member⟩
  mirrors := by
    obtain ⟨next, prev⟩ := holds.seen_alone free
    have unmade : ¬Made (made.erase obj) (.inr obj) = true :=
      fun written => Finset.notMem_erase obj made (made_inr.mp written)
    have others : ∀ other, other ≠ obj → (other ∈ made.erase obj ↔ other ∈ made) :=
      fun other different => Finset.mem_erase.trans (and_iff_right different)
    have seen : rings.links.seen (made.erase obj) = rings.links.seen made := by
      simp only [ListLinks.seen]
      congr 1
      · exact masked_alone next (if_neg unmade) others (fun _ _ => rfl)
      · exact masked_alone prev (if_neg unmade) others (fun _ _ => rfl)
    rw [TimerRings.seen, seen]
    exact holds.mirrors

/-- Any operation keeps the rings in step with the lists. -/
theorem Holds.perform {op : TimerOp} (holds : Holds made rings timers)
    (constructs : Constructs made timers op)
    : Holds (op.leaves made) (rings.perform op) (op.perform timers) := by
  cases op with
  | pass reading =>
      exact { constructed := holds.constructed, mirrors := { holds.mirrors with clock := rfl } }
  | create obj garbage => exact holds.create constructs garbage
  | attachTimer obj lst =>
      let exp := toInt64 (rings.clock.val + (rings.timeout lst).toInt * 1000000)
      have armed : Holds made { rings with objexp := Function.update rings.objexp obj exp }
          { timers with objexp := Function.update timers.objexp obj (timers.deadline lst) } := {
        constructed := holds.constructed
        mirrors := {
          holds.mirrors with
          objexp := by
            have objexp : rings.objexp = timers.objexp := holds.mirrors.objexp
            have clock : rings.clock = timers.clock := holds.mirrors.clock
            have timeout : rings.timeout = timers.timeout := holds.mirrors.timeout
            simp only [TimerRings.seen, exp]
            rw [objexp, clock, timeout]
            rfl
        }
      }
      simp only [TimerRings.perform, TimerRings.attachTimer, TimerOp.perform,
        TimerState.attachTimer]
      have same : rings.timeout = timers.timeout := holds.mirrors.timeout
      by_cases positive : 0 < (timers.timeout lst).toInt
      · rw [if_pos (by rw [same]; exact positive), if_pos positive]
        exact armed.listMoveTail constructs lst
      · rw [if_neg (by rw [same]; exact positive), if_neg positive]
        exact holds.listMoveTail constructs lst
  | disableTimer obj => exact holds.resetList constructs
  | destroy obj => exact (holds.resetList constructs).forget (resetList_absent timers obj)

-----------------------------------------------------------------------------------------
-- Runs
-----------------------------------------------------------------------------------------

/-- Whatever the timers do, the rings hold the lists, by induction over the operations. -/
theorem Holds.performAll {ops : List TimerOp} (holds : Holds made rings timers)
    (constructs : ConstructsAll made timers ops)
    : Holds (leavesAll made ops) (rings.performAll ops) (Timers.performAll timers ops) := by
  induction ops generalizing made rings timers with
  | nil => exact holds
  | cons op rest ih =>
      obtain ⟨now, later⟩ := constructs
      exact ih (holds.perform now) later

/-- A run of two parts constructs where no list is when both parts do, by induction on the first. -/
theorem constructsAll_append {front rest : List TimerOp}
    : ConstructsAll made timers (front ++ rest)
      ↔ ConstructsAll made timers front
        ∧ ConstructsAll (leavesAll made front) (performAll timers front) rest := by
  induction front generalizing made timers with
  | nil => exact (and_iff_right trivial).symm
  | cons op front ih =>
      rw [List.cons_append, ConstructsAll, ConstructsAll, ih, and_assoc]
      rfl

/-- At the start no memory of an object is seen. -/
theorem initial_holds (timeout : TimerListId → Int32) (memory : ListLinks)
    (objexp : TimerObject → Int) (clock : Timestamp)
    : Holds ∅ (TimerRings.initial timeout memory objexp clock)
        (TimerState.initial timeout objexp clock) := by
  have alone (onward : TimerObject → ListHead) : masked ∅ (Sum.elim Sum.inl onward) = id := by
    funext x
    cases x <;> rfl
  have seen : (TimerRings.initial timeout memory objexp clock).seen ∅
      = { timeout, links := { next := id, prev := id }, objexp, clock } := by
    simp only [TimerRings.seen, TimerRings.initial, ListLinks.seen, alone]
  refine ⟨fun _ _ member => absurd member List.not_mem_nil, ?_⟩
  rw [seen]
  exact ⟨rfl, rfl, rfl, ⟨fun _ => rfl, fun _ => rfl⟩, fun _ => rfl, fun _ _ => rfl⟩

/-- The front of a list is the object that its head names. -/
theorem Holds.nextOwner (holds : Holds made rings timers) (lst : TimerListId)
    : rings.nextOwner lst = (timers.tlist lst).head? := by
  have ring := holds.ring lst
  rw [TimerRings.nextOwner, ListLinks.listEmpty]
  cases queued : timers.tlist lst with
  | nil =>
      rw [queued] at ring
      have empty : rings.links.next (.inl lst) = .inl lst := ring
      rw [if_pos (by simpa using empty)]
      rfl
  | cons front rest =>
      rw [queued] at ring
      have first : rings.links.next (.inl lst) = .inr front := ring.1
      rw [if_neg (by simp [first]), first]
      rfl

/-- No object is in two lists, or twice in one. -/
theorem Holds.apart (holds : Holds made rings timers) {other : TimerListId}
    (member : obj ∈ timers.tlist lst) (member' : obj ∈ timers.tlist other)
    : lst = other ∧ (timers.tlist lst).Nodup := by
  have objects (objs : List TimerObject)
      : ∀ x ∈ objs.map Sum.inr, ¬(x : ListHead).isLeft = true := by
    intro x inside
    obtain ⟨obj', -, rfl⟩ := List.mem_map.mp inside
    simp
  have onward {lst' : TimerListId} {before behind : List TimerObject} {obj' : TimerObject}
      (split : timers.tlist lst' = before ++ obj' :: behind)
      : Walk rings.links.next (.inr obj') ((obj' :: behind).map .inr) (.inl lst') := by
    have ring := holds.ring lst'
    rw [split, List.map_append] at ring
    exact Walk.from_mem ring
  obtain ⟨before, behind, split⟩ := List.append_of_mem member
  obtain ⟨before', behind', split'⟩ := List.append_of_mem member'
  have same := (onward split).unique (onward split') (objects _) (objects _) rfl rfl
  refine ⟨by simpa using same.2, List.nodup_iff_sublist.mpr ?_⟩
  intro obj' twice
  -- from both places an object would lead on to the same end
  obtain ⟨front, rest, split, later⟩ : ∃ front rest,
      timers.tlist lst = front ++ obj' :: rest ∧ obj' ∈ rest := by
    obtain ⟨front, rest, whole, inFront, inRest⟩ := List.cons_sublist_iff.mp twice
    obtain ⟨left, right, rfl⟩ := List.append_of_mem inFront
    refine ⟨left, right ++ rest, by rw [whole]; simp, ?_⟩
    exact List.mem_append_right _ (List.singleton_sublist.mp inRest)
  obtain ⟨between, last, rfl⟩ := List.append_of_mem later
  have again : timers.tlist lst = (front ++ obj' :: between) ++ obj' :: last := by
    rw [split]
    simp
  have equal := ((onward split).unique (onward again) (objects _) (objects _) rfl rfl).1
  have length := congrArg List.length equal
  simp only [List.length_map, List.length_cons, List.length_append] at length
  omega

/-- In every run on any memory that constructs objects where no list is, and calls everything else
on objects that are made, the rings hold the lists, and no object gets into two lists, or twice
into one.
-/
theorem rings_hold (timeout : TimerListId → Int32) (memory : ListLinks)
    (objexp : TimerObject → Int) (clock : Timestamp) (ops : List TimerOp)
    (constructs : ConstructsAll ∅ (TimerState.initial timeout objexp clock) ops)
    : let rings := (TimerRings.initial timeout memory objexp clock).performAll ops
      let timers := Timers.performAll (TimerState.initial timeout objexp clock) ops
      Holds (leavesAll ∅ ops) rings timers
        ∧ (∀ lst, Ring rings.links.next (.inl lst) ((timers.tlist lst).map .inr))
        ∧ (∀ lst, rings.nextOwner lst = (timers.tlist lst).head?)
        ∧ (∀ lst other obj, obj ∈ timers.tlist lst → obj ∈ timers.tlist other → lst = other)
        ∧ ∀ lst, (timers.tlist lst).Nodup := by
  have holds := (initial_holds timeout memory objexp clock).performAll constructs
  refine ⟨holds, holds.ring, holds.nextOwner, ?_, ?_⟩
  · intro lst other obj member member'
    exact (holds.apart member member').1
  · intro lst
    cases queued : (Timers.performAll (TimerState.initial timeout objexp clock) ops).tlist lst with
    | nil => exact List.nodup_nil
    | cons front rest =>
        have member : front ∈ (Timers.performAll (TimerState.initial timeout objexp clock)
            ops).tlist lst := by
          rw [queued]
          exact List.mem_cons_self
        rw [← queued]
        exact (holds.apart member member).2

/-- An object is moved between two lists, while another one is destroyed and built again; the
memory they are built in names itself nowhere.
-/
theorem rings_hold_moved
    : let start := TimerState.initial (fun _ => 60) (fun _ => 0) ⟨5000000, by decide⟩
      let memory : ListLinks := { next := fun _ => .inr 7, prev := fun _ => .inl 3 }
      let ops : List TimerOp := [.create 7 0, .attachTimer 7 0, .create 8 0, .attachTimer 8 0,
        .attachTimer 7 1, .destroy 8, .create 8 5, .attachTimer 8 1]
      let rings := (TimerRings.initial (fun _ => 60) memory (fun _ => 0)
        ⟨5000000, by decide⟩).performAll ops
      ConstructsAll ∅ start ops ∧ (Timers.performAll start ops).tlist 1 = [7, 8]
        ∧ rings.nextOwner 1 = ((Timers.performAll start ops).tlist 1).head? := by
  intro start memory ops rings
  have first : Holds (leavesAll ∅ [.create 7 0, .attachTimer 7 0]) _
      (Timers.performAll start [.create 7 0, .attachTimer 7 0]) :=
    (initial_holds (fun _ => 60) memory (fun _ => 0) ⟨5000000, by decide⟩).performAll
      ⟨fun _ => List.not_mem_nil, Finset.mem_singleton_self 7, trivial⟩
  have constructs : ConstructsAll ∅ start ops := by
    refine ⟨fun _ => List.not_mem_nil, Finset.mem_singleton_self 7,
      fun lst member => absurd (first.constructed lst 8 member) (by decide), ?_, ?_, ?_,
      fun lst => resetList_absent _ 8 lst, ?_, trivial⟩
    · exact (by decide : 8 ∈ leavesAll ∅ [.create 7 0, .create 8 0])
    · exact (by decide : 7 ∈ leavesAll ∅ [.create 7 0, .create 8 0])
    · exact (by decide : 8 ∈ leavesAll ∅ [.create 7 0, .create 8 0])
    · exact (by decide : 8 ∈ leavesAll ∅ [.create 7 0, .create 8 0, .destroy 8, .create 8 5])
  exact ⟨constructs, by decide +kernel,
    (rings_hold (fun _ => 60) memory (fun _ => 0) ⟨5000000, by decide⟩ ops constructs).2.2.1 1⟩

-----------------------------------------------------------------------------------------
-- `CheckExpired` and `FreeList`
-----------------------------------------------------------------------------------------

/-- What the loop of `CheckExpired` does to the timers: each object notified is taken out of the
list, and then its callback runs.
-/
def notifyOps (timerNotify : TimerNotify) (notified : List (TimerObject × TimerState))
    : List TimerOp :=
  notified.flatMap (fun (tobj, timers) =>
    .disableTimer tobj :: timerNotify tobj (timers.resetList tobj))

/-- On the rings `CheckExpired` notifies the objects that it notifies on the lists, by induction
on the objects notified. The callbacks are the same, and build objects where no list is.
-/
theorem Holds.checkExpired {timerNotify : TimerNotify}
    {ringNotify : TimerObject → TimerRings → List TimerOp} {now : Int}
    (holds : Holds made rings timers)
    (same
      : ∀ tobj made rings timers, Holds made rings timers
        → ringNotify tobj rings = timerNotify tobj timers) {fuel : Nat}
    {notified : List (TimerObject × TimerState)} {after : TimerState}
    (drains : (expiry timerNotify lst now).drain fuel timers = some (notified, after))
    (constructs : ConstructsAll made timers (notifyOps timerNotify notified))
    : ∃ rings', rings.checkExpired ringNotify lst now fuel = some (notified.map Prod.fst, rings')
      ∧ Holds (leavesAll made (notifyOps timerNotify notified)) rings' after := by
  induction fuel generalizing made rings timers notified with
  | zero => cases drains
  | succ fuel ih =>
      have front := holds.nextOwner lst
      have objexp : rings.objexp = timers.objexp := holds.mirrors.objexp
      rw [Draining.Service.drain] at drains
      rw [TimerRings.checkExpired]
      cases queued : timers.tlist lst with
      | nil =>
          have queue : (expiry timerNotify lst now).queue timers = [] := queued
          rw [queue] at drains
          cases drains
          rw [front, queued]
          exact ⟨rings, rfl, holds⟩
      | cons tobj rest =>
          have queue : (expiry timerNotify lst now).queue timers = tobj :: rest := queued
          rw [queue] at drains
          rw [front, queued]
          simp only [List.head?_cons, objexp]
          by_cases due : (expiry timerNotify lst now).due timers tobj = true
          · simp only [due, if_true] at drains
            obtain ⟨served, drains', result⟩ := Option.map_eq_some_iff.mp drains
            rw [if_neg (by have := due_iff.mp due; omega)]
            cases result
            obtain ⟨⟨inside, called⟩, later⟩ := constructsAll_append.mp constructs
            have removed := holds.resetList inside
            have next := removed.performAll called
            obtain ⟨rings', notifies, holds'⟩ := ih next drains' later
            rw [same tobj _ _ _ removed, notifies]
            refine ⟨rings', rfl, ?_⟩
            rw [notifyOps, List.flatMap_cons, leavesAll, List.foldl_append]
            exact holds'
          · simp only [due] at drains
            cases drains
            rw [if_pos (by have := mt due_iff.mpr due; omega)]
            exact ⟨rings, rfl, holds⟩

/-- `FreeList` empties its list and no other, by induction on the objects in it. -/
theorem Holds.freeList {objs : List TimerObject} (holds : Holds made rings timers)
    (queued : timers.tlist lst = objs) {fuel : Nat} (enough : objs.length < fuel)
    : ∃ links', rings.links.freeList (.inl lst) fuel = some links'
      ∧ Holds made { rings with links := links' }
          { timers with tlist := Function.update timers.tlist lst [] } := by
  induction objs generalizing rings timers fuel with
  | nil =>
      obtain ⟨fuel, rfl⟩ := Nat.exists_eq_add_one_of_ne_zero (Nat.ne_of_gt enough)
      have ring := holds.ring lst
      rw [queued] at ring
      have empty : rings.links.next (.inl lst) = .inl lst := ring
      have unchanged : Function.update timers.tlist lst [] = timers.tlist :=
        Function.update_eq_self_iff.mpr queued.symm
      refine ⟨rings.links, by simp [ListLinks.freeList, ListLinks.listEmpty, empty], ?_⟩
      rw [unchanged]
      exact holds
  | cons front rest ih =>
      obtain ⟨fuel, rfl⟩ : ∃ fuel', fuel = fuel' + 1 := ⟨fuel - 1, by omega⟩
      have ring := holds.ring lst
      rw [queued] at ring
      have first : rings.links.next (.inl lst) = .inr front := ring.1
      have member : front ∈ timers.tlist lst := by
        rw [queued]
        exact List.mem_cons_self
      have nodup := (holds.apart member member).2
      rw [queued] at nodup
      have removed := holds.resetList (holds.constructed lst front member)
      have left : (timers.resetList front).tlist lst = rest := by
        simp only [TimerState.resetList, queued]
        rw [List.filter_cons_of_neg (by simp), List.filter_eq_self]
        intro obj inside
        exact decide_eq_true (fun equal => (List.nodup_cons.mp nodup).1 (equal ▸ inside))
      obtain ⟨links', frees, holds'⟩ := ih removed left
        (by simp only [List.length_cons] at enough; omega : rest.length < fuel)
      have others : Function.update (timers.resetList front).tlist lst []
          = Function.update timers.tlist lst [] := by
        funext other
        rcases eq_or_ne other lst with rfl | apart
        · rw [Function.update_self, Function.update_self]
        · rw [Function.update_of_ne apart, Function.update_of_ne apart]
          refine List.filter_eq_self.mpr (fun obj inside => ?_)
          exact decide_eq_true (fun equal =>
            apart (holds.apart (equal ▸ inside) member).1)
      refine ⟨links', ?_, ?_⟩
      · rw [ListLinks.freeList, if_neg (by simp [ListLinks.listEmpty, first]), first]
        exact frees
      · rw [others] at holds'
        exact holds'

/-- After any run on any memory, `CheckExpired` on the rings notifies what it notifies on the lists,
and destroying the list then takes out what is left in it and nothing else. The run and the
callbacks construct objects where no list is, and call everything else on objects that are made.
-/
theorem rings_checkExpired (timeout : TimerListId → Int32) (memory : ListLinks)
    (objexp : TimerObject → Int) (clock : Timestamp) (ops : List TimerOp)
    (timerNotify : TimerNotify) (ringNotify : TimerObject → TimerRings → List TimerOp)
    (same
      : ∀ tobj made rings timers, Holds made rings timers
        → ringNotify tobj rings = timerNotify tobj timers)
    (lst : TimerListId) (now n : Int) (fuel : Nat) (notified : List (TimerObject × TimerState))
    (after : TimerState)
    (notifies
      : checkExpired timerNotify lst now fuel
          (Timers.performAll (TimerState.initial timeout objexp clock) ops)
        = some (n, notified, after))
    (constructs
      : ConstructsAll ∅ (TimerState.initial timeout objexp clock)
        (ops ++ notifyOps timerNotify notified))
    : ∃ rings' links',
        ((TimerRings.initial timeout memory objexp clock).performAll ops).checkExpired ringNotify
          lst (localNow now (Timers.performAll (TimerState.initial timeout objexp clock) ops)) fuel
          = some (notified.map Prod.fst, rings')
        ∧ Holds (leavesAll ∅ (ops ++ notifyOps timerNotify notified)) rings' after
        ∧ rings'.links.freeList (.inl lst) ((after.tlist lst).length + 1) = some links'
        ∧ Holds (leavesAll ∅ (ops ++ notifyOps timerNotify notified))
          { rings' with links := links' }
          { after with tlist := Function.update after.tlist lst [] } := by
  obtain ⟨before, called⟩ := constructsAll_append.mp constructs
  have holds := (initial_holds timeout memory objexp clock).performAll before
  obtain ⟨pair, drains, result⟩ := Option.map_eq_some_iff.mp notifies
  obtain ⟨served, final⟩ := pair
  cases result
  obtain ⟨rings', checks, holds'⟩ := holds.checkExpired same drains called
  obtain ⟨links', frees, emptied⟩ := holds'.freeList rfl (Nat.lt_succ_self _)
  rw [leavesAll, List.foldl_append]
  exact ⟨rings', links', checks, holds', frees, emptied⟩

/-- One of two objects expires, and its callback attaches it to another list. -/
theorem rings_checkExpired_second
    : let start := TimerState.initial (fun _ => 60) (fun _ => 0) ⟨5000000, by decide⟩
      let memory : ListLinks := { next := fun _ => .inr 7, prev := fun _ => .inl 3 }
      let ops : List TimerOp := [.create 7 0, .attachTimer 7 0, .pass ⟨70000000, by decide⟩,
        .create 8 0, .attachTimer 8 0]
      let timerNotify : TimerNotify := fun tobj _ => [.attachTimer tobj 1]
      let ringNotify : TimerObject → TimerRings → List TimerOp :=
        fun tobj _ => [.attachTimer tobj 1]
      ∃ made after rings' links',
        (checkExpired timerNotify 0 0 3 (Timers.performAll start ops)).map Prod.fst = some 1
        ∧ ((TimerRings.initial (fun _ => 60) memory (fun _ => 0)
            ⟨5000000, by decide⟩).performAll ops).checkExpired ringNotify 0
            (localNow 0 (Timers.performAll start ops)) 3
          = some ([7], rings')
        ∧ Holds made rings' after
        ∧ rings'.links.freeList (.inl 0) ((after.tlist 0).length + 1) = some links'
        ∧ Holds made { rings' with links := links' }
          { after with tlist := Function.update after.tlist 0 [] } := by
  intro start memory ops timerNotify ringNotify
  have counted : (checkExpired timerNotify 0 0 3 (Timers.performAll start ops)).map
      (fun found => (found.1, found.2.1.map Prod.fst)) = some (1, [7]) := by
    decide +kernel
  obtain ⟨found, notifies, result⟩ := Option.map_eq_some_iff.mp counted
  obtain ⟨n, notified, after⟩ := found
  simp only [Prod.mk.injEq] at result
  obtain ⟨rfl, objects⟩ := result
  have called : notifyOps timerNotify notified = [.disableTimer 7, .attachTimer 7 1] := by
    have same : notifyOps timerNotify notified = (notified.map Prod.fst).flatMap
        (fun tobj => [.disableTimer tobj, .attachTimer tobj 1]) := by
      rw [List.flatMap_map]
      rfl
    rw [same, objects]
    rfl
  have first : Holds (leavesAll ∅ [.create 7 0, .attachTimer 7 0]) _
      (Timers.performAll start [.create 7 0, .attachTimer 7 0]) :=
    (initial_holds (fun _ => 60) memory (fun _ => 0) ⟨5000000, by decide⟩).performAll
      ⟨fun _ => List.not_mem_nil, Finset.mem_singleton_self 7, trivial⟩
  have constructs : ConstructsAll ∅ start (ops ++ notifyOps timerNotify notified) := by
    rw [called]
    refine ⟨fun _ => List.not_mem_nil, Finset.mem_singleton_self 7, trivial,
      fun lst member => absurd (first.constructed lst 8 member) (by decide), ?_, ?_, ?_, trivial⟩
    · exact (by decide : 8 ∈ leavesAll ∅ [.create 7 0, .create 8 0])
    · exact (by decide : 7 ∈ leavesAll ∅ [.create 7 0, .create 8 0])
    · exact (by decide : 7 ∈ leavesAll ∅ [.create 7 0, .create 8 0])
  obtain ⟨rings', links', checks, holds, frees, emptied⟩ :=
    rings_checkExpired (fun _ => 60) memory (fun _ => 0) ⟨5000000, by decide⟩ ops timerNotify
      ringNotify (fun _ _ _ _ _ => rfl) 0 0 1 3 notified after notifies constructs
  refine ⟨_, after, rings', links', ?_, ?_, holds, frees, emptied⟩
  · rw [notifies]
    rfl
  · rw [objects] at checks
    exact checks

end ProxyServer.Timers
