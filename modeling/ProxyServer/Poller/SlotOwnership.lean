import ProxyServer.Poller.PollerUnit

/-! Who owns the slots of a `CPollerUnit`. Each slot is free or belongs to one attached object, and
data that a registration has carried is current only for the object whose registration carries
it now.
-/

namespace ProxyServer.Poller

open ProxyServer.Units

namespace PollerUnit

/-- Slots are free or owned, and only the owner's registration is current. -/
structure Sound (unit : PollerUnit) : Prop where
  nodup : unit.freeSlotList.Nodup
  inside : ∀ p ∈ unit.freeSlotList, p < unit.maxPollers
  owned
    : ∀ id p, (unit.object id).epslot = some p
      → p < unit.maxPollers ∧ p ∉ unit.freeSlotList
        ∧ (unit.pollerTable p).poller = some id
        ∧ (unit.object id).live = true ∧ (unit.object id).ownerUnit = true
  named : ∀ id p, (unit.pollerTable p).poller = some id → (unit.object id).epslot = some p
  taken
    : ∀ p < unit.maxPollers, p ∉ unit.freeSlotList → ∃ id, (unit.object id).epslot = some p
  used : unit.usedPollers = unit.maxPollers - unit.freeSlotList.length
  current
    : ∀ data ∈ unit.carried, ∃ seq p, data = eventData seq p ∧ p < unit.maxPollers
      ∧ seq ≤ (unit.pollerTable p).seq
      ∧ (seq = (unit.pollerTable p).seq
        → ∃ id, (unit.object id).epslot = some p ∧ (unit.object id).registration = some data)

variable {unit next : PollerUnit} {id : ObjectId} {p : SlotId} {content : Object}

theorem initializePollerUnit_sound (maxPollers : Nat)
    : (initializePollerUnit maxPollers).Sound where
  nodup := List.nodup_range
  inside := fun _ => List.mem_range.mp
  owned := fun _ _ held => by cases held
  named := fun _ _ names => by cases names
  taken := fun _ small outside => (outside (List.mem_range.mpr small)).elim
  used := by simp [initializePollerUnit]
  current := fun _ inside => by cases inside

-----------------------------------------------------------------------------------------
-- Changes of one object
-----------------------------------------------------------------------------------------

/-- Attached objects are live and have a unit. -/
theorem Sound.usable (sound : unit.Sound) (attached : (unit.object id).epslot ≠ none)
    : (unit.object id).live = true ∧ (unit.object id).ownerUnit = true := by
  obtain ⟨p, held⟩ := Option.ne_none_iff_exists'.mp attached
  exact (sound.owned id p held).2.2.2

theorem update_epslot {objects : ObjectId → Object}
    (epslot : content.epslot = (objects id).epslot) (other : ObjectId)
    : (Function.update objects id content other).epslot = (objects other).epslot := by
  rcases eq_or_ne other id with rfl | different
  · rw [Function.update_self, epslot]
  · rw [Function.update_of_ne different]

/-- An object changes, but for its slot and the registration that goes with it. -/
theorem Sound.setObject (sound : unit.Sound)
    (epslot : content.epslot = (unit.object id).epslot)
    (registration
      : content.epslot ≠ none → content.registration = (unit.object id).registration)
    (usable : content.epslot ≠ none → content.live = true ∧ content.ownerUnit = true)
    : (unit.setObject id content).Sound := by
  have slots (other : ObjectId)
      : ((unit.setObject id content).object other).epslot = (unit.object other).epslot :=
    update_epslot epslot other
  have data {other : ObjectId} {q : SlotId} (held : (unit.object other).epslot = some q)
      : ((unit.setObject id content).object other).registration
        = (unit.object other).registration := by
    rcases eq_or_ne other id with rfl | different
    · have attached : content.epslot ≠ none := by
        rw [epslot, held]
        exact Option.some_ne_none q
      exact (congrArg Object.registration (Function.update_self ..)).trans
        (registration attached)
    · exact congrArg Object.registration (Function.update_of_ne different ..)
  refine ⟨sound.nodup, sound.inside, fun other q held => ?_,
    fun other q names => (slots other).trans (sound.named other q names),
    fun q small outside => ?_, sound.used, fun carried inside => ?_⟩
  · rw [slots] at held
    obtain ⟨small, apart, named, usedBy⟩ := sound.owned other q held
    refine ⟨small, apart, named, ?_⟩
    rcases eq_or_ne other id with rfl | different
    · simp only [PollerUnit.setObject, Function.update_self]
      exact usable (by rw [epslot, held]; exact Option.some_ne_none q)
    · simp only [PollerUnit.setObject, Function.update_of_ne different]
      exact usedBy
  · obtain ⟨owner, held⟩ := sound.taken q small outside
    exact ⟨owner, (slots owner).trans held⟩
  · obtain ⟨seq, q, named, small, older, owner⟩ := sound.current carried inside
    refine ⟨seq, q, named, small, older, fun same => ?_⟩
    obtain ⟨holder, held, carries⟩ := owner same
    exact ⟨holder, (slots holder).trans held, (data held).trans carries⟩

/-- The slot of an object moves on: data carried before is out of date, and what is carried now is
the object's own.
-/
theorem Sound.renew (sound : unit.Sound) (held : (unit.object id).epslot = some p)
    (epslot : content.epslot = some p)
    (usable : content.live = true ∧ content.ownerUnit = true) (fresh : List Nat)
    (own
      : ∀ data ∈ fresh, data = eventData ((unit.pollerTable p).seq + 1) p
        ∧ content.registration = some data)
    : Sound {
        unit with
        pollerTable := Function.update unit.pollerTable p
          { unit.pollerTable p with seq := (unit.pollerTable p).seq + 1 }
        object := Function.update unit.object id content
        carried := fresh ++ unit.carried
      } := by
  obtain ⟨small, apart, named, -⟩ := sound.owned id p held
  have slots := update_epslot (epslot.trans held.symm)
  refine ⟨sound.nodup, sound.inside, fun other q held' => ?_, fun other q names => ?_,
    fun q little outside => ?_, sound.used, fun data inside => ?_⟩
  · obtain ⟨little, free, named', usedBy⟩ := sound.owned other q ((slots other).symm.trans held')
    refine ⟨little, free, ?_, ?_⟩
    · rcases eq_or_ne q p with rfl | away
      · simpa only [Function.update_self] using named'
      · simpa only [Function.update_of_ne away] using named'
    · rcases eq_or_ne other id with rfl | different
      · simpa only [Function.update_self] using usable
      · simpa only [Function.update_of_ne different] using usedBy
  · refine (slots other).trans (sound.named other q ?_)
    rcases eq_or_ne q p with rfl | away
    · simpa only [Function.update_self] using names
    · simpa only [Function.update_of_ne away] using names
  · obtain ⟨owner, held'⟩ := sound.taken q little outside
    exact ⟨owner, (slots owner).trans held'⟩
  · rcases List.mem_append.mp inside with new | before
    · obtain ⟨rfl, carries⟩ := own data new
      refine ⟨_, p, rfl, small, ?_, fun _ => ⟨id, ?_, ?_⟩⟩
      · simp only [Function.update_self, le_refl]
      · exact (slots id).trans held
      · simpa only [Function.update_self] using carries
    · obtain ⟨seq, q, rfl, little, older, owner⟩ := sound.current data before
      refine ⟨seq, q, rfl, little, ?_⟩
      rcases eq_or_ne q p with rfl | away
      · simp only [Function.update_self]
        refine ⟨Nat.le_succ_of_le older, fun same => ?_⟩
        exact absurd same (Nat.ne_of_lt (Nat.lt_succ_of_le older))
      · simp only [Function.update_of_ne away]
        refine ⟨older, fun same => ?_⟩
        obtain ⟨holder, held', carries⟩ := owner same
        have different : holder ≠ id := by
          rintro rfl
          exact away (Option.some.inj (held'.symm.trans held))
        refine ⟨holder, (slots holder).trans held', ?_⟩
        rw [Function.update_of_ne different]
        exact carries

/-- An object without a slot takes the first free one. -/
theorem Sound.take (sound : unit.Sound) {rest : List SlotId}
    (free : unit.freeSlotList = p :: rest) (unheld : (unit.object id).epslot = none)
    (epslot : content.epslot = some p)
    (usable : content.live = true ∧ content.ownerUnit = true)
    : Sound {
        unit with
        usedPollers := unit.usedPollers + 1
        freeSlotList := rest
        pollerTable := Function.update unit.pollerTable p
          { seq := (unit.pollerTable p).seq, poller := some id }
        object := Function.update unit.object id content
      } := by
  have nodup := sound.nodup
  rw [free, List.nodup_cons] at nodup
  have first : p ∈ unit.freeSlotList := free ▸ List.mem_cons_self
  have away {other : ObjectId} {q : SlotId} (held : (unit.object other).epslot = some q)
      : q ≠ p ∧ other ≠ id ∧ q ∉ rest := by
    have apart := (sound.owned other q held).2.1
    rw [free, List.mem_cons, not_or] at apart
    refine ⟨apart.1, ?_, apart.2⟩
    rintro rfl
    rw [unheld] at held
    cases held
  refine ⟨nodup.2, fun q inside => sound.inside q (free ▸ List.mem_cons_of_mem _ inside),
    fun other q held => ?_, fun other q names => ?_, fun q small outside => ?_, ?_,
    fun data inside => ?_⟩
  · rcases eq_or_ne other id with rfl | different
    · simp only [Function.update_self] at held ⊢
      obtain rfl := Option.some.inj (epslot.symm.trans held)
      exact ⟨sound.inside p first, nodup.1, by rw [Function.update_self], usable⟩
    · simp only [Function.update_of_ne different] at held ⊢
      obtain ⟨apart, -, outside⟩ := away held
      obtain ⟨small, -, named, usedBy⟩ := sound.owned other q held
      exact ⟨small, outside, by rw [Function.update_of_ne apart]; exact named, usedBy⟩
  · rcases eq_or_ne q p with rfl | apart
    · simp only [Function.update_self] at names
      obtain rfl := Option.some.inj names
      simpa only [Function.update_self] using epslot
    · simp only [Function.update_of_ne apart] at names
      have held := sound.named other q names
      simp only [Function.update_of_ne (away held).2.1]
      exact held
  · rcases eq_or_ne q p with rfl | apart
    · exact ⟨id, by simpa only [Function.update_self] using epslot⟩
    · have unlisted : q ∉ unit.freeSlotList := by
        rw [free, List.mem_cons, not_or]
        exact ⟨apart, outside⟩
      obtain ⟨owner, held⟩ := sound.taken q small unlisted
      refine ⟨owner, ?_⟩
      simp only [Function.update_of_ne (away held).2.1]
      exact held
  · have used := sound.used
    rw [free, List.length_cons] at used
    push_cast at used
    change unit.usedPollers + 1 = unit.maxPollers - (rest.length : Int)
    omega
  · obtain ⟨seq, q, rfl, small, older, owner⟩ := sound.current data inside
    refine ⟨seq, q, rfl, small, ?_⟩
    rcases eq_or_ne q p with rfl | apart
    · simp only [Function.update_self]
      refine ⟨older, fun same => ?_⟩
      obtain ⟨holder, held, -⟩ := owner same
      exact absurd rfl (away held).1
    · simp only [Function.update_of_ne apart]
      refine ⟨older, fun same => ?_⟩
      obtain ⟨holder, held, carries⟩ := owner same
      refine ⟨holder, ?_⟩
      simp only [Function.update_of_ne (away held).2.1]
      exact ⟨held, carries⟩

/-- An object gives its slot back. -/
theorem Sound.give (sound : unit.Sound) (held : (unit.object id).epslot = some p)
    (epslot : content.epslot = none)
    : ((unit.freeEpollSlot p).setObject id content).Sound := by
  obtain ⟨small, apart, named, -⟩ := sound.owned id p held
  have away {other : ObjectId} {q : SlotId} (held' : (unit.object other).epslot = some q)
      (different : other ≠ id)
      : q ≠ p := by
    rintro rfl
    have named' := (sound.owned other q held').2.2.1
    exact different (Option.some.inj (named'.symm.trans named))
  refine ⟨List.nodup_cons.mpr ⟨apart, sound.nodup⟩, fun q inside => ?_,
    fun other q held' => ?_, fun other q names => ?_, fun q little outside => ?_, ?_,
    fun data inside => ?_⟩
  · rcases List.mem_cons.mp inside with rfl | before
    · exact small
    · exact sound.inside q before
  · rcases eq_or_ne other id with rfl | different
    · simp only [PollerUnit.setObject, Function.update_self, epslot] at held'
      cases held'
    · simp only [PollerUnit.setObject, freeEpollSlot, setSlot,
        Function.update_of_ne different] at held' ⊢
      obtain ⟨little, free, named', usedBy⟩ := sound.owned other q held'
      have moved := away held' different
      refine ⟨little, ?_, by rw [Function.update_of_ne moved]; exact named', usedBy⟩
      rw [List.mem_cons, not_or]
      exact ⟨moved, free⟩
  · simp only [PollerUnit.setObject, freeEpollSlot, setSlot] at names ⊢
    rcases eq_or_ne q p with rfl | moved
    · simp only [Function.update_self] at names
      cases names
    · simp only [Function.update_of_ne moved] at names
      have held' := sound.named other q names
      have different : other ≠ id := by
        rintro rfl
        exact moved (Option.some.inj (held'.symm.trans held))
      rw [Function.update_of_ne different]
      exact held'
  · obtain ⟨moved, unlisted⟩ := not_or.mp (fun listed => outside (List.mem_cons.mpr listed))
    obtain ⟨owner, held'⟩ := sound.taken q little unlisted
    have different : owner ≠ id := by
      rintro rfl
      exact moved (Option.some.inj (held'.symm.trans held))
    exact ⟨owner, (congrArg Object.epslot (Function.update_of_ne different ..)).trans held'⟩
  · have used := sound.used
    change unit.usedPollers - 1 = unit.maxPollers - ((p :: unit.freeSlotList).length : Int)
    rw [List.length_cons]
    push_cast
    omega
  · obtain ⟨seq, q, rfl, little, older, owner⟩ := sound.current data inside
    refine ⟨seq, q, rfl, little, ?_⟩
    simp only [PollerUnit.setObject, freeEpollSlot, setSlot]
    rcases eq_or_ne q p with rfl | moved
    · simp only [Function.update_self]
      refine ⟨Nat.le_succ_of_le older, fun same => ?_⟩
      exact absurd same (Nat.ne_of_lt (Nat.lt_succ_of_le older))
    · simp only [Function.update_of_ne moved]
      refine ⟨older, fun same => ?_⟩
      obtain ⟨holder, held', carries⟩ := owner same
      have different : holder ≠ id := by
        rintro rfl
        exact moved (Option.some.inj (held'.symm.trans held))
      refine ⟨holder, ?_⟩
      rw [Function.update_of_ne different]
      exact ⟨held', carries⟩

-----------------------------------------------------------------------------------------
-- Operations
-----------------------------------------------------------------------------------------

/-- Where operations lead: the slots are still in order, and all data carried so far is known. -/
structure Onward (unit next : PollerUnit) : Prop where
  sound : next.Sound
  carried : unit.carried ⊆ next.carried
  maxPollers : next.maxPollers = unit.maxPollers

theorem Sound.stays (sound : unit.Sound) : Onward unit unit :=
  ⟨sound, fun _ inside => inside, rfl⟩

theorem Onward.trans {final : PollerUnit} (first : Onward unit next)
    (second : Onward next final)
    : Onward unit final :=
  ⟨second.sound, fun _ inside => second.carried (first.carried inside),
    second.maxPollers.trans first.maxPollers⟩

theorem register_onward (sound : unit.Sound) (held : (unit.object id).epslot = some p)
    (ctl : Bool)
    : Onward unit (unit.register id p ctl).2 := by
  obtain ⟨-, -, -, usable⟩ := sound.owned id p held
  cases ctl with
  | true =>
      refine ⟨?_, fun _ inside => List.mem_cons_of_mem _ inside, rfl⟩
      refine sound.renew held ?_ ?_ [eventData ((unit.pollerTable p).seq + 1) p] ?_
      · exact held
      · exact usable
      · intro data fresh
        obtain rfl := List.mem_singleton.mp fresh
        exact ⟨rfl, rfl⟩
  | false =>
      have renewed := sound.renew held held usable [] (fun _ fresh => by cases fresh)
      rw [Function.update_eq_self] at renewed
      exact ⟨renewed, fun _ inside => inside, rfl⟩

theorem applyEvents_onward (sound : unit.Sound) (id : ObjectId) (ctl : Bool)
    : Onward unit (unit.applyEvents id ctl).2 := by
  rw [applyEvents]
  cases held : (unit.object id).epslot with
  | none => exact sound.stays
  | some p =>
      dsimp only
      split
      · exact sound.stays
      · exact register_onward sound held ctl

theorem setObject_onward (sound : unit.Sound) (id : ObjectId) {content : Object}
    (epslot : content.epslot = (unit.object id).epslot)
    (registration
      : content.epslot ≠ none → content.registration = (unit.object id).registration)
    (usable : content.epslot ≠ none → content.live = true ∧ content.ownerUnit = true)
    : Onward unit (unit.setObject id content) :=
  ⟨sound.setObject epslot registration usable, fun _ inside => inside, rfl⟩

theorem attachOwned_onward (sound : unit.Sound) {id : ObjectId}
    (live : (unit.object id).live = true) (owner : (unit.object id).ownerUnit = true)
    (ctl : Bool)
    : Onward unit (unit.attachOwned id ctl).2 := by
  rw [attachOwned]
  cases held : (unit.object id).epslot with
  | some p => exact applyEvents_onward sound id ctl
  | none =>
      cases free : unit.freeSlotList with
      | nil =>
          rw [allocEpollSlot, free]
          exact sound.stays
      | cons p rest =>
          rw [allocEpollSlot, free]
          let content : Object := { unit.object id with epslot := some p }
          have filled : content.epslot = some p := rfl
          have taken := sound.take free held filled ⟨live, owner⟩
          have attached : (Function.update unit.object id content id).epslot = some p := by
            rw [Function.update_self]
          have registered := register_onward taken attached ctl
          exact ⟨registered.sound, registered.carried, registered.maxPollers⟩

theorem attachPoller_onward (sound : unit.Sound) {id : ObjectId}
    (live : (unit.object id).live = true) {passed ctl : Bool} {result : Int}
    (attached : unit.attachPoller id passed ctl = some (result, next))
    : Onward unit next := by
  rw [attachPoller] at attached
  let content : Object :=
    { unit.object id with ownerUnit := passed || (unit.object id).ownerUnit }
  have owned : Onward unit (unit.setObject id content) := by
    refine setObject_onward sound id rfl (fun _ => rfl) (fun attached => ⟨live, ?_⟩)
    rw [show content.ownerUnit = (passed || (unit.object id).ownerUnit) from rfl,
      (sound.usable attached).2, Bool.or_true]
  dsimp only at attached
  split at attached
  · cases attached
    exact sound.stays
  · split at attached
    · cases attached
      exact owned
    · split at attached
      · rename_i has
        have same : (unit.setObject id content).object id = content := Function.update_self ..
        have alive : ((unit.setObject id content).object id).live = true := by
          rw [same]
          exact live
        have attaches := attachOwned_onward owned.sound alive has ctl
        have ends : ((unit.setObject id content).attachOwned id ctl).2 = next :=
          congrArg Prod.snd (Option.some.inj attached)
        rw [ends] at attaches
        exact owned.trans attaches
      · cases attached

theorem detachPoller_onward (sound : unit.Sound) (id : ObjectId) (ctl : Bool)
    : Onward unit (unit.detachPoller id ctl) := by
  rw [detachPoller]
  cases held : (unit.object id).epslot with
  | none => exact sound.stays
  | some p => exact ⟨sound.give held rfl, fun _ inside => inside, rfl⟩

theorem destroy_onward (sound : unit.Sound) (id : ObjectId)
    : Onward unit (unit.destroy id) := by
  rw [destroy]
  cases held : (unit.object id).epslot with
  | none =>
      refine setObject_onward sound id held.symm ?_ ?_
      · exact fun attached => (attached rfl).elim
      · exact fun attached => (attached rfl).elim
  | some p =>
      dsimp only
      rw [if_pos (sound.owned id p held).2.2.2.2]
      exact ⟨sound.give held rfl, fun _ inside => inside, rfl⟩

/-- An operation on an object that is there keeps the slots in order, by cases on the operation. -/
theorem perform_onward (sound : unit.Sound) {op : Op} (performed : unit.perform op = some next)
    : Onward unit next := by
  cases op with
  | create id ownerUnit fd =>
      obtain ⟨dead, acts⟩ := Option.ite_none_left_eq_some.mp performed
      cases acts
      have unheld : (unit.object id).epslot = none := by
        by_contra attached
        exact dead (sound.usable attached).1
      refine setObject_onward sound id unheld.symm ?_ ?_
      · exact fun attached => (attached rfl).elim
      · exact fun attached => (attached rfl).elim
  | ask id events =>
      obtain ⟨-, acts⟩ := Option.ite_none_right_eq_some.mp performed
      cases acts
      exact setObject_onward sound id rfl (fun _ => rfl) sound.usable
  | attachPoller id passed ctl =>
      obtain ⟨live, acts⟩ := Option.ite_none_right_eq_some.mp performed
      obtain ⟨⟨result, _⟩, attaches, rfl⟩ := Option.map_eq_some_iff.mp acts
      exact attachPoller_onward sound live attaches
  | applyEvents id ctl =>
      obtain ⟨-, acts⟩ := Option.ite_none_right_eq_some.mp performed
      cases acts
      exact applyEvents_onward sound id ctl
  | detachPoller id ctl =>
      obtain ⟨-, acts⟩ := Option.ite_none_right_eq_some.mp performed
      cases acts
      exact detachPoller_onward sound id ctl
  | destroy id =>
      obtain ⟨-, acts⟩ := Option.ite_none_right_eq_some.mp performed
      cases acts
      exact destroy_onward sound id

/-- Operations one after another keep the slots in order, by induction on them. -/
theorem performAll_onward (sound : unit.Sound) {ops : List Op}
    (performed : unit.performAll ops = some next)
    : Onward unit next := by
  induction ops generalizing unit with
  | nil =>
      cases performed
      exact sound.stays
  | cons op rest ih =>
      rw [performAll, List.foldlM_cons] at performed
      obtain ⟨middle, first, later⟩ := Option.bind_eq_some_iff.mp performed
      have onward := perform_onward sound first
      exact onward.trans (ih onward.sound later)

end PollerUnit

end ProxyServer.Poller
