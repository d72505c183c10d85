import ProxyServer.Library.Reachability
import ProxyServer.Poller.SlotOwnership

/-! Which objects `ProcessPollerEvents` calls for the events it has fetched, in every run of a
`CPollerUnit` and its objects.
-/

namespace ProxyServer.Poller

open ProxyServer.Units PollerUnit

-----------------------------------------------------------------------------------------
-- Event data
-----------------------------------------------------------------------------------------

theorem dataSlot_eventData {seq p : Nat} (small : p < 4294967296)
    : dataSlot (eventData seq p) = p := by
  change (seq * 4294967296 + p) % 4294967296 = p
  omega

theorem dataSeq_eventData {seq p : Nat} (small : p < 4294967296)
    : dataSeq (eventData seq p) = seq := by
  change (seq * 4294967296 + p) / 4294967296 = seq
  omega

namespace PollerUnit

/-- The object is live and holds the slot that the data names. -/
def Holds (unit : PollerUnit) (id : ObjectId) (data : Nat) : Prop :=
  (unit.object id).live = true ∧ (unit.object id).epslot = some (dataSlot data)

/-- Data that passes `VerifyEvents` is carried by the registration of the object that its slot
names.
-/
theorem Sound.verified {unit : PollerUnit} (sound : unit.Sound)
    (bound : unit.maxPollers < 2147483648) {data : Nat} (carried : data ∈ unit.carried)
    (passes : unit.verifyEvents data ≠ -1)
    : ∃ id, (unit.pollerTable (dataSlot data)).poller = some id ∧ unit.Holds id data
      ∧ (unit.object id).registration = some data := by
  obtain ⟨seq, p, rfl, small, -, owner⟩ := sound.current data carried
  have fits : p < 4294967296 := Nat.lt_trans small (Nat.lt_trans bound (by decide))
  rw [verifyEvents, dataSlot_eventData fits, dataSeq_eventData fits] at passes
  have same : seq = (unit.pollerTable p).seq := by
    by_contra different
    exact passes (if_pos (Or.inr different))
  obtain ⟨id, held, carries⟩ := owner same
  obtain ⟨-, -, named, live, -⟩ := sound.owned id p held
  have slot := @dataSlot_eventData seq p fits
  rw [← slot] at named held
  exact ⟨id, named, ⟨live, held⟩, carries⟩

-----------------------------------------------------------------------------------------
-- Calls
-----------------------------------------------------------------------------------------

/-- Calls for events: each is on a live object that holds the event's slot, and the first one for
an event is on the object whose registration carries the event's data just then. An `OutputNotify`
that is not the first comes right behind an `InputNotify` for the same event, at the same address.
-/
structure Rightful (calls : List Call) : Prop where
  holds : ∀ call ∈ calls, call.unit.Holds call.p call.data
  current
    : ∀ call ∈ calls, call.notification ≠ .output true
      → (call.unit.object call.p).registration = some call.data
  begun
    : ∀ before call after, calls = before ++ call :: after → call.notification = .output true
      → ∃ earlier first, before = earlier ++ [first] ∧ first.notification = .input
        ∧ first.data = call.data ∧ first.p = call.p

theorem rightful_nil : Rightful [] where
  holds := by simp
  current := by simp
  begun := by simp

theorem Rightful.append {calls later : List Call} (first : Rightful calls)
    (second : Rightful later)
    : Rightful (calls ++ later) where
  holds := fun call member =>
    (List.mem_append.mp member).elim (first.holds call) (second.holds call)
  current := fun call member =>
    (List.mem_append.mp member).elim (first.current call) (second.current call)
  begun := by
    intro before call after split behind
    rcases List.append_eq_append_iff.mp split with ⟨between, rfl, rest⟩ | ⟨inside, rfl, rest⟩
    · obtain ⟨earlier, input, rfl, same⟩ := second.begun between call after rest behind
      exact ⟨calls ++ earlier, input, (List.append_assoc ..).symm, same⟩
    · cases inside with
      | nil =>
          obtain ⟨earlier, input, none, -⟩ := second.begun [] call after rest.symm behind
          simp at none
      | cons head tail =>
          obtain ⟨rfl, -⟩ := List.cons.inj rest
          exact first.begun before call tail rfl behind

/-- The first call for an event. -/
theorem Rightful.one {call : Call} (holds : call.unit.Holds call.p call.data)
    (current : (call.unit.object call.p).registration = some call.data)
    (first : call.notification ≠ .output true)
    : Rightful [call] where
  holds := by simpa using holds
  current := by simpa using fun _ => current
  begun := by
    intro before other after split behind
    cases before with
    | nil =>
        obtain ⟨rfl, -⟩ := List.cons.inj split
        exact absurd behind first
    | cons head tail =>
        obtain ⟨-, rest⟩ := List.cons.inj split
        simp at rest

-----------------------------------------------------------------------------------------
-- Rounds
-----------------------------------------------------------------------------------------

variable {unit next : PollerUnit}

/-- A slot's object holds the slot. -/
theorem Sound.holds (sound : unit.Sound) {id : ObjectId} {data : Nat}
    (named : (unit.pollerTable (dataSlot data)).poller = some id)
    : unit.Holds id data := by
  have held := sound.named id _ named
  exact ⟨(sound.owned id _ held).2.2.2.1, held⟩

/-- `OutputNotify` behind `InputNotify` for the same event. -/
theorem Rightful.followed {data : Nat} {p : ObjectId}
    (first : Rightful [⟨.input, data, p, unit⟩]) (holds : next.Holds p data)
    : Rightful ([⟨.input, data, p, unit⟩] ++ [⟨.output true, data, p, next⟩]) where
  holds := by
    intro call member
    rcases List.mem_append.mp member with before | last
    · exact first.holds call before
    · obtain rfl := List.mem_singleton.mp last
      exact holds
  current := by
    intro call member other
    rcases List.mem_append.mp member with before | last
    · exact first.current call before other
    · obtain rfl := List.mem_singleton.mp last
      exact (other rfl).elim
  begun := by
    intro before call after split behind
    cases before with
    | nil =>
        obtain ⟨rfl, -⟩ := List.cons.inj split
        cases behind
    | cons head tail =>
        obtain ⟨rfl, rest⟩ := List.cons.inj split
        cases tail with
        | nil =>
            obtain ⟨rfl, -⟩ := List.cons.inj rest
            exact ⟨[], _, rfl, rfl, rfl, rfl⟩
        | cons second more =>
            obtain ⟨-, none⟩ := List.cons.inj rest
            simp at none

/-- A notification leads on, and the object holds the slot behind it if the round goes on. -/
theorem notify_onward (sound : unit.Sound) {notification : Notification} {data : Nat}
    {p : ObjectId} {asked stays : Bool} {answer : List Op × Int} {calls : List Call}
    (named : (unit.pollerTable (dataSlot data)).poller = some p)
    (notifies : unit.notify notification data p asked answer = some (calls, stays, next))
    : Onward unit next
      ∧ calls = (if asked then [⟨notification, data, p, unit⟩] else [])
      ∧ (asked = false → next = unit)
      ∧ (stays = true → (next.pollerTable (dataSlot data)).poller = some p) := by
  cases asked with
  | false =>
      cases notifies
      exact ⟨sound.stays, rfl, fun _ => rfl, fun _ => named⟩
  | true =>
      obtain ⟨after, performed, ends⟩ := Option.bind_eq_some_iff.mp notifies
      cases ends
      refine ⟨performAll_onward sound performed, rfl, (fun silent => by cases silent),
        fun stays => ?_⟩
      exact (of_decide_eq_true stays).1

/-- A round leads on, and its calls are rightful. -/
theorem processEvent_rightful (sound : unit.Sound) (bound : unit.maxPollers < 2147483648)
    {event : Event} (carried : event.data ∈ unit.carried) {calls : List Call}
    (processes : unit.processEvent event = some (calls, next))
    : Onward unit next ∧ Rightful calls := by
  rw [processEvent] at processes
  split at processes
  · cases processes
    exact ⟨sound.stays, rightful_nil⟩
  · rename_i passes
    obtain ⟨p, named, ⟨live, held⟩, carries⟩ := sound.verified bound carried passes
    obtain ⟨_, found, round⟩ := Option.bind_eq_some_iff.mp processes
    obtain rfl := Option.some.inj (named.symm.trans found)
    let begun := unit.setObject p { unit.object p with newEvents := (unit.object p).oldEvents }
    have begins : Onward unit begun := setObject_onward sound p rfl (fun _ => rfl) sound.usable
    have same : begun.object p
        = { unit.object p with newEvents := (unit.object p).oldEvents } :=
      Function.update_self ..
    have holds : begun.Holds p event.data := by
      rw [Holds, same]
      exact ⟨live, held⟩
    have current : (begun.object p).registration = some event.data := by
      rw [same]
      exact carries
    have one {notification : Notification} (first : notification ≠ .output true)
        : Rightful [⟨notification, event.data, p, begun⟩] :=
      .one holds current first
    have named' : (begun.pollerTable (dataSlot event.data)).poller = some p := named
    dsimp only at round
    split at round
    · obtain ⟨after, performed, ends⟩ := Option.bind_eq_some_iff.mp round
      cases ends
      exact ⟨begins.trans (performAll_onward begins.sound performed), one (by decide)⟩
    · obtain ⟨⟨inputs, reads, read⟩, notifies, rest⟩ := Option.bind_eq_some_iff.mp round
      obtain ⟨onward, inputs_eq, quiet, stays⟩ := notify_onward begins.sound named' notifies
      have reached := begins.trans onward
      have first : Rightful inputs := by
        rw [inputs_eq]
        split
        · exact one (by decide)
        · exact rightful_nil
      dsimp only at rest
      split at rest
      · cases rest
        exact ⟨reached, first⟩
      · rename_i goesOn
        have still := stays (Bool.of_not_eq_false (fun stopped => goesOn (by simp [stopped])))
        obtain ⟨⟨outputs, writes, written⟩, notifies', last⟩ := Option.bind_eq_some_iff.mp rest
        obtain ⟨onward', outputs_eq, -, -⟩ := notify_onward onward.sound still notifies'
        have both : Rightful (inputs ++ outputs) := by
          rw [outputs_eq]
          split
          · rw [inputs_eq] at first ⊢
            cases input : event.input with
            | true =>
                rw [input] at first
                exact first.followed (onward.sound.holds still)
            | false =>
                rw [quiet input]
                exact one (by decide)
          · rw [List.append_nil]
            exact first
        dsimp only at last
        split at last
        · cases last
          exact ⟨reached.trans onward', both⟩
        · cases last
          exact ⟨(reached.trans onward').trans (applyEvents_onward onward'.sound p event.ctl),
            both⟩

/-- A batch leads on, and its calls are rightful, by induction on its events. -/
theorem processPollerEvents_rightful (sound : unit.Sound)
    (bound : unit.maxPollers < 2147483648) {events : List Event}
    (carried : ∀ event ∈ events, event.data ∈ unit.carried) {calls : List Call}
    (processes : unit.processPollerEvents events = some (calls, next))
    : Onward unit next ∧ Rightful calls := by
  induction events generalizing unit calls with
  | nil =>
      cases processes
      exact ⟨sound.stays, rightful_nil⟩
  | cons event rest ih =>
      obtain ⟨⟨first, middle⟩, round, later⟩ := Option.bind_eq_some_iff.mp processes
      obtain ⟨onward, rightful⟩ :=
        processEvent_rightful sound bound (carried event List.mem_cons_self) round
      obtain ⟨⟨second, final⟩, batch, ends⟩ := Option.bind_eq_some_iff.mp later
      cases ends
      obtain ⟨onward', rightful'⟩ := ih onward.sound (onward.maxPollers ▸ bound)
        (fun event inside => onward.carried (carried event (List.mem_cons_of_mem _ inside)))
        batch
      exact ⟨onward.trans onward', rightful.append rightful'⟩

-----------------------------------------------------------------------------------------
-- Runs
-----------------------------------------------------------------------------------------

/-- What happens to a unit: an operation, or the processing of fetched events. -/
inductive Move
  | op (op : Op)
  | batch (events : List Event)

/-- A move, with the calls made so far. Events carry data that registrations have carried. -/
def Step (state : PollerUnit × List Call) (move : Move) (next : PollerUnit × List Call) : Prop :=
  match move with
  | .op op => state.1.perform op = some next.1 ∧ next.2 = state.2
  | .batch events =>
      (∀ event ∈ events, event.data ∈ state.1.carried)
        ∧ ∃ calls, state.1.processPollerEvents events = some (calls, next.1)
          ∧ next.2 = state.2 ++ calls

/-- A unit of `maxPollers` slots comes to this state with these calls made. -/
def Reached (maxPollers : Nat) (unit : PollerUnit) (calls : List Call) : Prop :=
  Reachability.Reachable (fun state => state = (initializePollerUnit maxPollers, [])) Step
    (unit, calls)

theorem Reached.rightful {maxPollers : Nat} (bound : maxPollers < 2147483648)
    {calls : List Call} (reached : Reached maxPollers unit calls)
    : unit.Sound ∧ unit.maxPollers = maxPollers ∧ Rightful calls := by
  refine reached.invariant
    (fun state => state.1.Sound ∧ state.1.maxPollers = maxPollers ∧ Rightful state.2) ?_ ?_
  · rintro _ rfl
    exact ⟨initializePollerUnit_sound maxPollers, rfl, rightful_nil⟩
  · rintro ⟨unit, calls⟩ move ⟨next, later⟩ ⟨sound, size, rightful⟩ taken
    cases move with
    | op op =>
        obtain ⟨performed, rfl⟩ := taken
        have onward := perform_onward sound performed
        exact ⟨onward.sound, onward.maxPollers.trans size, rightful⟩
    | batch events =>
        obtain ⟨carried, made, processed, rfl⟩ := taken
        obtain ⟨onward, rightful'⟩ :=
          processPollerEvents_rightful sound (size ▸ bound) carried processed
        exact ⟨onward.sound, onward.maxPollers.trans size, rightful.append rightful'⟩

-----------------------------------------------------------------------------------------
-- The slots of the attached objects
-----------------------------------------------------------------------------------------

/-- A live object holds a slot. -/
def Attached (unit : PollerUnit) (id : ObjectId) (p : SlotId) : Prop :=
  (unit.object id).live = true ∧ (unit.object id).epslot = some p

/-- `pollerTable` is divided into the free slots and those of attached objects, which
`usedPollers` counts.
-/
structure Divided (unit : PollerUnit) : Prop where
  nodup : unit.freeSlotList.Nodup
  slots : ∀ p, p < unit.maxPollers ↔ p ∈ unit.freeSlotList ∨ ∃ id, unit.Attached id p
  apart : ∀ id p, unit.Attached id p → p ∉ unit.freeSlotList
  unshared : ∀ id id' p, unit.Attached id p → unit.Attached id' p → id = id'
  finite : {id | ∃ p, unit.Attached id p}.Finite
  used : unit.usedPollers = {id | ∃ p, unit.Attached id p}.ncard

theorem Sound.attached_iff (sound : unit.Sound) {id : ObjectId} {p : SlotId}
    : unit.Attached id p ↔ (unit.object id).epslot = some p :=
  ⟨fun attached => attached.2, fun held => ⟨(sound.owned id p held).2.2.2.1, held⟩⟩

/-- The attached objects are those that the slots outside the free list name. -/
theorem Sound.attached_eq (sound : unit.Sound)
    : {id | ∃ p, unit.Attached id p}
      = (fun p => (unit.pollerTable p).poller.getD 0)
        '' (Finset.range unit.maxPollers \ unit.freeSlotList.toFinset : Finset SlotId) := by
  ext id
  simp only [Set.mem_ofPred_eq, Set.mem_image, Finset.coe_sdiff, Set.mem_sdiff, Finset.mem_coe,
    Finset.mem_range, List.mem_toFinset, sound.attached_iff]
  constructor
  · rintro ⟨p, held⟩
    obtain ⟨small, apart, named, -⟩ := sound.owned id p held
    exact ⟨p, ⟨small, apart⟩, by rw [named]; rfl⟩
  · rintro ⟨p, ⟨small, outside⟩, rfl⟩
    obtain ⟨owner, held⟩ := sound.taken p small outside
    rw [(sound.owned owner p held).2.2.1]
    exact ⟨p, held⟩

theorem Sound.attached_ncard (sound : unit.Sound)
    : unit.usedPollers = {id | ∃ p, unit.Attached id p}.ncard := by
  have listed : unit.freeSlotList.toFinset ⊆ Finset.range unit.maxPollers := by
    intro p inside
    exact Finset.mem_range.mpr (sound.inside p (List.mem_toFinset.mp inside))
  rw [sound.attached_eq, Set.InjOn.ncard_image, Set.ncard_coe_finset,
    Finset.card_sdiff_of_subset listed, Finset.card_range,
    List.toFinset_card_of_nodup sound.nodup, sound.used]
  · have small := Finset.card_le_card listed
    rw [Finset.card_range, List.toFinset_card_of_nodup sound.nodup] at small
    omega
  · intro p inside q inside' same
    simp only [Finset.coe_sdiff, Set.mem_sdiff, Finset.mem_coe, Finset.mem_range,
      List.mem_toFinset] at inside inside'
    obtain ⟨owner, held⟩ := sound.taken p inside.1 inside.2
    obtain ⟨owner', held'⟩ := sound.taken q inside'.1 inside'.2
    simp only [(sound.owned owner p held).2.2.1, (sound.owned owner' q held').2.2.1,
      Option.getD_some] at same
    subst same
    exact Option.some.inj (held.symm.trans held')

theorem Sound.divided (sound : unit.Sound) : unit.Divided where
  nodup := sound.nodup
  slots := by
    intro p
    simp only [sound.attached_iff]
    constructor
    · exact fun small => or_iff_not_imp_left.mpr (sound.taken p small)
    · rintro (free | ⟨id, held⟩)
      · exact sound.inside p free
      · exact (sound.owned id p held).1
  apart := fun id p attached => (sound.owned id p attached.2).2.1
  unshared := by
    intro id id' p attached attached'
    have named := (sound.owned id p attached.2).2.2.1
    exact Option.some.inj (named.symm.trans (sound.owned id' p attached'.2).2.2.1)
  finite := by
    rw [sound.attached_eq]
    exact (Finset.finite_toSet _).image _
  used := sound.attached_ncard

/-- In every run the table is divided among free slots and attached objects. The calls for an
event begin on the object whose registration carries the event's data, and go on only while the
slot names it; an event of no current registration is rejected.
-/
theorem events_rightful {maxPollers : Nat} (bound : maxPollers < 2147483648)
    {calls : List Call} (reached : Reached maxPollers unit calls)
    : unit.Divided ∧ Rightful calls
      ∧ ∀ event : Event, event.data ∈ unit.carried
        → (∀ id, (unit.object id).live = true
          → (unit.object id).registration ≠ some event.data)
        → unit.processEvent event = some ([], unit) := by
  obtain ⟨sound, size, rightful⟩ := reached.rightful bound
  refine ⟨sound.divided, rightful, fun event carried outdated => ?_⟩
  have rejected : unit.verifyEvents event.data = -1 := by
    by_contra passes
    obtain ⟨id, -, ⟨live, -⟩, carries⟩ := sound.verified (size ▸ bound) carried passes
    exact outdated id live carries
  rw [processEvent, if_pos rejected]

-----------------------------------------------------------------------------------------
-- A registration that is modified between the callbacks for one event
-----------------------------------------------------------------------------------------

/-- One object asks for both events. -/
def opening : List Op := [.create 1 true 5, .ask 1 ⟨true, true⟩, .attachPoller 1 false true]

/-- Its first event, for both callbacks; `InputNotify` registers the object anew. -/
def rewritten : Event where
  data := eventData 1 0
  hangup := false
  input := true
  output := true
  onHangup := []
  onInput := ([.ask 1 ⟨true, false⟩, .applyEvents 1 true], 0)
  onOutput := ([], 0)
  ctl := true

theorem Reached.performAll {maxPollers : Nat} {calls : List Call} {ops : List Op}
    (reached : Reached maxPollers unit calls) (performed : unit.performAll ops = some next)
    : Reached maxPollers next calls := by
  induction ops generalizing unit with
  | nil =>
      cases performed
      exact reached
  | cons op rest ih =>
      rw [PollerUnit.performAll, List.foldlM_cons] at performed
      obtain ⟨middle, first, later⟩ := Option.bind_eq_some_iff.mp performed
      have moved : Step (unit, calls) (.op op) (middle, calls) := ⟨first, rfl⟩
      exact ih (.step reached moved) later

/-- A run whose calls pass a check. -/
theorem reached_rewritten {check : List Call → Bool}
    (passed
      : (((initializePollerUnit 1).performAll opening).any fun opened =>
          opened.carried.contains rewritten.data
            && (opened.processPollerEvents [rewritten]).any fun result => check result.1) = true)
    : ∃ unit calls, Reached 1 unit calls ∧ check calls = true := by
  obtain ⟨opened, opens, passed⟩ := (Option.any_eq_true ..).mp passed
  obtain ⟨carried, passed⟩ := Bool.and_eq_true_iff.mp passed
  obtain ⟨⟨calls, final⟩, processes, passed⟩ := (Option.any_eq_true ..).mp passed
  refine ⟨final, calls, ?_, passed⟩
  have reached : Reached 1 opened [] := Reached.performAll (.start rfl) opens
  have batch : Step (opened, []) (.batch [rewritten]) (final, calls) := by
    refine ⟨?_, calls, processes, rfl⟩
    simpa using carried
  exact .step reached batch

/-- `OutputNotify` can run for an event whose registration has been modified. -/
theorem modified_registration_served
    : ¬∀ (maxPollers : Nat) (unit : PollerUnit) (calls : List Call), maxPollers < 2147483648
      → Reached maxPollers unit calls
      → ∀ call ∈ calls, call.unit.Holds call.p call.data
        ∧ (call.unit.object call.p).registration = some call.data := by
  intro always
  obtain ⟨unit, calls, reached, served⟩ := @reached_rewritten
    (fun calls => calls.any fun call =>
      decide ((call.unit.object call.p).registration ≠ some call.data))
    (by decide +kernel)
  obtain ⟨call, made, other⟩ := List.any_eq_true.mp served
  exact of_decide_eq_true other (always 1 unit calls (by decide) reached call made).2

/-- Both callbacks of the event are rightful. -/
theorem events_rightful_rewritten
    : ∃ unit calls, Reached 1 unit calls ∧ calls.length = 2 ∧ unit.Divided ∧ Rightful calls := by
  obtain ⟨unit, calls, reached, twice⟩ := @reached_rewritten
    (fun calls => decide (calls.length = 2)) (by decide +kernel)
  obtain ⟨divided, rightful, -⟩ := events_rightful (by decide) reached
  exact ⟨unit, calls, reached, of_decide_eq_true twice, divided, rightful⟩

end PollerUnit

end ProxyServer.Poller
