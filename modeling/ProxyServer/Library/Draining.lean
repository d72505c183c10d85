import Mathlib

/-! Draining the due elements of a queue that their own service may change.
The front is served as long as it is due. A service may touch any elements: it takes those
out of the queue, and may put elements that are not due behind it.
-/

namespace Draining

/-- A queue, which of its elements are due, what serving one does, and which elements the
service touches.
-/
structure Service (σ α : Type) where
  queue : σ → List α
  due : σ → α → Bool
  serve : α → σ → σ
  touched : α → σ → List α

variable {σ α : Type}

namespace Service

variable (service : Service σ α)

/-- Serves the front while it is due. Each served element is kept with the state that its
service started in.
-/
def drain : Nat → σ → Option (List (α × σ) × σ)
  | 0, _ => none
  | fuel + 1, state =>
      match service.queue state with
      | [] => some ([], state)
      | front :: _ =>
          if service.due state front then
            (drain fuel (service.serve front state)).map
              (fun (later, final) => ((front, state) :: later, final))
          else
            some ([], state)

/-- What an invariant of the services says: due elements come first, and a service changes
the queue by the elements it touches and by elements behind that are not due.
-/
structure Orderly [DecidableEq α] (invariant : σ → Prop) : Prop where
  nodup : ∀ {state}, invariant state → (service.queue state).Nodup
  dueFirst
    : ∀ {state}, invariant state
      → (service.queue state).Pairwise
        (fun front behind => service.due state behind → service.due state front)
  serves
    : ∀ {state front rest},
        invariant state
        → service.queue state = front :: rest
        → service.due state front
        → invariant (service.serve front state)
          ∧ ∃ fresh,
            service.queue (service.serve front state)
              = rest.filter (· ∉ service.touched front state) ++ fresh
            ∧ (∀ element ∈ fresh, ¬service.due (service.serve front state) element)
            ∧ ∀ element ∈ rest,
                element ∉ service.touched front state
                → (service.due (service.serve front state) element
                  ↔ service.due state element)

/-- Exactly the elements that were due and that no earlier service touched have been served,
in the order of the queue.
-/
structure Drained (start : σ) (served : List (α × σ)) (final : σ) : Prop where
  inOrder
    : (served.map Prod.fst).Sublist ((service.queue start).filter (service.due start))
  untouched
    : served.Pairwise (fun earlier later => later.1 ∉ service.touched earlier.1 earlier.2)
  complete
    : ∀ element ∈ service.queue start,
        service.due start element
        → element ∉ served.map Prod.fst
        → ∃ earlier ∈ served,
            element ∈ service.touched earlier.1 earlier.2
            ∧ [earlier.1, element].Sublist (service.queue start)
  left : ∀ element ∈ service.queue final, ¬service.due final element

variable {service} {invariant : σ → Prop}

/-- A queue whose front is not due is drained. -/
theorem drained_of_front {start : σ}
    (none_due : ∀ element ∈ service.queue start, ¬service.due start element)
    : service.Drained start [] start where
  inOrder := List.nil_sublist _
  untouched := List.Pairwise.nil
  complete := fun element member due _ => absurd due (none_due element member)
  left := none_due

/-- An order of two elements that does not involve the added ones was there before. -/
theorem sublist_of_append {first second : α} {queue fresh : List α}
    (ordered : [first, second].Sublist (queue ++ fresh)) (outside : second ∉ fresh)
    : [first, second].Sublist queue := by
  obtain ⟨front, back, split, inQueue, inFresh⟩ := List.sublist_append_iff.mp ordered
  rcases List.eq_nil_or_concat back with rfl | ⟨before, last, rfl⟩
  · rw [List.append_nil] at split
    rwa [split]
  · have same : last = second := by
      have ends := congrArg List.getLast? split
      simpa using ends.symm
    subst same
    exact absurd (inFresh.subset (by simp)) outside

/-- The elements due after a service were due before it and are left alone by it. -/
theorem due_after [DecidableEq α] {start next : σ} {front : α} {rest fresh : List α}
    (changed
      : service.queue next = rest.filter (· ∉ service.touched front start) ++ fresh)
    (fresh_later : ∀ element ∈ fresh, ¬service.due next element)
    (same
      : ∀ element ∈ rest,
          element ∉ service.touched front start
          → (service.due next element ↔ service.due start element))
    : (service.queue next).filter (service.due next)
      = (rest.filter (· ∉ service.touched front start)).filter (service.due start) := by
  have none_due : fresh.filter (service.due next) = [] :=
    List.filter_eq_nil_iff.mpr fresh_later
  rw [changed, List.filter_append, none_due, List.append_nil]
  apply List.filter_congr
  intro element member
  obtain ⟨inside, alone⟩ := List.mem_filter.mp member
  exact Bool.eq_iff_iff.mpr (same element inside (by simpa using alone))

/-- One service in front of a drained rest, which holds the elements that it left alone and
others that are not due.
-/
theorem Drained.cons [DecidableEq α] {start next final : σ} {front : α} {rest fresh : List α}
    {served : List (α × σ)} (drained : service.Drained next served final)
    (queued : service.queue start = front :: rest) (due : service.due start front)
    (nodup : (service.queue next).Nodup)
    (changed
      : service.queue next = rest.filter (· ∉ service.touched front start) ++ fresh)
    (fresh_later : ∀ element ∈ fresh, ¬service.due next element)
    (same
      : ∀ element ∈ rest,
          element ∉ service.touched front start
          → (service.due next element ↔ service.due start element))
    : service.Drained start ((front, start) :: served) final := by
  have kept := due_after changed fresh_later same
  have members : ∀ later ∈ served,
      later.1 ∈ rest ∧ later.1 ∉ service.touched front start := by
    intro later member
    have inQueue := drained.inOrder.subset (List.mem_map_of_mem member)
    rw [kept] at inQueue
    obtain ⟨inside, alone⟩ := List.mem_filter.mp (List.mem_filter.mp inQueue).1
    exact ⟨inside, by simpa using alone⟩
  refine ⟨?_, ?_, ?_, drained.left⟩
  · rw [queued, List.map_cons, List.filter_cons_of_pos due]
    refine List.Sublist.cons_cons front (drained.inOrder.trans ?_)
    rw [kept]
    exact List.Sublist.filter _ List.filter_sublist
  · exact List.Pairwise.cons (fun later member => (members later member).2) drained.untouched
  · intro element member elementDue unserved
    rw [queued] at member ⊢
    rw [List.map_cons, List.mem_cons, not_or] at unserved
    have inside : element ∈ rest := (List.mem_cons.mp member).resolve_left unserved.1
    by_cases touched : element ∈ service.touched front start
    · exact ⟨(front, start), List.mem_cons_self, touched,
        List.Sublist.cons_cons front (List.singleton_sublist.mpr inside)⟩
    · have alone : element ∈ rest.filter (· ∉ service.touched front start) :=
        List.mem_filter.mpr ⟨inside, by simpa using touched⟩
      have queuedNext : element ∈ service.queue next := by
        rw [changed]
        exact List.mem_append_left _ alone
      obtain ⟨earlier, found, touches, ordered⟩ := drained.complete element queuedNext
        ((same element inside touched).mpr elementDue) unserved.2
      refine ⟨earlier, List.mem_cons_of_mem _ found, touches, List.Sublist.cons front ?_⟩
      rw [changed] at ordered nodup
      have outside : element ∉ fresh := (List.disjoint_of_nodup_append nodup) alone
      exact (sublist_of_append ordered outside).trans List.filter_sublist

/-- With fuel for every due element the drain ends, by induction on the fuel: a service
leaves fewer due elements than it found.
-/
theorem Orderly.drain_ends [DecidableEq α] {invariant : σ → Prop}
    (orderly : service.Orderly invariant) {fuel : Nat} {start : σ} (holds : invariant start)
    (enough : ((service.queue start).filter (service.due start)).length < fuel)
    : ∃ served final,
        service.drain fuel start = some (served, final)
        ∧ invariant final
        ∧ service.Drained start served final := by
  induction fuel generalizing start with
  | zero => omega
  | succ fuel ih =>
      have dueFirst := orderly.dueFirst holds
      cases queued : service.queue start with
      | nil =>
          refine ⟨[], start, by rw [drain, queued], holds, drained_of_front ?_⟩
          rw [queued]
          simp
      | cons front rest =>
          rw [queued] at dueFirst
          by_cases due : service.due start front
          · obtain ⟨next, fresh, changed, fresh_later, same⟩ := orderly.serves holds queued due
            have fewer : ((service.queue (service.serve front start)).filter
                (service.due (service.serve front start))).length < fuel := by
              have shorter := (List.Sublist.filter (service.due start)
                (List.filter_sublist (l := rest)
                  (p := (· ∉ service.touched front start)))).length_le
              rw [queued, List.filter_cons_of_pos due, List.length_cons] at enough
              rw [due_after changed fresh_later same]
              omega
            obtain ⟨served, final, run, kept, drained⟩ := ih next fewer
            refine ⟨(front, start) :: served, final, ?_, kept,
              drained.cons queued due (orderly.nodup next) changed fresh_later same⟩
            rw [drain, queued]
            simp only [if_pos due, run, Option.map_some]
          · refine ⟨[], start, ?_, holds, drained_of_front ?_⟩
            · rw [drain, queued]
              simp only [if_neg due]
            · rw [queued]
              intro element member
              rcases List.mem_cons.mp member with rfl | behind
              · exact due
              · exact fun later => due ((List.pairwise_cons.mp dueFirst).1 element behind later)

/-- What every service keeps may be added to the invariant. -/
theorem Orderly.and [DecidableEq α] {invariant kept : σ → Prop}
    (orderly : service.Orderly invariant)
    (keeps
      : ∀ {state front rest},
          invariant state
          → kept state
          → service.queue state = front :: rest
          → kept (service.serve front state))
    : service.Orderly (fun state => invariant state ∧ kept state) where
  nodup := fun holds => orderly.nodup holds.1
  dueFirst := fun holds => orderly.dueFirst holds.1
  serves := by
    intro state front rest holds queued due
    obtain ⟨next, changed⟩ := orderly.serves holds.1 queued due
    exact ⟨⟨next, keeps holds.1 holds.2 queued⟩, changed⟩

/-- More fuel changes nothing, by induction on the fuel. -/
theorem drain_more {fuel : Nat} {start final : σ} {served : List (α × σ)}
    (run : service.drain fuel start = some (served, final)) (extra : Nat)
    : service.drain (fuel + extra) start = some (served, final) := by
  induction fuel generalizing start served final with
  | zero => cases run
  | succ fuel ih =>
      rw [Nat.succ_add, drain]
      rw [drain] at run
      cases queued : service.queue start with
      | nil => rwa [queued] at run
      | cons front rest =>
          rw [queued] at run
          by_cases due : service.due start front
          · simp only [if_pos due] at run ⊢
            obtain ⟨⟨later, last⟩, ran, same⟩ := Option.map_eq_some_iff.mp run
            rw [ih ran, Option.map_some, same]
          · simp only [if_neg due] at run ⊢
            exact run

end Service

end Draining
