import ProxyServer.Listener.InputNotify

/-! Which descriptors of a batch `proc_request` visits.
A batch stores a descriptor under the number of its call, and an interrupted call takes a
number without being counted: descriptors that come late in the batch are not visited.
-/

namespace ProxyServer.Listener

open FaultState

-----------------------------------------------------------------------------------------
-- Batches
-----------------------------------------------------------------------------------------

/-- The outcomes of the calls that one `proc_accept` makes, up to an `EAGAIN`. -/
def batch (outside : Outside) : Nat → Nat → List AcceptOutcome
  | 0, _ => []
  | left + 1, call =>
      match outside.accept call with
      | .again => []
      | .descriptor fd => .descriptor fd :: batch outside left (call + 1)
      | .interrupted => .interrupted :: batch outside left (call + 1)
      | .failed => .failed :: batch outside left (call + 1)

/-- How many calls of a batch were not interrupted. -/
def stored (outcomes : List AcceptOutcome) : Nat :=
  outcomes.countP (· ≠ .interrupted)

/-- Every descriptor of a batch comes at an index below the number of calls that were not
interrupted.
-/
def Prompt (outcomes : List AcceptOutcome) : Prop :=
  ∀ i < outcomes.length, ∀ fd, outcomes[i]? = some (.descriptor fd) → i < stored outcomes

/-- The batches that `InputNotify` takes in its first rounds, from a given call. -/
def batches (outside : Outside) : Nat → Nat → List (List AcceptOutcome)
  | 0, _ => []
  | rounds + 1, call =>
      let outcomes := batch outside outside.acceptCnt call
      outcomes ::
        if stored outcomes = 0 ∨ outcomes.length < outside.acceptCnt then
          []
        else
          batches outside rounds (call + outside.acceptCnt)

/-- What `proc_accept` stores for a call. -/
def cell (call : Nat) : AcceptOutcome → Option Descriptor
  | .descriptor fd => some { fd := fd, call := call }
  | _ => none

/-- What `proc_accept` stores for the calls of a batch. -/
def cells : Nat → List AcceptOutcome → List (Option Descriptor)
  | _, [] => []
  | call, outcome :: rest => cell call outcome :: cells (call + 1) rest

variable {outside : Outside}

theorem cells_length (call : Nat) (outcomes : List AcceptOutcome)
    : (cells call outcomes).length = outcomes.length := by
  induction outcomes generalizing call with
  | nil => rfl
  | cons outcome rest ih => exact congrArg (· + 1) (ih (call + 1))

theorem cells_getElem? (call : Nat) (outcomes : List AcceptOutcome) (i : Nat)
    : (cells call outcomes)[i]? = outcomes[i]?.map (cell (call + i)) := by
  induction outcomes generalizing call i with
  | nil => rfl
  | cons outcome rest ih =>
      cases i with
      | zero => rfl
      | succ i =>
          have later := ih (call + 1) i
          rw [Nat.add_right_comm] at later
          exact later

/-- The descriptors in the first cells of a batch. -/
theorem mem_cells_iff {call count : Nat} {outcomes : List AcceptOutcome} {d : Descriptor}
    : d ∈ ((cells call outcomes).take count).reduceOption
      ↔ ∃ i fd, i < count ∧ outcomes[i]? = some (.descriptor fd)
          ∧ d = { fd := fd, call := call + i } := by
  rw [List.reduceOption_mem_iff, List.mem_iff_getElem?]
  constructor
  · rintro ⟨i, found⟩
    rw [List.getElem?_take] at found
    split at found
    · next below =>
        rw [cells_getElem?] at found
        obtain ⟨outcome, here, made⟩ := Option.map_eq_some_iff.mp found
        cases outcome with
        | descriptor fd =>
            cases made
            exact ⟨i, fd, below, here, rfl⟩
        | _ => cases made
    · cases found
  · rintro ⟨i, fd, below, here, rfl⟩
    refine ⟨i, ?_⟩
    rw [List.getElem?_take, if_pos below, cells_getElem?, here]
    rfl

/-- The descriptors of a batch have the numbers of its calls. -/
theorem cells_calls {call : Nat} {outcomes : List AcceptOutcome} {d : Descriptor}
    (member : d ∈ (cells call outcomes).reduceOption)
    : call ≤ d.call ∧ d.call < call + outcomes.length := by
  rw [← List.take_length (l := cells call outcomes)] at member
  obtain ⟨i, fd, below, _, rfl⟩ := mem_cells_iff.mp member
  rw [cells_length] at below
  exact ⟨Nat.le_add_right _ _, Nat.add_lt_add_left below call⟩

/-- No descriptor of a batch is stored twice. -/
theorem cells_nodup (call : Nat) (outcomes : List AcceptOutcome)
    : (cells call outcomes).reduceOption.Nodup := by
  induction outcomes generalizing call with
  | nil => exact List.nodup_nil
  | cons outcome rest ih =>
      cases outcome with
      | descriptor fd =>
          refine List.nodup_cons.mpr ⟨fun again => ?_, ih (call + 1)⟩
          have later := (cells_calls again).1
          exact absurd later (Nat.not_succ_le_self call)
      | _ => exact ih (call + 1)

/-- A batch is at most as long as the calls it may make, by induction over them. -/
theorem batch_length_le (left call : Nat) : (batch outside left call).length ≤ left := by
  induction left generalizing call with
  | zero => exact Nat.le_refl 0
  | succ left ih =>
      rw [batch]
      cases outside.accept call with
      | again => exact Nat.zero_le _
      | _ => exact Nat.succ_le_succ (ih (call + 1))

theorem stored_le (outcomes : List AcceptOutcome) : stored outcomes ≤ outcomes.length :=
  List.countP_le_length

/-- All descriptors of a batch are in the cells that are visited exactly when they come
promptly.
-/
theorem prompt_iff (call : Nat) (outcomes : List AcceptOutcome)
    : Prompt outcomes
      ↔ ∀ d ∈ (cells call outcomes).reduceOption,
          d ∈ ((cells call outcomes).take (stored outcomes)).reduceOption := by
  constructor
  · intro prompt d member
    rw [← List.take_length (l := cells call outcomes)] at member
    obtain ⟨i, fd, below, here, rfl⟩ := mem_cells_iff.mp member
    rw [cells_length] at below
    exact mem_cells_iff.mpr ⟨i, fd, prompt i below fd here, here, rfl⟩
  · intro all i below fd here
    have member : { fd := fd, call := call + i } ∈ (cells call outcomes).reduceOption := by
      rw [← List.take_length (l := cells call outcomes), cells_length]
      exact mem_cells_iff.mpr ⟨i, fd, below, here, rfl⟩
    obtain ⟨j, fd', visited, _, same⟩ := mem_cells_iff.mp (all _ member)
    have sameCall : call + i = call + j := congrArg Descriptor.call same
    omega

-----------------------------------------------------------------------------------------
-- One round
-----------------------------------------------------------------------------------------

/-- `proc_accept` stores its batch, by induction over the calls left. -/
theorem acceptLoop_eq {left i : Nat} {listener : ListenerState}
    {done : List (Option Descriptor)} (array : listener.fdArray = done ++ List.replicate left none)
    (index : done.length = i)
    : acceptLoop outside left i listener
      = let outcomes := batch outside left listener.calls
        (if outcomes.length < left then -1 else 0,
          { fdArray := done ++ cells listener.calls outcomes
              ++ List.replicate (left - outcomes.length) none
            newfdCnt := listener.newfdCnt + stored outcomes
            calls := listener.calls + outcomes.length
              + (if outcomes.length < left then 1 else 0)
            log := listener.log
              ++ (cells listener.calls outcomes).reduceOption.map .accepted }) := by
  induction left generalizing i listener done with
  | zero =>
      obtain ⟨fdArray, newfdCnt, calls, log⟩ := listener
      subst array
      simp [acceptLoop, batch, cells, stored]
  | succ left ih =>
      obtain ⟨fdArray, newfdCnt, calls, log⟩ := listener
      subst array
      have next : ∀ entry : Option Descriptor, (done ++ [entry]).length = i + 1 := by
        intro entry
        rw [List.length_append, index]
        rfl
      have put : ∀ entry : Option Descriptor,
          (done ++ List.replicate (left + 1) none).set i entry
            = (done ++ [entry]) ++ List.replicate left none := by
        intro entry
        rw [List.replicate_succ, List.set_append_right _ _ (by omega), index, Nat.sub_self,
          List.set_cons_zero, List.append_assoc]
        rfl
      have skip : done ++ List.replicate (left + 1) none
          = (done ++ [none]) ++ List.replicate left none := by
        rw [List.replicate_succ, List.append_assoc]
        rfl
      cases outcome : outside.accept calls with
      | again => simp [acceptLoop, batch, cells, stored, outcome]
      | interrupted =>
          simp only [acceptLoop, batch, outcome]
          rw [ih skip (next none)]
          simp [cells, cell, stored, Nat.add_assoc, Nat.add_comm 1]
      | failed =>
          simp only [acceptLoop, batch, outcome]
          rw [ih (put none) (next none)]
          simp [cells, cell, stored, Nat.add_assoc, Nat.add_comm 1]
      | descriptor fd =>
          simp only [acceptLoop, batch, outcome]
          rw [ih (put _) (next _)]
          simp [cells, cell, stored, Nat.add_assoc, Nat.add_comm 1]

/-- What a fault-free `proc_request` does for a descriptor. -/
def service (outside : Outside) (fd : Descriptor) : List ListenerAction :=
  if outside.session fd = .noDecoderUnit then
    [.createDecoderunit fd, .closed fd]
  else
    [.createDecoderunit fd]

/-- A fault-free service leaves the cells behind alone. -/
theorem serveCell_service {i : Nat} {fd : Descriptor} {start final : ListenerState}
    (run : Yields (serveCell outside i fd) start () final)
    : final.log = start.log ++ service outside fd ∧ final.calls = start.calls
      ∧ final.fdArray.drop (i + 1) = start.fdArray.drop (i + 1) := by
  obtain ⟨_, noted, hnote, rest⟩ := yields_bind.mp run
  obtain rfl := yields_modify.mp hnote
  rw [service]
  cases session : outside.session fd with
  | noDecoderUnit =>
      rw [session] at rest
      obtain ⟨_, closed, hclosed, hset⟩ := yields_bind.mp rest
      obtain rfl := yields_modify.mp hclosed
      obtain rfl := yields_modify.mp hset
      refine ⟨?_, rfl, List.drop_set_of_lt (Nat.lt_succ_self i)⟩
      rw [if_pos rfl]
      exact List.append_assoc _ _ _
  | noClientUnit =>
      rw [session] at rest
      obtain ⟨_, _, _, fails⟩ := yields_bind.mp rest
      exact (not_yields_throw fails).elim
  | noGameUnit =>
      rw [session] at rest
      obtain ⟨_, _, _, later⟩ := yields_bind.mp rest
      obtain ⟨_, _, _, fails⟩ := yields_bind.mp later
      exact (not_yields_throw fails).elim
  | notAttached =>
      rw [session] at rest
      obtain ⟨_, _, _, later⟩ := yields_bind.mp rest
      obtain ⟨_, _, _, fails⟩ := yields_bind.mp later
      exact (not_yields_throw fails).elim
  | serving =>
      rw [session] at rest
      obtain ⟨_, rfl⟩ := yields_pure.mp rest
      exact ⟨by rw [if_neg (by decide)], rfl, rfl⟩

/-- `proc_request` serves the descriptors of the cells it visits, by induction over the cells
left.
-/
theorem requestLoop_serves {left i : Nat} {start final : ListenerState}
    (run : Yields (requestLoop outside left i) start () final)
    : final.log
        = start.log ++ ((start.fdArray.drop i).take left).reduceOption.flatMap (service outside)
      ∧ final.calls = start.calls := by
  induction left generalizing i start with
  | zero =>
      obtain ⟨_, rfl⟩ := yields_pure.mp run
      simp
  | succ left ih =>
      obtain ⟨_, start, got, rest⟩ := yields_bind.mp run
      obtain ⟨rfl, rfl⟩ := yields_get.mp got
      cases inside : start.fdArray[i]? with
      | none =>
          rw [inside] at rest
          exact (not_yields_throw rest).elim
      | some entry =>
          rw [inside] at rest
          obtain ⟨below, here⟩ := List.getElem?_eq_some_iff.mp inside
          have split : start.fdArray.drop i = entry :: start.fdArray.drop (i + 1) := by
            rw [List.drop_eq_getElem_cons below, here]
          cases entry with
          | none =>
              obtain ⟨log, calls⟩ := ih rest
              rw [split, List.take_succ_cons, List.reduceOption_cons_of_none]
              exact ⟨log, calls⟩
          | some fd =>
              obtain ⟨_, served, hserve, later⟩ := yields_bind.mp rest
              obtain ⟨log, calls, behind⟩ := serveCell_service hserve
              obtain ⟨logLater, callsLater⟩ := ih later
              rw [split, List.take_succ_cons, List.reduceOption_cons_of_some, List.flatMap_cons,
                logLater, log, behind, List.append_assoc]
              exact ⟨rfl, callsLater.trans calls⟩

-----------------------------------------------------------------------------------------
-- Whose descriptors they are
-----------------------------------------------------------------------------------------

/-- Every descriptor that `accept` returned was handed to `create_decoderunit` exactly once, or
closed.
-/
def Settled (log : List ListenerAction) : Prop :=
  ∀ fd, .accepted fd ∈ log → log.count (.createDecoderunit fd) = 1 ∨ .closed fd ∈ log

def ListenerAction.fd : ListenerAction → Descriptor
  | accepted newfd => newfd
  | createDecoderunit fd => fd
  | closed fd => fd

/-- Descriptors are settled by the actions on themselves. -/
theorem settled_append {log more : List ListenerAction}
    (apart : ∀ old ∈ log, ∀ new ∈ more, old.fd ≠ new.fd)
    : Settled (log ++ more) ↔ Settled log ∧ Settled more := by
  have left : ∀ fd, .accepted fd ∈ log →
      ((log ++ more).count (.createDecoderunit fd) = log.count (.createDecoderunit fd)
        ∧ (.closed fd ∈ log ++ more ↔ .closed fd ∈ log)) := by
    intro fd member
    have absent : ∀ action ∈ more, action.fd ≠ fd :=
      fun new inside same => apart _ member new inside same.symm
    rw [List.count_append, List.mem_append,
      List.count_eq_zero.mpr (fun inside => absent _ inside rfl)]
    exact ⟨rfl, or_iff_left (fun inside => absent _ inside rfl)⟩
  have right : ∀ fd, .accepted fd ∈ more →
      ((log ++ more).count (.createDecoderunit fd) = more.count (.createDecoderunit fd)
        ∧ (.closed fd ∈ log ++ more ↔ .closed fd ∈ more)) := by
    intro fd member
    have absent : ∀ action ∈ log, action.fd ≠ fd :=
      fun old inside => apart old inside _ member
    rw [List.count_append, List.mem_append,
      List.count_eq_zero.mpr (fun inside => absent _ inside rfl), Nat.zero_add]
    exact ⟨rfl, or_iff_right (fun inside => absent _ inside rfl)⟩
  constructor
  · intro settled
    refine ⟨fun fd member => ?_, fun fd member => ?_⟩
    · have whole := settled fd (List.mem_append_left _ member)
      rwa [(left fd member).1, (left fd member).2] at whole
    · have whole := settled fd (List.mem_append_right _ member)
      rwa [(right fd member).1, (right fd member).2] at whole
  · rintro ⟨settled, settledMore⟩ fd member
    rcases List.mem_append.mp member with old | new
    · rw [(left fd old).1, (left fd old).2]
      exact settled fd old
    · rw [(right fd new).1, (right fd new).2]
      exact settledMore fd new

/-- A service is about its descriptor. -/
theorem service_fd {fd : Descriptor} {action : ListenerAction}
    (member : action ∈ service outside fd)
    : action.fd = fd := by
  rw [service] at member
  split at member
  · rcases List.mem_pair.mp member with rfl | rfl <;> rfl
  · obtain rfl := List.mem_singleton.mp member
    rfl

/-- Serving hands each descriptor over once, by induction over the descriptors. -/
theorem service_count (outside : Outside) (visited : List Descriptor) (fd : Descriptor)
    : (visited.flatMap (service outside)).count (.createDecoderunit fd) = visited.count fd := by
  induction visited with
  | nil => rfl
  | cons first rest ih =>
      have once : (service outside first).count (.createDecoderunit fd)
          = if first == fd then 1 else 0 := by
        rw [service]
        split <;> by_cases same : first = fd <;> simp [same]
      rw [List.flatMap_cons, List.count_append, ih, once, List.count_cons, Nat.add_comm]

/-- The descriptors of a batch are settled when they are all visited. -/
theorem settled_batch (outside : Outside) {accepted visited : List Descriptor}
    (nodup : visited.Nodup)
    : Settled (accepted.map .accepted ++ visited.flatMap (service outside))
      ↔ ∀ fd ∈ accepted, fd ∈ visited := by
  have handed : ∀ fd, (accepted.map ListenerAction.accepted
        ++ visited.flatMap (service outside)).count (.createDecoderunit fd)
      = visited.count fd := by
    intro fd
    rw [List.count_append, service_count,
      List.count_eq_zero.mpr (fun inside => by simp at inside), Nat.zero_add]
  constructor
  · intro settled fd member
    rcases settled fd (List.mem_append_left _ (List.mem_map_of_mem member)) with once | closed
    · rw [handed] at once
      exact List.count_pos_iff.mp (by omega)
    · rcases List.mem_append.mp closed with inside | inside
      · simp at inside
      · obtain ⟨served, visit, action⟩ := List.mem_flatMap.mp inside
        have same : fd = served := service_fd action
        rwa [same]
  · intro all fd member
    have inside : fd ∈ accepted := by
      rcases List.mem_append.mp member with inside | inside
      · obtain ⟨other, found, same⟩ := List.mem_map.mp inside
        cases same
        exact found
      · obtain ⟨served, _, action⟩ := List.mem_flatMap.mp inside
        rw [service] at action
        split at action <;> simp at action
    rw [handed]
    exact Or.inl (List.count_eq_one_of_mem nodup (all fd inside))

/-- What was done so far is about descriptors of earlier calls. -/
def ListenerState.Past (listener : ListenerState) : Prop :=
  ∀ action ∈ listener.log, action.fd.call < listener.calls

/-- What `proc_accept` leaves. -/
theorem procAccept_eq (listener : ListenerState)
    : procAccept outside listener
      = let outcomes := batch outside outside.acceptCnt listener.calls
        (if outcomes.length < outside.acceptCnt then -1 else 0,
          { fdArray := cells listener.calls outcomes
              ++ List.replicate (outside.acceptCnt - outcomes.length) none
            newfdCnt := stored outcomes
            calls := listener.calls + outcomes.length
              + (if outcomes.length < outside.acceptCnt then 1 else 0)
            log := listener.log
              ++ (cells listener.calls outcomes).reduceOption.map .accepted }) := by
  refine (acceptLoop_eq (List.nil_append _).symm List.length_nil).trans ?_
  simp

/-- A descriptor of a batch is that of a later call than the descriptors before. -/
theorem past_apart {listener : ListenerState} (past : listener.Past)
    {outcomes : List AcceptOutcome} {more : List ListenerAction}
    (batched : ∀ action ∈ more, action.fd ∈ (cells listener.calls outcomes).reduceOption)
    : ∀ old ∈ listener.log, ∀ new ∈ more, old.fd ≠ new.fd := by
  intro old before new after same
  have earlier := past old before
  have later := (cells_calls (batched new after)).1
  rw [same] at earlier
  omega

/-- The descriptors in the cells visited are some of those in the cells. -/
theorem visited_subset (call : Nat) (outcomes : List AcceptOutcome)
    : ((cells call outcomes).take (stored outcomes)).reduceOption.Sublist
      (cells call outcomes).reduceOption :=
  (List.take_sublist _ _).filterMap id

/-- A batch and its `proc_request` settle the batch when it is prompt, and nothing else. -/
theorem round_settled {listener final : ListenerState} (past : listener.Past)
    (run : Yields (procRequest outside) (procAccept outside listener).2 () final)
    : let outcomes := batch outside outside.acceptCnt listener.calls
      (Settled final.log ↔ Settled listener.log ∧ Prompt outcomes)
        ∧ final.Past
        ∧ final.calls
          = listener.calls + outcomes.length
            + (if outcomes.length < outside.acceptCnt then 1 else 0) := by
  intro outcomes
  rw [procAccept_eq] at run
  obtain ⟨_, start, got, serves⟩ := yields_bind.mp run
  obtain ⟨rfl, rfl⟩ := yields_get.mp got
  obtain ⟨log, calls⟩ := requestLoop_serves serves
  have cut : (cells listener.calls outcomes
        ++ List.replicate (outside.acceptCnt - outcomes.length) none).take (stored outcomes)
      = (cells listener.calls outcomes).take (stored outcomes) := by
    apply List.take_append_of_le_length
    rw [cells_length]
    exact stored_le outcomes
  dsimp only at log calls
  rw [List.drop_zero, cut, List.append_assoc] at log
  let accepted := (cells listener.calls outcomes).reduceOption
  let visited := ((cells listener.calls outcomes).take (stored outcomes)).reduceOption
  have batched : ∀ action ∈ accepted.map .accepted ++ visited.flatMap (service outside),
      action.fd ∈ accepted := by
    intro action member
    rcases List.mem_append.mp member with here | here
    · obtain ⟨fd, inside, rfl⟩ := List.mem_map.mp here
      exact inside
    · obtain ⟨fd, inside, serviced⟩ := List.mem_flatMap.mp here
      rw [service_fd serviced]
      exact (visited_subset _ _).subset inside
  have nodup : visited.Nodup := (cells_nodup _ _).sublist (visited_subset _ _)
  refine ⟨?_, ?_, calls⟩
  · rw [log, settled_append (past_apart past batched), settled_batch outside nodup,
      prompt_iff listener.calls]
  · intro action member
    rw [log] at member
    rw [calls]
    rcases List.mem_append.mp member with before | here
    · have earlier := past action before
      omega
    · have later : action.fd.call < listener.calls + outcomes.length :=
        (cells_calls (batched action here)).2
      exact Nat.lt_add_right _ later

/-- A batch of interrupted calls changes nothing. -/
theorem empty_batch {listener : ListenerState}
    (empty : stored (batch outside outside.acceptCnt listener.calls) = 0)
    : (procAccept outside listener).2.log = listener.log
      ∧ Prompt (batch outside outside.acceptCnt listener.calls) := by
  have interrupted : ∀ outcome ∈ batch outside outside.acceptCnt listener.calls,
      outcome = .interrupted := by
    intro outcome member
    simpa using List.countP_eq_zero.mp empty outcome member
  have prompt : Prompt (batch outside outside.acceptCnt listener.calls) := by
    intro i _ fd here
    cases interrupted _ (List.mem_of_getElem? here)
  refine ⟨?_, prompt⟩
  have none_visited := (prompt_iff listener.calls _).mp prompt
  rw [empty, List.take_zero] at none_visited
  have none_accepted : (cells listener.calls
      (batch outside outside.acceptCnt listener.calls)).reduceOption = [] :=
    List.eq_nil_iff_forall_not_mem.mpr (fun fd member => nomatch none_visited fd member)
  rw [procAccept_eq]
  dsimp only
  rw [none_accepted, List.map_nil, List.append_nil]

/-- The rounds of `InputNotify` settle the prompt batches, by induction over the rounds. -/
theorem rounds_settled {rounds : Nat} {listener final : ListenerState} {result : Option Int}
    (past : listener.Past) (run : Yields (inputNotify outside rounds) listener result final)
    : Settled final.log
      ↔ Settled listener.log ∧ ∀ outcomes ∈ batches outside rounds listener.calls,
          Prompt outcomes := by
  induction rounds generalizing listener with
  | zero =>
      obtain ⟨_, rfl⟩ := yields_pure.mp run
      simp [batches]
  | succ rounds ih =>
      obtain ⟨ret, accepted, accepts, rest⟩ := yields_bind.mp run
      have took := yields_modifyGet.mp accepts
      have state := @procAccept_eq outside listener
      rw [took] at state
      obtain ⟨answered, stores⟩ := Prod.mk.inj state
      have count := congrArg ListenerState.newfdCnt stores
      obtain ⟨_, accepted, got, body⟩ := yields_bind.mp rest
      obtain ⟨rfl, rfl⟩ := yields_get.mp got
      rw [batches, List.forall_mem_cons]
      split at body
      · next empty =>
          obtain ⟨_, rfl⟩ := yields_pure.mp body
          rw [count] at empty
          obtain ⟨same, prompt⟩ := empty_batch empty
          rw [took] at same
          rw [if_pos (Or.inl empty), same]
          simp [prompt]
      · next filled =>
          rw [count] at filled
          obtain ⟨_, served, serves, onward⟩ := yields_bind.mp body
          have serves' : Yields (procRequest outside) (procAccept outside listener).2 () served :=
            took ▸ serves
          obtain ⟨settled, pastNext, calls⟩ := round_settled past serves'
          have atMost := @batch_length_le outside outside.acceptCnt listener.calls
          by_cases again : (batch outside outside.acceptCnt listener.calls).length
              < outside.acceptCnt
          · rw [if_pos again] at answered
            rw [if_pos (by omega)] at onward
            obtain ⟨_, rfl⟩ := yields_pure.mp onward
            rw [if_pos (Or.inr again), settled]
            simp
          · rw [if_neg again] at answered calls
            rw [if_neg (by omega)] at onward
            have next : served.calls = listener.calls + outside.acceptCnt := by omega
            have later := ih pastNext onward
            rw [next] at later
            rw [if_neg (not_or.mpr ⟨filled, again⟩), later, settled, and_assoc]

/-- The rounds of a call of `InputNotify` leave no descriptor unowned exactly when each of
their batches is prompt.
-/
theorem inputNotify_settled_iff (outside : Outside) (fdArray : List (Option Descriptor))
    (newfdCnt rounds : Nat) {result : Option Int} {final : ListenerState}
    (run
      : Yields (inputNotify outside rounds) (ListenerState.idle fdArray newfdCnt) result final)
    : Settled final.log ↔ ∀ outcomes ∈ batches outside rounds 0, Prompt outcomes := by
  have past : (ListenerState.idle fdArray newfdCnt).Past := fun _ member => nomatch member
  have nothing : Settled (ListenerState.idle fdArray newfdCnt).log :=
    fun _ member => nomatch member
  rw [rounds_settled past run]
  exact and_iff_right nothing

/-- Two descriptors, the second without a session, and an interrupted call behind them. -/
def interruptedLast : Outside where
  acceptCnt := 3
  accept := fun call => [.descriptor 5, .descriptor 6, .interrupted].getD call .again
  session := fun fd => if fd.fd = 6 then .noDecoderUnit else .serving

/-- They are all settled. -/
theorem inputNotify_settled_iff_interruptedLast
    : ∃ final, Yields (inputNotify interruptedLast 2) (ListenerState.idle [] 0) (some 0) final
        ∧ (Settled final.log
          ↔ ∀ outcomes ∈ batches interruptedLast 2 0, Prompt outcomes) :=
  ⟨_, rfl, inputNotify_settled_iff interruptedLast [] 0 2 rfl⟩

/-- A signal interrupts the first call of a burst. -/
def interruptedFirst : Outside where
  acceptCnt := 3
  accept := fun call => [.interrupted, .descriptor 5].getD call .again
  session := fun _ => .serving

/-- The descriptor that comes after it is neither handed over nor closed. -/
theorem interrupted_first_left_open
    : ¬∀ (outside : Outside) (rounds : Nat) (result : Option Int) (final : ListenerState),
        Yields (inputNotify outside rounds) (ListenerState.idle [] 0) result final
        → Settled final.log := by
  intro all
  have settled := all interruptedFirst 1 (some 0)
    { fdArray := [none, some { fd := 5, call := 1 }, none], newfdCnt := 1, calls := 3,
      log := [.accepted { fd := 5, call := 1 }] } rfl
  rcases settled { fd := 5, call := 1 } (by decide) with once | closed
  · exact absurd once (by decide)
  · exact absurd closed (by decide)

end ProxyServer.Listener
