import ProxyServer.Listener.AcceptedDescriptors

/-! What `proc_request` does when a session cannot be built.
Where `create_decoderunit` fails it closes the descriptor and goes on. Where `listener_input`
fails it falls through to the line that is meant for sessions that serve.
-/

namespace ProxyServer.Listener

open FaultState

/-- The session serves, or there is none. Otherwise `listener_input` has failed. -/
def SessionResult.Clean (result : SessionResult) : Prop :=
  result = .serving ∨ result = .noDecoderUnit

/-- `proc_request` comes to its end without an access to a deleted or null session, hands every
descriptor in `_fd_array` over once, and closes once those without a serving session.
-/
def ServesBatch (outside : Outside) (listener : ListenerState) : Prop :=
  Delivers (procRequest outside) listener
    (fun _ next =>
      ∃ shown, next.log = listener.log ++ shown
        ∧ ∀ fd ∈ listener.fdArray.reduceOption,
            shown.count (.createDecoderunit fd) = 1
            ∧ shown.count (.closed fd) = if outside.session fd = .serving then 0 else 1)

variable {outside : Outside}

-----------------------------------------------------------------------------------------
-- Serving
-----------------------------------------------------------------------------------------

/-- Only descriptors with a clean session are served without a fault. -/
theorem serveCell_clean {i : Nat} {fd : Descriptor} {start final : ListenerState}
    (run : Yields (serveCell outside i fd) start () final)
    : (outside.session fd).Clean := by
  obtain ⟨_, _, _, rest⟩ := yields_bind.mp run
  cases session : outside.session fd with
  | noDecoderUnit => exact Or.inr rfl
  | serving => exact Or.inl rfl
  | noClientUnit =>
      rw [session] at rest
      obtain ⟨_, _, _, fails⟩ := yields_bind.mp rest
      exact (not_yields_throw fails).elim
  | noGameUnit =>
      rw [session] at rest
      obtain ⟨_, _, _, later⟩ := yields_bind.mp rest
      obtain ⟨_, _, _, fails⟩ := yields_bind.mp later
      exact (not_yields_throw fails).elim
  | notAttached =>
      rw [session] at rest
      obtain ⟨_, _, _, later⟩ := yields_bind.mp rest
      obtain ⟨_, _, _, fails⟩ := yields_bind.mp later
      exact (not_yields_throw fails).elim

/-- A descriptor with a clean session is served without a fault. -/
theorem serveCell_delivers {i : Nat} {fd : Descriptor} {start : ListenerState}
    (clean : (outside.session fd).Clean)
    : Delivers (serveCell outside i fd) start
        (fun _ final => final.fdArray.length = start.fdArray.length) := by
  refine Delivers.bind (Delivers.modify ?_)
  rcases clean with serving | absent
  · rw [serving]
    exact Delivers.pure rfl
  · rw [absent]
    exact Delivers.bind (Delivers.modify (Delivers.modify List.length_set))

/-- The loop ends without a fault only if all descriptors it visits have clean sessions, by
induction over the cells left.
-/
theorem requestLoop_clean {left i : Nat} {start final : ListenerState}
    (run : Yields (requestLoop outside left i) start () final)
    : ∀ fd ∈ ((start.fdArray.drop i).take left).reduceOption, (outside.session fd).Clean := by
  induction left generalizing i start with
  | zero => simp
  | succ left ih =>
      obtain ⟨_, start, got, rest⟩ := yields_bind.mp run
      obtain ⟨rfl, rfl⟩ := yields_get.mp got
      cases inside : start.fdArray[i]? with
      | none =>
          rw [inside] at rest
          exact (not_yields_throw rest).elim
      | some entry =>
          rw [inside] at rest
          obtain ⟨below, here⟩ := List.getElem?_eq_some_iff.mp inside
          have split : start.fdArray.drop i = entry :: start.fdArray.drop (i + 1) := by
            rw [List.drop_eq_getElem_cons below, here]
          cases entry with
          | none =>
              rw [split, List.take_succ_cons, List.reduceOption_cons_of_none]
              exact ih rest
          | some fd =>
              obtain ⟨_, served, hserve, later⟩ := yields_bind.mp rest
              obtain ⟨-, -, behind⟩ := serveCell_service hserve
              rw [split, List.take_succ_cons, List.reduceOption_cons_of_some,
                List.forall_mem_cons, ← behind]
              exact ⟨serveCell_clean hserve, ih later⟩

/-- The loop over cells that are there ends if all descriptors it visits have clean sessions,
by induction over the cells left.
-/
theorem requestLoop_ends {left i : Nat} {start : ListenerState}
    (inside : i + left ≤ start.fdArray.length)
    (clean
      : ∀ fd ∈ ((start.fdArray.drop i).take left).reduceOption, (outside.session fd).Clean)
    : ∃ final, Yields (requestLoop outside left i) start () final := by
  induction left generalizing i start with
  | zero => exact ⟨start, yields_pure.mpr ⟨rfl, rfl⟩⟩
  | succ left ih =>
      have below : i < start.fdArray.length := by omega
      have found := List.getElem?_eq_getElem below
      rw [List.drop_eq_getElem_cons below, List.take_succ_cons] at clean
      cases entry : start.fdArray[i] with
      | none =>
          rw [entry] at found clean
          rw [List.reduceOption_cons_of_none] at clean
          obtain ⟨final, run⟩ := ih (by omega) clean
          refine ⟨final, yields_bind.mpr ⟨_, _, yields_get.mpr ⟨rfl, rfl⟩, ?_⟩⟩
          rw [found]
          exact run
      | some fd =>
          rw [entry] at found clean
          rw [List.reduceOption_cons_of_some, List.forall_mem_cons] at clean
          obtain ⟨_, served, serves, length⟩ := @serveCell_delivers _ i _ start clean.1
          obtain ⟨-, -, behind⟩ := serveCell_service serves
          obtain ⟨final, run⟩ := @ih (i + 1) served (by omega) (behind ▸ clean.2)
          refine ⟨final, yields_bind.mpr ⟨_, _, yields_get.mpr ⟨rfl, rfl⟩, ?_⟩⟩
          rw [found]
          exact yields_bind.mpr ⟨_, _, serves, run⟩

-----------------------------------------------------------------------------------------
-- A batch
-----------------------------------------------------------------------------------------

/-- Serving closes the descriptors for which there is no session, by induction over them. -/
theorem service_closed (outside : Outside) (visited : List Descriptor) (fd : Descriptor)
    : (visited.flatMap (service outside)).count (.closed fd)
      = if outside.session fd = .noDecoderUnit then visited.count fd else 0 := by
  induction visited with
  | nil => simp
  | cons first rest ih =>
      have once : (service outside first).count (.closed fd)
          = if outside.session fd = .noDecoderUnit ∧ first = fd then 1 else 0 := by
        rw [service]
        split <;> by_cases same : first = fd <;> simp_all
      rw [List.flatMap_cons, List.count_append, ih, once, List.count_cons]
      by_cases absent : outside.session fd = .noDecoderUnit <;>
        by_cases same : first = fd <;> simp [absent, same, Nat.add_comm]

/-- The descriptors that the first call of `proc_request` behind a batch visits. -/
def visited (outside : Outside) (call : Nat) : List Descriptor :=
  let outcomes := batch outside outside.acceptCnt call
  ((cells call outcomes).take (stored outcomes)).reduceOption

/-- The cells that `proc_request` visits behind a batch are those of the batch. -/
theorem take_stored (listener : ListenerState)
    : (procAccept outside listener).2.fdArray.take (procAccept outside listener).2.newfdCnt
      = (cells listener.calls (batch outside outside.acceptCnt listener.calls)).take
          (stored (batch outside outside.acceptCnt listener.calls)) := by
  rw [procAccept_eq]
  apply List.take_append_of_le_length
  rw [cells_length]
  exact stored_le _

/-- Behind a batch, `proc_request` comes to its end exactly if no `listener_input` fails for a
descriptor that it visits.
-/
theorem procRequest_ends_iff (listener : ListenerState)
    : (∃ final, Yields (procRequest outside) (procAccept outside listener).2 () final)
      ↔ ∀ fd ∈ visited outside listener.calls, (outside.session fd).Clean := by
  have cut := @take_stored outside listener
  constructor
  · rintro ⟨final, run⟩
    obtain ⟨_, start, got, serves⟩ := yields_bind.mp run
    obtain ⟨rfl, rfl⟩ := yields_get.mp got
    have clean := requestLoop_clean serves
    rw [List.drop_zero, cut] at clean
    exact clean
  · intro clean
    have count : (procAccept outside listener).2.newfdCnt
        ≤ (procAccept outside listener).2.fdArray.length := by
      have fits := stored_le (batch outside outside.acceptCnt listener.calls)
      rw [procAccept_eq]
      simp only [List.length_append, cells_length]
      exact Nat.le_add_right_of_le fits
    rw [← Nat.zero_add (procAccept outside listener).2.newfdCnt] at count
    obtain ⟨final, run⟩ := requestLoop_ends count (by rw [List.drop_zero, cut]; exact clean)
    exact ⟨final, yields_bind.mpr ⟨_, _, yields_get.mpr ⟨rfl, rfl⟩, run⟩⟩

/-- `proc_request` serves a batch exactly when the descriptors in it come promptly, and each of
them gets a serving session or none at all.
-/
theorem procRequest_serves_iff (outside : Outside) (listener : ListenerState)
    : ServesBatch outside (procAccept outside listener).2
      ↔ Prompt (batch outside outside.acceptCnt listener.calls)
        ∧ ∀ fd ∈ (cells listener.calls
              (batch outside outside.acceptCnt listener.calls)).reduceOption,
            outside.session fd = .serving ∨ outside.session fd = .noDecoderUnit := by
  have array : (procAccept outside listener).2.fdArray.reduceOption
      = (cells listener.calls (batch outside outside.acceptCnt listener.calls)).reduceOption := by
    rw [procAccept_eq]
    simp [List.reduceOption]
  have nodup : (visited outside listener.calls).Nodup :=
    (cells_nodup _ _).sublist (visited_subset _ _)
  have shows : ∀ {final}, Yields (procRequest outside) (procAccept outside listener).2 () final
      → final.log = (procAccept outside listener).2.log
          ++ (visited outside listener.calls).flatMap (service outside) := by
    intro final run
    obtain ⟨_, start, got, serves⟩ := yields_bind.mp run
    obtain ⟨rfl, rfl⟩ := yields_get.mp got
    obtain ⟨log, -⟩ := requestLoop_serves serves
    rw [List.drop_zero, take_stored listener] at log
    exact log
  rw [ServesBatch, array]
  constructor
  · rintro ⟨_, final, run, shown, log, served⟩
    obtain rfl := List.append_cancel_left ((shows run).symm.trans log)
    have visits : ∀ fd ∈ (cells listener.calls
          (batch outside outside.acceptCnt listener.calls)).reduceOption,
        fd ∈ visited outside listener.calls := by
      intro fd member
      have once := (served fd member).1
      rw [service_count] at once
      exact List.count_pos_iff.mp (by omega)
    refine ⟨(prompt_iff listener.calls _).mpr visits, fun fd member => ?_⟩
    exact (procRequest_ends_iff listener).mp ⟨final, run⟩ fd (visits fd member)
  · rintro ⟨prompt, clean⟩
    have visits := (prompt_iff listener.calls _).mp prompt
    obtain ⟨final, run⟩ := (procRequest_ends_iff listener).mpr
      (fun fd member => clean fd ((visited_subset _ _).subset member))
    refine ⟨(), final, run, _, shows run, fun fd member => ?_⟩
    have once := List.count_eq_one_of_mem nodup (visits fd member)
    rw [service_count, service_closed, once]
    rcases clean fd member with serving | absent
    · simp [serving]
    · simp [absent]

/-- There is no free epoll slot for the first of two descriptors. -/
def slotsUsedUp : Outside where
  acceptCnt := 2
  accept := fun call => if call < 2 then .descriptor (5 + call) else .again
  session := fun fd => if fd.fd = 5 then .notAttached else .serving

/-- Its session is used behind its deletion, and the other descriptor is not served. -/
theorem full_poller_not_served
    : ¬ServesBatch slotsUsedUp (procAccept slotsUsedUp (ListenerState.idle [] 0)).2 := by
  rintro ⟨_, final, run, -⟩
  cases run

end ProxyServer.Listener
