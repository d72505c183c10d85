import ProxyServer.Listener.FailedSessions

/-! When `InputNotify` returns. A round of `accept` calls is the last one if it meets `EAGAIN`, or
if all its calls are interrupted; one in which calls fail otherwise is followed by another.
-/

namespace ProxyServer.Listener

open FaultState

/-- `InputNotify` returns after some of its rounds. -/
def Returns (outside : Outside) (listener : ListenerState) : Prop :=
  ∃ rounds ret final, Yields (inputNotify outside rounds) listener (some ret) final

/-- What the calls of a round answer, up to an `EAGAIN`, if every round before has made all of
its calls.
-/
def roundOf (outside : Outside) (round : Nat) : List AcceptOutcome :=
  batch outside outside.acceptCnt (round * outside.acceptCnt)

/-- The calls of a round are all interrupted, or one of them answers `EAGAIN`. -/
def LastRound (outside : Outside) (round : Nat) : Prop :=
  (∀ outcome ∈ roundOf outside round, outcome = .interrupted)
    ∨ (roundOf outside round).length < outside.acceptCnt

/-- No `listener_input` fails for a descriptor that `proc_request` visits in a round. -/
def CleanRound (outside : Outside) (round : Nat) : Prop :=
  ∀ fd ∈ visited outside (round * outside.acceptCnt), (outside.session fd).Clean

variable {outside : Outside}

theorem stored_eq_zero_iff (outcomes : List AcceptOutcome)
    : stored outcomes = 0 ↔ ∀ outcome ∈ outcomes, outcome = .interrupted := by
  simp [stored, List.countP_eq_zero]

/-- A round in which nothing is stored visits nothing. -/
theorem clean_of_interrupted {round : Nat}
    (interrupted : ∀ outcome ∈ roundOf outside round, outcome = .interrupted)
    : CleanRound outside round := by
  have empty := (stored_eq_zero_iff _).mpr interrupted
  rw [roundOf] at empty
  intro fd member
  rw [visited, empty, List.take_zero] at member
  cases member

-----------------------------------------------------------------------------------------
-- One round
-----------------------------------------------------------------------------------------

section Round

variable {round : Nat} {listener accepted : ListenerState} {ret : Int}
  (took : procAccept outside listener = (ret, accepted))
  (calls : listener.calls = round * outside.acceptCnt)

include took

/-- What follows a batch. -/
theorem inputNotify_succ {rounds : Nat} {result : Option Int} {final : ListenerState}
    : Yields (inputNotify outside (rounds + 1)) listener result final
      ↔ accepted.newfdCnt = 0 ∧ result = some 0 ∧ final = accepted
        ∨ accepted.newfdCnt ≠ 0 ∧ ∃ served, Yields (procRequest outside) accepted () served
            ∧ Yields (if ret < 0 then pure (some 0) else inputNotify outside rounds) served
                result final := by
  constructor
  · intro run
    obtain ⟨ret', accepted', accepts, rest⟩ := yields_bind.mp run
    obtain ⟨rfl, rfl⟩ := Prod.mk.inj ((yields_modifyGet.mp accepts).symm.trans took)
    obtain ⟨_, accepted', got, body⟩ := yields_bind.mp rest
    obtain ⟨rfl, rfl⟩ := yields_get.mp got
    split at body
    · rename_i empty
      exact Or.inl ⟨empty, yields_pure.mp body⟩
    · rename_i filled
      obtain ⟨_, served, serves, onward⟩ := yields_bind.mp body
      exact Or.inr ⟨filled, served, serves, onward⟩
  · intro outcome
    refine yields_bind.mpr ⟨ret, accepted, yields_modifyGet.mpr took, ?_⟩
    refine yields_bind.mpr ⟨accepted, accepted, yields_get.mpr ⟨rfl, rfl⟩, ?_⟩
    rcases outcome with ⟨empty, rfl, rfl⟩ | ⟨filled, served, serves, onward⟩
    · rw [if_pos empty]
      exact yields_pure.mpr ⟨rfl, rfl⟩
    · rw [if_neg filled]
      exact yields_bind.mpr ⟨(), served, serves, onward⟩

include calls

/-- What `proc_accept` leaves of a round. -/
theorem procAccept_round
    : ret = (if (roundOf outside round).length < outside.acceptCnt then -1 else 0)
      ∧ (accepted.newfdCnt = 0 ↔ ∀ outcome ∈ roundOf outside round, outcome = .interrupted)
      ∧ (¬(roundOf outside round).length < outside.acceptCnt
        → accepted.calls = (round + 1) * outside.acceptCnt) := by
  have leaves := @procAccept_eq outside listener
  rw [took, calls] at leaves
  obtain ⟨answered, rfl⟩ := Prod.mk.inj leaves
  refine ⟨answered, stored_eq_zero_iff _, fun full => ?_⟩
  have atMost := @batch_length_le outside outside.acceptCnt (round * outside.acceptCnt)
  rw [roundOf] at full
  dsimp only
  rw [if_neg full, Nat.add_mul, Nat.one_mul, Nat.le_antisymm atMost (Nat.le_of_not_lt full)]
  rfl

/-- `proc_request` ends in a clean round, and makes no calls of `accept`. -/
theorem procRequest_round
    : (CleanRound outside round ↔ ∃ served, Yields (procRequest outside) accepted () served)
      ∧ ∀ served, Yields (procRequest outside) accepted () served
          → served.calls = accepted.calls := by
  have ends := @procRequest_ends_iff outside listener
  rw [took, calls] at ends
  refine ⟨ends.symm, fun served run => ?_⟩
  obtain ⟨_, start, got, serves⟩ := yields_bind.mp run
  obtain ⟨rfl, rfl⟩ := yields_get.mp got
  exact (requestLoop_serves serves).2

end Round

-----------------------------------------------------------------------------------------
-- Whole runs
-----------------------------------------------------------------------------------------

/-- A clean last round is left with a result. -/
theorem returns_now {round : Nat} {listener : ListenerState}
    (calls : listener.calls = round * outside.acceptCnt) (last : LastRound outside round)
    (clean : CleanRound outside round)
    : Returns outside listener := by
  cases took : procAccept outside listener with
  | mk ret accepted =>
      obtain ⟨answered, empty, -⟩ := procAccept_round took calls
      by_cases interrupted : accepted.newfdCnt = 0
      · exact ⟨1, 0, accepted, (inputNotify_succ took).mpr (.inl ⟨interrupted, rfl, rfl⟩)⟩
      · obtain ⟨served, serves⟩ := (procRequest_round took calls).1.mp clean
        have short := last.resolve_left (fun all => interrupted (empty.mpr all))
        rw [if_pos short] at answered
        have done : Yields (if ret < 0 then pure (some 0) else inputNotify outside 0) served
            (some 0) served := by
          rw [if_pos (by omega)]
          exact yields_pure.mpr ⟨rfl, rfl⟩
        exact ⟨1, 0, served,
          (inputNotify_succ took).mpr (.inr ⟨interrupted, served, serves, done⟩)⟩

/-- A clean last round behind clean ones is left with a result, by induction on the number of
rounds to it.
-/
theorem returns_of_lastRound {left round : Nat} {listener : ListenerState}
    (calls : listener.calls = round * outside.acceptCnt)
    (last : LastRound outside (round + left))
    (clean : ∀ i ≤ left, CleanRound outside (round + i))
    : Returns outside listener := by
  induction left generalizing round listener with
  | zero => exact returns_now calls last (clean 0 (Nat.le_refl 0))
  | succ left ih =>
      by_cases now : LastRound outside round
      · exact returns_now calls now (clean 0 (Nat.zero_le _))
      · cases took : procAccept outside listener with
        | mk ret accepted =>
            obtain ⟨answered, empty, goesOn⟩ := procAccept_round took calls
            obtain ⟨ends, keeps⟩ := procRequest_round took calls
            obtain ⟨served, serves⟩ := ends.mp (clean 0 (Nat.zero_le _))
            have full : ¬(roundOf outside round).length < outside.acceptCnt :=
              fun short => now (.inr short)
            rw [if_neg full] at answered
            have next := (keeps served serves).trans (goesOn full)
            have shift : ∀ i, round + (i + 1) = round + 1 + i := fun i => by omega
            obtain ⟨rounds, ret', final, run⟩ := ih next (shift left ▸ last)
              (fun i below => shift i ▸ clean (i + 1) (Nat.succ_le_succ below))
            refine ⟨rounds + 1, ret', final, (inputNotify_succ took).mpr (.inr ⟨?_, served, ?_⟩)⟩
            · exact fun none => now (.inl (empty.mp none))
            · rw [if_neg (by omega)]
              exact ⟨serves, run⟩

/-- A run that is left with a result is so in a clean last round, by induction on its rounds. -/
theorem lastRound_of_returns {rounds round : Nat} {listener final : ListenerState} {ret : Int}
    (calls : listener.calls = round * outside.acceptCnt)
    (run : Yields (inputNotify outside rounds) listener (some ret) final)
    : ∃ left, LastRound outside (round + left)
        ∧ ∀ i ≤ left, CleanRound outside (round + i) := by
  induction rounds generalizing round listener with
  | zero =>
      obtain ⟨ended, -⟩ := yields_pure.mp run
      cases ended
  | succ rounds ih =>
      cases took : procAccept outside listener with
      | mk answer accepted =>
          obtain ⟨answered, empty, goesOn⟩ := procAccept_round took calls
          obtain ⟨ends, keeps⟩ := procRequest_round took calls
          have only : CleanRound outside round
              → ∀ i ≤ 0, CleanRound outside (round + i) := by
            intro clean i below
            obtain rfl := Nat.le_zero.mp below
            exact clean
          rcases (inputNotify_succ took).mp run with ⟨none, -⟩ | ⟨filled, served, serves, onward⟩
          · have interrupted := empty.mp none
            exact ⟨0, .inl interrupted, only (clean_of_interrupted interrupted)⟩
          · have clean := ends.mpr ⟨served, serves⟩
            by_cases short : (roundOf outside round).length < outside.acceptCnt
            · exact ⟨0, .inr short, only clean⟩
            · rw [if_neg short] at answered
              rw [if_neg (by omega)] at onward
              obtain ⟨left, last, later⟩ := ih ((keeps served serves).trans (goesOn short)) onward
              have shift : ∀ i, round + (i + 1) = round + 1 + i := fun i => by omega
              refine ⟨left + 1, shift left ▸ last, fun i below => ?_⟩
              cases i with
              | zero => exact clean
              | succ i => exact shift i ▸ later i (Nat.le_of_succ_le_succ below)

/-- `InputNotify` returns exactly when some round of `accept` calls meets `EAGAIN`, or has all of
its calls interrupted, and no `listener_input` fails up to then.
-/
theorem inputNotify_returns_iff (outside : Outside) (fdArray : List (Option Descriptor))
    (newfdCnt : Nat)
    : Returns outside (ListenerState.idle fdArray newfdCnt)
      ↔ ∃ round, LastRound outside round
          ∧ ∀ earlier ≤ round, CleanRound outside earlier := by
  have calls : (ListenerState.idle fdArray newfdCnt).calls = 0 * outside.acceptCnt :=
    (Nat.zero_mul _).symm
  constructor
  · rintro ⟨rounds, ret, final, run⟩
    obtain ⟨left, last, clean⟩ := lastRound_of_returns calls run
    exact ⟨0 + left, last, fun i below => Nat.zero_add i ▸ clean i (by omega)⟩
  · rintro ⟨round, last, clean⟩
    rw [← Nat.zero_add round] at last
    exact returns_of_lastRound calls last (fun i below => clean (0 + i) (by omega))

/-- The process has run out of descriptors. -/
def descriptorsUsedUp : Outside where
  acceptCnt := 1
  accept := fun _ => .failed
  session := fun _ => .serving

/-- Every call of `accept` fails, and `InputNotify` does not return. -/
theorem used_up_never_returns
    : ¬∀ outside : Outside, (∃ call, ∀ later ≥ call, ∀ fd, outside.accept later ≠ .descriptor fd)
        → Returns outside (ListenerState.idle [] 0) := by
  intro always
  have failing : ∃ call, ∀ later ≥ call, ∀ fd,
      descriptorsUsedUp.accept later ≠ .descriptor fd :=
    ⟨0, fun _ _ _ => AcceptOutcome.noConfusion⟩
  obtain ⟨rounds, ret, final, run⟩ := always descriptorsUsedUp failing
  have calls : (ListenerState.idle [] 0).calls = 0 * descriptorsUsedUp.acceptCnt := rfl
  obtain ⟨left, last, -⟩ := lastRound_of_returns calls run
  have round : roundOf descriptorsUsedUp (0 + left) = [.failed] := rfl
  rw [LastRound, round] at last
  rcases last with interrupted | short
  · cases interrupted _ (List.mem_singleton_self _)
  · exact absurd short (by decide)

end ProxyServer.Listener
