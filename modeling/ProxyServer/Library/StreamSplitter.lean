import Mathlib

/-! Incremental splitting of a stream into frames does not depend on how it is cut.
A splitter looks at the buffered data and either waits, rejects it or takes one frame off.
Its two stability laws say that data already decided on is decided the same way when more
data has arrived; everything else follows by induction over the buffered data.
-/

namespace StreamSplitter

/-- What a splitter decides about the data buffered so far. -/
inductive Verdict
  | wait
  | reject
  | frame (length : Nat)
  deriving DecidableEq, Repr

end StreamSplitter

open StreamSplitter

/-- A frame decision that is stable under further arrivals.
A taken frame is non-empty and lies within the buffered data.
-/
structure StreamSplitter (α : Type) where
  verdict : List α → Verdict
  frame_pos : ∀ {buffered length}, verdict buffered = .frame length → 0 < length
  frame_le
    : ∀ {buffered length}, verdict buffered = .frame length → length ≤ buffered.length
  frame_stable
    : ∀ {buffered length} (more : List α),
        verdict buffered = .frame length → verdict (buffered ++ more) = .frame length
  reject_stable
    : ∀ {buffered} (more : List α),
        verdict buffered = .reject → verdict (buffered ++ more) = .reject

namespace StreamSplitter

variable {α : Type}

/-- How splitting ends: waiting for data with a remainder, or for good. -/
inductive Ending (α : Type)
  | waiting (rest : List α)
  | failed
  deriving DecidableEq, Repr

/-- The frames taken off so far, in order, and how the splitting ended. -/
abbrev Outcome (α : Type) := List (List α) × Ending α

/-- Takes frames off the buffered data until it must wait or fails. `accepts` sees the frames
taken before and the new frame; a frame it refuses is the last one.
-/
def split (splitter : StreamSplitter α) (accepts : List (List α) → List α → Bool)
    (taken : List (List α)) (buffered : List α)
    : Outcome α :=
  match _decision : splitter.verdict buffered with
  | .wait => (taken, .waiting buffered)
  | .reject => (taken, .failed)
  | .frame length =>
      if accepts taken (buffered.take length) then
        splitter.split accepts (taken ++ [buffered.take length]) (buffered.drop length)
      else
        (taken ++ [buffered.take length], .failed)
termination_by buffered.length
decreasing_by
  have pos := splitter.frame_pos _decision
  have le := splitter.frame_le _decision
  simp only [List.length_drop]
  omega

/-- One more arrival: it is buffered and the splitting goes on, unless it has failed. -/
def feed (splitter : StreamSplitter α) (accepts : List (List α) → List α → Bool)
    (outcome : Outcome α) (arrival : List α)
    : Outcome α :=
  match outcome.2 with
  | .waiting rest => splitter.split accepts outcome.1 (rest ++ arrival)
  | .failed => outcome

variable {splitter : StreamSplitter α} {accepts : List (List α) → List α → Bool}
  {taken : List (List α)} {buffered : List α}

theorem split_wait (decision : splitter.verdict buffered = .wait)
    : splitter.split accepts taken buffered = (taken, .waiting buffered) := by
  rw [split]
  split <;> simp_all

theorem split_reject (decision : splitter.verdict buffered = .reject)
    : splitter.split accepts taken buffered = (taken, .failed) := by
  rw [split]
  split <;> simp_all

theorem split_accepted {length : Nat}
    (decision : splitter.verdict buffered = .frame length)
    (accepted : accepts taken (buffered.take length) = true)
    : splitter.split accepts taken buffered
      = splitter.split accepts (taken ++ [buffered.take length]) (buffered.drop length) := by
  rw [split]
  split <;> simp_all

theorem split_refused {length : Nat}
    (decision : splitter.verdict buffered = .frame length)
    (refused : accepts taken (buffered.take length) = false)
    : splitter.split accepts taken buffered
      = (taken ++ [buffered.take length], .failed) := by
  rw [split]
  split <;> simp_all

/-- Induction along the frames a splitter takes off the buffered data. -/
theorem split_induction (splitter : StreamSplitter α)
    (accepts : List (List α) → List α → Bool)
    {motive : List (List α) → List α → Prop}
    (wait : ∀ taken buffered, splitter.verdict buffered = .wait → motive taken buffered)
    (reject
      : ∀ taken buffered, splitter.verdict buffered = .reject → motive taken buffered)
    (refused
      : ∀ taken buffered length,
          splitter.verdict buffered = .frame length
          → accepts taken (buffered.take length) = false
          → motive taken buffered)
    (accepted
      : ∀ taken buffered length,
          splitter.verdict buffered = .frame length
          → accepts taken (buffered.take length) = true
          → motive (taken ++ [buffered.take length]) (buffered.drop length)
          → motive taken buffered)
    (taken : List (List α)) (buffered : List α)
    : motive taken buffered := by
  generalize size : buffered.length = n
  induction n using Nat.strong_induction_on generalizing taken buffered with
  | _ n ih =>
      cases decision : splitter.verdict buffered with
      | wait => exact wait _ _ decision
      | reject => exact reject _ _ decision
      | frame length =>
          cases verdict : accepts taken (buffered.take length) with
          | false => exact refused _ _ _ decision verdict
          | true =>
              have pos := splitter.frame_pos decision
              have le := splitter.frame_le decision
              refine accepted _ _ _ decision verdict (ih _ ?_ _ _ rfl)
              simp only [List.length_drop]
              omega

/-- Splitting the data that has arrived and then what arrives later is splitting it all. -/
theorem split_append (splitter : StreamSplitter α)
    (accepts : List (List α) → List α → Bool) (taken : List (List α))
    (buffered more : List α)
    : splitter.split accepts taken (buffered ++ more)
      = splitter.feed accepts (splitter.split accepts taken buffered) more := by
  induction taken, buffered using split_induction splitter accepts with
  | wait taken buffered decision => rw [split_wait decision, feed]
  | reject taken buffered decision =>
      rw [split_reject decision, split_reject (splitter.reject_stable more decision), feed]
  | refused taken buffered length decision refused =>
      have le := splitter.frame_le decision
      have head : (buffered ++ more).take length = buffered.take length :=
        List.take_append_of_le_length le
      rw [split_refused decision refused,
        split_refused (splitter.frame_stable more decision) (head ▸ refused), head, feed]
  | accepted taken buffered length decision accepted ih =>
      have le := splitter.frame_le decision
      have head : (buffered ++ more).take length = buffered.take length :=
        List.take_append_of_le_length le
      rw [split_accepted decision accepted,
        split_accepted (splitter.frame_stable more decision) (head ▸ accepted), head,
        List.drop_append_of_le_length le, ih]

/-- A waiting outcome leaves data the splitter waits on. -/
theorem split_waiting_rest {frames : List (List α)} {rest : List α}
    (outcome : splitter.split accepts taken buffered = (frames, .waiting rest))
    : splitter.verdict rest = .wait := by
  induction taken, buffered using split_induction splitter accepts with
  | wait taken buffered decision =>
      rw [split_wait decision] at outcome
      cases outcome
      exact decision
  | reject taken buffered decision => simp [split_reject decision] at outcome
  | refused taken buffered length decision refused =>
      simp [split_refused decision refused] at outcome
  | accepted taken buffered length decision accepted ih =>
      exact ih (split_accepted decision accepted ▸ outcome)

/-- While it waits, the frames taken and the remainder make up all the data. -/
theorem split_waiting_flatten {frames : List (List α)} {rest : List α}
    (outcome : splitter.split accepts taken buffered = (frames, .waiting rest))
    : taken.flatten ++ buffered = frames.flatten ++ rest := by
  induction taken, buffered using split_induction splitter accepts with
  | wait taken buffered decision =>
      rw [split_wait decision] at outcome
      cases outcome
      rfl
  | reject taken buffered decision => simp [split_reject decision] at outcome
  | refused taken buffered length decision refused =>
      simp [split_refused decision refused] at outcome
  | accepted taken buffered length decision accepted ih =>
      rw [← ih (split_accepted decision accepted ▸ outcome)]
      simp

/-- A splitter that accepts every frame fails only on data it rejects. -/
theorem split_failed_rest {frames : List (List α)}
    (outcome : splitter.split (fun _ _ => true) taken buffered = (frames, .failed))
    : ∃ rest,
        taken.flatten ++ buffered = frames.flatten ++ rest
          ∧ splitter.verdict rest = .reject := by
  induction taken, buffered using split_induction splitter (fun _ _ => true) with
  | wait taken buffered decision => simp [split_wait decision] at outcome
  | reject taken buffered decision =>
      rw [split_reject decision] at outcome
      cases outcome
      exact ⟨buffered, rfl, decision⟩
  | refused taken buffered length decision refused => simp at refused
  | accepted taken buffered length decision accepted ih =>
      rw [split_accepted decision] at outcome
      · obtain ⟨rest, same, rejected⟩ := ih outcome
        refine ⟨rest, ?_, rejected⟩
        rw [← same]
        simp
      · rfl

/-- What holds of every single frame holds of all frames taken. -/
theorem split_frames {property : List α → Prop}
    (single
      : ∀ buffered length, splitter.verdict buffered = .frame length
          → property (buffered.take length))
    (before : ∀ frame ∈ taken, property frame)
    : ∀ frame ∈ (splitter.split accepts taken buffered).1, property frame := by
  have extend {taken : List (List α)} {buffered : List α} {length : Nat}
      (decision : splitter.verdict buffered = .frame length)
      (before : ∀ frame ∈ taken, property frame)
      : ∀ frame ∈ taken ++ [buffered.take length], property frame := by
    intro frame member
    rcases List.mem_append.mp member with old | new
    · exact before frame old
    · rw [List.mem_singleton.mp new]
      exact single buffered length decision
  induction taken, buffered using split_induction splitter accepts with
  | wait taken buffered decision => rw [split_wait decision]; exact before
  | reject taken buffered decision => rw [split_reject decision]; exact before
  | refused taken buffered length decision refused =>
      rw [split_refused decision refused]
      exact extend decision before
  | accepted taken buffered length decision accepted ih =>
      rw [split_accepted decision accepted]
      exact ih (extend decision before)

/-- The frames taken before stay in front of the later ones. -/
theorem split_taken_prefix (splitter : StreamSplitter α)
    (accepts : List (List α) → List α → Bool) (taken : List (List α)) (buffered : List α)
    : taken <+: (splitter.split accepts taken buffered).1 := by
  induction taken, buffered using split_induction splitter accepts with
  | wait taken buffered decision => simp [split_wait decision]
  | reject taken buffered decision => simp [split_reject decision]
  | refused taken buffered length decision refused =>
      simp [split_refused decision refused]
  | accepted taken buffered length decision accepted ih =>
      rw [split_accepted decision accepted]
      exact (List.prefix_append _ _).trans ih

end StreamSplitter
