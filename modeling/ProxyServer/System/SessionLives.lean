import ProxyServer.System.UserTable

/-! How sessions end: who is told that a user has left, and what is done with a session that has
been deleted. Both are read off the orderly accounts of a run.
-/

namespace ProxyServer.System

open Packets ProxyServer.Units

-----------------------------------------------------------------------------------------
-- Reports
-----------------------------------------------------------------------------------------

/-- The reports that are due for a life: one if a user's session has been deleted that was
neither kicked nor closed by a server.
-/
def Life.due (life : Life) : List Int :=
  if life.deleted = true ∧ life.spared = false then life.user.toList else []

/-- A session that has been deleted was taken for asking for the policy behind its login. -/
def Life.Mistaken (life : Life) : Prop :=
  life.deleted = true ∧ life.spared = false ∧ life.user ≠ none ∧ life.policy = true

/-- A report is made where it is due, unless the session is mistaken. -/
theorem Life.reported_eq_due_iff {life : Life} (deleted : life.deleted = true)
    : life.reported = life.due ↔ ¬life.Mistaken := by
  rw [Life.reported, Life.due, Life.Mistaken]
  cases spared : life.spared with
  | true => simp
  | false =>
      cases policy : life.policy with
      | true =>
          cases user : life.user with
          | none => simp
          | some uid => simp [deleted]
      | false => simp [deleted]

/-- In every reachable state, what has been reported of a session is what was due exactly if it
has not been deleted as one that asked for the policy behind its login.
-/
theorem user_close_reported_iff {proxy : Proxy} (reached : proxy.Reached) (sid : SessionId)
    : (proxy.life sid).reports = (proxy.life sid).due ↔ ¬(proxy.life sid).Mistaken := by
  have standing := (reached_orderly reached).standing sid
  have alive : (proxy.session sid).live = true
      → (proxy.life sid).reports = [] ∧ (proxy.life sid).deleted = false :=
    fun alive => ⟨(standing.going alive).2.1, (standing.going alive).2.2⟩
  have ended : (proxy.session sid).live = false → (proxy.life sid).reports
      = if (proxy.life sid).deleted then (proxy.life sid).reported else [] :=
    standing.reports
  cases deleted : (proxy.life sid).deleted with
  | false =>
      have reports : (proxy.life sid).reports = [] := by
        cases live : (proxy.session sid).live with
        | true => exact (alive live).1
        | false => rw [ended live, deleted, if_neg (by simp)]
      rw [reports, Life.due, Life.Mistaken, deleted]
      simp
  | true =>
      have dead : (proxy.session sid).live = false := by
        by_contra live
        have going := (alive (eq_true_of_ne_false live)).2
        rw [deleted] at going
        cases going
      rw [ended dead, deleted, if_pos rfl]
      exact Life.reported_eq_due_iff deleted

/-- The policy request of a Flash client. -/
def policyRequest : List UInt8 := "<policy-file-request/>".toUTF8.toList ++ [0]

/-- A logged-in user's session ends with a policy request. -/
def mistakenRun : List Event := [
  .accept 1 33 0, .clientFrame 1 (loginFrame 7), .clientFrame 1 policyRequest
]

/-- User 7's session is deleted, neither kicked nor closed by a server, and nothing is reported
of it.
-/
theorem user_close_missed
    : ∃ proxy : Proxy, proxy.Reached ∧ (proxy.session 1).live = false
        ∧ (proxy.life 1).due = [7] ∧ (proxy.life 1).reports = [] := by
  obtain ⟨proxy, reached, checked⟩ := Proxy.unused_unused.run (mistakenRun.map Event.calmly)
    (fun proxy => (proxy.session 1).live = false ∧ (proxy.life 1).due = [7]
      ∧ (proxy.life 1).reports = []) (by decide +kernel)
  exact ⟨proxy, reached, of_decide_eq_true checked⟩

/-- A user's session that is hung up on is reported once. -/
theorem user_close_reported_after_hangup
    : ∃ proxy : Proxy, (proxy.life 1).reports = [7]
        ∧ ((proxy.life 1).reports = (proxy.life 1).due ↔ ¬(proxy.life 1).Mistaken) := by
  let events : List Event := [
    .accept 1 33 0, .clientFrame 1 (loginFrame 7), .web 1 ⟨true, false, false⟩ .transient
  ]
  obtain ⟨proxy, reached, reported⟩ := Proxy.unused_unused.run (events.map Event.calmly)
    (fun proxy => (proxy.life 1).reports = [7]) (by decide +kernel)
  exact ⟨proxy, of_decide_eq_true reported, user_close_reported_iff reached 1⟩

-----------------------------------------------------------------------------------------
-- Deleted sessions
-----------------------------------------------------------------------------------------

/-- No login has found another session of its user. -/
def Proxy.KickFree (proxy : Proxy) : Prop :=
  ∀ sid uid found, .loggingIn sid uid (some found) ∈ proxy.trace → found = sid

/-- In every reachable state every session has been completed at most once, and if no login
has found another session of its user, no deleted session has been used.
-/
theorem deleted_sessions_unused {proxy : Proxy} (reached : proxy.Reached)
    : (∀ sid, (proxy.life sid).completed ≤ 1)
      ∧ (proxy.KickFree → ∀ sid, .usedDeleted sid ∉ proxy.trace) := by
  have orderly := reached_orderly reached
  refine ⟨fun sid => (orderly.standing sid).once, fun kickFree sid used => ?_⟩
  have misused : proxy.accounts.misused = true :=
    List.any_eq_true.mpr ⟨_, used, rfl⟩
  obtain ⟨happening, shown, dispute⟩ := List.any_eq_true.mp (orderly.clean misused)
  cases happening with
  | loggingIn sid uid found =>
      cases found with
      | none => cases dispute
      | some found =>
          have different : found ≠ sid := of_decide_eq_true dispute
          exact different (kickFree sid uid found shown)
  | _ => cases dispute

/-- Two sessions of one user log in. -/
def kickingRun : List Event := [
  .accept 1 33 0, .clientFrame 1 (loginFrame 7), .accept 2 34 0, .clientFrame 2 (loginFrame 7)
]

/-- The handler that kicks the first session out uses it behind `complete`. -/
theorem kicked_session_used
    : ∃ proxy : Proxy, proxy.Reached ∧ .usedDeleted 1 ∈ proxy.trace := by
  obtain ⟨proxy, reached, used⟩ := Proxy.unused_unused.run (kickingRun.map Event.calmly)
    (fun proxy => .usedDeleted 1 ∈ proxy.trace) (by decide +kernel)
  exact ⟨proxy, reached, of_decide_eq_true used⟩

/-- Whether a login displaces another session of its user. -/
def Happening.displaces : Happening → Bool
  | .loggingIn _ _ (some _) => true
  | _ => false

/-- A session that is hung up on behind its login has been completed once, and is not used. -/
theorem deleted_sessions_unused_after_hangup
    : ∃ proxy : Proxy, (proxy.life 1).completed = 1 ∧ .usedDeleted 1 ∉ proxy.trace := by
  let events : List Event := [
    .accept 1 33 0, .clientFrame 1 (loginFrame 7), .web 1 ⟨true, false, false⟩ .transient
  ]
  obtain ⟨proxy, reached, checked⟩ := Proxy.unused_unused.run (events.map Event.calmly)
    (fun proxy => (proxy.life 1).completed = 1 ∧ proxy.trace.any Happening.displaces = false)
    (by decide +kernel)
  obtain ⟨completed, free⟩ := of_decide_eq_true checked
  have kickFree : proxy.KickFree := by
    intro sid uid found shown
    have dispute : proxy.trace.any Happening.displaces = true :=
      List.any_eq_true.mpr ⟨_, shown, rfl⟩
    rw [free] at dispute
    cases dispute
  exact ⟨proxy, completed, (deleted_sessions_unused reached).2 kickFree 1⟩

end ProxyServer.System
