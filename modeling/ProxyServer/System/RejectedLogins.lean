import ProxyServer.System.Visits

/-! Logins that are rejected. The check that a session is not logged in as somebody else comes
behind the kick of the older session of the user, so a rejected login may have ended a session.
-/

namespace ProxyServer.System

open Packets ProxyServer.Units
open FaultState Footprint

/-- `HandleInputBuf` takes a packet for a login as the given user. -/
def LoginPacket (reqPacket : NETInputPacket) (uid api : Int) : Prop :=
  reqPacket.getCmdType = clientCmdClientLogin
    ∧ ∃ behind, decryptedThen readLogin reqPacket = .ok ((uid, api), behind)

/-- The packet that `HandleInputBuf` copies a frame to. -/
def reqPacketOf (proxy : Proxy) (frame : List UInt8) : NETInputPacket :=
  copied (proxy.world proxy.asked).stale frame

/-- Why a login is rejected: the uid is not one, or the session is somebody else's. -/
def RejectsLogin (sid : SessionId) (uid : Int) (proxy : Proxy) : Prop :=
  uid ≤ 0 ∨ 0 < (proxy.session sid).webUnit.uid ∧ (proxy.session sid).webUnit.uid ≠ uid

/-- The table of users and all other sessions are the same. -/
structure OthersKept (sid : SessionId) (start next : Proxy) : Prop where
  objmap : next.pool.objmap = start.pool.objmap
  session : ∀ other, other ≠ sid → next.session other = start.session other

section Login

variable {sid : SessionId} {frame : List UInt8} {uid api ret : Int} {start next : Proxy}

/-- The state in which `HandleInputBuf` has copied a frame. -/
def copiedAt (sid : SessionId) (frame : List UInt8) (proxy : Proxy) : Proxy :=
  { proxy.record (.handled sid frame) with asked := proxy.asked + 1 }

/-- A login packet that is answered with -1 has come to the login. -/
theorem handleInputBuf_login (login : LoginPacket (reqPacketOf start frame) uid api)
    (run : Yields (handleInputBuf sid frame) start ret next)
    : ret = 0 ∨ ∃ choice chosen,
        Yields (chooseAtLogin sid (reqPacketOf start frame)) (copiedAt sid frame start) choice
            chosen
          ∧ Yields (forward sid clientCmdClientLogin frame choice) chosen ret next := by
  obtain ⟨_, noted, notes, asking⟩ := yields_bind.mp run
  obtain rfl := yields_modify.mp notes
  obtain ⟨answers, asked, asks, rest⟩ := yields_bind.mp asking
  obtain ⟨rfl, rfl⟩ := yields_ask asks
  have command : (copied ((start.record (.handled sid frame)).world
      (start.record (.handled sid frame)).asked).stale frame).getCmdType
      = clientCmdClientLogin := login.1
  rw [actOn, command, if_neg (by decide), if_neg (by decide), if_neg (by decide),
    if_neg (by decide), if_neg (by decide), if_neg (by decide)] at rest
  obtain ⟨choice, chosen, chooses, forwards⟩ := yields_bind.mp rest
  obtain ⟨_, proxy, got, branches⟩ := yields_bind.mp chooses
  obtain ⟨rfl, rfl⟩ := yields_get.mp got
  clear got chooses
  dsimp only at branches
  split at branches
  · obtain ⟨rfl, rfl⟩ := yields_pure.mp branches
    exact Or.inl (yields_pure.mp forwards).1
  · rw [if_neg (by decide), if_neg (by decide), if_neg (by decide), if_neg (by decide),
      if_pos rfl] at branches
    exact Or.inr ⟨choice, chosen, branches, forwards⟩

theorem OthersKept.refl (start : Proxy) : OthersKept sid start start :=
  ⟨rfl, fun _ _ => rfl⟩

/-- The session that logs in is not changed by the check for another one, which keeps all
others if it finds none.
-/
theorem kickOther_kept (serving : Serving sid start)
    (run : Yields (kickOther sid uid) start () next)
    : Serving sid next ∧ (next.session sid).webUnit.uid = (start.session sid).webUnit.uid
      ∧ (OthersKept sid start next
        ↔ ∀ found, start.pool.objmap[uid]? = some found → found = sid) := by
  have serving' := (kickOther_serving uid serving run).1
  obtain ⟨_, proxy, got, noting⟩ := yields_bind.mp run
  obtain ⟨rfl, rfl⟩ := yields_get.mp got
  clear got run
  obtain ⟨_, noted, notes, rest⟩ := yields_bind.mp noting
  obtain rfl := yields_modify.mp notes
  refine ⟨serving', ?_⟩
  cases found : proxy.pool.objmap[uid]? with
  | none =>
      rw [found] at rest
      obtain ⟨-, rfl⟩ := yields_pure.mp rest
      exact ⟨rfl, fun _ => nofun, fun _ => ⟨rfl, fun _ _ => rfl⟩⟩
  | some other =>
      rw [found] at rest
      dsimp only at rest
      split at rest
      · rename_i same
        obtain ⟨-, rfl⟩ := yields_pure.mp rest
        refine ⟨rfl, fun _ => ?_, fun _ => ⟨rfl, fun _ _ => rfl⟩⟩
        rintro _ ⟨⟩
        exact same
      · rename_i different
        have alive : (proxy.session other).live = true :=
          (found_alive serving.toOrderly found).1
        have recorded : (proxy.record (.loggingIn sid uid (some other))).accounts.registry.live
            other = true := alive
        have registry := kick_registry recorded rest
        have identity : (next.session sid).identity = (proxy.session sid).identity := by
          have unmoved := congrArg (fun registry => registry.identity sid) registry
          exact unmoved.trans (Function.update_of_ne (Ne.symm different) ..)
        have dead : (next.session other).live = false := by
          have left := congrArg (fun registry => registry.live other) registry
          exact left.trans (Registry.leave_live ..)
        refine ⟨congrArg (fun identity => identity.2.2.1) identity, fun kept => ?_, fun none => ?_⟩
        · rw [kept.session other different] at dead
          exact (Bool.false_ne_true (dead.symm.trans alive)).elim
        · exact (different (none other rfl)).elim

/-- A rejected login keeps all other sessions if it finds none of its user. -/
theorem login_rejected {reqPacket : NETInputPacket} {goesOn : Bool}
    (login : LoginPacket reqPacket uid api) (rejects : RejectsLogin sid uid start)
    (serving : Serving sid start)
    (run : Yields (System.login sid reqPacket) start goesOn next)
    : goesOn = false
      ∧ (OthersKept sid start next
        ↔ uid ≤ 0 ∨ ∀ found, start.pool.objmap[uid]? = some found → found = sid) := by
  obtain ⟨-, behind, fields⟩ := login
  obtain ⟨read, readState, reads, rest⟩ := yields_bind.mp run
  obtain ⟨rfl, rfl⟩ : read = ((uid, api), behind) ∧ readState = start := by
    rw [reading, fields] at reads
    exact yields_pure.mp reads
  dsimp only at rest
  split at rest
  · rename_i none
    obtain ⟨rfl, rfl⟩ := yields_pure.mp rest
    exact ⟨rfl, fun _ => Or.inl none, fun _ => OthersKept.refl _⟩
  · rename_i positive
    obtain ⟨_, kicked, kicks, rest⟩ := yields_bind.mp rest
    obtain ⟨serving', uid', kept⟩ := kickOther_kept serving kicks
    obtain ⟨session, used, uses, rest⟩ := yields_bind.mp rest
    obtain ⟨rfl, rfl⟩ := yields_useSession serving'.alive uses
    rw [uid'] at rest
    rw [if_pos (rejects.resolve_left positive)] at rest
    obtain ⟨rfl, rfl⟩ := yields_pure.mp rest
    rw [kept]
    exact ⟨rfl, Or.inr, fun holds => holds.resolve_left positive⟩

/-- What has been copied for a frame is not seen in the accounts. -/
theorem copiedAt_accounts : (copiedAt sid frame start).accounts = start.accounts := by
  have quiet : (Part.noted (Happening.handled sid frame).topic).quiet := trivial
  exact (start.accounts_record _).trans (Accounts.shown_quiet quiet start.accounts)

/-- A login frame that is rejected with -1 because its uid is not one or its session is already
somebody else's leaves the table of users and all other sessions alone exactly if its uid is
not one or no other session is listed for it.
-/
theorem rejected_login_keeps_others_iff (visited : start.Visited)
    (alive : (start.session sid).live = true)
    (login : LoginPacket (reqPacketOf start frame) uid api)
    (rejects : RejectsLogin sid uid start)
    (run : Yields (handleInputBuf sid frame) start (-1) next)
    : OthersKept sid start next
      ↔ uid ≤ 0 ∨ ∀ found, start.pool.objmap[uid]? = some found → found = sid := by
  have serving : Serving sid (copiedAt sid frame start) := by
    rw [Serving, copiedAt_accounts]
    exact ⟨visited.orderly, alive⟩
  obtain impossible | ⟨choice, chosen, chooses, forwards⟩ := handleInputBuf_login login run
  · cases impossible
  obtain ⟨goesOn, ended, logs, ends⟩ := yields_bind.mp chooses
  have rejects' : RejectsLogin sid uid (copiedAt sid frame start) := rejects
  obtain ⟨rfl, kept⟩ := login_rejected login rejects' serving logs
  obtain ⟨rfl, rfl⟩ := yields_pure.mp ends
  obtain ⟨-, rfl⟩ := yields_pure.mp forwards
  exact ⟨fun same => kept.mp ⟨same.objmap, same.session⟩, fun holds =>
    ⟨(kept.mpr holds).objmap, (kept.mpr holds).session⟩⟩

end Login

-----------------------------------------------------------------------------------------
-- Given logins
-----------------------------------------------------------------------------------------

/-- Sessions 1 and 2 of the users 7 and 8. -/
def twoUsers : List Event :=
  [.accept 1 33 0, .clientFrame 1 (loginFrame 7), .accept 2 34 0, .clientFrame 2 (loginFrame 8)]

/-- The fields that are read of a packet, if that works. -/
def fieldsRead : Except Fault ((Int × Int) × NETInputPacket) → Option (Int × Int)
  | .ok (fields, _) => some fields
  | .error _ => none

theorem eq_of_fieldsRead {outcome : Except Fault ((Int × Int) × NETInputPacket)}
    {fields : Int × Int} (read : fieldsRead outcome = some fields)
    : ∃ behind, outcome = .ok (fields, behind) := by
  match outcome, read with
  | .ok (_, behind), rfl => exact ⟨behind, rfl⟩

/-- What a handler returns, and whether session 1 is live behind it. -/
def firstBehind : Except Fault (Int × Proxy) → Option (Int × Bool)
  | .ok (ret, next) => some (ret, (next.session 1).live)
  | .error _ => none

theorem eq_of_firstBehind {outcome : Except Fault (Int × Proxy)} {ret : Int} {first : Bool}
    (seen : firstBehind outcome = some (ret, first))
    : ∃ next, outcome = .ok (ret, next) ∧ (next.session 1).live = first := by
  match outcome, seen with
  | .ok (_, next), rfl => exact ⟨next, rfl, rfl⟩

/-- Session 2, which is logged in as user 8, sends a login that is rejected. -/
structure Rejects (uid : Int) (first : Bool) (start : Proxy) : Prop where
  command : (reqPacketOf start (loginFrame uid)).getCmdType = clientCmdClientLogin
  fields
    : fieldsRead (decryptedThen readLogin (reqPacketOf start (loginFrame uid)))
      = some (uid, 1)
  outcome : firstBehind (handleInputBuf 2 (loginFrame uid) start) = some (-1, first)
  first : (start.session 1).live = true
  second : (start.session 2).live = true
  somebody : (start.session 2).webUnit.uid = 8
  different : uid ≠ 8

instance (uid : Int) (first : Bool) (start : Proxy) : Decidable (Rejects uid first start) :=
  decidable_of_iff
    ((reqPacketOf start (loginFrame uid)).getCmdType = clientCmdClientLogin
      ∧ fieldsRead (decryptedThen readLogin (reqPacketOf start (loginFrame uid)))
        = some (uid, 1)
      ∧ firstBehind (handleInputBuf 2 (loginFrame uid) start) = some (-1, first)
      ∧ (start.session 1).live = true ∧ (start.session 2).live = true
      ∧ (start.session 2).webUnit.uid = 8 ∧ uid ≠ 8)
    ⟨fun ⟨command, fields, outcome, first, second, somebody, different⟩ =>
        ⟨command, fields, outcome, first, second, somebody, different⟩,
      fun rejected => ⟨rejected.command, rejected.fields, rejected.outcome, rejected.first,
        rejected.second, rejected.somebody, rejected.different⟩⟩

namespace Rejects

variable {uid : Int} {first : Bool} {start : Proxy}

theorem login (rejected : Rejects uid first start)
    : LoginPacket (reqPacketOf start (loginFrame uid)) uid 1 :=
  ⟨rejected.command, eq_of_fieldsRead rejected.fields⟩

theorem rejects (rejected : Rejects uid first start) : RejectsLogin 2 uid start := by
  refine Or.inr ?_
  rw [rejected.somebody]
  exact ⟨by decide, Ne.symm rejected.different⟩

end Rejects

/-- User 8 sends a login as 7: it is rejected, and the session of user 7 is gone. -/
theorem rejected_login_kicks
    : ∃ start next : Proxy, start.Visited ∧ (start.session 2).live = true
        ∧ LoginPacket (reqPacketOf start (loginFrame 7)) 7 1
        ∧ RejectsLogin 2 7 start
        ∧ Yields (handleInputBuf 2 (loginFrame 7)) start (-1) next
        ∧ ¬OthersKept 2 start next := by
  obtain ⟨start, reached, checked⟩ := Proxy.unused_unused.run (twoUsers.map Event.calmly)
    (fun proxy => Rejects 7 false proxy) (by decide +kernel)
  have rejected : Rejects 7 false start := of_decide_eq_true checked
  obtain ⟨next, run, dead⟩ := eq_of_firstBehind rejected.outcome
  refine ⟨start, next, .between reached, rejected.second, rejected.login, rejected.rejects, run,
    fun kept => ?_⟩
  rw [kept.session 1 (by decide), rejected.first] at dead
  cases dead

/-- User 8 sends a login as 9, who has no session. -/
theorem rejected_login_keeps_others_of_nobody
    : ∃ start next : Proxy, (start.session 1).live = true ∧ OthersKept 2 start next := by
  obtain ⟨start, reached, checked⟩ := Proxy.unused_unused.run (twoUsers.map Event.calmly)
    (fun proxy => proxy.pool.objmap[(9 : Int)]? = none ∧ Rejects 9 true proxy)
    (by decide +kernel)
  obtain ⟨nobody, rejected⟩ := of_decide_eq_true checked
  obtain ⟨next, run, -⟩ := eq_of_firstBehind rejected.outcome
  have settled := rejected_login_keeps_others_iff (.between reached) rejected.second
    rejected.login rejected.rejects run
  refine ⟨start, next, rejected.first, settled.mpr (Or.inr (fun found entry => ?_))⟩
  rw [nobody] at entry
  cases entry

end ProxyServer.System
