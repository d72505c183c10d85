import ProxyServer.Library.KeyIndex
import ProxyServer.System.Parts

/-! Who is logged in where: `m_objmap` and the uids of the sessions.
What the handlers do to it is one of three abstract steps: a session comes, enters a user,
or leaves. Everything else they do is not seen here.
-/

namespace ProxyServer.System

open ProxyServer.Units
open FaultState Footprint KeyIndex

-----------------------------------------------------------------------------------------
-- The registry
-----------------------------------------------------------------------------------------

/-- The part of the state that says who is logged in where. -/
structure Registry where
  objmap : Std.TreeMap Int SessionId
  identity : SessionId → Bool × Int × Int × Int

def Proxy.registry (proxy : Proxy) : Registry :=
  ⟨proxy.pool.objmap, fun sid => (proxy.session sid).identity⟩

namespace Registry

def live (registry : Registry) (sid : SessionId) : Bool :=
  (registry.identity sid).1

def flag (registry : Registry) (sid : SessionId) : Int :=
  (registry.identity sid).2.1

def uid (registry : Registry) (sid : SessionId) : Int :=
  (registry.identity sid).2.2.1

/-- The table of users. -/
def users (registry : Registry) (uid : Int) : Option SessionId :=
  registry.objmap[uid]?

/-- The user of a session, if it is live and logged in. -/
def userOf (identity : Bool × Int × Int × Int) : Option Int :=
  if identity.1 = true ∧ 0 < identity.2.1 then some identity.2.1 else none

def user (registry : Registry) (sid : SessionId) : Option Int :=
  userOf (registry.identity sid)

theorem user_eq (registry : Registry) (sid : SessionId)
    : registry.user sid
      = if registry.live sid = true ∧ 0 < registry.flag sid then some (registry.flag sid)
        else none :=
  rfl

/-- The table and the live sessions agree on who is logged in where. -/
structure Registered (registry : Registry) : Prop where
  indexed : Indexes registry.users registry.user
  flagged : ∀ sid, registry.live sid = true → registry.uid sid = registry.flag sid

-----------------------------------------------------------------------------------------
-- Steps
-----------------------------------------------------------------------------------------

/-- A new session. -/
def come (sid : SessionId) (registry : Registry) : Registry :=
  { registry with identity := Function.update registry.identity sid (true, 0, 0, 0) }

/-- A session enters a user. -/
def enter (sid : SessionId) (uid api : Int) (registry : Registry) : Registry where
  objmap := registry.objmap.insert uid sid
  identity := Function.update registry.identity sid (registry.live sid, uid, uid, api)

/-- A session is deleted; the entry of its user is erased without a look at it. -/
def leave (sid : SessionId) (registry : Registry) : Registry where
  objmap :=
    if 0 < registry.flag sid then registry.objmap.erase (registry.flag sid)
    else registry.objmap
  identity := Function.update registry.identity sid (false, (registry.identity sid).2)

variable {registry : Registry} {sid : SessionId}

@[simp]
theorem leave_live (registry : Registry) (sid : SessionId)
    : (registry.leave sid).live sid = false := by
  simp [live, leave]

theorem leave_live_other (registry : Registry) {sid other : SessionId} (different : other ≠ sid)
    : (registry.leave sid).live other = registry.live other := by
  simp [live, leave, different]

@[simp]
theorem enter_live (registry : Registry) (sid : SessionId) (uid api : Int)
    : (registry.enter sid uid api).live sid = registry.live sid := by
  simp [live, enter]

/-- The users of the other sessions do not depend on the updated one. -/
theorem user_update (objmap : Std.TreeMap Int SessionId) (identity : Bool × Int × Int × Int)
    (registry : Registry) (sid : SessionId)
    : (⟨objmap, Function.update registry.identity sid identity⟩ : Registry).user
      = Function.update registry.user sid (userOf identity) := by
  funext other
  by_cases same : other = sid
  · subst same
    rw [Function.update_self]
    exact congrArg userOf (Function.update_self ..)
  · rw [Function.update_of_ne same]
    exact congrArg userOf (Function.update_of_ne same ..)

/-- What is found under a key behind an insertion. -/
theorem users_enter (uid api : Int)
    : (registry.enter sid uid api).users
      = Function.update registry.users uid (some sid) := by
  funext other
  rw [users, enter, Std.TreeMap.getElem?_insert, Function.update_apply]
  simp only [Std.LawfulEqCmp.compare_eq_iff_eq]
  by_cases same : uid = other
  · rw [if_pos same, if_pos same.symm]
  · rw [if_neg same, if_neg (Ne.symm same), users]

/-- What is found under a key behind an erasure. -/
theorem users_leave
    : (registry.leave sid).users
      = if 0 < registry.flag sid then Function.update registry.users (registry.flag sid) none
        else registry.users := by
  funext other
  split
  · rename_i loggedIn
    rw [users, leave, if_pos loggedIn, Std.TreeMap.getElem?_erase, Function.update_apply]
    simp only [Std.LawfulEqCmp.compare_eq_iff_eq]
    by_cases same : registry.flag sid = other
    · rw [if_pos same, if_pos same.symm]
    · rw [if_neg same, if_neg (Ne.symm same), users]
  · rename_i notLoggedIn
    rw [users, users, leave, if_neg notLoggedIn]

theorem flagged_update {objmap : Std.TreeMap Int SessionId}
    {identity : Bool × Int × Int × Int} (registered : registry.Registered)
    (same : identity.1 = true → identity.2.2.1 = identity.2.1) (other : SessionId)
    : let next : Registry := ⟨objmap, Function.update registry.identity sid identity⟩
      next.live other = true → next.uid other = next.flag other := by
  by_cases equal : other = sid
  · subst equal
    simpa [live, uid, flag] using same
  · simpa [live, uid, flag, equal] using registered.flagged other

/-- Memory that is not in use becomes a session that is not logged in. -/
theorem Registered.come (registered : registry.Registered) (dead : registry.live sid = false)
    : (registry.come sid).Registered where
  indexed := by
    have anonymous : registry.user sid = none := by simp [user_eq, dead]
    have same : (registry.come sid).user = registry.user := by
      rw [Registry.come, user_update, userOf, if_neg (by simp), ← anonymous,
        Function.update_eq_self]
    rw [same]
    exact registered.indexed
  flagged := flagged_update registered (fun _ => rfl)

/-- A session that is not logged in, or as the same user, enters a user without an entry of
another session.
-/
theorem Registered.enter (registered : registry.Registered) {uid : Int} (positive : 0 < uid)
    (alive : registry.live sid = true)
    (free : registry.users uid = none ∨ registry.users uid = some sid)
    (keyless : registry.uid sid ≤ 0 ∨ registry.uid sid = uid) (api : Int)
    : (registry.enter sid uid api).Registered where
  indexed := by
    have before : registry.user sid = none ∨ registry.user sid = some uid := by
      rw [registered.flagged sid alive] at keyless
      rcases keyless with none | same
      · exact Or.inl (by rw [user_eq, if_neg (by omega)])
      · exact Or.inr (by rw [user_eq, if_pos ⟨alive, by omega⟩, same])
    have user : (registry.enter sid uid api).user
        = Function.update registry.user sid (some uid) := by
      rw [Registry.enter, user_update, userOf, if_pos ⟨alive, positive⟩]
    rw [users_enter, user]
    exact registered.indexed.enter free before
  flagged := flagged_update registered (fun _ => rfl)

/-- A live session leaves, with the entry of its user. -/
theorem Registered.leave (registered : registry.Registered)
    (alive : registry.live sid = true)
    : (registry.leave sid).Registered where
  indexed := by
    have user : (registry.leave sid).user = Function.update registry.user sid none := by
      rw [Registry.leave, user_update, userOf, if_neg (by simp)]
    rw [users_leave, user]
    split
    · rename_i loggedIn
      exact registered.indexed.release (if_pos ⟨alive, loggedIn⟩)
    · rename_i notLoggedIn
      have anonymous : registry.user sid = none := if_neg (fun h => notLoggedIn h.2)
      rw [← anonymous, Function.update_eq_self]
      exact registered.indexed
  flagged := flagged_update registered nofun

end Registry

end ProxyServer.System
