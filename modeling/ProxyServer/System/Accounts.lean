import ProxyServer.System.Registry

/-! The proxy's accounts: who is logged in where, as what each session is to be closed, and
what the run has shown of its sessions. What the handlers do to the accounts is one of a few
steps, and the steps keep them orderly.
-/

namespace ProxyServer.System

open ProxyServer.Units
open FaultState Footprint

-----------------------------------------------------------------------------------------
-- Lives
-----------------------------------------------------------------------------------------

/-- What a run has shown of a session since it was accepted. `user` is the uid of its last
login, `policy` says that it was taken for asking for the policy since then, and `spared` that
it was kicked or closed by a server. `reports` are the uids it was reported to have left as.
-/
structure Life where
  user : Option Int
  policy : Bool
  spared : Bool
  completed : Nat
  reports : List Int
  deleted : Bool

namespace Life

/-- A life of which nothing has been shown. -/
def fresh : Life := ⟨none, false, false, 0, [], false⟩

def next (life : Life) : Happening → Life
  | .accepted _ => fresh
  | .policyAsked _ => { life with policy := true }
  | .loggedIn _ uid => { life with user := some uid, policy := false }
  | .kicked _ | .closedByServer _ => { life with spared := true }
  | .completed _ => { life with completed := life.completed + 1 }
  | .userClosed _ uid => { life with reports := life.reports ++ [uid] }
  | .deleted _ => { life with deleted := true }
  | _ => life

/-- The reports that `complete` makes of a session. -/
def reported (life : Life) : List Int :=
  if life.spared = true ∨ life.policy = true then [] else life.user.toList

/-- A life behind `complete`. -/
def ended (life : Life) : Life :=
  {
    life with
    completed := life.completed + 1
    reports := life.reports ++ life.reported
    deleted := true
  }

end Life

/-- The session whose life a happening belongs to. -/
def Happening.subject (happening : Happening) : Option SessionId :=
  match happening.topic with
  | .arrival sid | .user sid | .policy sid => some sid
  | _ => none

/-- Whether a deleted session has been used. -/
def Happening.misuse : Happening → Bool
  | .usedDeleted _ => true
  | _ => false

/-- Whether a login finds another session of its user. -/
def Happening.dispute : Happening → Bool
  | .loggingIn sid _ (some found) => found ≠ sid
  | _ => false

-----------------------------------------------------------------------------------------
-- Accounts
-----------------------------------------------------------------------------------------

structure Accounts where
  registry : Registry
  connType : SessionId → ConnType
  life : SessionId → Life
  misused : Bool
  disputed : Bool

namespace Accounts

/-- The accounts when something more has been shown. -/
def shown (happening : Happening) (accounts : Accounts) : Accounts :=
  {
    accounts with
    life := fun sid =>
      if happening.subject = some sid then (accounts.life sid).next happening
      else accounts.life sid
    misused := accounts.misused || happening.misuse
    disputed := accounts.disputed || happening.dispute
  }

def setConnType (sid : SessionId) (connType : ConnType) (accounts : Accounts) : Accounts :=
  { accounts with connType := Function.update accounts.connType sid connType }

/-- A new session. -/
def come (sid : SessionId) (accounts : Accounts) : Accounts :=
  (({ accounts with registry := accounts.registry.come sid }.setConnType sid .other).shown
    (.accepted sid))

/-- A session is taken for asking for the policy. -/
def askPolicy (sid : SessionId) (accounts : Accounts) : Accounts :=
  (accounts.shown (.policyAsked sid)).setConnType sid .other

/-- A session logs in. -/
def enter (sid : SessionId) (uid api : Int) (accounts : Accounts) : Accounts :=
  let logged := (accounts.shown (.loggedIn sid uid)).setConnType sid .client
  { logged with registry := logged.registry.enter sid uid api }

/-- A session is to end without a report. -/
def spare (sid : SessionId) (happening : Happening) (accounts : Accounts) : Accounts :=
  (accounts.shown happening).setConnType sid .other

/-- Reports that the user of a session is gone. -/
def report (sid : SessionId) (accounts : Accounts) : Accounts :=
  if accounts.connType sid = .client ∧ 0 < accounts.registry.flag sid then
    accounts.shown (.userClosed sid (accounts.registry.flag sid))
  else
    accounts

/-- A session is completed. -/
def leave (sid : SessionId) (accounts : Accounts) : Accounts :=
  let reported := ((accounts.shown (.completed sid)).report sid).shown (.deleted sid)
  { reported with registry := reported.registry.leave sid }

-----------------------------------------------------------------------------------------
-- Orderly accounts
-----------------------------------------------------------------------------------------

/-- A session and its life agree. -/
structure Standing (identity : Bool × Int × Int × Int) (connType : ConnType) (life : Life)
    : Prop where
  user : identity.1 = true → life.user = Registry.userOf identity
  going : identity.1 = true → life.completed = 0 ∧ life.reports = [] ∧ life.deleted = false
  owing : identity.1 = true → (connType = .client ↔ life.reported ≠ [])
  once : life.completed ≤ 1
  reports : identity.1 = false → life.reports = if life.deleted then life.reported else []

/-- The table of users is right, every session's life agrees with it, and a deleted session has
been used only if a login found another session of its user.
-/
structure Orderly (accounts : Accounts) : Prop where
  registered : accounts.registry.Registered
  standing
    : ∀ sid, Standing (accounts.registry.identity sid) (accounts.connType sid)
        (accounts.life sid)
  unspared : ∀ sid, accounts.registry.live sid = true → (accounts.life sid).spared = false
  clean : accounts.misused = true → accounts.disputed = true

variable {accounts : Accounts} {sid : SessionId}

/-- A step that changes the account of one session. -/
theorem Orderly.revise (orderly : accounts.Orderly) (sid : SessionId) {next : Accounts}
    (registered : next.registry.Registered)
    (identity
      : ∀ other, other ≠ sid
        → next.registry.identity other = accounts.registry.identity other)
    (connType : ∀ other, other ≠ sid → next.connType other = accounts.connType other)
    (life : ∀ other, other ≠ sid → next.life other = accounts.life other)
    (standing
      : Standing (next.registry.identity sid) (next.connType sid) (next.life sid))
    (unspared : next.registry.live sid = true → (next.life sid).spared = false)
    (clean : next.misused = true → next.disputed = true)
    : next.Orderly where
  registered := registered
  standing := by
    intro other
    by_cases same : other = sid
    · subst same
      exact standing
    · rw [identity other same, connType other same, life other same]
      exact orderly.standing other
  unspared := by
    intro other alive
    by_cases same : other = sid
    · subst same
      exact unspared alive
    · rw [life other same]
      rw [Registry.live, identity other same] at alive
      exact orderly.unspared other alive
  clean := clean

@[simp]
theorem shown_registry (happening : Happening)
    : (accounts.shown happening).registry = accounts.registry :=
  rfl

@[simp]
theorem shown_connType (happening : Happening)
    : (accounts.shown happening).connType = accounts.connType :=
  rfl

/-- What is shown of one session is not part of the life of another. -/
theorem shown_life_other {happening : Happening} {other : SessionId}
    (subject : happening.subject = some sid) (different : other ≠ sid)
    : (accounts.shown happening).life other = accounts.life other := by
  refine if_neg ?_
  rw [subject]
  exact fun same => different (Option.some.inj same).symm

@[simp]
theorem shown_life (happening : Happening)
    : (accounts.shown happening).life sid
      = if happening.subject = some sid then (accounts.life sid).next happening
        else accounts.life sid :=
  rfl

theorem setConnType_other {other : SessionId} (connType : ConnType) (different : other ≠ sid)
    : (accounts.setConnType sid connType).connType other = accounts.connType other :=
  Function.update_of_ne different ..

@[simp]
theorem setConnType_same (connType : ConnType)
    : (accounts.setConnType sid connType).connType sid = connType :=
  Function.update_self ..

/-- Showing anything but a misuse leaves the accounts clean. -/
theorem clean_shown {happening : Happening}
    (clean : accounts.misused = true → accounts.disputed = true)
    (proper : happening.misuse = false)
    : (accounts.shown happening).misused = true
      → (accounts.shown happening).disputed = true := by
  intro misused
  rw [shown, proper, Bool.or_false] at misused
  exact Bool.or_eq_true_iff.mpr (Or.inl (clean misused))

/-- Memory that is not in use becomes a session that is not logged in. -/
theorem Orderly.come (orderly : accounts.Orderly) (dead : accounts.registry.live sid = false)
    : (accounts.come sid).Orderly := by
  have identity : (accounts.come sid).registry.identity sid = (true, 0, 0, 0) :=
    Function.update_self ..
  have life : (accounts.come sid).life sid = Life.fresh := if_pos rfl
  have connType : (accounts.come sid).connType sid = .other := setConnType_same .other
  refine orderly.revise sid (orderly.registered.come dead) ?_ ?_ ?_ ?_ ?_ ?_
  · exact fun other different => Function.update_of_ne different ..
  · exact fun other different => setConnType_other _ different
  · exact fun other different => shown_life_other rfl different
  · rw [identity, life, connType]
    exact ⟨fun _ => rfl, fun _ => ⟨rfl, rfl, rfl⟩, by simp [Life.reported, Life.fresh],
      Nat.zero_le _, nofun⟩
  · rw [life]
    exact fun _ => rfl
  · exact clean_shown orderly.clean rfl

/-- A live session that is taken for asking for the policy is not to be reported. -/
theorem Orderly.askPolicy (orderly : accounts.Orderly)
    (alive : accounts.registry.live sid = true)
    : (accounts.askPolicy sid).Orderly := by
  have standing := orderly.standing sid
  have life : (accounts.askPolicy sid).life sid
      = { accounts.life sid with policy := true } := if_pos rfl
  have connType : (accounts.askPolicy sid).connType sid = .other := setConnType_same .other
  refine orderly.revise sid orderly.registered (fun _ _ => rfl) ?_ ?_ ?_ ?_ ?_
  · exact fun other different => setConnType_other _ different
  · exact fun other different => shown_life_other rfl different
  · rw [life, connType]
    refine ⟨standing.user, standing.going, by simp [Life.reported], standing.once, ?_⟩
    intro dead
    exact (Bool.false_ne_true (dead.symm.trans alive)).elim
  · rw [life]
    exact orderly.unspared sid
  · exact clean_shown orderly.clean rfl

/-- A live session logs in, under the conditions of the registry. -/
theorem Orderly.enter (orderly : accounts.Orderly) {uid : Int} (positive : 0 < uid)
    (alive : accounts.registry.live sid = true)
    (free : accounts.registry.users uid = none ∨ accounts.registry.users uid = some sid)
    (keyless : accounts.registry.uid sid ≤ 0 ∨ accounts.registry.uid sid = uid) (api : Int)
    : (accounts.enter sid uid api).Orderly := by
  have standing := orderly.standing sid
  have unspared := orderly.unspared sid alive
  have identity : (accounts.enter sid uid api).registry.identity sid
      = (true, uid, uid, api) := by
    rw [← alive]
    exact Function.update_self ..
  have life : (accounts.enter sid uid api).life sid
      = { accounts.life sid with user := some uid, policy := false } := if_pos rfl
  have connType : (accounts.enter sid uid api).connType sid = .client :=
    setConnType_same .client
  have registered : (accounts.enter sid uid api).registry.Registered :=
    orderly.registered.enter positive alive free keyless api
  refine orderly.revise sid registered ?_ ?_ ?_ ?_ ?_ ?_
  · exact fun other different => Function.update_of_ne different ..
  · exact fun other different => setConnType_other _ different
  · exact fun other different => shown_life_other rfl different
  · rw [identity, life, connType]
    refine ⟨fun _ => ?_, fun _ => standing.going alive, fun _ => ?_, standing.once, nofun⟩
    · exact (if_pos ⟨rfl, positive⟩).symm
    · simp [Life.reported, unspared]
  · rw [life]
    exact fun _ => unspared
  · exact clean_shown orderly.clean rfl

-----------------------------------------------------------------------------------------
-- The end of a session
-----------------------------------------------------------------------------------------

/-- A live session that is to end without a report is in good standing. -/
theorem Standing.spare {identity : Bool × Int × Int × Int} {connType : ConnType} {life : Life}
    (standing : Standing identity connType life) (alive : identity.1 = true)
    : Standing identity .other { life with spared := true } where
  user := standing.user
  going := standing.going
  owing := fun _ => by simp [Life.reported]
  once := standing.once
  reports := fun dead => (Bool.false_ne_true (dead.symm.trans alive)).elim

/-- A session that ended in good standing has made its report. -/
theorem Standing.ended {identity : Bool × Int × Int × Int} {connType : ConnType} {life : Life}
    (standing : Standing identity connType life) (alive : identity.1 = true)
    : Standing (false, identity.2) connType life.ended := by
  obtain ⟨completed, reports, -⟩ := standing.going alive
  refine ⟨nofun, nofun, nofun, ?_, fun _ => ?_⟩
  · simp [Life.ended, completed]
  · simp [Life.ended, reports, Life.reported]

/-- What is shown of a session's end is the end of its life. -/
theorem leave_life
    (standing
      : Standing (accounts.registry.identity sid) (accounts.connType sid)
          (accounts.life sid))
    (alive : accounts.registry.live sid = true)
    : (accounts.leave sid).life sid = (accounts.life sid).ended := by
  have user := standing.user alive
  have owing := standing.owing alive
  have flag : Registry.userOf (accounts.registry.identity sid)
      = if 0 < accounts.registry.flag sid then some (accounts.registry.flag sid) else none := by
    rw [← Registry.user, Registry.user_eq, alive]
    simp
  rw [flag] at user
  have completed : ((accounts.shown (.completed sid)).life sid)
      = { accounts.life sid with completed := (accounts.life sid).completed + 1 } := if_pos rfl
  have deleted : ∀ before : Accounts,
      (before.shown (.deleted sid)).life sid = { before.life sid with deleted := true } :=
    fun before => if_pos rfl
  rw [leave, deleted, report, shown_connType, shown_registry]
  by_cases reports : accounts.connType sid = .client ∧ 0 < accounts.registry.flag sid
  · have closed : ((accounts.shown (.completed sid)).shown
          (.userClosed sid (accounts.registry.flag sid))).life sid
        = { (accounts.shown (.completed sid)).life sid with
            reports := ((accounts.shown (.completed sid)).life sid).reports
              ++ [accounts.registry.flag sid] } := if_pos rfl
    have reported : (accounts.life sid).reported = [accounts.registry.flag sid] := by
      have some := owing.mp reports.1
      rw [if_pos reports.2] at user
      rw [Life.reported, user] at some ⊢
      split at some
      · exact (some rfl).elim
      · rename_i due
        rw [if_neg due, Option.toList_some]
    rw [if_pos reports, closed, completed, Life.ended, reported]
  · have reported : (accounts.life sid).reported = [] := by
      by_contra some
      refine reports ⟨owing.mpr some, ?_⟩
      by_contra anonymous
      rw [if_neg anonymous] at user
      rw [Life.reported, user] at some
      split at some
      · exact some rfl
      · exact some rfl
    rw [if_neg reports, completed, Life.ended, reported, List.append_nil]

@[simp]
theorem report_registry : (accounts.report sid).registry = accounts.registry := by
  rw [report]
  split
  · rfl
  · rfl

@[simp]
theorem report_connType : (accounts.report sid).connType = accounts.connType := by
  rw [report]
  split
  · rfl
  · rfl

theorem report_clean (clean : accounts.misused = true → accounts.disputed = true)
    : (accounts.report sid).misused = true → (accounts.report sid).disputed = true := by
  rw [report]
  split
  · exact clean_shown clean rfl
  · exact clean

theorem report_life_other {other : SessionId} (different : other ≠ sid)
    : (accounts.report sid).life other = accounts.life other := by
  rw [report]
  split
  · exact shown_life_other rfl different
  · rfl

theorem leave_life_other {other : SessionId} (different : other ≠ sid)
    : (accounts.leave sid).life other = accounts.life other := by
  rw [leave]
  exact (shown_life_other rfl different).trans
    ((report_life_other different).trans (shown_life_other rfl different))

@[simp]
theorem leave_registry : (accounts.leave sid).registry = accounts.registry.leave sid := by
  rw [leave, shown_registry, report_registry, shown_registry]

@[simp]
theorem leave_connType : (accounts.leave sid).connType = accounts.connType := by
  rw [leave, shown_connType, report_connType, shown_connType]

theorem leave_clean (clean : accounts.misused = true → accounts.disputed = true)
    : (accounts.leave sid).misused = true → (accounts.leave sid).disputed = true :=
  clean_shown (report_clean (clean_shown clean rfl)) rfl

/-- A dispute is not forgotten. -/
theorem shown_disputed (happening : Happening) (disputed : accounts.disputed = true)
    : (accounts.shown happening).disputed = true :=
  Bool.or_eq_true_iff.mpr (Or.inl disputed)

theorem leave_disputed (disputed : accounts.disputed = true)
    : (accounts.leave sid).disputed = true := by
  have completed := shown_disputed (.completed sid) disputed
  apply shown_disputed
  rw [report]
  split
  · exact shown_disputed _ completed
  · exact completed

/-- A live session is completed, whatever became of its account just before. -/
theorem Orderly.leave_behind (orderly : accounts.Orderly) {before : Accounts}
    (alive : accounts.registry.live sid = true)
    (registry : before.registry = accounts.registry)
    (connType : ∀ other, other ≠ sid → before.connType other = accounts.connType other)
    (life : ∀ other, other ≠ sid → before.life other = accounts.life other)
    (standing
      : Standing (accounts.registry.identity sid) (before.connType sid) (before.life sid))
    (clean : before.misused = true → before.disputed = true)
    : (before.leave sid).Orderly := by
  have identity : (before.leave sid).registry.identity sid
      = (false, (accounts.registry.identity sid).2) := by
    rw [leave_registry, registry]
    exact Function.update_self ..
  have ended : (before.leave sid).life sid = (before.life sid).ended := by
    rw [← registry] at standing alive
    exact leave_life standing alive
  refine orderly.revise sid ?_ ?_ ?_ ?_ ?_ ?_ (leave_clean clean)
  · rw [leave_registry, registry]
    exact orderly.registered.leave alive
  · intro other different
    rw [leave_registry, registry]
    exact Function.update_of_ne different ..
  · exact fun other different => (congrFun leave_connType other).trans (connType other different)
  · exact fun other different => (leave_life_other different).trans (life other different)
  · rw [identity, leave_connType, ended]
    exact standing.ended alive
  · rw [Registry.live, identity]
    intro alive
    cases alive

/-- A live session is completed. -/
theorem Orderly.leave (orderly : accounts.Orderly) (alive : accounts.registry.live sid = true)
    : (accounts.leave sid).Orderly :=
  orderly.leave_behind alive rfl (fun _ _ => rfl) (fun _ _ => rfl) (orderly.standing sid)
    orderly.clean

/-- A live session is completed that is to end without a report. -/
theorem Orderly.spared_leave (orderly : accounts.Orderly)
    (alive : accounts.registry.live sid = true) {happening : Happening}
    (spares : happening = .kicked sid ∨ happening = .closedByServer sid)
    : ((accounts.spare sid happening).leave sid).Orderly := by
  have subject : happening.subject = some sid := by
    rcases spares with rfl | rfl
    · rfl
    · rfl
  have life : (accounts.spare sid happening).life sid
      = { accounts.life sid with spared := true } := by
    rcases spares with rfl | rfl
    · exact if_pos rfl
    · exact if_pos rfl
  have proper : happening.misuse = false := by
    rcases spares with rfl | rfl
    · rfl
    · rfl
  have connType : (accounts.spare sid happening).connType sid = .other :=
    setConnType_same .other
  refine orderly.leave_behind alive rfl ?_ ?_ ?_ (clean_shown orderly.clean proper)
  · exact fun other different => setConnType_other _ different
  · exact fun other different => shown_life_other subject different
  · rw [life, connType]
    exact (orderly.standing sid).spare alive

/-- Showing what no life depends on; a misuse only if there has been a dispute. -/
theorem Orderly.shown (orderly : accounts.Orderly) {happening : Happening}
    (idle : ∀ life : Life, life.next happening = life)
    (proper : happening.misuse = false ∨ accounts.disputed = true)
    : (accounts.shown happening).Orderly := by
  have life : ∀ other, (accounts.shown happening).life other = accounts.life other := by
    intro other
    rw [shown_life, idle, ite_self]
  refine ⟨orderly.registered, fun other => ?_, fun other => ?_, ?_⟩
  · rw [life]
    exact orderly.standing other
  · rw [life]
    exact orderly.unspared other
  · rcases proper with proper | disputed
    · exact clean_shown orderly.clean proper
    · exact fun _ => shown_disputed happening disputed

/-- The accounts are orderly and the session is live. -/
structure Serving (sid : SessionId) (accounts : Accounts) : Prop extends Orderly accounts where
  alive : accounts.registry.live sid = true

end Accounts

-----------------------------------------------------------------------------------------
-- The accounts of a state
-----------------------------------------------------------------------------------------

namespace Proxy

/-- The life of a session: what has been shown of it since it was accepted. -/
def life (proxy : Proxy) (sid : SessionId) : Life :=
  proxy.trace.foldl (fun life happening =>
    if happening.subject = some sid then life.next happening else life) Life.fresh

def accounts (proxy : Proxy) : Accounts where
  registry := proxy.registry
  connType := fun sid => (proxy.session sid).connType
  life := proxy.life
  misused := proxy.trace.any Happening.misuse
  disputed := proxy.trace.any Happening.dispute

theorem accounts_record (happening : Happening) (proxy : Proxy)
    : (proxy.record happening).accounts = proxy.accounts.shown happening := by
  have life : (proxy.record happening).life
      = fun sid => if happening.subject = some sid then (proxy.life sid).next happening
          else proxy.life sid := by
    funext sid
    rw [Proxy.life, record, List.foldl_append]
    rfl
  have any : ∀ test : Happening → Bool,
      (proxy.record happening).trace.any test = (proxy.trace.any test || test happening) := by
    intro test
    simp [record]
  rw [accounts, life, any, any]
  rfl

/-- The accounts are what is seen of the table of users, the sessions and the trace. -/
theorem accounts_eq {start next : Proxy} (objmap : next.pool.objmap = start.pool.objmap)
    (identity : ∀ sid, (next.session sid).identity = (start.session sid).identity)
    (connType : ∀ sid, (next.session sid).connType = (start.session sid).connType)
    (trace : next.trace = start.trace)
    : next.accounts = start.accounts := by
  have life : next.life = start.life := by
    funext sid
    rw [Proxy.life, trace, Proxy.life]
  rw [accounts, accounts, registry, registry, objmap, funext identity, funext connType, life,
    trace]

end Proxy

/-- A part in which the accounts are not seen. -/
def Part.quiet : Part → Prop
  | .objmap | .identity _ | .connType _ | .noted (.arrival _) | .noted (.user _)
  | .noted (.policy _) | .noted (.misuse _) => False
  | _ => True

/-- What is shown of a quiet part does not change the accounts. -/
theorem Accounts.shown_quiet {happening : Happening}
    (quiet : (Part.noted happening.topic).quiet) (accounts : Accounts)
    : accounts.shown happening = accounts := by
  cases happening <;> first | exact quiet.elim | simp [Accounts.shown, Happening.subject,
    Happening.topic, Happening.misuse, Happening.dispute]

/-- Changes of quiet parts leave the accounts alone. -/
theorem Proxy.Changes.accounts {part : Part} {start next : Proxy} (quiet : part.quiet)
    (changes : Proxy.Changes part start next)
    : next.accounts = start.accounts := by
  have same := changes.unchanged
  cases part with
  | noted topic =>
      obtain ⟨happening, rfl, rfl⟩ := changes
      rw [accounts_record, Accounts.shown_quiet quiet]
  | _ =>
      first
        | exact quiet.elim
        | exact accounts_eq (same .objmap (by simp [Part.seen]))
            (fun sid => same (.identity sid) (by simp [Part.seen]))
            (fun sid => same (.connType sid) (by simp [Part.seen]))
            (same (.noted (.frame 0)) (by simp [Part.seen]))

end ProxyServer.System
