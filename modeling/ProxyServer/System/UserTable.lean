import ProxyServer.System.Accounts
import ProxyServer.System.EventRules

/-! The accounts in every reachable state: the handlers do to them what the steps of the
accounts say, and so they stay orderly. `m_objmap` lists exactly the live sessions that are
logged in.
-/

namespace ProxyServer.System

open Packets ProxyServer.Units
open FaultState Footprint Reachability

-----------------------------------------------------------------------------------------
-- Programs that leave the accounts alone
-----------------------------------------------------------------------------------------

/-- The accounts of both states are the same. -/
def Quietly (start next : Proxy) : Prop :=
  next.accounts = start.accounts

instance : IsPreorder Proxy Quietly where
  refl := fun _ => rfl
  trans := fun _ _ _ first second => second.trans first

/-- The accounts of both states are the same if the session is live. -/
def QuietlyServing (sid : SessionId) (start next : Proxy) : Prop :=
  start.accounts.registry.live sid = true → next.accounts = start.accounts

instance (sid : SessionId) : IsPreorder Proxy (QuietlyServing sid) where
  refl := fun _ _ => rfl
  trans := by
    intro start middle next first second alive
    rw [second (by rw [first alive, alive]), first alive]

/-- Quiet changes leave the accounts alone. -/
theorem frees_quietly {parts : Set Part} (quiet : ∀ part ∈ parts, part.quiet)
    : Frees parts (Conduct.relating Quietly) :=
  frees_relating (fun part inside _ _ changes => changes.accounts (quiet part inside))

theorem frees_quietlyServing {parts : Set Part} (quiet : ∀ part ∈ parts, part.quiet)
    (sid : SessionId)
    : Frees parts (Conduct.relating (QuietlyServing sid)) :=
  frees_relating (fun part inside _ _ changes _ => changes.accounts (quiet part inside))

/-- Quiet changes keep what is known of the accounts. -/
theorem frees_accounts {parts : Set Part} (quiet : ∀ part ∈ parts, part.quiet)
    (invariant : Accounts → Prop)
    : Frees parts (Conduct.sustaining (fun proxy => invariant proxy.accounts)) := by
  refine frees_relating (fun part inside start next changes before => ?_)
  change invariant next.accounts
  rw [changes.accounts (quiet part inside)]
  exact before

theorem helperParts_quiet : ∀ part ∈ helperParts, part.quiet := by
  simp [helperParts, or_imp, forall_and, Part.quiet]

theorem reloadParts_quiet : ∀ part ∈ reloadParts, part.quiet := by
  simp [reloadParts, or_imp, forall_and, Part.quiet]

theorem frameParts_quiet (sid : SessionId) : ∀ part ∈ frameParts sid, part.quiet := by
  simp [frameParts, helperParts, or_imp, forall_and, Part.quiet]

-----------------------------------------------------------------------------------------
-- Handlers as steps of the accounts
-----------------------------------------------------------------------------------------

section Steps

variable {sid : SessionId} {start next : Proxy}

/-- A session that has not been deleted is used without a trace. -/
theorem yields_useSession {session : Session} (alive : (start.session sid).live = true)
    (run : Yields (useSession sid) start session next)
    : session = start.session sid ∧ next = start := by
  obtain ⟨proxy, _, got, rest⟩ := yields_bind.mp run
  obtain ⟨rfl, rfl⟩ := yields_get.mp got
  clear got run
  dsimp only at rest
  rw [if_pos alive] at rest
  exact yields_pure.mp rest

/-- Using a deleted session is shown. -/
theorem yields_useSession_deleted {session : Session}
    (dead : (start.session sid).live = false)
    (run : Yields (useSession sid) start session next)
    : next = start.record (.usedDeleted sid) := by
  obtain ⟨proxy, _, got, rest⟩ := yields_bind.mp run
  obtain ⟨rfl, rfl⟩ := yields_get.mp got
  clear got run
  dsimp only at rest
  rw [if_neg (by simp [dead])] at rest
  obtain ⟨_, noted, notes, ends⟩ := yields_bind.mp rest
  obtain ⟨-, rfl⟩ := yields_pure.mp ends
  exact yields_modify.mp notes

theorem yields_note {happening : Happening} (run : Yields (note happening) start () next)
    : next.accounts = start.accounts.shown happening := by
  rw [yields_modify.mp run, Proxy.accounts_record]

/-- What updates of a session do to the accounts. -/
theorem accounts_updateSession {change : Session → Session}
    {identity : Bool × Int × Int × Int} {connType : ConnType}
    (changed : (change (start.session sid)).identity = identity)
    (typed : (change (start.session sid)).connType = connType)
    : (start.updateSession sid change).accounts
      = { start.accounts with
          registry := {
            start.accounts.registry with
            identity := Function.update start.accounts.registry.identity sid identity
          }
          connType := Function.update start.accounts.connType sid connType } := by
  have each : ∀ {α : Type} (seen : Session → α) {value : α},
      seen (change (start.session sid)) = value
      → (fun other => seen ((start.updateSession sid change).session other))
        = Function.update (fun other => seen (start.session other)) sid value := by
    intro α seen value valued
    funext other
    by_cases same : other = sid
    · subst same
      rw [Proxy.updateSession_same, Function.update_self, valued]
    · rw [Function.update_of_ne same]
      exact Proxy.seen_updateSession seen sid other change start
        (fun equal => (same equal).elim)
  have identities := each Session.identity changed
  have types := each Session.connType typed
  rw [Proxy.accounts, Proxy.registry, identities, types]
  rfl

theorem yields_setConnType {connType : ConnType}
    (alive : start.accounts.registry.live sid = true)
    (run : Yields (setConnType sid connType) start () next)
    : next.accounts = start.accounts.setConnType sid connType := by
  obtain ⟨_, used, uses, sets⟩ := yields_bind.mp run
  obtain ⟨-, rfl⟩ := yields_useSession alive uses
  have same := Function.update_eq_self sid used.accounts.registry.identity
  rw [yields_modify.mp sets, accounts_updateSession rfl rfl]
  exact congrArg (fun identity => { used.accounts.setConnType sid connType with
    registry := { used.accounts.registry with identity := identity } }) same

theorem yields_forget {flag : Int} (run : Yields (forget flag) start () next)
    : next.accounts
      = { start.accounts with
          registry := {
            start.accounts.registry with
            objmap :=
              if 0 < flag then start.accounts.registry.objmap.erase flag
              else start.accounts.registry.objmap
          } } := by
  rw [forget] at run
  split at run
  · rename_i loggedIn
    rw [yields_modify.mp run, if_pos loggedIn]
    rfl
  · rename_i notLoggedIn
    obtain ⟨-, rfl⟩ := yields_pure.mp run
    rw [if_neg notLoggedIn]

/-- Deleting a live session takes it and the entry of its user off the accounts. -/
theorem yields_deleteSession (alive : start.accounts.registry.live sid = true)
    (run : Yields (deleteSession sid) start () next)
    : next.accounts
      = { start.accounts.shown (.deleted sid) with
          registry := start.accounts.registry.leave sid } := by
  obtain ⟨_, used, uses, rest⟩ := yields_bind.mp run
  obtain ⟨rfl, rfl⟩ := yields_useSession alive uses
  obtain ⟨_, noted, notes, rest⟩ := yields_bind.mp rest
  obtain ⟨_, forgotten, forgets, rest⟩ := yields_bind.mp rest
  obtain ⟨answers, asked, asks, deletes⟩ := yields_bind.mp rest
  have quiet : Frees {.scratch} (Conduct.relating Quietly) :=
    frees_quietly (by simp [Part.quiet])
  have before : asked.accounts = _ :=
    ((ask_within quiet).related asks).trans (yields_forget forgets)
  rw [yields_note notes] at before
  have identity := congrFun (congrArg (fun accounts => accounts.registry.identity) before) sid
  have connType := congrFun (congrArg Accounts.connType before) sid
  have dead : (Session.destroy answers.backend (asked.session sid)).identity
      = (false, (used.accounts.registry.identity sid).2) :=
    congrArg (fun seen => (false, seen.2)) identity
  rw [yields_modify.mp deletes, accounts_updateSession dead connType, before]
  exact congrArg (fun connType => { used.accounts.shown (.deleted sid) with
    registry := used.accounts.registry.leave sid, connType := connType })
    (Function.update_eq_self sid used.accounts.connType)

theorem nextSvid_quietly : Within (Conduct.relating Quietly) nextSvid :=
  nextSvid_within (frees_quietly (by simp [Part.quiet])) (fun _ => trivial)

/-- The report of a logged-in session is shown; the packet is not seen in the accounts. -/
theorem yields_processUserClose (alive : start.accounts.registry.live sid = true)
    (run : Yields (processUserClose sid) start () next)
    : next.accounts
      = if 0 < start.accounts.registry.flag sid then
          start.accounts.shown (.userClosed sid (start.accounts.registry.flag sid))
        else start.accounts := by
  obtain ⟨_, used, uses, rest⟩ := yields_bind.mp run
  obtain ⟨rfl, rfl⟩ := yields_useSession alive uses
  have flag : (used.session sid).flag = used.accounts.registry.flag sid := rfl
  rw [flag] at rest
  split at rest
  · rename_i anonymous
    obtain ⟨-, rfl⟩ := yields_pure.mp rest
    rw [if_neg (not_lt.mpr anonymous)]
  · rename_i loggedIn
    obtain ⟨_, noted, notes, sends⟩ := yields_bind.mp rest
    have quiet := sendUserClose_within (frees_quietly helperParts_quiet) nextSvid_quietly
      (used.accounts.registry.flag sid) (used.session sid).gameUnit.tid
    rw [if_pos (not_le.mp loggedIn), ← yields_note notes]
    exact quiet.related sends

/-- Completing a live session takes it off the accounts. -/
theorem yields_complete (alive : start.accounts.registry.live sid = true)
    (run : Yields (complete sid) start () next)
    : next.accounts = start.accounts.leave sid := by
  obtain ⟨_, noted, notes, rest⟩ := yields_bind.mp run
  obtain ⟨_, used, uses, rest⟩ := yields_bind.mp rest
  have shown := yields_note notes
  have registry : noted.accounts.registry = start.accounts.registry := by
    rw [shown, Accounts.shown_registry]
  have alive : noted.accounts.registry.live sid = true := by
    rw [registry, alive]
  obtain ⟨rfl, rfl⟩ := yields_useSession alive uses
  have connType : (used.session sid).connType = start.accounts.connType sid :=
    (congrFun (congrArg Accounts.connType shown) sid)
  rw [connType] at rest
  rw [Accounts.leave, Accounts.report, Accounts.shown_connType, Accounts.shown_registry]
  split at rest
  · rename_i client
    obtain ⟨_, closed, closes, deletes⟩ := yields_bind.mp rest
    have reported := yields_processUserClose alive closes
    rw [registry, shown] at reported
    by_cases loggedIn : 0 < start.accounts.registry.flag sid
    · rw [if_pos loggedIn] at reported
      have alive : closed.accounts.registry.live sid = true := by
        rw [reported]
        exact registry ▸ alive
      rw [if_pos ⟨client, loggedIn⟩, yields_deleteSession alive deletes, reported]
      rfl
    · rw [if_neg loggedIn] at reported
      have alive : closed.accounts.registry.live sid = true := by
        rw [reported]
        exact registry ▸ alive
      rw [if_neg (fun both => loggedIn both.2), yields_deleteSession alive deletes, reported]
  · rename_i other
    rw [if_neg (fun both => other both.1), yields_deleteSession alive rest, shown]

theorem useSession_quietlyServing
    : Within (Conduct.relating (QuietlyServing sid)) (useSession sid) := by
  refine within_relating (fun run alive => ?_)
  obtain ⟨-, rfl⟩ := yields_useSession alive run
  rfl

/-- A packet for a live session is not seen in the accounts. -/
theorem yields_respond {packet : List UInt8} {ret : Int}
    (alive : start.accounts.registry.live sid = true)
    (run : Yields (respond sid packet) start ret next)
    : next.accounts = start.accounts := by
  have quiet := respond_within sid (frees_quietlyServing (by simp [Part.quiet]) sid)
    useSession_quietlyServing packet
  exact quiet.related run alive

/-- A kick takes a live session off the accounts without a report, and then uses it. -/
theorem yields_kick (alive : start.accounts.registry.live sid = true)
    (run : Yields (kick sid) start () next)
    : next.accounts
      = ((start.accounts.spare sid (.kicked sid)).leave sid).shown (.usedDeleted sid) := by
  obtain ⟨packet, encrypted, encrypts, rest⟩ := yields_bind.mp run
  obtain ⟨_, responded, responds, rest⟩ := yields_bind.mp rest
  obtain ⟨_, noted, notes, rest⟩ := yields_bind.mp rest
  obtain ⟨_, typed, types, rest⟩ := yields_bind.mp rest
  obtain ⟨_, completed, completes, uses⟩ := yields_bind.mp rest
  have quiet : Frees ∅ (Conduct.relating Quietly) := frees_quietly (by simp)
  have before : encrypted.accounts = start.accounts :=
    (encrypted_within quiet _).related encrypts
  obtain ⟨ret, responds⟩ := yields_discard.mp responds
  have before := (yields_respond (by rw [before, alive]) responds).trans before
  have shown := yields_note notes
  rw [before] at shown
  have noted_live : noted.accounts.registry.live sid = true := by
    rw [shown]
    exact alive
  have typed' := yields_setConnType noted_live types
  rw [shown] at typed'
  have typed_live : typed.accounts.registry.live sid = true := by
    rw [typed']
    exact alive
  have left := yields_complete typed_live completes
  rw [typed'] at left
  have dead : (completed.session sid).live = false := by
    change completed.accounts.registry.live sid = false
    rw [left, Accounts.leave_registry, Registry.leave_live]
  obtain ⟨session, uses⟩ := yields_discard.mp uses
  rw [yields_useSession_deleted dead uses, Proxy.accounts_record, left]
  rfl

/-- A kick takes a live session out of the registry. -/
theorem kick_registry (alive : start.accounts.registry.live sid = true)
    (run : Yields (kick sid) start () next)
    : next.accounts.registry = start.accounts.registry.leave sid := by
  rw [yields_kick alive run, Accounts.shown_registry, Accounts.leave_registry]
  rfl

theorem yields_enterUser {uid api : Int} (run : Yields (enterUser sid uid api) start () next)
    : next.accounts = start.accounts.enter sid uid api := by
  obtain ⟨_, noted, notes, enters⟩ := yields_bind.mp run
  have entered : (noted.updateSession sid (Session.enter uid api)).accounts = _ :=
    accounts_updateSession rfl rfl
  have objmap : ∀ objmap, { noted.updateSession sid (Session.enter uid api) with
        pool := { noted.pool with objmap := objmap } }.accounts
      = { (noted.updateSession sid (Session.enter uid api)).accounts with
          registry := {
            (noted.updateSession sid (Session.enter uid api)).accounts.registry with
            objmap := objmap } } := fun _ => rfl
  have shown := yields_note notes
  rw [Accounts.enter, ← shown, yields_modify.mp enters, objmap, entered]
  rfl

end Steps

-----------------------------------------------------------------------------------------
-- Handlers keep the accounts orderly
-----------------------------------------------------------------------------------------

/-- The accounts are orderly and the session is live. -/
abbrev Serving (sid : SessionId) (proxy : Proxy) : Prop :=
  proxy.accounts.Serving sid

abbrev Orderly (proxy : Proxy) : Prop :=
  proxy.accounts.Orderly

section Orderly

variable {sid : SessionId}

theorem useSession_serving : Within (Conduct.sustaining (Serving sid)) (useSession sid) := by
  refine within_relating (fun run serving => ?_)
  obtain ⟨-, rfl⟩ := yields_useSession serving.alive run
  exact serving

theorem frees_serving {parts : Set Part} (quiet : ∀ part ∈ parts, part.quiet)
    : Frees parts (Conduct.sustaining (Serving sid)) :=
  frees_accounts quiet (Accounts.Serving sid)

theorem frees_orderly {parts : Set Part} (quiet : ∀ part ∈ parts, part.quiet)
    : Frees parts (Conduct.sustaining Orderly) :=
  frees_accounts quiet Accounts.Orderly

/-- What does nothing to the accounts keeps what is known of them. -/
theorem quietly_sustains {α : Type} {program : ProxyM α}
    (quiet : Within (Conduct.relating Quietly) program) (invariant : Accounts → Prop)
    : Within (Conduct.sustaining (fun proxy => invariant proxy.accounts)) program := by
  refine within_relating (fun run before => ?_)
  have same : _ = _ := quiet.related run
  change invariant _
  rw [same]
  exact before

theorem complete_orderly : Holds (Serving sid) (complete sid) (fun _ => Orderly) := by
  intro start _ next serving run
  have left := yields_complete serving.alive run
  rw [Orderly, left]
  exact serving.toOrderly.leave serving.alive

theorem onPolicy_serving : Within (Conduct.sustaining (Serving sid)) (onPolicy sid) := by
  refine within_relating (fun run serving => ?_)
  obtain ⟨_, noted, notes, sets⟩ := yields_bind.mp run
  have shown := yields_note notes
  have alive : noted.accounts.registry.live sid = true := by
    rw [shown]
    exact serving.alive
  have asked := yields_setConnType alive sets
  rw [shown] at asked
  rw [Serving, asked]
  exact ⟨serving.toOrderly.askPolicy serving.alive, serving.alive⟩

/-- The session that is found for a user is live, and is his. -/
theorem found_alive {proxy : Proxy} (orderly : Orderly proxy) {uid : Int} {found : SessionId}
    (entry : proxy.pool.objmap[uid]? = some found)
    : proxy.accounts.registry.live found = true
      ∧ proxy.accounts.registry.flag found = uid ∧ 0 < uid := by
  have user := (orderly.registered.indexed uid found).mp entry
  rw [Registry.user_eq] at user
  split at user
  · rename_i loggedIn
    obtain rfl := Option.some.inj user
    exact ⟨loggedIn.1, rfl, loggedIn.2⟩
  · cases user

/-- Behind the check for another session of a user, his entry is free for this one. -/
theorem kickOther_serving (uid : Int)
    : Holds (Serving sid) (kickOther sid uid)
        (fun _ proxy => Serving sid proxy
          ∧ (proxy.accounts.registry.users uid = none
            ∨ proxy.accounts.registry.users uid = some sid)) := by
  intro _ _ next serving run
  obtain ⟨_, start, got, rest⟩ := yields_bind.mp run
  obtain ⟨rfl, rfl⟩ := yields_get.mp got
  clear got run
  obtain ⟨_, noted, notes, rest⟩ := yields_bind.mp rest
  have shown := yields_note notes
  have orderly : Orderly noted := by
    rw [Orderly, shown]
    exact serving.toOrderly.shown (fun _ => rfl) (Or.inl rfl)
  have users : noted.accounts.registry.users uid = start.pool.objmap[uid]? := by
    rw [shown]
    rfl
  have alive : noted.accounts.registry.live sid = true := by
    rw [shown]
    exact serving.alive
  cases found : start.pool.objmap[uid]? with
  | none =>
      rw [found] at rest users
      obtain ⟨-, rfl⟩ := yields_pure.mp rest
      exact ⟨⟨orderly, alive⟩, Or.inl users⟩
  | some other =>
      rw [found] at rest users shown
      dsimp only at rest
      split at rest
      · rename_i same
        obtain ⟨-, rfl⟩ := yields_pure.mp rest
        exact ⟨⟨orderly, alive⟩, Or.inr (same ▸ users)⟩
      · rename_i different
        obtain ⟨otherAlive, flag, positive⟩ := found_alive orderly users
        have kicked := yields_kick otherAlive rest
        have disputed : noted.accounts.disputed = true := by
          rw [shown]
          simp [Accounts.shown, Happening.dispute, different]
        have orderly' : Orderly next := by
          rw [Orderly, kicked]
          exact (orderly.spared_leave otherAlive (Or.inl rfl)).shown (fun _ => rfl)
            (Or.inr (Accounts.leave_disputed (Accounts.shown_disputed _ disputed)))
        have registry := kick_registry otherAlive rest
        have alive' : next.accounts.registry.live sid = true := by
          rw [registry, Registry.leave_live_other _ (Ne.symm different)]
          exact alive
        refine ⟨⟨orderly', alive'⟩, Or.inl ?_⟩
        rw [registry, Registry.users_leave, flag, if_pos positive, Function.update_self]

theorem login_serving (reqPacket : NETInputPacket)
    : Within (Conduct.sustaining (Serving sid)) (login sid reqPacket) := by
  have quiet : Frees ∅ (Conduct.sustaining (Serving sid)) := frees_serving (by simp)
  refine Within.bind (reading_within quiet _ _) (fun read => ?_)
  split
  · exact Within.pure _
  · rename_i positive
    refine Holds.within (Holds.bind (kickOther_serving read.1.1) (fun _ => ?_))
    intro start goesOn next kicked run
    obtain ⟨serving, free⟩ := kicked
    obtain ⟨session, used, uses, rest⟩ := yields_bind.mp run
    obtain ⟨rfl, rfl⟩ := yields_useSession serving.alive uses
    split at rest
    · obtain ⟨-, rfl⟩ := yields_pure.mp rest
      exact serving
    · rename_i agrees
      obtain ⟨_, entered, enters, ends⟩ := yields_bind.mp rest
      obtain ⟨-, rfl⟩ := yields_pure.mp ends
      have keyless : used.accounts.registry.uid sid ≤ 0
          ∨ used.accounts.registry.uid sid = read.1.1 := by
        change (used.session sid).webUnit.uid ≤ 0 ∨ (used.session sid).webUnit.uid = read.1.1
        by_contra other
        exact agrees ⟨by omega, by omega⟩
      rw [Serving, yields_enterUser enters]
      refine ⟨serving.toOrderly.enter (by omega) serving.alive free keyless _, ?_⟩
      rw [Accounts.enter, Registry.enter_live]
      exact serving.alive

/-- A broadcast uses live sessions only, as the table of users lists no others. -/
theorem broadcast_serving (packet : List UInt8)
    : Within (Conduct.sustaining (Serving sid)) (broadcast packet) := by
  refine within_relating (fun run serving => ?_)
  obtain ⟨_, start, got, rest⟩ := yields_bind.mp run
  obtain ⟨rfl, rfl⟩ := yields_get.mp got
  clear got run
  let Alive (accounts : Accounts) : Prop :=
    accounts.Serving sid
      ∧ ∀ entry ∈ start.pool.objmap.toList, accounts.registry.live entry.2 = true
  have alive : Alive start.accounts := by
    refine ⟨serving, fun entry inside => ?_⟩
    have found := Std.TreeMap.mem_toList_iff_getElem?_eq_some.mp inside
    exact (found_alive serving.toOrderly found).1
  have client : ∀ listed, Frees {.scratch, .client listed}
      (Conduct.sustaining (fun proxy => Alive proxy.accounts)) :=
    fun listed => frees_accounts (by simp [Part.quiet]) Alive
  have sends : Within (Conduct.sustaining (fun proxy => Alive proxy.accounts))
      (start.pool.objmap.toList.forM (fun entry => sendTo entry.2 packet)) := by
    refine Within.forM (fun entry inside => sendTo_within (client entry.2) ?_ packet)
    refine within_relating (fun run before => ?_)
    obtain ⟨-, rfl⟩ := yields_useSession (before.2 entry inside) run
    exact before
  exact (sends.related rest alive).1

theorem sendToGame_serving
    : Within (Conduct.sustaining (Serving sid)) (sendToLogic (.game sid)) := by
  refine sendToLogic_within (.game sid) (game_uses useSession_serving) ?_ (fun _ _ => ?_)
  · exact frees_serving (by simp [BackendId.route, BackendId.timer, Part.quiet])
  · refine Within.ite (note_within ?_) (Within.pure _)
    exact frees_serving (by simp [Happening.topic, Part.quiet])

theorem handleInputBuf_serving (pData : List UInt8)
    : Within (Conduct.sustaining (Serving sid)) (handleInputBuf sid pData) :=
  handleInputBuf_within useSession_serving (frees_serving (frameParts_quiet sid))
    sendToGame_serving (quietly_sustains nextSvid_quietly (Accounts.Serving sid))
    login_serving broadcast_serving
    (resetHelperUnit_within (frees_serving reloadParts_quiet)) pData

theorem webRead_serving (recv : RecvAnswer)
    : Within (Conduct.sustaining (Serving sid)) (webRead sid recv) :=
  webRead_within useSession_serving (frees_serving (by simp [Part.quiet]))
    (frees_serving (by simp [Part.quiet])) handleInputBuf_serving onPolicy_serving recv

theorem assignsRooms_serving : AssignsRooms (Conduct.sustaining (Serving sid)) sid :=
  assignsRooms_within useSession_serving (frees_serving (by simp [Part.quiet]))

/-- A packet for a live session may complete it. -/
theorem forwardToClient_orderly (cmd : Int) (szTemp : List UInt8) (tempPacket : NETInputPacket)
    : Holds (Serving sid) (forwardToClient sid cmd szTemp tempPacket) (fun _ => Orderly) := by
  have parts : Frees (forwardParts sid) (Conduct.sustaining (Serving sid)) :=
    frees_serving (by simp [forwardParts, Part.quiet])
  have rooms := processRoom_within parts assignsRooms_serving cmd tempPacket
  refine Holds.bind rooms.holds (fun _ => ?_)
  refine Holds.bind useSession_serving.holds (fun decoder => Holds.ite complete_orderly ?_)
  have responds := respond_within sid
    (parts.mono (by simp [forwardParts, Set.insert_subset_iff])) useSession_serving szTemp
  have sends : Within (Conduct.sustaining (Serving sid)) (discard (respond sid szTemp)) :=
    Within.bind responds (fun _ => Within.pure _)
  exact sends.holds.weaken (fun _ => id) (fun _ _ serving => serving.toOrderly)

theorem packetForUser_orderly (uid cmd : Int) (szTemp : List UInt8)
    (tempPacket : NETInputPacket)
    : Within (Conduct.sustaining Orderly) (packetForUser uid cmd szTemp tempPacket) := by
  refine within_relating (fun run orderly => ?_)
  obtain ⟨_, start, got, rest⟩ := yields_bind.mp run
  obtain ⟨rfl, rfl⟩ := yields_get.mp got
  clear got run
  cases entry : start.pool.objmap[uid]? with
  | none =>
      rw [entry] at rest
      have closes := sendClientClose_within (frees_orderly helperParts_quiet)
        (quietly_sustains nextSvid_quietly Accounts.Orderly) uid
      exact closes.related rest orderly
  | some found =>
      rw [entry] at rest
      exact forwardToClient_orderly cmd szTemp tempPacket
        ⟨orderly, (found_alive orderly entry).1⟩ rest

theorem closeUser_orderly (uid : Int)
    : Within (Conduct.sustaining Orderly) (closeUser uid) := by
  refine within_relating (fun run orderly => ?_)
  obtain ⟨_, start, got, rest⟩ := yields_bind.mp run
  obtain ⟨rfl, rfl⟩ := yields_get.mp got
  clear got run
  cases entry : start.pool.objmap[uid]? with
  | none =>
      rw [entry] at rest
      obtain ⟨-, rfl⟩ := yields_pure.mp rest
      exact orderly
  | some found =>
      rw [entry] at rest
      have alive := (found_alive orderly entry).1
      obtain ⟨_, noted, notes, rest⟩ := yields_bind.mp rest
      obtain ⟨_, typed, types, completes⟩ := yields_bind.mp rest
      have shown := yields_note notes
      have noted_live : noted.accounts.registry.live found = true := by
        rw [shown]
        exact alive
      have typed' := yields_setConnType noted_live types
      rw [shown] at typed'
      have typed_live : typed.accounts.registry.live found = true := by
        rw [typed']
        exact alive
      have left := yields_complete typed_live completes
      rw [typed'] at left
      rw [Orderly, left]
      exact orderly.spared_leave alive (Or.inr rfl)

theorem gamePackages_serving
    : Within (Conduct.sustaining (Serving sid)) (gameProcessPkg sid) :=
  gameProcessPkg_within useSession_serving (frees_serving (by simp [Part.quiet]))
    (dismiss_within useSession_serving (frees_serving (by simp [Part.quiet])))
    (dismissTo_within useSession_serving (frees_serving (by simp [Part.quiet])))

theorem helperPackages_orderly (hid : HelperId)
    : Within (Conduct.sustaining Orderly) (helperProcessPkg hid) := by
  have parts : ∀ part ∈ {.levelCounts} ∪ helperParts, part.quiet := by
    simp [helperParts, or_imp, forall_and, Part.quiet]
  exact helperProcessPkg_within (frees_orderly parts) packetForUser_orderly closeUser_orderly hid

/-- The loss of a connection to a game server completes its session. -/
theorem loseGame_orderly : Holds (Serving sid) (lose (.game sid)) (fun _ => Orderly) := by
  have resets := resetHelper_within (.game sid) (game_uses useSession_serving)
    (frees_serving (by simp [BackendId.part, Part.quiet]))
  exact Holds.bind resets.holds (fun _ => complete_orderly)

theorem loseHelper_orderly (hid : HelperId)
    : Within (Conduct.sustaining Orderly) (lose (.helper hid)) :=
  lose_within (.helper hid) nofun
    (frees_orderly (by simp [BackendId.part, Part.quiet])) nofun

/-- A new connection in memory that is not in use. -/
theorem accept_orderly {start next : Proxy} {fd ip : Nat} (orderly : Orderly start)
    (dead : (start.session sid).live = false) (run : Yields (accept sid fd ip) start () next)
    : Orderly next := by
  obtain ⟨_, created, creates, rest⟩ := yields_bind.mp run
  obtain ⟨_, noted, notes, rest⟩ := yields_bind.mp rest
  have come : noted.accounts = start.accounts.come sid := by
    rw [yields_note notes, yields_modify.mp creates, accounts_updateSession rfl rfl]
    rfl
  have serving : Serving sid noted := by
    rw [Serving, come]
    refine ⟨orderly.come dead, ?_⟩
    exact congrArg Prod.fst (Function.update_self sid _ start.accounts.registry.identity)
  have scratch : Frees {.scratch} (Conduct.sustaining (Serving sid)) :=
    frees_serving (by simp [Part.quiet])
  obtain ⟨answers, asked, asks, rest⟩ := yields_bind.mp rest
  obtain ⟨attached, settled, attaches, rest⟩ := yields_bind.mp rest
  have client : Frees {.client sid} (Conduct.sustaining (Serving sid)) :=
    frees_serving (by simp [Part.quiet])
  have attaching := callWeb_within client useSession_serving
    (ClientUnit.steady_attach answers.backend.slot answers.backend.attachCtl)
  have serving := attaching.related attaches ((ask_within scratch).related asks serving)
  split at rest
  · obtain ⟨_, _, _, throws⟩ := yields_bind.mp rest
    exact (not_yields_throw throws).elim
  · have decoder : Frees {.decoder sid} (Conduct.sustaining (Serving sid)) :=
      frees_serving (by simp [Part.quiet])
    have arms := setWebTimer_within useSession_serving decoder true
    exact (arms.related rest serving).toOrderly

end Orderly

-----------------------------------------------------------------------------------------
-- Every reachable state
-----------------------------------------------------------------------------------------

/-- The proxy has no accounts before its first client. -/
theorem idle_orderly {proxy : Proxy} (idle : proxy.Idle) : Orderly proxy := by
  obtain ⟨start, unused, init⟩ := idle
  have parts : ∀ part ∈ initParts, part.quiet := by
    simp [initParts, reloadParts, or_imp, forall_and, Part.quiet]
  refine (initHelperUnit_within (frees_orderly parts)).related init ?_
  have life : ∀ sid, start.accounts.life sid = Life.fresh := by
    intro sid
    change start.life sid = Life.fresh
    rw [Proxy.life, unused.trace]
    rfl
  have dead : ∀ sid, start.accounts.registry.live sid = false := unused.session
  have anonymous : ∀ sid, start.accounts.registry.user sid = none := by
    intro sid
    rw [Registry.user_eq, dead]
    exact if_neg (by simp)
  have users : ∀ uid, start.accounts.registry.users uid = none := by
    intro uid
    change start.pool.objmap[uid]? = none
    rw [unused.objmap]
    exact Std.TreeMap.getElem?_emptyc
  refine ⟨⟨fun uid sid => ?_, fun sid alive => ?_⟩, fun sid => ?_, fun sid alive => ?_, ?_⟩
  · rw [users, anonymous]
    simp
  · rw [dead] at alive
    cases alive
  · have gone : (start.accounts.registry.identity sid).1 = false := dead sid
    rw [life]
    exact ⟨by simp [gone], by simp [gone], by simp [gone], Nat.zero_le _, fun _ => rfl⟩
  · rw [dead] at alive
    cases alive
  · change start.trace.any Happening.misuse = true → _
    rw [unused.trace]
    intro misuse
    cases misuse

section Events

variable {start next : Proxy} {sid : SessionId}

theorem webEvent_orderly {ready : Ready} {recv : RecvAnswer} (serving : Serving sid start)
    (run : Yields (webEvent sid ready recv) start () next)
    : Orderly next :=
  webEvent_holds complete_orderly (fun _ serving => serving.toOrderly) useSession_serving
    (frees_serving (by simp [Part.quiet])) (webRead_serving recv) ready serving run

theorem webTimerNotify_orderly (serving : Serving sid start)
    (run : Yields (webTimerNotify sid) start () next)
    : Orderly next :=
  webTimerNotify_holds complete_orderly useSession_serving
    (frees_serving (by simp [Part.quiet])) serving run

theorem unitParts_quiet (unit : BackendId)
    : ∀ part ∈ ({.scratch, unit.part} : Set Part), part.quiet := by
  cases unit <;> simp [BackendId.part, Part.quiet]

theorem timer_quiet (unit : BackendId) : ∀ part ∈ ({unit.timer} : Set Part), part.quiet := by
  cases unit <;> simp [BackendId.timer, Part.quiet]

theorem helperEvent_orderly {hid : HelperId} {ready : Ready} {recv : RecvAnswer}
    (orderly : Orderly start) (run : Yields (backendEvent (.helper hid) ready recv) start () next)
    : Orderly next :=
  backendEvent_holds (.helper hid) nofun (frees_orderly (unitParts_quiet _))
    (updateTimer_within _ nofun (frees_orderly (timer_quiet _))) (loseHelper_orderly hid).holds
    (fun _ => id) (helperPackages_orderly hid) ready recv orderly run

theorem gameEvent_orderly {ready : Ready} {recv : RecvAnswer} (serving : Serving sid start)
    (run : Yields (backendEvent (.game sid) ready recv) start () next)
    : Orderly next :=
  backendEvent_holds (.game sid) (game_uses useSession_serving)
    (frees_serving (unitParts_quiet _))
    (updateTimer_within _ (game_uses useSession_serving) (frees_serving (timer_quiet _)))
    loseGame_orderly (fun _ serving => serving.toOrderly) gamePackages_serving ready recv serving
    run

theorem helperTimerNotify_orderly {hid : HelperId} (orderly : Orderly start)
    (run : Yields (backendTimerNotify (.helper hid)) start () next)
    : Orderly next :=
  (backendTimerNotify_within (.helper hid) nofun
    (setTimer_within _ (frees_orderly (timer_quiet _)) false)
    (loseHelper_orderly hid)).related run orderly

theorem gameTimerNotify_orderly (serving : Serving sid start)
    (run : Yields (backendTimerNotify (.game sid)) start () next)
    : Orderly next := by
  obtain ⟨_, used, uses, rest⟩ := yields_bind.mp run
  obtain ⟨_, disarmed, disarms, loses⟩ := yields_bind.mp rest
  have timer : Frees {(BackendId.game sid).timer} (Conduct.sustaining (Serving sid)) :=
    frees_serving (timer_quiet _)
  have uses' : Within (Conduct.sustaining (Serving sid)) (useUnit (.game sid)) :=
    useUnit_within (game_uses useSession_serving)
  have disarms' := setTimer_within (.game sid) timer false
  exact loseGame_orderly (disarms'.related disarms (uses'.related uses serving)) loses

theorem sendGetLevelCount_orderly (orderly : Orderly start)
    (run : Yields sendGetLevelCount start () next)
    : Orderly next := by
  have chooses : Within (Conduct.sustaining Orderly) anySvid :=
    anySvid_within (frees_orderly (by simp [Part.quiet])) (fun _ => trivial)
  exact (sendGetLevelCount_within (frees_orderly helperParts_quiet) chooses).related run orderly

/-- Every step keeps the accounts orderly. -/
theorem step_orderly {label : Event × (Nat → Answers)} (orderly : Orderly start)
    (step : Event.Step start label next)
    : Orderly next := by
  obtain ⟨event, world⟩ := label
  obtain ⟨enabled, run⟩ := step
  have same : { start with world := world, asked := 0 }.accounts = start.accounts :=
    Proxy.accounts_eq rfl (fun _ => rfl) (fun _ => rfl) rfl
  have orderly' : Orderly { start with world := world, asked := 0 } := by
    rw [Orderly, same]
    exact orderly
  have serving : ∀ sid, (start.session sid).live = true
      → Serving sid { start with world := world, asked := 0 } :=
    fun sid alive => ⟨orderly', alive⟩
  cases event with
  | accept sid fd ip => exact accept_orderly orderly' enabled run
  | web sid ready recv => exact webEvent_orderly (serving sid enabled.1) run
  | webTimer sid => exact webTimerNotify_orderly (serving sid enabled.1) run
  | backend unit ready recv =>
      cases unit with
      | helper hid => exact helperEvent_orderly orderly' run
      | game sid => exact gameEvent_orderly (serving sid enabled.1) run
  | backendTimer unit =>
      cases unit with
      | helper hid => exact helperTimerNotify_orderly orderly' run
      | game sid => exact gameTimerNotify_orderly (serving sid enabled.1) run
  | levelCountTimer => exact sendGetLevelCount_orderly orderly' run

end Events

/-- The accounts are orderly in every reachable state. -/
theorem reached_orderly {proxy : Proxy} (reached : proxy.Reached) : Orderly proxy :=
  reached.invariant Orderly (fun _ => idle_orderly) (fun _ _ _ => step_orderly)

/-- `m_objmap` and the live sessions that are logged in are each other's mirror. -/
structure Proxy.ListsUsers (proxy : Proxy) : Prop where
  entries
    : ∀ (uid : Int) (sid : SessionId), proxy.pool.objmap[uid]? = some sid
      → (proxy.session sid).live = true ∧ (proxy.session sid).flag = uid
        ∧ (proxy.session sid).webUnit.uid = uid ∧ 0 < uid
  listed
    : ∀ sid, (proxy.session sid).live = true → 0 < (proxy.session sid).flag
      → proxy.pool.objmap[(proxy.session sid).flag]? = some sid
  distinct
    : ∀ sid sid', (proxy.session sid).live = true → (proxy.session sid').live = true
      → 0 < (proxy.session sid).webUnit.uid
      → (proxy.session sid).webUnit.uid = (proxy.session sid').webUnit.uid
      → sid = sid'

/-- In every reachable state `m_objmap` is a bijection between uids and live sessions that are
logged in.
-/
theorem objmap_lists_users {proxy : Proxy} (reached : proxy.Reached) : proxy.ListsUsers := by
  have orderly := reached_orderly reached
  have flagged : ∀ sid, (proxy.session sid).live = true
      → (proxy.session sid).webUnit.uid = (proxy.session sid).flag :=
    orderly.registered.flagged
  have user : ∀ sid, (proxy.session sid).live = true → 0 < (proxy.session sid).flag
      → proxy.registry.user sid = some (proxy.session sid).flag :=
    fun sid alive loggedIn => if_pos ⟨alive, loggedIn⟩
  refine ⟨fun uid sid entry => ?_, fun sid alive loggedIn => ?_, ?_⟩
  · obtain ⟨alive, flag, positive⟩ := found_alive orderly entry
    have flag : (proxy.session sid).flag = uid := flag
    exact ⟨alive, flag, (flagged sid alive).trans flag, positive⟩
  · exact (orderly.registered.indexed _ sid).mpr (user sid alive loggedIn)
  · intro sid sid' alive alive' positive same
    rw [flagged sid alive] at positive same
    rw [flagged sid' alive'] at same
    have holds' := user sid' alive' (same ▸ positive)
    rw [← same] at holds'
    exact orderly.registered.indexed.unique (user sid alive positive) holds'

/-- A second session of user 7 has kicked the first one out. -/
theorem objmap_lists_users_after_kick
    : ∃ proxy : Proxy, proxy.pool.objmap.toList = [(7, 2)] ∧ proxy.ListsUsers := by
  let events : List Event := [
    .accept 1 33 0, .clientFrame 1 (loginFrame 7),
    .accept 2 34 0, .clientFrame 2 (loginFrame 7)
  ]
  obtain ⟨proxy, reached, listed⟩ := Proxy.unused_unused.run (events.map Event.calmly)
    (fun proxy => proxy.pool.objmap.toList = [(7, 2)]) (by decide +kernel)
  exact ⟨proxy, of_decide_eq_true listed, objmap_lists_users reached⟩

end ProxyServer.System
