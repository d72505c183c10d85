import ProxyServer.System.Events

/-! Invariants across events that may end the session they are for. While an event serves its
session more holds than in between: that the session is live, or that a timer runs.
-/

namespace ProxyServer.System

open Packets ProxyServer.Units
open FaultState Footprint

variable {inv served : Proxy → Prop}

-----------------------------------------------------------------------------------------
-- Going on and ending
-----------------------------------------------------------------------------------------

/-- What holds behind a callback: as long as the event goes on, its session is served. -/
def Onward (inv served : Proxy → Prop) (goesOn : Bool) : Proxy → Prop :=
  if goesOn then served else inv

/-- A session that is still served is so however the event goes on. -/
theorem onward_of_served (weaker : ∀ proxy, served proxy → inv proxy) (goesOn : Bool)
    {proxy : Proxy} (serves : served proxy)
    : Onward inv served goesOn proxy := by
  cases goesOn with
  | false => exact weaker proxy serves
  | true => exact serves

theorem whenReady_holds (ready : Bool) {callback : ProxyM Bool}
    (calls : Holds served callback (Onward inv served))
    : Holds served (whenReady ready callback) (Onward inv served) :=
  Holds.ite calls (Holds.pure (fun _ serves => serves))

/-- What follows a callback that lets the event go on. -/
theorem onward_holds {callback : ProxyM Bool} {rest : ProxyM Unit}
    (calls : Holds served callback (Onward inv served))
    (follows : Holds served rest (fun _ => inv))
    : Holds served (do if ← callback then rest) (fun _ => inv) := by
  refine Holds.bind calls (fun goesOn => ?_)
  cases goesOn with
  | false => exact Holds.pure (fun _ ended => ended)
  | true => exact follows

/-- A part of an event that keeps its session served, at the end of the event. -/
theorem last_holds (weaker : ∀ proxy, served proxy → inv proxy) {α : Type}
    {program : ProxyM α} (within : Within (Conduct.sustaining served) program)
    : Holds served program (fun _ => inv) :=
  within.holds.weaken (fun _ => id) (fun _ => weaker)

-----------------------------------------------------------------------------------------
-- Client units
-----------------------------------------------------------------------------------------

section Web

variable {sid : SessionId} (completes : Holds served (complete sid) (fun _ => inv))

section Input

include completes

theorem completeIf_holds (decision : Bool)
    : Holds served (completeIf sid decision) (Onward inv served) := by
  refine Holds.ite ?_ (Holds.pure (fun _ serves => serves))
  exact Holds.bind completes (fun _ => Holds.pure (fun _ ended => ended))

theorem webInputNotify_holds {recv : RecvAnswer}
    (reads : Within (Conduct.sustaining served) (webRead sid recv))
    : Holds served (webInputNotify sid recv) (Onward inv served) :=
  Holds.bind reads.holds (fun decision => completeIf_holds completes decision)

end Input

variable (weaker : ∀ proxy, served proxy → inv proxy)
  (uses : Within (Conduct.sustaining served) (useSession sid))

include completes

section Parts

variable
  (frees : Frees {.scratch, .client sid, .decoder sid} (Conduct.sustaining served))

include weaker uses frees

theorem webOutputNotify_holds
    : Holds served (webOutputNotify sid) (Onward inv served) := by
  have scratch : Frees {.scratch} (Conduct.sustaining served) := frees.mono (by simp)
  have decoder : Frees {.decoder sid} (Conduct.sustaining served) := frees.mono (by simp)
  refine Holds.bind (setWebTimer_within uses decoder true).holds (fun _ => ?_)
  refine Holds.bind (ask_within scratch).holds (fun first => ?_)
  refine Holds.bind (ask_within scratch).holds (fun second => ?_)
  refine Holds.bind (webSend_within uses frees first second).holds (fun decision => ?_)
  have ends : Holds served (discard (completeIf sid decision)) (fun _ => inv) := by
    change Holds served (completeIf sid decision >>= fun _ => pure ()) (fun _ => inv)
    refine Holds.bind (completeIf_holds completes decision) (fun goesOn => ?_)
    cases goesOn with
    | false => exact Holds.pure (fun _ ended => ended)
    | true => exact Holds.pure weaker
  exact Holds.bind ends (fun _ => Holds.pure (fun _ ended => ended))

/-- An event of a client unit, which may complete its session. -/
theorem webEvent_holds {recv : RecvAnswer}
    (reads : Within (Conduct.sustaining served) (webRead sid recv)) (ready : Ready)
    : Holds served (webEvent sid ready recv) (fun _ => inv) := by
  have decoder : Frees {.decoder sid} (Conduct.sustaining served) := frees.mono (by simp)
  refine Holds.bind (beginWeb_within uses frees).holds (fun _ => Holds.ite ?_ ?_)
  · exact Holds.bind (setWebTimer_within uses decoder true).holds (fun _ => completes)
  · apply onward_holds (whenReady_holds _ (webInputNotify_holds completes reads))
    have outputs := webOutputNotify_holds completes weaker uses frees
    exact onward_holds (whenReady_holds _ outputs)
      (last_holds weaker (webApply_within uses frees))

end Parts

include uses in
theorem webTimerNotify_holds (frees : Frees {.decoder sid} (Conduct.sustaining served))
    : Holds served (webTimerNotify sid) (fun _ => inv) :=
  Holds.bind (setWebTimer_within uses frees false).holds (fun _ => completes)

end Web

-----------------------------------------------------------------------------------------
-- Back-end units
-----------------------------------------------------------------------------------------

section Backend

variable (unit : BackendId)
  (uses
    : ∀ sid, unit = .game sid → Within (Conduct.sustaining served) (useSession sid))
  (frees : Frees {.scratch, unit.part} (Conduct.sustaining served))
  (arms : Within (Conduct.sustaining served) (updateTimer unit))
  (loses : Holds served (lose unit) (fun _ => inv))
  (weaker : ∀ proxy, served proxy → inv proxy)

include uses frees arms loses weaker

theorem backendOutputNotify_holds
    : Holds served (backendOutputNotify unit) (Onward inv served) := by
  have scratch : Frees {.scratch} (Conduct.sustaining served) := frees.mono (by simp)
  have goesOn : Holds served
      (do pure ((← get : Proxy).backend unit).poller.attached : ProxyM Bool)
      (Onward inv served) := by
    refine Holds.bind Within.get.holds (fun proxy => ?_)
    exact Holds.pure (fun _ serves => onward_of_served weaker _ serves)
  refine Holds.bind arms.holds (fun _ => ?_)
  refine Holds.bind (ask_within scratch).holds (fun answers => ?_)
  refine Holds.bind (backendSend_within unit uses frees answers.backend).holds (fun ret => ?_)
  cases unit with
  | helper hid => exact goesOn
  | game sid =>
      refine Holds.ite ?_ goesOn
      exact Holds.bind loses (fun _ => Holds.pure (fun _ ended => ended))

variable (packages : Within (Conduct.sustaining served) (processPkgOf unit))

include packages

theorem backendInputNotify_holds (recv : RecvAnswer)
    : Holds served (backendInputNotify unit recv) (Onward inv served) := by
  have scratch : Frees {.scratch} (Conduct.sustaining served) := frees.mono (by simp)
  refine Holds.bind arms.holds (fun _ => ?_)
  refine Holds.bind (processRecv_within unit frees packages recv).holds (fun processed => ?_)
  refine Holds.bind (backendReceive_within unit uses frees recv processed).holds ?_
  refine fun ret => Holds.ite ?_ ?_
  · exact Holds.bind loses (fun _ => Holds.pure (fun _ ended => ended))
  · refine Holds.bind (ask_within scratch).holds (fun answers => ?_)
    refine Holds.bind Within.get.holds (fun proxy => ?_)
    exact Holds.pure (fun _ serves => onward_of_served weaker _ serves)

/-- An event of a back-end unit, which may lose its connection. -/
theorem backendEvent_holds (ready : Ready) (recv : RecvAnswer)
    : Holds served (backendEvent unit ready recv) (fun _ => inv) := by
  refine Holds.bind (beginBackend_within unit uses frees).holds (fun _ => Holds.ite ?_ ?_)
  · refine Holds.bind arms.holds (fun _ => ?_)
    have drops : Within (Conduct.sustaining served) (discard (processPkgOf unit)) :=
      Within.bind packages (fun _ => Within.pure _)
    exact Holds.bind drops.holds (fun _ => loses)
  · have reads := backendInputNotify_holds unit uses frees arms loses weaker packages recv
    have sends := backendOutputNotify_holds unit uses frees arms loses weaker
    apply onward_holds (whenReady_holds _ reads)
    exact onward_holds (whenReady_holds _ sends)
      (last_holds weaker (backendApply_within unit uses frees))

end Backend

-----------------------------------------------------------------------------------------
-- Every event
-----------------------------------------------------------------------------------------

/-- A part that is changed in passing. The others are changed by few operations: those that
begin and end sessions and enter users, reading from clients, those on the way to a game server,
and reloads.
-/
def Part.common : Part → Prop
  | .identity _ | .received _ | .gameTimer _ | .room _ | .retired _ | .routing | .world
  | .noted (.arrival _)
  | .noted (.room _) => False
  | _ => True

theorem helperParts_common : ∀ part ∈ helperParts, part.common := by
  rintro part ((rfl | ⟨hid, rfl⟩) | ⟨hid, rfl⟩)
  all_goals exact trivial

/-- As `Part.common`, apart from what is shown of users. -/
def Part.impersonal : Part → Prop
  | .noted (.user _) => False
  | part => part.common

theorem helperParts_impersonal : ∀ part ∈ helperParts, part.impersonal := by
  rintro part ((rfl | ⟨hid, rfl⟩) | ⟨hid, rfl⟩)
  all_goals exact trivial

theorem frameParts_impersonal (sid : SessionId) : ∀ part ∈ frameParts sid, part.impersonal := by
  rintro part (own | helper)
  · rcases own with rfl | rfl | rfl | rfl | rfl | rfl | rfl
    all_goals exact trivial
  · exact helperParts_impersonal part helper

/-- What a conduct must grant for the events of client units and helper units: a login as a
whole, and what else is shown of users.
-/
structure Grants (rules : Conduct Proxy Fault) : Prop where
  frees : Frees {part | part.impersonal} rules
  notes
    : ∀ (happening : Happening) (sid : SessionId), happening.topic = .user sid
      → (∀ uid, happening ≠ .loggedIn sid uid) → Within rules (note happening)
  next : Within rules nextSvid
  reloads : Within rules resetHelperUnit
  deletes : ∀ sid, Within rules (deleteSession sid)
  logins : ∀ sid reqPacket, Within rules (login sid reqPacket)
  sends : ∀ sid, Within rules (sendToLogic (.game sid))
  assigns : ∀ sid, AssignsRooms rules sid

namespace Grants

variable {rules : Conduct Proxy Fault} (grants : Grants rules)

include grants

theorem free {parts : Set Part} (impersonal : ∀ part ∈ parts, part.impersonal)
    : Frees parts rules :=
  grants.frees.mono impersonal

/-- A part that is changed in passing may be changed. -/
theorem one (part : Part) (impersonal : part.impersonal) : Frees {part} rules :=
  grants.free (by rintro _ ⟨⟩; exact impersonal)

theorem uses (sid : SessionId) : Within rules (useSession sid) :=
  useSession_within sid (grants.one _ trivial)

theorem helpers : Frees helperParts rules :=
  grants.free helperParts_impersonal

theorem completes (sid : SessionId) : Within rules (complete sid) :=
  complete_within grants.helpers (grants.notes _ sid rfl nofun)
    (fun _ => grants.notes _ sid rfl nofun) (grants.uses sid) grants.next (grants.deletes sid)

theorem frames (sid : SessionId) (pData : List UInt8)
    : Within rules (handleInputBuf sid pData) := by
  have clients : Frees broadcastParts rules := by
    apply grants.free
    rintro part (rfl | ⟨client, rfl⟩)
    all_goals exact trivial
  exact handleInputBuf_within (grants.uses sid) (grants.free (frameParts_impersonal sid))
    (grants.sends sid) grants.next (grants.logins sid) (broadcast_within clients grants.uses)
    grants.reloads pData

theorem client (sid : SessionId) : Frees {.scratch, .client sid, .decoder sid} rules := by
  apply grants.free
  rintro part (rfl | rfl | rfl)
  all_goals exact trivial

theorem reads {sid : SessionId} (receives : Frees {.received sid} rules) (recv : RecvAnswer)
    : Within rules (webRead sid recv) := by
  have policies : Frees {.connType sid, .noted (.policy sid)} rules := by
    apply grants.free
    rintro part (rfl | rfl)
    all_goals exact trivial
  exact webRead_within (grants.uses sid) (grants.client sid) receives (grants.frames sid)
    (onPolicy_within (grants.uses sid) policies) recv

theorem inputs {sid : SessionId} (receives : Frees {.received sid} rules) (recv : RecvAnswer)
    : Within rules (webInputNotify sid recv) :=
  Within.bind (grants.reads receives recv)
    (fun decision => completeIf_within (grants.completes sid) decision)

/-- An event of a client unit, if what it reads is within the conduct. -/
theorem webEvent {sid : SessionId} {recv : RecvAnswer}
    (inputs : Within rules (webInputNotify sid recv)) (ready : Ready)
    : Within rules (webEvent sid ready recv) :=
  webEvent_within (grants.uses sid) (grants.client sid) recv inputs (grants.completes sid) ready

theorem webTimerNotify (sid : SessionId) : Within rules (webTimerNotify sid) :=
  webTimerNotify_within (grants.uses sid) (grants.one _ trivial) (grants.completes sid)

theorem packets (uid cmd : Int) (szTemp : List UInt8) (tempPacket : NETInputPacket)
    : Within rules (packetForUser uid cmd szTemp tempPacket) := by
  have parts : ∀ sid, Frees (forwardParts sid) rules := by
    intro sid
    apply grants.free
    rintro part (rfl | rfl | rfl)
    all_goals exact trivial
  have forwards : ∀ sid cmd szTemp tempPacket,
      Within rules (forwardToClient sid cmd szTemp tempPacket) :=
    fun sid => forwardToClient_within (grants.uses sid) (parts sid) (grants.assigns sid)
      (grants.completes sid)
  exact packetForUser_within grants.helpers grants.next forwards uid cmd szTemp tempPacket

theorem closes (uid : Int) : Within rules (closeUser uid) :=
  closeUser_within (fun sid => grants.one (.connType sid) trivial)
    (fun sid => grants.notes _ sid rfl nofun) grants.uses grants.completes uid

theorem obey (order : HelperOrder) : Within rules (obey order) :=
  obey_within (grants.one .levelCounts trivial) grants.packets grants.closes order

theorem helperPackages (hid : HelperId) : Within rules (helperProcessPkg hid) := by
  have parts : Frees ({.levelCounts} ∪ helperParts) rules := by
    apply grants.free
    rintro part (rfl | helper)
    · exact trivial
    · exact helperParts_impersonal part helper
  exact helperProcessPkg_within parts grants.packets grants.closes hid

/-- The scratch space and a back-end unit on its way may be changed. -/
theorem unit (unit : BackendId) : Frees {.scratch, unit.part} rules := by
  apply grants.free
  cases unit
  all_goals
    rintro part (rfl | rfl)
    all_goals exact trivial

theorem loseHelper (hid : HelperId) : Within rules (lose (.helper hid)) :=
  lose_within (.helper hid) nofun (grants.unit _) nofun

theorem helperEvent (hid : HelperId) (ready : Ready) (recv : RecvAnswer)
    : Within rules (backendEvent (.helper hid) ready recv) :=
  backendEvent_within (.helper hid) nofun (grants.unit _)
    (updateTimer_within _ nofun (grants.one (.helper hid) trivial)) (grants.loseHelper hid)
    (grants.helperPackages hid) ready recv

theorem helperTimerNotify (hid : HelperId)
    : Within rules (backendTimerNotify (.helper hid)) :=
  backendTimerNotify_within (.helper hid) nofun
    (setTimer_within (.helper hid) (grants.one _ trivial) false) (grants.loseHelper hid)

theorem levelCountTimer (any : Within rules anySvid) : Within rules sendGetLevelCount :=
  sendGetLevelCount_within grants.helpers any

/-- The loss of a game connection completes its session. -/
theorem loseGame (sid : SessionId) : Within rules (lose (.game sid)) := by
  refine lose_within (.game sid) (game_uses (grants.uses sid)) (grants.unit _) ?_
  rintro _ ⟨⟩
  exact grants.completes sid

theorem gamePackages {sid : SessionId} (dismisses : Within rules (dismiss sid))
    (moves : ∀ ip port, Within rules (dismissTo sid ip port))
    : Within rules (gameProcessPkg sid) := by
  refine gameProcessPkg_within (grants.uses sid) (grants.free ?_) dismisses moves
  rintro part (rfl | rfl | rfl)
  all_goals exact trivial

theorem gameEvent {sid : SessionId} (arms : Within rules (updateTimer (.game sid)))
    (dismisses : Within rules (dismiss sid))
    (moves : ∀ ip port, Within rules (dismissTo sid ip port)) (ready : Ready)
    (recv : RecvAnswer)
    : Within rules (backendEvent (.game sid) ready recv) :=
  backendEvent_within (.game sid) (game_uses (grants.uses sid)) (grants.unit _) arms
    (grants.loseGame sid) (grants.gamePackages dismisses moves) ready recv

end Grants

/-- What a conduct must grant for every event, if game units are not special to it. -/
structure GrantsAll (rules : Conduct Proxy Fault) : Prop extends Grants rules where
  rooms : ∀ sid, Frees {.gameTimer sid, .room sid, .noted (.room sid)} rules
  any : Within rules anySvid
  accepts : ∀ sid fd ip, Within rules (accept sid fd ip)

namespace GrantsAll

variable {rules : Conduct Proxy Fault} (grants : GrantsAll rules)

include grants

theorem gameEvent (sid : SessionId) (ready : Ready) (recv : RecvAnswer)
    : Within rules (backendEvent (.game sid) ready recv) := by
  have uses := grants.uses sid
  have rooms := grants.rooms sid
  have arms : Within rules (updateTimer (.game sid)) :=
    updateTimer_within _ (game_uses uses) (rooms.mono (by rintro _ ⟨⟩; exact Or.inl rfl))
  have parts : Frees {.scratch, .game sid, .room sid, .noted (.room sid)} rules := by
    refine ⟨fun part inside => ?_, grants.frees.memory, grants.frees.endless⟩
    rcases inside with rfl | rfl | other
    · exact grants.frees.allows _ trivial
    · exact grants.frees.allows _ trivial
    · exact rooms.allows part (Or.inr other)
  have dismisses := dismiss_within uses (parts.mono (by
    rintro part (rfl | rfl | rfl)
    all_goals simp))
  exact grants.toGrants.gameEvent arms dismisses (dismissTo_within uses parts) ready recv

theorem gameTimerNotify (sid : SessionId)
    : Within rules (backendTimerNotify (.game sid)) := by
  have timer : Frees {(BackendId.game sid).timer} rules :=
    (grants.rooms sid).mono (by rintro _ ⟨⟩; exact Or.inl rfl)
  exact backendTimerNotify_within (.game sid) (game_uses (grants.uses sid))
    (setTimer_within (.game sid) timer false) (grants.loseGame sid)

/-- Every event is within the conduct, if what it reads from a client is. -/
theorem perform {event : Event}
    (inputs
      : ∀ sid ready recv, event = .web sid ready recv → Within rules (webInputNotify sid recv))
    : Within rules event.perform := by
  cases event with
  | accept sid fd ip => exact grants.accepts sid fd ip
  | web sid ready recv => exact grants.webEvent (inputs sid ready recv rfl) ready
  | webTimer sid => exact grants.webTimerNotify sid
  | backend unit ready recv =>
      cases unit with
      | helper hid => exact grants.helperEvent hid ready recv
      | game sid => exact grants.gameEvent sid ready recv
  | backendTimer unit =>
      cases unit with
      | helper hid => exact grants.helperTimerNotify hid
      | game sid => exact grants.gameTimerNotify sid
  | levelCountTimer => exact grants.levelCountTimer grants.any

end GrantsAll

/-- What a conduct must permit for the events of client units and helper units, if a login is
not special to it.
-/
structure Permits (rules : Conduct Proxy Fault) : Prop where
  frees : Frees {part | part.common} rules
  next : Within rules nextSvid
  reloads : Within rules resetHelperUnit
  deletes : ∀ sid, Within rules (deleteSession sid)
  enters : ∀ sid uid api, Within rules (enterUser sid uid api)
  sends : ∀ sid, Within rules (sendToLogic (.game sid))
  assigns : ∀ sid, AssignsRooms rules sid

/-- A conduct that permits any login grants those that happen. -/
theorem Permits.grants {rules : Conduct Proxy Fault} (permits : Permits rules)
    : Grants rules := by
  have one : ∀ part : Part, part.common → Frees {part} rules :=
    fun part common => permits.frees.mono (by rintro _ ⟨⟩; exact common)
  have uses : ∀ sid, Within rules (useSession sid) :=
    fun sid => useSession_within sid (one _ trivial)
  have notes : ∀ (happening : Happening) (sid : SessionId), happening.topic = .user sid
      → Within rules (note happening) := by
    intro happening sid about
    exact note_within (one _ (by rw [about]; exact trivial))
  have helpers : Frees helperParts rules := permits.frees.mono helperParts_common
  have completes : ∀ sid, Within rules (complete sid) :=
    fun sid => complete_within helpers (notes _ sid rfl) (fun _ => notes _ sid rfl) (uses sid)
      permits.next (permits.deletes sid)
  have kicks : ∀ sid, Within rules (kick sid) := by
    intro sid
    have parts : Frees {.scratch, .client sid, .connType sid} rules := by
      apply permits.frees.mono
      rintro part (rfl | rfl | rfl)
      all_goals exact trivial
    exact kick_within parts (notes _ sid rfl) (uses sid) (completes sid)
  exact {
    frees := permits.frees.mono (fun part impersonal => by
      cases part with
      | noted topic =>
          cases topic <;> first | exact impersonal | exact trivial
      | _ => exact impersonal)
    notes := fun happening sid about _ => notes happening sid about
    next := permits.next
    reloads := permits.reloads
    deletes := permits.deletes
    logins := fun sid => login_within helpers (fun _ _ => notes _ sid rfl) (uses sid) kicks
      (permits.enters sid)
    sends := permits.sends
    assigns := permits.assigns
  }

/-- What a conduct must permit for every event, if game units are not special to it. -/
structure PermitsAll (rules : Conduct Proxy Fault) : Prop extends Permits rules where
  receives : ∀ sid, Frees {.received sid} rules
  rooms : ∀ sid, Frees {.gameTimer sid, .room sid, .noted (.room sid)} rules
  any : Within rules anySvid
  accepts : ∀ sid fd ip, Within rules (accept sid fd ip)

theorem PermitsAll.grantsAll {rules : Conduct Proxy Fault} (permits : PermitsAll rules)
    : GrantsAll rules where
  toGrants := permits.toPermits.grants
  rooms := permits.rooms
  any := permits.any
  accepts := permits.accepts

/-- Every event is within the conduct. -/
theorem PermitsAll.perform {rules : Conduct Proxy Fault} (permits : PermitsAll rules)
    (event : Event)
    : Within rules event.perform :=
  permits.grantsAll.perform
    (fun sid _ recv _ => permits.grants.inputs (permits.receives sid) recv)

-----------------------------------------------------------------------------------------
-- Conducts about the tables of helpers
-----------------------------------------------------------------------------------------

/-- A conduct that looks at nothing but the tables of helpers, which helper units are live and
the answers from outside.
-/
structure LooksAtHelpers (rules : Conduct Proxy Fault) : Prop where
  helpers
    : ∀ start next : Proxy, next.view .routing = start.view .routing
      → next.world = start.world
      → (∀ hid, (start.helper hid).live = true → (next.helper hid).live = true)
      → rules.related start next
  memory : ∀ proxy, rules.tolerates proxy .memory
  endless : ∀ proxy, rules.tolerates proxy .endless

namespace LooksAtHelpers

variable {rules : Conduct Proxy Fault} (looks : LooksAtHelpers rules)

include looks

theorem frees {parts : Set Part}
    (apart : ∀ part ∈ parts, part ≠ .routing ∧ part ≠ .world ∧ ∀ hid, part ≠ .retired hid)
    : Frees parts rules := by
  refine ⟨fun part inside start next changes => ?_, looks.memory, looks.endless⟩
  obtain ⟨routing, world, retired⟩ := apart part inside
  have outside : .routing ∉ part.seen ∧ .world ∉ part.seen := by
    cases part with
    | routing => exact (routing rfl).elim
    | world => exact (world rfl).elim
    | _ => simp [Part.seen]
  refine looks.helpers start next (changes.unchanged .routing outside.1)
    (changes.unchanged .world outside.2) (fun hid live => ?_)
  by_cases own : part = .helper hid
  · subst own
    exact changes.2 live
  · have other : .helper hid ∉ part.seen := by
      cases part with
      | helper hid' => exact fun same => own same.symm
      | retired hid' => exact (retired hid' rfl).elim
      | _ => simp [Part.seen]
    have same : next.helper hid = start.helper hid := changes.unchanged (.helper hid) other
    rw [same]
    exact live

theorem modify {update : Proxy → Proxy}
    (tables : ∀ proxy, (update proxy).view .routing = proxy.view .routing)
    (world : ∀ proxy, (update proxy).world = proxy.world)
    (helper : ∀ proxy, (update proxy).helper = proxy.helper)
    : Within rules (modify update : ProxyM Unit) :=
  Within.modify (fun proxy =>
    looks.helpers proxy _ (tables proxy) (world proxy) (fun hid => by rw [helper]; exact id))

theorem deletes (sid : SessionId) : Within rules (deleteSession sid) := by
  have parts : Frees {.scratch, .objmap, .noted (.misuse sid), .noted (.user sid)} rules := by
    apply looks.frees
    rintro part (rfl | rfl | rfl | rfl)
    all_goals exact ⟨nofun, nofun, nofun⟩
  refine Within.bind (useSession_within sid (parts.mono (by simp))) (fun decoder => ?_)
  refine Within.bind (note_within (parts.mono (by simp [Happening.topic]))) (fun _ => ?_)
  refine Within.bind (forget_within (parts.mono (by simp)) _) (fun _ => ?_)
  refine Within.bind (ask_within (parts.mono (by simp))) (fun answers => ?_)
  exact looks.modify (fun _ => rfl) (fun _ => rfl) (fun _ => rfl)

theorem accepts (sid : SessionId) (fd ip : Nat) : Within rules (accept sid fd ip) := by
  have parts : Frees {.scratch, .client sid, .decoder sid, .noted (.misuse sid),
      .noted (.arrival sid)} rules := by
    apply looks.frees
    rintro part (rfl | rfl | rfl | rfl | rfl)
    all_goals exact ⟨nofun, nofun, nofun⟩
  have uses := useSession_within sid (parts.mono (by simp))
  have client : Frees {.client sid} rules := parts.mono (by simp)
  refine Within.bind (looks.modify (fun _ => rfl) (fun _ => rfl) (fun _ => rfl)) (fun _ => ?_)
  refine Within.bind (note_within (parts.mono (by simp [Happening.topic]))) (fun _ => ?_)
  refine Within.bind (ask_within (parts.mono (by simp))) (fun answers => ?_)
  refine Within.bind (callWeb_within client uses (ClientUnit.steady_attach _ _)) ?_
  intro attached
  refine Within.ite ?_ (setWebTimer_within uses (parts.mono (by simp)) true)
  exact Within.bind (looks.deletes sid) (fun _ => Within.throw looks.memory)

/-- Such a conduct permits everything if it permits choices of servers and reloads. -/
theorem permits (next : Within rules nextSvid) (any : Within rules anySvid)
    (reloads : Within rules resetHelperUnit)
    : PermitsAll rules := by
  have rooms : ∀ sid, Frees {.scratch, .gameTimer sid, .game sid, .room sid,
      .noted (.misuse sid), .noted (.room sid)} rules := by
    intro sid
    apply looks.frees
    rintro part (rfl | rfl | rfl | rfl | rfl | rfl)
    all_goals exact ⟨nofun, nofun, nofun⟩
  have uses : ∀ sid, Within rules (useSession sid) :=
    fun sid => useSession_within sid ((rooms sid).mono (by simp))
  refine {
    frees := looks.frees (fun part common => ?_)
    next := next
    any := any
    reloads := reloads
    receives := fun sid => looks.frees (by simp)
    deletes := looks.deletes
    accepts := looks.accepts
    rooms := fun sid => (rooms sid).mono (by simp [Set.insert_subset_iff])
    enters := fun sid uid api => ?_
    sends := fun sid => ?_
    assigns := fun sid => ?_
  }
  · refine ⟨?_, ?_, fun hid => ?_⟩
    all_goals
      rintro rfl
      exact common
  · have user : Frees {.noted (.user sid)} rules := looks.frees (by simp)
    refine Within.bind (note_within user) (fun _ => ?_)
    exact looks.modify (fun _ => rfl) (fun _ => rfl) (fun _ => rfl)
  · have parts : Frees {.scratch, .room sid, .gameTimer sid} rules :=
      (rooms sid).mono (by simp [Set.insert_subset_iff])
    refine sendToLogic_within (.game sid) (game_uses (uses sid)) parts (fun _ _ => ?_)
    exact Within.ite (note_within ((rooms sid).mono (by simp [Happening.topic])))
      (Within.pure _)
  · exact assignsRooms_within (uses sid) ((rooms sid).mono (by simp [Set.insert_subset_iff]))

end LooksAtHelpers

/-- A conduct that looks at nothing but the tables of helpers and the answers from outside. -/
structure LooksAtTables (rules : Conduct Proxy Fault) : Prop where
  tables
    : ∀ start next : Proxy, next.view .routing = start.view .routing
      → next.world = start.world → rules.related start next
  memory : ∀ proxy, rules.tolerates proxy .memory
  endless : ∀ proxy, rules.tolerates proxy .endless

namespace LooksAtTables

variable {rules : Conduct Proxy Fault} (looks : LooksAtTables rules)

include looks

theorem frees {parts : Set Part} (apart : ∀ part ∈ parts, part ≠ .routing ∧ part ≠ .world)
    : Frees parts rules := by
  refine ⟨fun part inside start next changes => ?_, looks.memory, looks.endless⟩
  obtain ⟨routing, world⟩ := apart part inside
  have outside : .routing ∉ part.seen ∧ .world ∉ part.seen := by
    cases part with
    | routing => exact (routing rfl).elim
    | world => exact (world rfl).elim
    | _ => simp [Part.seen]
  exact looks.tables start next (changes.unchanged .routing outside.1)
    (changes.unchanged .world outside.2)

theorem modify {update : Proxy → Proxy}
    (tables : ∀ proxy, (update proxy).view .routing = proxy.view .routing)
    (world : ∀ proxy, (update proxy).world = proxy.world)
    : Within rules (modify update : ProxyM Unit) :=
  Within.modify (fun proxy => looks.tables proxy _ (tables proxy) (world proxy))

theorem helpers : LooksAtHelpers rules :=
  ⟨fun start next tables world _ => looks.tables start next tables world, looks.memory,
    looks.endless⟩

theorem permits (next : Within rules nextSvid) (any : Within rules anySvid)
    (reloads : Within rules resetHelperUnit)
    : PermitsAll rules :=
  looks.helpers.permits next any reloads

end LooksAtTables

end ProxyServer.System
