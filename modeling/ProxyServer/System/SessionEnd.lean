import ProxyServer.System.Parts

/-! The end of a session: `CListener::complete` and the destructors behind it. -/

namespace ProxyServer.System

open Packets ProxyServer.Units
open FaultState Footprint

/-- The packet that tells a helper that a user is gone. -/
def clientClose (uid svid : Int) : NETOutputPacket :=
  OutputPacket.build clientClosePacket do
    let _ ← OutputPacket.writeInt uid
    let _ ← OutputPacket.writeInt svid

/-- The helper that `ProcessUserClose` reports to: the one of the user's table, or the next. -/
def closeSvid (tid : Int) : ProxyM Int :=
  if 0 < tid then pure ((tid >>> 16).tdiv 200) else nextSvid

/-- `ProcessUserClose` behind its check. -/
def sendUserClose (uid tid : Int) : ProxyM Unit := do
  let packet ← plain (clientClose uid (← get).global.svid)
  let svid ← closeSvid tid
  giveToHelperOf svid packet

/-- `ProcessUserClose`. -/
def processUserClose (sid : SessionId) : ProxyM Unit := do
  let decoder ← useSession sid
  if decoder.flag ≤ 0 then
    pure ()
  else do
    note (.userClosed sid decoder.flag)
    sendUserClose decoder.flag decoder.gameUnit.tid

/-- `~CDecoderUnit`: the user's entry is erased, whatever session it names. -/
def forget (flag : Int) : ProxyM Unit :=
  if 0 < flag then
    modify (fun proxy =>
      { proxy with pool := { proxy.pool with objmap := proxy.pool.objmap.erase flag } })
  else
    pure ()

/-- What is left of a session behind its destructors: its units are reset, with their timers.
-/
def Session.destroy (answers : BackendAnswers) (session : Session) : Session :=
  {
    session with
    live := false
    webUnit := session.webUnit.destroy
    gameUnit := session.gameUnit.resetHelper answers
    webTimer := false
    gameTimer := false
  }

/-- `DELETE` of a `CDecoderUnit`. -/
def deleteSession (sid : SessionId) : ProxyM Unit := do
  let decoder ← useSession sid
  note (.deleted sid)
  forget decoder.flag
  let answers ← ask
  modify (Proxy.updateSession sid (Session.destroy answers.backend))

/-- `CListener::complete`. -/
def complete (sid : SessionId) : ProxyM Unit := do
  note (.completed sid)
  let decoder ← useSession sid
  if decoder.connType = .client then do
    processUserClose sid
    deleteSession sid
  else
    deleteSession sid

/-- `set_conn_type`. -/
def setConnType (sid : SessionId) (connType : ConnType) : ProxyM Unit := do
  let _ ← useSession sid
  modify (Proxy.updateSession sid (Session.withConnType connType))

-----------------------------------------------------------------------------------------
-- What the end of a session can change
-----------------------------------------------------------------------------------------

section Within

variable {rules : Conduct Proxy Fault}

theorem forget_within (frees : Frees {.objmap} rules) (flag : Int)
    : Within rules (forget flag) := by
  refine Within.ite (frees.allows.modify rfl (fun proxy part outside => ?_)) (Within.pure _)
  cases part <;> first | rfl | exact absurd rfl outside

theorem closeSvid_within (next : Within rules nextSvid) (tid : Int)
    : Within rules (closeSvid tid) :=
  Within.ite (Within.pure _) next

theorem sendUserClose_within (frees : Frees helperParts rules) (next : Within rules nextSvid)
    (uid tid : Int)
    : Within rules (sendUserClose uid tid) := by
  refine Within.bind Within.get (fun proxy => ?_)
  refine Within.bind (plain_within frees _) (fun packet => ?_)
  refine Within.bind (closeSvid_within next _) (fun svid => ?_)
  exact giveToHelperOf_within frees svid packet

/-- A report is within what it shows of its user and what it does to helpers. -/
theorem processUserClose_within (frees : Frees helperParts rules) (sid : SessionId)
    (uses : Within rules (useSession sid))
    (reports : ∀ uid, Within rules (note (.userClosed sid uid)))
    (next : Within rules nextSvid)
    : Within rules (processUserClose sid) := by
  refine Within.bind uses (fun decoder => ?_)
  refine Within.ite (Within.pure _) ?_
  exact Within.bind (reports _) (fun _ => sendUserClose_within frees next _ _)

/-- Completing is within what it shows, what it does to helpers, and the deletion. -/
theorem complete_within {sid : SessionId} (frees : Frees helperParts rules)
    (notes : Within rules (note (.completed sid)))
    (reports : ∀ uid, Within rules (note (.userClosed sid uid)))
    (uses : Within rules (useSession sid)) (next : Within rules nextSvid)
    (deletes : Within rules (deleteSession sid))
    : Within rules (complete sid) := by
  have closes := processUserClose_within frees sid uses reports next
  refine Within.bind notes (fun _ => ?_)
  refine Within.bind uses (fun decoder => Within.ite ?_ deletes)
  exact Within.bind closes (fun _ => deletes)

theorem setConnType_within (sid : SessionId) (frees : Frees {.connType sid} rules)
    (uses : Within rules (useSession sid)) (connType : ConnType)
    : Within rules (setConnType sid connType) := by
  refine Within.bind uses (fun _ => frees.allows.modify rfl (fun proxy => ?_))
  exact Proxy.confined_session sid (Session.withConnType connType) proxy (Or.inr rfl)
    (Or.inl rfl) (Or.inr rfl) (Or.inr rfl) (Or.inr rfl) (Or.inr rfl)

end Within

/-- A deleted session is not live. -/
theorem deleteSession_ends (sid : SessionId)
    : Holds (fun _ => True) (deleteSession sid)
        (fun _ proxy => (proxy.session sid).live = false) := by
  intro start _ next _ run
  obtain ⟨_, _, _, rest⟩ := yields_bind.mp run
  obtain ⟨_, _, _, rest⟩ := yields_bind.mp rest
  obtain ⟨_, _, _, rest⟩ := yields_bind.mp rest
  obtain ⟨answers, asked, _, deletes⟩ := yields_bind.mp rest
  rw [yields_modify.mp deletes, Proxy.updateSession_same]
  rfl

/-- A completed session is not live. -/
theorem complete_ends (sid : SessionId)
    : Holds (fun _ => True) (complete sid)
        (fun _ proxy => (proxy.session sid).live = false) := by
  intro start _ next _ run
  obtain ⟨_, _, _, rest⟩ := yields_bind.mp run
  obtain ⟨_, _, _, rest⟩ := yields_bind.mp rest
  split at rest
  · obtain ⟨_, _, _, deletes⟩ := yields_bind.mp rest
    exact deleteSession_ends sid trivial deletes
  · exact deleteSession_ends sid trivial rest

end ProxyServer.System
