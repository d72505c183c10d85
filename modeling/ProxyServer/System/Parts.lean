import ProxyServer.Library.Footprint
import ProxyServer.System.Proxy

/-! The parts of the proxy's state that handlers change one at a time, and what the basic
operations change.
-/

namespace ProxyServer.System

open Packets ProxyServer.Units
open FaultState Footprint

-----------------------------------------------------------------------------------------
-- Parts
-----------------------------------------------------------------------------------------

/-- What a happening is about. -/
inductive Topic
  | arrival (sid : SessionId)
  | frame (sid : SessionId)
  | policy (sid : SessionId)
  | user (sid : SessionId)
  | link (unit : BackendId)
  | room (sid : SessionId)
  | misuse (sid : SessionId)

def Happening.topic : Happening → Topic
  | .accepted sid => .arrival sid
  | .loggingIn sid _ _ | .loggedIn sid _ | .kicked sid | .closedByServer sid
  | .completed sid | .userClosed sid _ | .deleted sid => .user sid
  | .handled sid _ => .frame sid
  | .policyAsked sid => .policy sid
  | .appended unit _ => .link unit
  | .connected sid _ _ | .dismissed sid | .assigned sid _ => .room sid
  | .usedDeleted sid => .misuse sid

/-- The parts of the state. `identity` is who a session belongs to and whether it is live,
`decoder` the rest of its `CDecoderUnit` with the client unit's timer; `client` are changes of a
client unit that keep or clear what it has received, `received` are the others; `game` are
changes of a game unit that leave its way to a server alone, `room` are the others; `helper` are
changes of a helper unit that do not delete it, `retired` are the others. `routing` are the
tables of helpers, `directory` the addresses of game servers, `scratch` is what no object holds,
`world` what the outside answers, and `noted` what is shown about a topic.
-/
inductive Part
  | objmap
  | identity (sid : SessionId)
  | connType (sid : SessionId)
  | decoder (sid : SessionId)
  | gameTimer (sid : SessionId)
  | client (sid : SessionId)
  | received (sid : SessionId)
  | game (sid : SessionId)
  | room (sid : SessionId)
  | helper (hid : HelperId)
  | retired (hid : HelperId)
  | routing
  | directory
  | levelCounts
  | settings
  | loopNum
  | scratch
  | world
  | noted (topic : Topic)

namespace Part

/-- What is seen of a part. -/
def Val : Part → Type
  | .objmap => Std.TreeMap Int SessionId
  | .identity _ => Bool × Int × Int × Int
  | .connType _ => ConnType
  | .decoder _ => Nat × Nat × Bool
  | .gameTimer _ => Bool
  | .client _ => ClientUnit
  | .received _ => Unit
  | .game _ => BackendUnit
  | .room _ => Unit
  | .helper _ => Helper
  | .retired _ => Unit
  | .routing =>
      Std.TreeMap Int HelperId × List Int × List Int × Std.TreeMap Int (List Int) × List Int
        × Nat
  | .directory => List UInt8 → Option (List UInt8)
  | .levelCounts => Std.TreeMap Int Int
  | .settings => List UInt8 × Int × Int × Int
  | .loopNum => Int
  | .scratch => Nat × NETInputPacket
  | .world => Nat → Answers
  | .noted _ => List Happening

/-- The parts in which a change is seen; happenings are all seen in the one trace. -/
def seen : Part → Set Part
  | .received sid => {.client sid}
  | .room sid => {.game sid}
  | .retired hid => {.helper hid}
  | .noted _ => Set.range Part.noted
  | part => {part}

end Part

namespace Session

def identity (session : Session) : Bool × Int × Int × Int :=
  (session.live, session.flag, session.webUnit.uid, session.webUnit.api)

def decoder (session : Session) : Nat × Nat × Bool :=
  (session.netfd, session.ip, session.webTimer)

end Session

namespace Proxy

/-- The state seen through a part. -/
def view : (part : Part) → Proxy → part.Val
  | .objmap, proxy => proxy.pool.objmap
  | .identity sid, proxy => (proxy.session sid).identity
  | .connType sid, proxy => (proxy.session sid).connType
  | .decoder sid, proxy => (proxy.session sid).decoder
  | .gameTimer sid, proxy => (proxy.session sid).gameTimer
  | .client sid, proxy => (proxy.session sid).webUnit
  | .received _, _ => ()
  | .game sid, proxy => (proxy.session sid).gameUnit
  | .room _, _ => ()
  | .helper hid, proxy => proxy.helper hid
  | .retired _, _ => ()
  | .routing, proxy =>
      (proxy.pool.helpermap, proxy.pool.svidlist, proxy.pool.cmdlist, proxy.pool.levelmap,
        proxy.pool.whitelist, proxy.helperCount)
  | .directory, proxy => proxy.pool.ipmap
  | .levelCounts, proxy => proxy.pool.levelCountMap
  | .settings, proxy =>
      (proxy.global.key, proxy.global.svid, proxy.global.timerConnect,
        proxy.global.debugLogSwitch)
  | .loopNum, proxy => proxy.global.loopNum
  | .scratch, proxy => (proxy.asked, proxy.tranPacket)
  | .world, proxy => proxy.world
  | .noted _, proxy => proxy.trace

/-- A single change of a part: nothing else looks different, or one happening is added. -/
def Changes : Part → Proxy → Proxy → Prop
  | .noted topic, start, next =>
      ∃ happening, happening.topic = topic ∧ next = start.record happening
  | .client sid, start, next =>
      Unchanged view {.client sid} start next
        ∧ ((next.session sid).webUnit.r = (start.session sid).webUnit.r
          ∨ (next.session sid).webUnit.r = [])
  | .received sid, start, next => Unchanged view {.client sid} start next
  | .game sid, start, next =>
      Unchanged view {.game sid} start next
        ∧ (start.session sid).gameUnit.Steady (next.session sid).gameUnit
  | .room sid, start, next => Unchanged view {.game sid} start next
  | .helper hid, start, next =>
      Unchanged view {.helper hid} start next
        ∧ ((start.helper hid).live = true → (next.helper hid).live = true)
  | .retired hid, start, next => Unchanged view {.helper hid} start next
  | part, start, next => Unchanged view {part} start next

/-- A change is not seen where its part is not. -/
theorem Changes.unchanged {part : Part} {start next : Proxy}
    (changes : Changes part start next)
    : Unchanged view part.seen start next := by
  cases part with
  | noted topic =>
      obtain ⟨happening, -, rfl⟩ := changes
      intro other outside
      cases other with
      | noted topic' => exact (outside ⟨topic', rfl⟩).elim
      | _ => rfl
  | client sid => exact changes.1
  | game sid => exact changes.1
  | helper hid => exact changes.1
  | _ => exact changes

/-- A change of a session that is seen in at most one part. -/
theorem confined_session {part : Part} (sid : SessionId) (change : Session → Session)
    (proxy : Proxy)
    (identity
      : .identity sid = part
        ∨ (change (proxy.session sid)).identity = (proxy.session sid).identity)
    (connType
      : .connType sid = part
        ∨ (change (proxy.session sid)).connType = (proxy.session sid).connType)
    (decoder
      : .decoder sid = part
        ∨ (change (proxy.session sid)).decoder = (proxy.session sid).decoder)
    (gameTimer
      : .gameTimer sid = part
        ∨ (change (proxy.session sid)).gameTimer = (proxy.session sid).gameTimer)
    (client
      : .client sid = part
        ∨ (change (proxy.session sid)).webUnit = (proxy.session sid).webUnit)
    (game
      : .game sid = part
        ∨ (change (proxy.session sid)).gameUnit = (proxy.session sid).gameUnit)
    : Unchanged view {part} proxy (proxy.updateSession sid change) := by
  intro other outside
  rw [Set.mem_singleton_iff] at outside
  cases other with
  | identity sid' =>
      apply seen_updateSession Session.identity
      rintro rfl
      exact identity.resolve_left outside
  | connType sid' =>
      apply seen_updateSession Session.connType
      rintro rfl
      exact connType.resolve_left outside
  | decoder sid' =>
      apply seen_updateSession Session.decoder
      rintro rfl
      exact decoder.resolve_left outside
  | gameTimer sid' =>
      apply seen_updateSession Session.gameTimer
      rintro rfl
      exact gameTimer.resolve_left outside
  | client sid' =>
      apply seen_updateSession Session.webUnit
      rintro rfl
      exact client.resolve_left outside
  | game sid' =>
      apply seen_updateSession Session.gameUnit
      rintro rfl
      exact game.resolve_left outside
  | _ => rfl

/-- A change of a client unit that leaves its user alone is seen in it. -/
theorem confined_webUnit (sid : SessionId) {change : ClientUnit → ClientUnit} (proxy : Proxy)
    (uid : (change (proxy.session sid).webUnit).uid = (proxy.session sid).webUnit.uid)
    (api : (change (proxy.session sid).webUnit).api = (proxy.session sid).webUnit.api)
    : Changes (.received sid) proxy (proxy.updateSession sid (Session.withWebUnit change)) := by
  refine confined_session sid (Session.withWebUnit change) proxy (Or.inr ?_) (Or.inr rfl)
    (Or.inr rfl) (Or.inr rfl) (Or.inl rfl) (Or.inr rfl)
  simp only [Session.identity, Session.withWebUnit, uid, api]

/-- Any change of a game unit is seen in it. -/
theorem confined_gameUnit (sid : SessionId) (change : BackendUnit → BackendUnit)
    (proxy : Proxy)
    : Changes (.room sid) proxy (proxy.updateSession sid (Session.withGameUnit change)) :=
  confined_session sid (Session.withGameUnit change) proxy (Or.inr rfl) (Or.inr rfl)
    (Or.inr rfl) (Or.inr rfl) (Or.inr rfl) (Or.inl rfl)

/-- Any change of a helper is seen in it. -/
theorem confined_retired (hid : HelperId) (change : Helper → Helper) (proxy : Proxy)
    : Changes (.retired hid) proxy (proxy.updateHelper hid change) := by
  intro other outside
  rw [Set.mem_singleton_iff] at outside
  cases other with
  | helper hid' =>
      have different : hid' ≠ hid := by
        rintro rfl
        exact outside rfl
      exact Function.update_of_ne different ..
  | _ => rfl

/-- A change of a helper that does not delete it. -/
theorem confined_helper (hid : HelperId) {change : Helper → Helper} (proxy : Proxy)
    (kept : (proxy.helper hid).live = true → (change (proxy.helper hid)).live = true)
    : Changes (.helper hid) proxy (proxy.updateHelper hid change) := by
  refine ⟨confined_retired hid change proxy, fun live => ?_⟩
  rw [updateHelper_same]
  exact kept live

end Proxy

/-- The part of a back-end unit that stays on its way to the server. -/
def BackendId.part : BackendId → Part
  | .helper hid => .helper hid
  | .game sid => .game sid

/-- The part of a back-end unit whose way may change. -/
def BackendId.route : BackendId → Part
  | .helper hid => .helper hid
  | .game sid => .room sid

/-- The part where a back-end unit's timer is. -/
def BackendId.timer : BackendId → Part
  | .helper hid => .helper hid
  | .game sid => .gameTimer sid

/-- The conduct allows the given changes of the proxy, and that work on packets goes wrong. -/
structure Frees (parts : Set Part) (rules : Conduct Proxy Fault) : Prop where
  allows : Allows Proxy.Changes parts rules.related
  memory : ∀ proxy, rules.tolerates proxy .memory
  endless : ∀ proxy, rules.tolerates proxy .endless

theorem Frees.mono {parts parts' : Set Part} {rules : Conduct Proxy Fault}
    (frees : Frees parts' rules) (subset : parts ⊆ parts')
    : Frees parts rules where
  allows := frees.allows.mono subset
  memory := frees.memory
  endless := frees.endless

/-- A conduct that does not look at faults. -/
theorem frees_relating {parts : Set Part} {related : Proxy → Proxy → Prop}
    [IsPreorder Proxy related] (allows : Allows Proxy.Changes parts related)
    : Frees parts (Conduct.relating related) where
  allows := allows
  memory := fun _ => trivial
  endless := fun _ => trivial

/-- The parts in which a packet for some helper is seen. -/
def helperParts : Set Part :=
  {.scratch} ∪ Set.range Part.helper ∪ Set.range (fun hid => .noted (.link (.helper hid)))

-----------------------------------------------------------------------------------------
-- Basic operations
-----------------------------------------------------------------------------------------

section Basic

variable {α : Type} {parts : Set Part} {rules : Conduct Proxy Fault}

theorem note_within {happening : Happening} (frees : Frees {.noted happening.topic} rules)
    : Within rules (note happening) :=
  frees.allows.modify rfl (fun _ => ⟨happening, rfl, rfl⟩)

/-- What a client unit does on its own is seen in its part. -/
theorem Frees.client {sid : SessionId} (frees : Frees {.client sid} rules)
    : (Proxy.web sid).Privately rules := by
  rintro change proxy ⟨uid, api, received⟩
  refine frees.allows _ rfl _ _ ⟨Proxy.confined_webUnit sid proxy uid api, ?_⟩
  change ((proxy.updateSession sid (Session.withWebUnit change)).session sid).webUnit.r = _
    ∨ ((proxy.updateSession sid (Session.withWebUnit change)).session sid).webUnit.r = []
  rw [Proxy.updateSession_same]
  exact received

/-- What a client unit receives is seen in its part. -/
theorem Frees.received {sid : SessionId} (frees : Frees {.received sid} rules)
    (bytes : List UInt8) (proxy : Proxy)
    : rules.related proxy ((Proxy.web sid).cache.replace bytes proxy) :=
  frees.allows _ rfl _ _ (Proxy.confined_webUnit sid proxy rfl rfl)

/-- Any change of a back-end unit is one of its way. -/
theorem Frees.route {unit : BackendId} (frees : Frees {unit.route} rules)
    (change : BackendUnit → BackendUnit) (proxy : Proxy)
    : rules.related proxy (proxy.updateBackend change unit) := by
  apply frees.allows _ rfl
  cases unit with
  | helper hid => exact Proxy.confined_helper hid proxy id
  | game sid => exact Proxy.confined_gameUnit sid change proxy

/-- A steady change of a back-end unit is seen in its part. -/
theorem Frees.backend {unit : BackendId} (frees : Frees {unit.part} rules)
    {change : BackendUnit → BackendUnit} {proxy : Proxy}
    (steady : (proxy.backend unit).Steady (change (proxy.backend unit)))
    : rules.related proxy (proxy.updateBackend change unit) := by
  apply frees.allows _ rfl
  cases unit with
  | helper hid => exact Proxy.confined_helper hid proxy id
  | game sid =>
      refine ⟨Proxy.confined_gameUnit sid change proxy, ?_⟩
      change (proxy.session sid).gameUnit.Steady
        ((proxy.updateSession sid (Session.withGameUnit change)).session sid).gameUnit
      rw [Proxy.updateSession_same]
      exact steady

/-- Setting a timer is seen in the helper, or in the session of a game unit. -/
theorem setTimer_within (unit : BackendId) (frees : Frees {unit.timer} rules) (armed : Bool)
    : Within rules (modify (Proxy.setTimer armed unit) : ProxyM Unit) := by
  refine frees.allows.modify rfl (fun proxy => ?_)
  cases unit with
  | helper hid => exact Proxy.confined_helper hid proxy id
  | game sid =>
      exact Proxy.confined_session sid (Session.withGameTimer armed) proxy (Or.inr rfl)
        (Or.inr rfl) (Or.inr rfl) (Or.inl rfl) (Or.inr rfl) (Or.inr rfl)

theorem ask_within (frees : Frees {.scratch} rules) : Within rules ask := by
  refine Within.bind Within.get (fun proxy => ?_)
  refine Within.bind (frees.allows.modify rfl ?_) (fun _ => Within.pure _)
  intro state part outside
  cases part <;> first | rfl | exact absurd rfl outside

theorem useSession_within (sid : SessionId) (frees : Frees {.noted (.misuse sid)} rules)
    : Within rules (useSession sid) := by
  refine Within.bind Within.get (fun proxy => ?_)
  refine Within.ite (Within.pure _) ?_
  exact Within.bind (note_within frees) (fun _ => Within.pure _)

theorem game_uses {sid : SessionId} (uses : Within rules (useSession sid))
    : ∀ other, BackendId.game sid = .game other → Within rules (useSession other) := by
  rintro _ ⟨⟩
  exact uses

/-- An access to a unit is one to the session it belongs to, if any. -/
theorem useUnit_within {unit : BackendId}
    (uses : ∀ sid, unit = .game sid → Within rules (useSession sid))
    : Within rules (useUnit unit) := by
  cases unit with
  | helper hid => exact Within.pure _
  | game sid => exact Within.bind (uses sid rfl) (fun _ => Within.pure _)

theorem ofExcept_within (frees : Frees parts rules) (result : Except Fault α)
    : Within rules (ofExcept result) := by
  cases result with
  | ok value => exact Within.pure value
  | error fault => exact Within.throw frees.memory

theorem reading_within (frees : Frees parts rules) (packet : NETInputPacket)
    (program : PacketM 8192 α)
    : Within rules (reading packet program) :=
  ofExcept_within frees _

theorem plain_within (frees : Frees parts rules) (packet : NETOutputPacket)
    : Within rules (plain packet) :=
  ofExcept_within frees _

theorem encrypted_within (frees : Frees parts rules) (packet : NETOutputPacket)
    : Within rules (encrypted packet) :=
  Within.bind (ofExcept_within frees _) (fun _ => plain_within frees _)

theorem callWeb_within {sid : SessionId} (frees : Frees {.client sid} rules)
    (uses : Within rules (useSession sid)) {method : ClientUnit → α × ClientUnit}
    (same : ∀ unit : ClientUnit, unit.Steady (method unit).2)
    : Within rules (callWeb sid method) :=
  Within.bind uses (fun _ => frees.client.call same)

theorem respond_within (sid : SessionId) (frees : Frees {.scratch, .client sid} rules)
    (uses : Within rules (useSession sid)) (packet : List UInt8)
    : Within rules (respond sid packet) := by
  refine Within.bind (ask_within (frees.mono (by simp))) (fun answers => ?_)
  exact callWeb_within (frees.mono (by simp)) uses
    (ClientUnit.steady_respond packet answers.client)

section Backend

variable (unit : BackendId) (uses : ∀ sid, unit = .game sid → Within rules (useSession sid))

include uses

theorem callBackend_within (frees : Frees {unit.part} rules)
    {method : BackendUnit → α × BackendUnit}
    (steady : ∀ backend : BackendUnit, backend.Steady (method backend).2)
    : Within rules (callBackend unit method) := by
  refine Within.bind (useUnit_within uses) (fun _ proxy => ?_)
  exact .returned (frees.backend (steady _))

theorem appendPkg_within (frees : Frees {unit.part, .noted (.link unit)} rules)
    (buf : List UInt8)
    : Within rules (appendPkg unit buf) := by
  refine Within.bind (note_within (frees.mono (by simp [Happening.topic]))) (fun _ => ?_)
  exact callBackend_within unit uses (frees.mono (by simp))
    (BackendUnit.steady_appendPkg buf)

theorem resetHelper_within (frees : Frees {.scratch, unit.part} rules)
    : Within rules (resetHelper unit) := by
  refine Within.bind (ask_within (frees.mono (by simp))) (fun answers => ?_)
  exact callBackend_within unit uses (frees.mono (by simp))
    (BackendUnit.steady_resetHelper answers.backend)

theorem updateTimer_within (frees : Frees {unit.timer} rules)
    : Within rules (updateTimer unit) :=
  Within.bind (useUnit_within uses) (fun _ => setTimer_within unit frees true)

/-- Sending to a back-end unit may connect it. -/
theorem sendToLogic_within (frees : Frees {.scratch, unit.route, unit.timer} rules)
    (notes : ∀ answers backend, Within rules (noteConnection unit answers backend))
    : Within rules (sendToLogic unit) := by
  have calls : ∀ answers, Within rules (callBackend unit (BackendUnit.sendToLogic answers)) := by
    refine fun answers => Within.bind (useUnit_within uses) (fun _ proxy => .returned ?_)
    exact (frees.mono (by simp)).route _ proxy
  have arms := updateTimer_within unit uses (frees.mono (by simp))
  refine Within.bind (useUnit_within uses) (fun _ => ?_)
  refine Within.bind (ask_within (frees.mono (by simp))) (fun answers => ?_)
  refine Within.bind Within.get (fun proxy => Within.bind (notes _ _) (fun _ => ?_))
  exact Within.ite (Within.bind arms (fun _ => calls _)) (calls _)

end Backend

-----------------------------------------------------------------------------------------
-- Choosing a helper
-----------------------------------------------------------------------------------------

theorem setLoopNum_within (frees : Frees {.loopNum} rules) (next : Int)
    : Within rules (modify (fun proxy : Proxy =>
        { proxy with global := { proxy.global with loopNum := next } }) : ProxyM Unit) := by
  refine frees.allows.modify rfl (fun proxy part outside => ?_)
  cases part <;> first | rfl | exact absurd rfl outside

/-- A choice among no servers is a fault. -/
theorem nextSvid_within (frees : Frees {.loopNum} rules)
    (empty : ∀ proxy, rules.tolerates proxy .emptyVector)
    : Within rules nextSvid := by
  refine Within.bind Within.get (fun proxy => Within.bind Within.get (fun _ => ?_))
  refine Within.bind (setLoopNum_within frees _) (fun _ => ?_)
  split
  · exact Within.pure _
  · exact Within.throw empty

/-- A choice among some servers is none. -/
theorem randomSvid_within (frees : Frees {.scratch} rules) {v : List Int} (some : v ≠ [])
    : Within rules (randomSvid v) := by
  refine Within.bind (ask_within frees) (fun answers => ?_)
  have inside : answers.random % v.length < v.length :=
    Nat.mod_lt _ (List.length_pos_iff.mpr some)
  rw [List.getElem?_eq_getElem inside]
  exact Within.pure _

theorem findHelper_within (svid : Int) : Within rules (findHelper svid) :=
  Within.bind Within.get (fun _ => Within.pure _)

theorem giveToHelper_within (hid : HelperId)
    (frees : Frees {.scratch, .helper hid, .noted (.link (.helper hid))} rules)
    (packet : List UInt8)
    : Within rules (giveToHelper hid packet) := by
  have part : Frees {(BackendId.helper hid).part, .noted (.link (.helper hid))} rules :=
    frees.mono (by simp [BackendId.part])
  have noGame (sid : SessionId) (same : BackendId.helper hid = .game sid)
      : Within rules (useSession sid) := by
    cases same
  refine Within.bind (appendPkg_within (.helper hid) noGame part packet) (fun _ => ?_)
  exact sendToLogic_within (.helper hid) noGame
    (frees.mono (by simp [BackendId.route, BackendId.timer])) (fun _ _ => Within.pure _)

theorem giveToHelperOf_within (frees : Frees helperParts rules) (svid : Int)
    (packet : List UInt8)
    : Within rules (giveToHelperOf svid packet) := by
  refine Within.bind (findHelper_within svid) (fun found => ?_)
  cases found with
  | none => exact Within.pure _
  | some hid =>
      have gives := giveToHelper_within hid
        (frees.mono (by simp [helperParts, Set.insert_subset_iff])) packet
      exact Within.bind gives (fun _ => Within.pure _)

end Basic

end ProxyServer.System
