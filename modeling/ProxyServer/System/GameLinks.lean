import ProxyServer.System.UserTable

/-! The connections to game servers: where each was opened to, which room its session was
assigned last, and whether its timer runs.
-/

namespace ProxyServer.System

open Packets ProxyServer.Units
open FaultState Footprint Reachability

-----------------------------------------------------------------------------------------
-- Links
-----------------------------------------------------------------------------------------

/-- A packet names a room of another server than the one that the game unit has a connection to,
and the comparison of server ids does not cover it: the packet is a login answer, or the unit
has no room and the server id of the new one is 0.
-/
def Assignment.uncovered (assignment : Assignment) : Bool :=
  assignment.foundServer.any (fun server => server ≠ assignment.server)
    && (assignment.login || (assignment.foundTid = 0 && assignment.tid >>> 16 = 0))

/-- The server id and the server of an assigned room. -/
def Assignment.room (assignment : Assignment) : Int × List UInt8 × Int :=
  (assignment.tid >>> 16, assignment.server)

/-- What a run has shown of a game unit since its session was accepted. `dismissed` says that
the game server had its connection reset and that it has not been used to send since.
`connected` is where its last connection was opened to, and `uncovered` says that a packet has
named a room since that the comparison of server ids does not cover. `rooms` are the rooms
assigned, the last one first.
-/
structure GameLife where
  dismissed : Bool
  connected : Option (List UInt8 × Int)
  uncovered : Bool
  rooms : List (Int × List UInt8 × Int)

namespace GameLife

def fresh : GameLife := ⟨false, none, false, []⟩

/-- The server of the room assigned last. -/
def assigned (life : GameLife) : Option (List UInt8 × Int) :=
  life.rooms.head?.map Prod.snd

def next (life : GameLife) : Happening → GameLife
  | .accepted _ => fresh
  | .appended _ _ => { life with dismissed := false }
  | .connected _ addr port =>
      { life with dismissed := false, connected := some (addr, port), uncovered := false }
  | .dismissed _ => { life with dismissed := true }
  | .assigned _ assignment =>
      {
        life with
        uncovered := life.uncovered || assignment.uncovered
        rooms := assignment.room :: life.rooms
      }
  | _ => life

end GameLife

/-- The session whose game unit a happening is about. -/
def Happening.gameSubject (happening : Happening) : Option SessionId :=
  match happening.topic with
  | .arrival sid | .room sid | .link (.game sid) => some sid
  | _ => none

/-- A game unit with its timer, whether its session is live, and what has been shown of it. -/
structure GameLink where
  live : Bool
  unit : BackendUnit
  timer : Bool
  life : GameLife

/-- Rooms of one server id have one address and port. -/
def NamesServers (rooms : List (Int × List UInt8 × Int)) : Prop :=
  ∀ first ∈ rooms, ∀ second ∈ rooms, first.1 = second.1 → first.2 = second.2

instance (rooms : List (Int × List UInt8 × Int)) : Decidable (NamesServers rooms) :=
  inferInstanceAs (Decidable (∀ _ ∈ _, ∀ _ ∈ _, _ → _))

theorem NamesServers.mono {rooms more : List (Int × List UInt8 × Int)}
    (named : NamesServers more) (inside : ∀ room ∈ rooms, room ∈ more)
    : NamesServers rooms :=
  fun first member second member' =>
    named first (inside first member) second (inside second member')

/-- A game unit that is attached or has been dismissed is on its timer list. What it has stored
is the room assigned last, and if server ids name servers and cover the rooms that came, its
connection leads to the address and port stored.
-/
structure GameLink.Stands (link : GameLink) : Prop where
  kind : link.unit.kind = .game
  tended : link.unit.poller.attached = true → link.timer = true
  dismissed : link.life.dismissed = true → link.unit.poller.netfd = -1 ∧ link.timer = true
  seated
    : link.unit.tid ≠ 0
      → link.life.rooms.head? = some (link.unit.tid >>> 16, link.unit.addr, link.unit.port)
  connected
    : 0 < link.unit.poller.netfd → link.life.uncovered = false
      → NamesServers link.life.rooms
      → link.life.connected = some (link.unit.addr, link.unit.port)

namespace GameLink.Stands

variable {link : GameLink} (stands : link.Stands)

include stands

/-- A unit that stays on its way or gives it up stands. -/
theorem steady {unit : BackendUnit} (steady : link.unit.Steady unit)
    : { link with unit := unit }.Stands where
  kind := steady.kind.trans stands.kind
  tended := fun attached => stands.tended (steady.attached attached)
  dismissed := by
    intro dismissed
    obtain ⟨closed, timer⟩ := stands.dismissed dismissed
    rcases steady.route with same | given
    · exact ⟨(congrArg Prod.fst same).trans closed, timer⟩
    · exact ⟨given.1, timer⟩
  seated := by
    intro seated
    rcases steady.route with same | given
    · simp only [BackendUnit.route, Prod.mk.injEq] at same
      obtain ⟨-, addr, port, tid⟩ := same
      dsimp only at seated ⊢
      rw [addr, port, tid]
      exact stands.seated (tid ▸ seated)
    · exact absurd (given.2 stands.kind) seated
  connected := by
    intro isOpen covered named
    rcases steady.route with same | given
    · simp only [BackendUnit.route, Prod.mk.injEq] at same
      obtain ⟨netfd, addr, port, -⟩ := same
      dsimp only at isOpen ⊢
      rw [addr, port]
      exact stands.connected (netfd ▸ isOpen) covered named
    · exact absurd isOpen (by simp [given.1])

/-- A unit that is used again is not one that has been dismissed. -/
theorem used : { link with life := { link.life with dismissed := false } }.Stands where
  kind := stands.kind
  tended := stands.tended
  dismissed := nofun
  seated := stands.seated
  connected := stands.connected

/-- A unit whose timer is attached stands. -/
theorem arm : { link with timer := true }.Stands where
  kind := stands.kind
  tended := fun _ => rfl
  dismissed := fun dismissed => ⟨(stands.dismissed dismissed).1, rfl⟩
  seated := stands.seated
  connected := stands.connected

/-- Sending may open a connection to where the unit says, with the timer. -/
theorem sent {answers : BackendAnswers} {unit : BackendUnit} {timer : Bool} {life : GameLife}
    (sent : link.unit.Sent answers unit)
    (timed
      : timer = if 0 ≤ ((link.unit.withPoller PollerObject.enableInput).connect answers).1
          then true else link.timer)
    (noted
      : life = if link.unit.opens answers then
          link.life.next (.connected 0 link.unit.addr link.unit.port) else link.life)
    : { link with unit := unit, timer := timer, life := life }.Stands where
  kind := sent.kind.trans stands.kind
  tended := by
    intro attached
    rw [timed, if_pos (sent.attached attached)]
  dismissed := by
    intro dismissed
    dsimp only at dismissed ⊢
    rw [noted] at dismissed
    split at dismissed
    · cases dismissed
    · rename_i unopened
      obtain ⟨closed, armed⟩ := stands.dismissed dismissed
      rw [timed, armed, ite_self]
      refine ⟨?_, rfl⟩
      rcases sent.route with ⟨-, opened | same⟩ | given
      · exact (unopened opened).elim
      · exact same.trans closed
      · exact given.1
  seated := by
    intro seated
    dsimp only at seated ⊢
    have kept : life.rooms = link.life.rooms := by
      rw [noted]
      split
      · rfl
      · rfl
    rcases sent.route with ⟨same, -⟩ | given
    · simp only [Prod.mk.injEq] at same
      obtain ⟨addr, port, tid⟩ := same
      rw [kept, addr, port, tid]
      exact stands.seated (tid ▸ seated)
    · exact absurd (given.2 stands.kind) seated
  connected := by
    intro isOpen covered named
    dsimp only at isOpen covered named ⊢
    rcases sent.route with ⟨same, opened⟩ | given
    · simp only [Prod.mk.injEq] at same
      obtain ⟨addr, port, -⟩ := same
      rw [addr, port]
      by_cases opens : link.unit.opens answers = true
      · rw [noted, if_pos opens]
        rfl
      · rw [noted, if_neg opens] at covered named ⊢
        exact stands.connected ((opened.resolve_left opens) ▸ isOpen) covered named
    · exact absurd isOpen (by simp [given.1])

/-- A room is assigned to a unit without a connection, or to one that keeps its connection
because the packet is a login answer or the server ids agree. In the second case server ids that
name servers tell that the new server is the old one.
-/
theorem assign (sid : SessionId) (assignment : Assignment) {addr : List UInt8} {port : Int}
    (server : assignment.server = (addr, port))
    (kept
      : 0 < link.unit.poller.netfd
        → assignment.foundServer = link.unit.server ∧ assignment.foundTid = link.unit.tid
          ∧ (assignment.login = true ∨ link.unit.tid >>> 16 = assignment.tid >>> 16))
    : { link with
        unit := { link.unit with addr := addr, port := port, tid := assignment.tid }
        life := link.life.next (.assigned sid assignment) }.Stands where
  kind := stands.kind
  tended := stands.tended
  dismissed := stands.dismissed
  seated := fun _ => congrArg (fun server => some (assignment.tid >>> 16, server)) server
  connected := by
    intro isOpen covered named
    change 0 < link.unit.poller.netfd at isOpen
    obtain ⟨found, foundTid, guard⟩ := kept isOpen
    have covered : (link.life.uncovered || assignment.uncovered) = false := covered
    obtain ⟨before, covered⟩ := Bool.or_eq_false_iff.mp covered
    have named : NamesServers (assignment.room :: link.life.rooms) := named
    have leads := stands.connected isOpen before
      (named.mono (fun _ member => List.mem_cons_of_mem _ member))
    refine leads.trans (congrArg some ?_)
    rw [← server]
    have here : link.unit.server = some (link.unit.addr, link.unit.port) := if_pos isOpen
    rw [Assignment.uncovered, found, foundTid, here, Option.any_some] at covered
    rcases Bool.and_eq_false_iff.mp covered with same | compared
    · simpa using same
    · simp only [Bool.or_eq_false_iff, Bool.and_eq_false_iff, decide_eq_false_iff_not]
        at compared
      obtain ⟨moved, hasId⟩ := compared
      have sameId := guard.resolve_left (by simp [moved])
      have seated : link.unit.tid ≠ 0 := by
        rintro roomless
        rw [roomless] at sameId hasId
        exact hasId.elim (fun differs => differs rfl) (fun differs => differs sameId.symm)
      have listed := List.mem_of_mem_head? (stands.seated seated)
      exact named _ (List.mem_cons_of_mem _ listed) _ List.mem_cons_self sameId

/-- A unit is dismissed while its timer runs. -/
theorem dismiss (sid : SessionId) (answers : BackendAnswers) (armed : link.timer = true)
    : { link with
        unit := link.unit.resetHelper answers
        life := link.life.next (.dismissed sid) }.Stands := by
  have reset := stands.steady (BackendUnit.steady_resetHelper answers link.unit)
  exact ⟨reset.kind, reset.tended, fun _ => ⟨rfl, armed⟩, reset.seated, reset.connected⟩

/-- A unit without connection and room is given an address. -/
theorem redirect (closed : link.unit.poller.netfd = -1) (roomless : link.unit.tid = 0)
    (addr : List UInt8) (port : Int)
    : { link with unit := { link.unit with addr := addr, port := port } }.Stands where
  kind := stands.kind
  tended := stands.tended
  dismissed := stands.dismissed
  seated := fun seated => absurd roomless seated
  connected := fun isOpen => absurd isOpen (by simp [closed])

end GameLink.Stands

-----------------------------------------------------------------------------------------
-- The links of a state
-----------------------------------------------------------------------------------------

namespace Proxy

/-- What has been shown of the game unit of a session. -/
def gameLife (proxy : Proxy) (sid : SessionId) : GameLife :=
  proxy.trace.foldl (fun life happening =>
    if happening.gameSubject = some sid then life.next happening else life) GameLife.fresh

def gameLink (proxy : Proxy) (sid : SessionId) : GameLink where
  live := (proxy.session sid).live
  unit := (proxy.session sid).gameUnit
  timer := (proxy.session sid).gameTimer
  life := proxy.gameLife sid

theorem gameLife_record (happening : Happening) (proxy : Proxy) (sid : SessionId)
    : (proxy.record happening).gameLife sid
      = if happening.gameSubject = some sid then (proxy.gameLife sid).next happening
        else proxy.gameLife sid := by
  rw [gameLife, record, List.foldl_append]
  rfl

/-- What is shown of one game unit changes its link only. -/
theorem gameLink_record {happening : Happening} {sid : SessionId}
    (subject : happening.gameSubject = some sid) (proxy : Proxy)
    : (proxy.record happening).gameLink
      = Function.update proxy.gameLink sid
          { proxy.gameLink sid with life := (proxy.gameLife sid).next happening } := by
  funext other
  by_cases same : other = sid
  · subst same
    rw [Function.update_self, gameLink, gameLife_record, if_pos subject]
    rfl
  · rw [Function.update_of_ne same, gameLink, gameLife_record, if_neg]
    · rfl
    · rw [subject]
      exact fun equal => same (Option.some.inj equal).symm

/-- What is shown of no game unit changes no link. -/
theorem gameLink_record_none {happening : Happening} (subject : happening.gameSubject = none)
    (proxy : Proxy)
    : (proxy.record happening).gameLink = proxy.gameLink := by
  funext other
  rw [gameLink, gameLife_record, subject, if_neg nofun]
  rfl

/-- An update of a session changes its link only. -/
theorem gameLink_updateSession (sid : SessionId) (change : Session → Session) (proxy : Proxy)
    : (proxy.updateSession sid change).gameLink
      = Function.update proxy.gameLink sid
          ⟨(change (proxy.session sid)).live, (change (proxy.session sid)).gameUnit,
            (change (proxy.session sid)).gameTimer, proxy.gameLife sid⟩ := by
  funext other
  by_cases same : other = sid
  · subst same
    rw [Function.update_self, gameLink, updateSession_same]
    rfl
  · have kept : (proxy.updateSession sid change).session other = proxy.session other :=
      Function.update_of_ne same ..
    rw [Function.update_of_ne same, gameLink, kept]
    rfl

/-- A change that is seen in one game unit changes its link only. -/
theorem gameLink_unchanged {start next : Proxy} {sid : SessionId}
    (same : Footprint.Unchanged view {.game sid} start next)
    : next.gameLink
      = Function.update start.gameLink sid
          { start.gameLink sid with unit := (next.session sid).gameUnit } := by
  funext other
  have live : (next.session other).live = (start.session other).live :=
    congrArg Prod.fst (same (.identity other) (by simp))
  have timer : (next.session other).gameTimer = (start.session other).gameTimer :=
    same (.gameTimer other) (by simp)
  have trace : next.trace = start.trace := same (.noted (.frame 0)) (by simp)
  by_cases equal : other = sid
  · subst equal
    rw [Function.update_self, gameLink, gameLife, live, timer, trace]
    rfl
  · have unit : (next.session other).gameUnit = (start.session other).gameUnit :=
      same (.game other) (by simpa using equal)
    rw [Function.update_of_ne equal, gameLink, gameLink, gameLife, gameLife, live, unit,
      timer, trace]

/-- The links are what is seen of the sessions' lives, the game units and the trace. -/
theorem gameLink_eq {start next : Proxy} {sid : SessionId}
    (identity : (next.session sid).identity = (start.session sid).identity)
    (unit : (next.session sid).gameUnit = (start.session sid).gameUnit)
    (timer : (next.session sid).gameTimer = (start.session sid).gameTimer)
    (trace : next.trace = start.trace)
    : next.gameLink sid = start.gameLink sid := by
  have live : (next.session sid).live = (start.session sid).live := congrArg Prod.fst identity
  rw [gameLink, gameLink, gameLife, gameLife, live, unit, timer, trace]

end Proxy

/-- A part in which the links are not seen. -/
def Part.unlinked : Part → Prop
  | .identity _ | .gameTimer _ | .game _ | .room _ | .noted (.arrival _) | .noted (.room _)
  | .noted (.link (.game _)) => False
  | _ => True

/-- Changes of such a part leave the links alone. -/
theorem Proxy.Changes.gameLink {part : Part} {start next : Proxy} (unlinked : part.unlinked)
    (changes : Proxy.Changes part start next)
    : next.gameLink = start.gameLink := by
  have same := changes.unchanged
  cases part with
  | noted topic =>
      obtain ⟨happening, rfl, rfl⟩ := changes
      apply gameLink_record_none
      cases happening with
      | appended unit buf =>
          cases unit with
          | helper hid => rfl
          | game sid => exact unlinked.elim
      | _ => first | exact unlinked.elim | rfl
  | _ =>
      first
        | exact unlinked.elim
        | exact funext (fun sid => gameLink_eq (same (.identity sid) (by simp [Part.seen]))
            (same (.game sid) (by simp [Part.seen]))
            (same (.gameTimer sid) (by simp [Part.seen]))
            (same (.noted (.frame 0)) (by simp [Part.seen])))

/-- The links of the given sessions stand, as far as they are live. -/
def LinksStand (sids : Set SessionId) (proxy : Proxy) : Prop :=
  ∀ sid ∈ sids, (proxy.gameLink sid).live = true → (proxy.gameLink sid).Stands

/-- A change of one link, which goes on standing. -/
theorem LinksStand.update {sids : Set SessionId} {start next : Proxy} {sid : SessionId}
    {link : GameLink} (stand : LinksStand sids start)
    (updated : next.gameLink = Function.update start.gameLink sid link)
    (own
      : (sid ∈ sids → (start.gameLink sid).live = true → (start.gameLink sid).Stands)
        → sid ∈ sids → link.live = true → link.Stands)
    : LinksStand sids next := by
  intro other inside alive
  rw [updated] at alive ⊢
  by_cases same : other = sid
  · subst same
    rw [Function.update_self] at alive ⊢
    exact own (stand other) inside alive
  · rw [Function.update_of_ne same] at alive ⊢
    exact stand other inside alive

/-- The links of both states are the same. -/
def LinksSame (start next : Proxy) : Prop :=
  next.gameLink = start.gameLink

instance : IsPreorder Proxy LinksSame where
  refl := fun _ => rfl
  trans := fun _ _ _ first second => second.trans first

theorem LinksStand.same {sids : Set SessionId} {start next : Proxy}
    (stand : LinksStand sids start) (same : LinksSame start next)
    : LinksStand sids next := by
  rw [LinksSame] at same
  rw [LinksStand, same]
  exact stand

theorem frees_linksSame {parts : Set Part} (unlinked : ∀ part ∈ parts, part.unlinked)
    : Frees parts (Conduct.relating LinksSame) :=
  frees_relating (fun part inside _ _ changes => changes.gameLink (unlinked part inside))

theorem frees_unlinked {parts : Set Part} (unlinked : ∀ part ∈ parts, part.unlinked)
    (sids : Set SessionId)
    : Frees parts (Conduct.sustaining (LinksStand sids)) :=
  frees_relating (fun part inside _ _ changes stand =>
    stand.same (changes.gameLink (unlinked part inside)))

/-- What is changed in passing keeps the links standing. -/
theorem frees_linksStand (sids : Set SessionId)
    : Frees {part | part.common} (Conduct.sustaining (LinksStand sids)) := by
  refine frees_relating (fun part inside start next changes stand => ?_)
  have common : part.common := inside
  by_cases unlinked : part.unlinked
  · exact stand.same (changes.gameLink unlinked)
  · cases part with
    | game sid =>
        obtain ⟨same, steady⟩ := changes
        refine stand.update (Proxy.gameLink_unchanged same) ?_
        exact fun stands inside alive => (stands inside alive).steady steady
    | noted topic =>
        obtain ⟨happening, rfl, rfl⟩ := changes
        cases happening with
        | appended unit buf =>
            cases unit with
            | helper hid => exact (unlinked trivial).elim
            | game sid =>
                refine stand.update (Proxy.gameLink_record rfl start) ?_
                exact fun stands inside alive => (stands inside alive).used
        | _ => first | exact common.elim | exact (unlinked trivial).elim
    | _ => first | exact common.elim | exact (unlinked trivial).elim

-----------------------------------------------------------------------------------------
-- Operations on links
-----------------------------------------------------------------------------------------

section Operations

variable {sids : Set SessionId} {sid : SessionId} {start next : Proxy}

/-- A session is read as it is, live or not. -/
theorem useSession_links {session : Session}
    (run : Yields (useSession sid) start session next)
    : session = start.session sid ∧ LinksSame start next := by
  obtain ⟨_, proxy, got, rest⟩ := yields_bind.mp run
  obtain ⟨rfl, rfl⟩ := yields_get.mp got
  clear got run
  dsimp only at rest
  split at rest
  · obtain ⟨rfl, rfl⟩ := yields_pure.mp rest
    exact ⟨rfl, rfl⟩
  · obtain ⟨_, noted, notes, ends⟩ := yields_bind.mp rest
    obtain ⟨rfl, rfl⟩ := yields_pure.mp ends
    obtain rfl := yields_modify.mp notes
    exact ⟨rfl, Proxy.gameLink_record_none rfl proxy⟩

theorem useGame_links (run : Yields (useUnit (.game sid)) start () next)
    : LinksSame start next := by
  obtain ⟨session, uses⟩ := yields_discard.mp run
  exact (useSession_links uses).2

theorem ask_links {answers : Answers} (run : Yields ask start answers next)
    : LinksSame start next := by
  have frees : Frees {.scratch} (Conduct.relating LinksSame) :=
    frees_linksSame (by rintro _ ⟨⟩; exact trivial)
  exact (ask_within frees).related run

/-- What is shown of no game unit leaves the links alone. -/
theorem note_links {happening : Happening} (subject : happening.gameSubject = none)
    (run : Yields (note happening) start () next)
    : LinksSame start next := by
  rw [yields_modify.mp run]
  exact Proxy.gameLink_record_none subject start

/-- A call on a game unit changes the unit. -/
theorem callGame_links {α : Type} {method : BackendUnit → α × BackendUnit} {value : α}
    (run : Yields (callBackend (.game sid) method) start value next)
    : next.gameLink
      = Function.update start.gameLink sid
          { start.gameLink sid with unit := (method (start.gameLink sid).unit).2 } := by
  obtain ⟨_, used, uses, reads⟩ := yields_bind.mp run
  have links := useGame_links uses
  obtain ⟨_, proxy, got, rest⟩ := yields_bind.mp reads
  obtain ⟨rfl, rfl⟩ := yields_get.mp got
  clear got reads
  obtain ⟨_, called, calls, ends⟩ := yields_bind.mp rest
  obtain ⟨-, rfl⟩ := yields_pure.mp ends
  rw [yields_modify.mp calls, ← links]
  exact Proxy.gameLink_updateSession sid (Session.withGameUnit _) proxy

theorem armGame_links (run : Yields (updateTimer (.game sid)) start () next)
    : next.gameLink
      = Function.update start.gameLink sid { start.gameLink sid with timer := true } := by
  obtain ⟨_, used, uses, arms⟩ := yields_bind.mp run
  have links := useGame_links uses
  rw [yields_modify.mp arms, ← links]
  exact Proxy.gameLink_updateSession sid (Session.withGameTimer true) used

theorem noteConnection_links {answers : BackendAnswers} {backend : BackendUnit}
    (run : Yields (noteConnection (.game sid) answers backend) start () next)
    : next.gameLink
      = Function.update start.gameLink sid
          { start.gameLink sid with
            life := if backend.opens answers then
              (start.gameLink sid).life.next (.connected 0 backend.addr backend.port)
              else (start.gameLink sid).life } := by
  rw [noteConnection] at run
  split at run
  · rename_i opens
    rw [yields_modify.mp run, if_pos opens]
    exact Proxy.gameLink_record rfl start
  · rename_i unopened
    obtain ⟨-, rfl⟩ := yields_pure.mp run
    rw [if_neg unopened]
    exact (Function.update_eq_self sid next.gameLink).symm

/-- Sending to a game server keeps its link standing. -/
theorem sendToGame_stands
    : Within (Conduct.sustaining (LinksStand sids)) (sendToLogic (.game sid)) := by
  refine within_relating (fun run stand => ?_)
  obtain ⟨_, used, uses, asking⟩ := yields_bind.mp run
  obtain ⟨answers, asked, asks, reads⟩ := yields_bind.mp asking
  obtain ⟨_, proxy, got, rest⟩ := yields_bind.mp reads
  obtain ⟨rfl, rfl⟩ := yields_get.mp got
  clear got reads
  have stand := (stand.same (useGame_links uses)).same (ask_links asks)
  obtain ⟨_, noted, notes, sends⟩ := yields_bind.mp rest
  have sent := BackendUnit.sent_sendToLogic answers.backend (proxy.gameLink sid).unit
  have noted' := noteConnection_links notes
  split at sends
  · rename_i connected
    obtain ⟨_, armed, arms, calls⟩ := yields_bind.mp sends
    have armed' := armGame_links arms
    have called := callGame_links calls
    rw [noted', Function.update_idem, Function.update_self] at armed'
    rw [armed', Function.update_idem, Function.update_self] at called
    refine stand.update called (fun stands inside alive => ?_)
    exact (stands inside alive).sent sent (if_pos connected).symm rfl
  · rename_i refused
    have called := callGame_links sends
    rw [noted', Function.update_idem, Function.update_self] at called
    refine stand.update called (fun stands inside alive => ?_)
    exact (stands inside alive).sent sent (if_neg refused).symm rfl

/-- A deleted session takes its link with it. -/
theorem deleteSession_stands
    : Holds (LinksStand sids) (deleteSession sid) (fun _ => LinksStand (insert sid sids)) := by
  intro start _ next stand run
  obtain ⟨decoder, used, uses, rest⟩ := yields_bind.mp run
  obtain ⟨_, noted, notes, rest⟩ := yields_bind.mp rest
  obtain ⟨_, forgotten, forgets, rest⟩ := yields_bind.mp rest
  obtain ⟨answers, asked, asks, deletes⟩ := yields_bind.mp rest
  have objmap : Frees {.objmap} (Conduct.relating LinksSame) :=
    frees_linksSame (by rintro _ ⟨⟩; exact trivial)
  have stand := (stand.same (useSession_links uses).2).same (note_links rfl notes)
  have stand := (stand.same ((forget_within objmap _).related forgets)).same (ask_links asks)
  have deleted := Proxy.gameLink_updateSession sid (Session.destroy answers.backend) asked
  rw [← yields_modify.mp deletes] at deleted
  intro other inside alive
  rw [deleted] at alive ⊢
  by_cases same : other = sid
  · subst same
    rw [Function.update_self] at alive
    cases alive
  · rw [Function.update_of_ne same] at alive ⊢
    exact stand other (Set.mem_of_mem_insert_of_ne inside same) alive

/-- Entering a user leaves the links alone. -/
theorem enterUser_stands (uid api : Int)
    : Within (Conduct.sustaining (LinksStand sids)) (enterUser sid uid api) := by
  refine within_relating (fun {_ _ next} run stand => ?_)
  obtain ⟨_, noted, notes, enters⟩ := yields_bind.mp run
  have entered : next.gameLink = Function.update noted.gameLink sid (noted.gameLink sid) := by
    rw [yields_modify.mp enters]
    exact Proxy.gameLink_updateSession sid (Session.enter uid api) noted
  exact (stand.same (note_links rfl notes)).update entered (fun stands => stands)

/-- A room is stored in a link, with what the packet found. -/
theorem storeRoom_links {room : Room} {login : Bool} {found : BackendUnit}
    (run : Yields (storeRoom sid room login found) start () next)
    : ∃ addr,
        next.gameLink
        = Function.update start.gameLink sid
            { start.gameLink sid with
              unit := {
                (start.gameLink sid).unit with
                addr := addr
                port := room.port
                tid := room.tid
              }
              life := (start.gameLink sid).life.next
                (.assigned sid
                  ⟨login, room.tid, (addr, room.port), found.tid, found.server⟩) } := by
  obtain ⟨addr, looked, looks, rest⟩ := yields_bind.mp run
  have mapped : Within (Conduct.relating LinksSame) (ipMap room.ip) :=
    Within.bind Within.get (fun _ => Within.pure _)
  have links : LinksSame start looked := mapped.related looks
  obtain ⟨_, noted, notes, calls⟩ := yields_bind.mp rest
  have assigned := callGame_links calls
  have life : looked.gameLife sid = (start.gameLink sid).life :=
    congrArg GameLink.life (congrFun links sid)
  rw [yields_modify.mp notes, Proxy.gameLink_record rfl looked, Function.update_idem,
    Function.update_self, links, life] at assigned
  exact ⟨addr, assigned⟩

theorem assignRoom_stands (room : Room)
    : Within (Conduct.sustaining (LinksStand sids)) (assignRoom sid room) := by
  refine within_relating (fun {start _ next} run stand => ?_)
  obtain ⟨session, used, uses, stores⟩ := yields_bind.mp run
  obtain ⟨rfl, links⟩ := useSession_links uses
  obtain ⟨addr, assigned⟩ := storeRoom_links stores
  have unit : (used.gameLink sid).unit = (start.session sid).gameUnit :=
    congrArg GameLink.unit (congrFun links sid)
  refine (stand.same links).update assigned (fun stands inside alive => ?_)
  refine (stands inside alive).assign sid ⟨true, room.tid, (addr, room.port), _, _⟩ rfl ?_
  rw [unit]
  exact fun _ => ⟨rfl, rfl, Or.inl rfl⟩

/-- A connection to a server of another id is closed; a unit that keeps its connection has a
room of the same id or none.
-/
theorem moveToRoom_stands (room : Room)
    : Within (Conduct.sustaining (LinksStand sids)) (moveToRoom sid room) := by
  refine within_relating (fun {start _ next} run stand => ?_)
  obtain ⟨session, used, uses, branch⟩ := yields_bind.mp run
  obtain ⟨rfl, links⟩ := useSession_links uses
  have stand := stand.same links
  dsimp only at branch
  split at branch
  · obtain ⟨_, reset, resets, stores⟩ := yields_bind.mp branch
    obtain ⟨answers, asked, asks, calls⟩ := yields_bind.mp resets
    have closed := callGame_links calls
    obtain ⟨addr, assigned⟩ := storeRoom_links stores
    rw [closed, Function.update_idem, Function.update_self] at assigned
    refine (stand.same (ask_links asks)).update assigned (fun stands inside alive => ?_)
    have apart := (stands inside alive).steady
      (BackendUnit.steady_resetHelper answers.backend (asked.gameLink sid).unit)
    refine apart.assign sid ⟨false, room.tid, (addr, room.port), _, _⟩ rfl (fun isOpen => ?_)
    exact absurd isOpen (by simp [BackendUnit.resetHelper])
  · rename_i stays
    obtain ⟨addr, assigned⟩ := storeRoom_links branch
    have unit : (used.gameLink sid).unit = (start.session sid).gameUnit :=
      congrArg GameLink.unit (congrFun links sid)
    refine stand.update assigned (fun stands inside alive => ?_)
    refine (stands inside alive).assign sid ⟨false, room.tid, (addr, room.port), _, _⟩ rfl ?_
    rw [unit]
    intro isOpen
    exact ⟨rfl, rfl, Or.inr (not_not.mp (fun differs => stays ⟨isOpen, differs⟩))⟩

/-- The links stand, and the timer of one of them runs. -/
structure Tended (sid : SessionId) (proxy : Proxy) : Prop where
  stand : LinksStand Set.univ proxy
  armed : (proxy.gameLink sid).timer = true

/-- Behind `dismiss` the unit has no connection and no room. -/
theorem dismiss_tended
    : Holds (Tended sid) (dismiss sid)
        (fun _ proxy => Tended sid proxy
          ∧ ((proxy.gameLink sid).live = true
            → (proxy.gameLink sid).unit.poller.netfd = -1
              ∧ (proxy.gameLink sid).unit.tid = 0)) := by
  intro start _ next tended run
  obtain ⟨_, noted, notes, resets⟩ := yields_bind.mp run
  obtain ⟨answers, asked, asks, calls⟩ := yields_bind.mp resets
  have links : LinksSame noted asked := ask_links asks
  have dismissed := callGame_links calls
  rw [links, yields_modify.mp notes, Proxy.gameLink_record rfl start, Function.update_idem,
    Function.update_self] at dismissed
  have stand : LinksStand Set.univ next := by
    refine tended.stand.update dismissed (fun stands inside alive => ?_)
    exact (stands inside alive).dismiss sid answers.backend tended.armed
  rw [dismissed, Function.update_self]
  refine ⟨⟨stand, ?_⟩, fun alive => ⟨rfl, if_pos ?_⟩⟩
  · rw [dismissed, Function.update_self]
    exact tended.armed
  · exact (tended.stand sid trivial alive).kind

theorem dismissTo_tended (ip : List UInt8) (port : Int)
    : Within (Conduct.sustaining (Tended sid)) (dismissTo sid ip port) := by
  refine (Holds.bind dismiss_tended (fun _ => ?_)).within
  rintro start _ next ⟨tended, left⟩ run
  have redirected := callGame_links run
  refine ⟨tended.stand.update redirected (fun stands inside alive => ?_), ?_⟩
  · obtain ⟨closed, roomless⟩ := left alive
    exact (stands inside alive).redirect closed roomless ip port
  · rw [redirected, Function.update_self]
    exact tended.armed

theorem linksStand_permits (sids : Set SessionId)
    : Permits (Conduct.sustaining (LinksStand sids)) where
  frees := frees_linksStand sids
  next := by
    refine nextSvid_within (frees_unlinked ?_ sids) (fun _ => trivial)
    rintro _ ⟨⟩
    exact trivial
  reloads := by
    refine resetHelperUnit_within (frees_unlinked ?_ sids)
    rintro part (((rfl | rfl) | ⟨hid, rfl⟩) | ⟨hid, rfl⟩)
    all_goals exact trivial
  deletes := by
    intro sid
    have deletes := @deleteSession_stands sids sid
    refine (deletes.weaken (fun _ => id) (fun _ _ stand => ?_)).within
    exact fun other inside => stand other (Set.mem_insert_of_mem sid inside)
  enters := fun sid uid api => enterUser_stands uid api
  sends := fun sid => sendToGame_stands
  assigns := fun sid => ⟨assignRoom_stands, moveToRoom_stands⟩

/-- What is changed in passing keeps a timer running. -/
theorem frees_tended : Frees {part | part.common} (Conduct.sustaining (Tended sid)) := by
  refine frees_relating (fun part inside start next changes tended => ⟨?_, ?_⟩)
  · exact (frees_linksStand Set.univ).allows part inside start next changes tended.stand
  · have outside : .gameTimer sid ∉ part.seen := by
      cases part with
      | gameTimer other => exact inside.elim
      | _ => simp [Part.seen]
    exact (changes.unchanged (.gameTimer sid) outside).trans tended.armed

theorem useSession_tended (other : SessionId)
    : Within (Conduct.sustaining (Tended sid)) (useSession other) :=
  useSession_within other (frees_tended.mono (by rintro _ ⟨⟩; exact trivial))

theorem armGame_tended
    : Within (Conduct.sustaining (Tended sid)) (updateTimer (.game sid)) := by
  refine within_relating (fun run tended => ?_)
  have armed := armGame_links run
  refine ⟨tended.stand.update armed (fun stands inside alive => ?_), ?_⟩
  · exact (stands inside alive).arm
  · rw [armed, Function.update_self]

theorem gamePackages_tended
    : Within (Conduct.sustaining (Tended sid)) (gameProcessPkg sid) := by
  have parts : Frees {.scratch, .client sid, .game sid} (Conduct.sustaining (Tended sid)) := by
    refine frees_tended.mono ?_
    rintro part (rfl | rfl | rfl)
    all_goals exact trivial
  have dismisses := @dismiss_tended sid
  refine gameProcessPkg_within (useSession_tended sid) parts ?_ dismissTo_tended
  exact (dismisses.weaken (fun _ => id) (fun _ _ left => left.1)).within

theorem gameEvent_stands {ready : Ready} {recv : RecvAnswer} (tended : Tended sid start)
    (run : Yields (backendEvent (.game sid) ready recv) start () next)
    : LinksStand Set.univ next := by
  have parts : Frees {.scratch, (BackendId.game sid).part}
      (Conduct.sustaining (Tended sid)) := by
    refine frees_tended.mono ?_
    rintro part (rfl | rfl)
    all_goals exact trivial
  have loses := (linksStand_permits Set.univ).grants.loseGame sid
  exact backendEvent_holds (.game sid) (game_uses (useSession_tended sid)) parts armGame_tended
    (loses.holds.weaken (fun _ tended => tended.stand) (fun _ _ => id))
    (fun _ tended => tended.stand) gamePackages_tended ready recv tended run

/-- A timer that expires takes the session with it. -/
theorem gameTimerNotify_stands
    : Within (Conduct.sustaining (LinksStand Set.univ)) (backendTimerNotify (.game sid)) := by
  refine within_relating (fun {_ _ next} run stand => ?_)
  obtain ⟨_, used, uses, rest⟩ := yields_bind.mp run
  obtain ⟨_, disarmed, disarms, loses⟩ := yields_bind.mp rest
  have links := Proxy.gameLink_updateSession sid (Session.withGameTimer false) used
  have others : LinksStand {sid}ᶜ disarmed := by
    have stand : LinksStand {sid}ᶜ used :=
      fun other _ => (stand.same (useGame_links uses)) other trivial
    rw [yields_modify.mp disarms]
    exact stand.update links (fun _ inside => (inside rfl).elim)
  have stand := ((linksStand_permits {sid}ᶜ).grants.loseGame sid).related loses others
  obtain ⟨_, _, _, completes⟩ := yields_bind.mp loses
  have ended : (next.session sid).live = false := complete_ends sid trivial completes
  intro other _ alive
  by_cases same : other = sid
  · subst same
    exact (Bool.false_ne_true (ended.symm.trans alive)).elim
  · exact stand other same alive

/-- A new session's game unit stands. -/
theorem accept_stands (fd ip : Nat)
    : Within (Conduct.sustaining (LinksStand Set.univ)) (accept sid fd ip) := by
  refine within_relating (fun {start _ next} run stand => ?_)
  obtain ⟨_, created, creates, rest⟩ := yields_bind.mp run
  obtain ⟨_, noted, notes, rest⟩ := yields_bind.mp rest
  have links := Proxy.gameLink_updateSession sid (fun _ => Session.create fd ip) start
  have come : noted.gameLink = Function.update start.gameLink sid
      ⟨true, BackendUnit.create .game noAddress 0, false, GameLife.fresh⟩ := by
    rw [yields_modify.mp notes, Proxy.gameLink_record rfl, yields_modify.mp creates, links,
      Function.update_idem, Function.update_self]
    rfl
  have stand : LinksStand Set.univ noted := by
    refine stand.update come (fun _ _ _ => ⟨rfl, nofun, nofun, fun seated => ?_, fun isOpen => ?_⟩)
    · exact absurd rfl seated
    · cases isOpen
  have grants := (linksStand_permits Set.univ).grants
  obtain ⟨answers, asked, asks, rest⟩ := yields_bind.mp rest
  obtain ⟨attached, settled, attaches, rest⟩ := yields_bind.mp rest
  have attaching := callWeb_within (grants.one (.client sid) trivial) (grants.uses sid)
    (ClientUnit.steady_attach answers.backend.slot answers.backend.attachCtl)
  have stand := attaching.related attaches (stand.same (ask_links asks))
  split at rest
  · obtain ⟨_, _, _, throws⟩ := yields_bind.mp rest
    exact (not_yields_throw throws).elim
  · have arms := setWebTimer_within (grants.uses sid) (grants.one (.decoder sid) trivial) true
    exact arms.related rest stand

/-- Every step keeps the links standing. -/
theorem step_stands {label : Event × (Nat → Answers)} (stand : LinksStand Set.univ start)
    (step : Event.Step start label next)
    : LinksStand Set.univ next := by
  obtain ⟨event, world⟩ := label
  obtain ⟨enabled, run⟩ := step
  have stand' : LinksStand Set.univ { start with world := world, asked := 0 } := stand
  have grants := (linksStand_permits Set.univ).grants
  cases event with
  | accept sid fd ip => exact (accept_stands fd ip).related run stand'
  | web sid ready recv =>
      have receives : Frees {.received sid} (Conduct.sustaining (LinksStand Set.univ)) :=
        frees_unlinked (by rintro _ ⟨⟩; exact trivial) Set.univ
      have inputs := grants.inputs receives recv
      exact (grants.webEvent inputs ready).related run stand'
  | webTimer sid => exact (grants.webTimerNotify sid).related run stand'
  | backend unit ready recv =>
      cases unit with
      | helper hid => exact (grants.helperEvent hid ready recv).related run stand'
      | game sid =>
          have armed := (stand sid trivial enabled.1).tended enabled.2.1
          exact gameEvent_stands ⟨stand', armed⟩ run
  | backendTimer unit =>
      cases unit with
      | helper hid => exact (grants.helperTimerNotify hid).related run stand'
      | game sid => exact gameTimerNotify_stands.related run stand'
  | levelCountTimer =>
      have any := anySvid_within (grants.one .scratch trivial) (fun _ => trivial)
      exact (grants.levelCountTimer any).related run stand'

end Operations

/-- The links stand in every reachable state. -/
theorem reached_stands {proxy : Proxy} (reached : proxy.Reached)
    : LinksStand Set.univ proxy := by
  refine reached.invariant (LinksStand Set.univ) ?_ (fun _ _ _ => step_stands)
  rintro idle ⟨start, unused, init⟩
  have stand : LinksStand Set.univ start := by
    intro sid _ alive
    exact (Bool.false_ne_true ((unused.session sid).symm.trans alive)).elim
  have parts : ∀ part ∈ initParts, part.unlinked := by
    rintro part (rfl | ((rfl | rfl) | ⟨hid, rfl⟩) | ⟨hid, rfl⟩)
    all_goals exact trivial
  exact (initHelperUnit_within (frees_unlinked parts Set.univ)).related init stand

-----------------------------------------------------------------------------------------
-- Leaving a game
-----------------------------------------------------------------------------------------

/-- The timer of a live session's game unit completes the session. -/
theorem gameTimerNotify_completes {start next : Proxy} {sid : SessionId}
    (run : Yields (backendTimerNotify (.game sid)) start () next)
    (alive : (start.session sid).live = true)
    : next.accounts = start.accounts.leave sid := by
  have unitFrees : Frees {.scratch, (BackendId.game sid).part}
      (Conduct.relating (QuietlyServing sid)) := by
    refine frees_quietlyServing ?_ sid
    rintro part (rfl | rfl)
    all_goals exact trivial
  have timerFrees : Frees {(BackendId.game sid).timer}
      (Conduct.relating (QuietlyServing sid)) := by
    refine frees_quietlyServing ?_ sid
    rintro _ ⟨⟩
    exact trivial
  have uses' : Within (Conduct.relating (QuietlyServing sid)) (useUnit (.game sid)) :=
    useUnit_within (game_uses useSession_quietlyServing)
  obtain ⟨_, used, uses, rest⟩ := yields_bind.mp run
  obtain ⟨_, disarmed, disarms, loses⟩ := yields_bind.mp rest
  obtain ⟨_, reset, resets, completes⟩ := yields_bind.mp loses
  have disarmed' := (setTimer_within (.game sid) timerFrees false).related disarms
  have reset' := (resetHelper_within (.game sid) (game_uses useSession_quietlyServing)
    unitFrees).related resets
  have quiet : QuietlyServing sid start reset :=
    trans_of (QuietlyServing sid) (uses'.related uses)
      (trans_of (QuietlyServing sid) disarmed' reset')
  have same : reset.accounts = start.accounts := quiet alive
  have left := yields_complete (by rw [same]; exact alive) completes
  rw [left, same]

/-- In every reachable state, a game unit that the game server had dismissed and that has not
been used to send since is on its timer list without a connection, and its timer completes the
session.
-/
theorem dismissed_unit_timed {proxy : Proxy} (reached : proxy.Reached) {sid : SessionId}
    (alive : (proxy.session sid).live = true)
    (dismissed : (proxy.gameLife sid).dismissed = true)
    : (proxy.session sid).gameUnit.poller.netfd = -1
      ∧ (Event.backendTimer (.game sid)).Enabled proxy
      ∧ ∀ world next, Event.Step proxy (.backendTimer (.game sid), world) next
        → (next.session sid).live = false ∧ (next.life sid).completed = 1 := by
  obtain ⟨closed, armed⟩ := (reached_stands reached sid trivial alive).dismissed dismissed
  refine ⟨closed, ⟨alive, armed⟩, fun world next step => ?_⟩
  obtain ⟨_, run⟩ := step
  have standing := (reached_orderly reached).standing sid
  have timed := gameTimerNotify_completes run alive
  have left : next.accounts = proxy.accounts.leave sid := timed
  have dead : next.accounts.registry.live sid = false := by
    rw [left, Accounts.leave_registry, Registry.leave_live]
  have life : next.accounts.life sid = (proxy.accounts.life sid).ended := by
    rw [left, Accounts.leave_life standing alive]
  have completed : (next.accounts.life sid).completed = 1 := by
    rw [life, Life.ended, (standing.going alive).1]
  exact ⟨dead, completed⟩

/-- User 7 is assigned a room, plays, and leaves it again. -/
def roomExitRun : List Event := [
  .accept 1 33 0, .clientFrame 1 (loginFrame 7),
  .serverFrame (.helper 0) (roomFrame 7 65536 "3".toUTF8.toList 99),
  .clientFrame 1 (commandFrame 4098),
  .serverFrame (.game 1) (commandFrame serverCommandLogoutSuccess)
]

/-- The session of a user who has left his room is completed by the timer of its game unit. -/
theorem dismissed_unit_expires
    : (∃ proxy : Proxy, proxy.Reached ∧ (proxy.session 1).live = true
        ∧ (proxy.gameLife 1).dismissed = true ∧ (proxy.session 1).gameTimer = true)
      ∧ ∃ proxy : Proxy, proxy.Reached ∧ (proxy.session 1).live = false
        ∧ (proxy.gameLife 1).dismissed = true ∧ (proxy.life 1).completed = 1 := by
  obtain ⟨left, reached, dismissed⟩ := Proxy.unused_unused.run
    (roomExitRun.map Event.calmly)
    (fun proxy => (proxy.session 1).live = true ∧ (proxy.gameLife 1).dismissed = true
      ∧ (proxy.session 1).gameTimer = true) (by decide +kernel)
  obtain ⟨expired, reached', completed⟩ := Proxy.unused_unused.run
    ((roomExitRun ++ [Event.backendTimer (.game 1)]).map Event.calmly)
    (fun proxy => (proxy.session 1).live = false ∧ (proxy.gameLife 1).dismissed = true
      ∧ (proxy.life 1).completed = 1) (by decide +kernel)
  exact ⟨⟨left, reached, of_decide_eq_true dismissed⟩,
    ⟨expired, reached', of_decide_eq_true completed⟩⟩

/-- The timer of a unit that was dismissed when its user left is running. -/
theorem dismissed_unit_timed_after_exit
    : ∃ proxy : Proxy, (proxy.gameLife 1).dismissed = true
        ∧ (Event.backendTimer (.game 1)).Enabled proxy := by
  obtain ⟨proxy, reached, checked⟩ := Proxy.unused_unused.run (roomExitRun.map Event.calmly)
    (fun proxy => (proxy.session 1).live = true ∧ (proxy.gameLife 1).dismissed = true)
    (by decide +kernel)
  obtain ⟨alive, dismissed⟩ := of_decide_eq_true checked
  exact ⟨proxy, dismissed, (dismissed_unit_timed reached alive dismissed).2.1⟩

-----------------------------------------------------------------------------------------
-- Changing rooms
-----------------------------------------------------------------------------------------

/-- The room that a happening assigns. -/
def Happening.room : Happening → Option (Int × List UInt8 × Int)
  | .assigned _ assignment => some assignment.room
  | _ => none

/-- All rooms of one server id were assigned with one address and port. -/
def Proxy.NamesServers (proxy : Proxy) : Prop :=
  System.NamesServers (proxy.trace.filterMap Happening.room)

instance (proxy : Proxy) : Decidable proxy.NamesServers :=
  inferInstanceAs (Decidable (System.NamesServers _))

/-- The rooms of a session are among those that a run has shown, by induction on what it has
shown.
-/
theorem Proxy.gameLife_rooms (proxy : Proxy) (sid : SessionId)
    : ∀ room ∈ (proxy.gameLife sid).rooms, room ∈ proxy.trace.filterMap Happening.room := by
  rw [gameLife]
  induction proxy.trace using List.reverseRecOn with
  | nil => exact nofun
  | append_singleton trace happening ih =>
      rw [List.foldl_append, List.filterMap_append]
      have before := fun room member => List.mem_append_left
        ([happening].filterMap Happening.room) (ih room member)
      simp only [List.foldl_cons, List.foldl_nil]
      split
      · cases happening with
        | assigned sid' assignment =>
            intro room member
            rcases List.mem_cons.mp member with rfl | old
            · exact List.mem_append_right _ (List.mem_singleton.mpr rfl)
            · exact before room old
        | accepted sid' => exact nofun
        | _ => exact before
      · exact before

/-- In every reachable state in which rooms of one server id have all named one server, an open
connection of a session with a room was opened to the server of the room assigned last, unless
since it was opened a room of another server came in a login answer, or with a server id of 0 to
a unit without a room.
-/
theorem connection_leads_to_room {proxy : Proxy} (reached : proxy.Reached) {sid : SessionId}
    (alive : (proxy.session sid).live = true)
    (isOpen : 0 < (proxy.session sid).gameUnit.poller.netfd)
    (seated : 0 < (proxy.session sid).gameUnit.tid) (named : proxy.NamesServers)
    (covered : (proxy.gameLife sid).uncovered = false)
    : (proxy.gameLife sid).connected = (proxy.gameLife sid).assigned
      ∧ (proxy.gameLife sid).assigned = (proxy.session sid).gameUnit.server := by
  have stands := reached_stands reached sid trivial alive
  have server : (proxy.session sid).gameUnit.server
      = some ((proxy.session sid).gameUnit.addr, (proxy.session sid).gameUnit.port) :=
    if_pos isOpen
  have assigned : (proxy.gameLife sid).assigned = (proxy.session sid).gameUnit.server := by
    rw [server, GameLife.assigned]
    exact congrArg (Option.map Prod.snd) (stands.seated (ne_of_gt seated))
  refine ⟨?_, assigned⟩
  rw [assigned, server]
  exact stands.connected isOpen covered (named.mono (proxy.gameLife_rooms sid))

/-- User 7 plays in a room, and another login answer assigns him one of another server. -/
def roomChangeRun : List Event :=
  roomExitRun.take 4
    ++ [.serverFrame (.helper 0) (roomFrame 7 131072 "3".toUTF8.toList 100)]

/-- User 7 sends a game frame before he has a room, and enters one of a server with id 0. -/
def roomOfServerZeroRun : List Event := [
  .accept 1 33 0, .clientFrame 1 (loginFrame 7), .clientFrame 1 (commandFrame 4098),
  .serverFrame (.helper 0) (enterRoomFrame 7 1 "3".toUTF8.toList 99)
]

/-- An open connection leads to the server of the room that was assigned before the last, or to
that of no room.
-/
theorem connection_strays
    : (∃ proxy : Proxy, proxy.Reached ∧ proxy.NamesServers ∧ (proxy.session 1).live = true
        ∧ 0 < (proxy.session 1).gameUnit.poller.netfd ∧ 0 < (proxy.session 1).gameUnit.tid
        ∧ (proxy.gameLife 1).connected = some ("4".toUTF8.toList, 99)
        ∧ (proxy.gameLife 1).assigned = some ("4".toUTF8.toList, 100))
      ∧ ∃ proxy : Proxy, proxy.Reached ∧ proxy.NamesServers ∧ (proxy.session 1).live = true
        ∧ 0 < (proxy.session 1).gameUnit.poller.netfd ∧ 0 < (proxy.session 1).gameUnit.tid
        ∧ (proxy.gameLife 1).connected = some (noAddress, 0)
        ∧ (proxy.gameLife 1).assigned = some ("4".toUTF8.toList, 99) := by
  obtain ⟨proxy, reached, checked⟩ := Proxy.unused_unused.run (roomChangeRun.map Event.calmly)
    (fun proxy => proxy.NamesServers ∧ (proxy.session 1).live = true
      ∧ 0 < (proxy.session 1).gameUnit.poller.netfd ∧ 0 < (proxy.session 1).gameUnit.tid
      ∧ (proxy.gameLife 1).connected = some ("4".toUTF8.toList, 99)
      ∧ (proxy.gameLife 1).assigned = some ("4".toUTF8.toList, 100)) (by decide +kernel)
  obtain ⟨proxy', reached', checked'⟩ := Proxy.unused_unused.run
    (roomOfServerZeroRun.map Event.calmly)
    (fun proxy => proxy.NamesServers ∧ (proxy.session 1).live = true
      ∧ 0 < (proxy.session 1).gameUnit.poller.netfd ∧ 0 < (proxy.session 1).gameUnit.tid
      ∧ (proxy.gameLife 1).connected = some (noAddress, 0)
      ∧ (proxy.gameLife 1).assigned = some ("4".toUTF8.toList, 99)) (by decide +kernel)
  exact ⟨⟨proxy, reached, of_decide_eq_true checked⟩,
    ⟨proxy', reached', of_decide_eq_true checked'⟩⟩

/-- User 7 plays in a room, is moved to one of another server, and plays there. -/
def roomMoveRun : List Event :=
  roomExitRun.take 4
    ++ [.serverFrame (.helper 0) (enterRoomFrame 7 131072 "3".toUTF8.toList 100),
      .clientFrame 1 (commandFrame 4098)]

/-- The first game frame behind a change of rooms opens a connection to the new server. -/
theorem connection_leads_to_room_behind_move
    : ∃ proxy : Proxy, 0 < (proxy.session 1).gameUnit.poller.netfd
        ∧ (proxy.gameLife 1).rooms.length = 2
        ∧ (proxy.gameLife 1).connected = (proxy.gameLife 1).assigned
        ∧ (proxy.gameLife 1).assigned = (proxy.session 1).gameUnit.server := by
  obtain ⟨proxy, reached, checked⟩ := Proxy.unused_unused.run (roomMoveRun.map Event.calmly)
    (fun proxy => (proxy.session 1).live = true
      ∧ 0 < (proxy.session 1).gameUnit.poller.netfd ∧ 0 < (proxy.session 1).gameUnit.tid
      ∧ proxy.NamesServers ∧ (proxy.gameLife 1).uncovered = false
      ∧ (proxy.gameLife 1).rooms.length = 2) (by decide +kernel)
  obtain ⟨alive, isOpen, seated, named, covered, twice⟩ := of_decide_eq_true checked
  exact ⟨proxy, isOpen, twice, connection_leads_to_room reached alive isOpen seated named covered⟩

end ProxyServer.System
