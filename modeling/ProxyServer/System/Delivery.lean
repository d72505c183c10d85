import ProxyServer.System.Visits

/-! Whom a helper's frame reaches: the session of its user, and no other.
A helper is told of a user who has left, and counts of users go to their table only.
-/

namespace ProxyServer.System

open WordBytes Packets ProxyServer.Units
open FaultState Footprint

-----------------------------------------------------------------------------------------
-- Sessions that stay as they are
-----------------------------------------------------------------------------------------

/-- The session that a part belongs to, if any. -/
def Part.session? : Part → Option SessionId
  | .identity sid | .connType sid | .decoder sid | .gameTimer sid | .client sid
  | .received sid | .game sid | .room sid => some sid
  | _ => none

/-- A change of a part is seen in parts of the same session. -/
theorem Part.session?_seen {part shown : Part} (inside : shown ∈ part.seen)
    : shown.session? = part.session? := by
  cases part with
  | room sid =>
      obtain rfl := inside
      rfl
  | noted topic =>
      obtain ⟨other, rfl⟩ := inside
      rfl
  | _ =>
      obtain rfl := inside
      rfl

/-- A session is what is seen of it through its parts. -/
theorem Proxy.session_eq {start next : Proxy} {sid : SessionId}
    (same : ∀ part : Part, part.session? = some sid → next.view part = start.view part)
    : next.session sid = start.session sid := by
  have identity : (next.session sid).identity = (start.session sid).identity :=
    same (.identity sid) rfl
  have connType : (next.session sid).connType = (start.session sid).connType :=
    same (.connType sid) rfl
  have decoder : (next.session sid).decoder = (start.session sid).decoder :=
    same (.decoder sid) rfl
  have gameTimer : (next.session sid).gameTimer = (start.session sid).gameTimer :=
    same (.gameTimer sid) rfl
  have client : (next.session sid).webUnit = (start.session sid).webUnit :=
    same (.client sid) rfl
  have game : (next.session sid).gameUnit = (start.session sid).gameUnit :=
    same (.game sid) rfl
  generalize next.session sid = behind at *
  generalize start.session sid = before at *
  obtain ⟨live, rest⟩ := Prod.mk.inj identity
  obtain ⟨netfd, rest'⟩ := Prod.mk.inj decoder
  cases before
  cases behind
  simp only [Session.mk.injEq]
  exact ⟨live, (Prod.mk.inj rest).1, netfd, (Prod.mk.inj rest').1, connType, client, game,
    (Prod.mk.inj rest').2, gameTimer⟩

/-- The sessions but for the given ones are the same. -/
def SessionsKept (changed : Set SessionId) (start next : Proxy) : Prop :=
  ∀ sid ∉ changed, next.session sid = start.session sid

instance (changed : Set SessionId) : IsPreorder Proxy (SessionsKept changed) where
  refl := fun _ _ _ => rfl
  trans := fun _ _ _ first second sid outside => (second sid outside).trans (first sid outside)

/-- Changes in parts of the given sessions, or of none, keep the others. -/
theorem frees_sessionsKept {changed : Set SessionId} {parts : Set Part}
    (inside : ∀ part ∈ parts, ∀ sid, part.session? = some sid → sid ∈ changed)
    : Frees parts (Conduct.relating (SessionsKept changed)) := by
  refine frees_relating (fun part member start next changes sid outside => ?_)
  apply Proxy.session_eq
  intro shown owned
  apply changes.unchanged
  intro seen
  rw [Part.session?_seen seen] at owned
  exact outside (inside part member sid owned)

theorem helperParts_session? : ∀ part ∈ helperParts, part.session? = none := by
  rintro part ((rfl | ⟨hid, rfl⟩) | ⟨hid, rfl⟩)
  all_goals rfl

section Kept

variable {sid : SessionId}

/-- Parts of one session, or of none, are freed where this session may change. -/
theorem frees_own {parts : Set Part}
    (own : ∀ part ∈ parts, part.session? = none ∨ part.session? = some sid)
    : Frees parts (Conduct.relating (SessionsKept {sid})) := by
  refine frees_sessionsKept (fun part inside owner owned => ?_)
  obtain nobody | mine := own part inside
  · rw [nobody] at owned
    cases owned
  · exact Option.some.inj (owned.symm.trans mine)

theorem useSession_kept
    : Within (Conduct.relating (SessionsKept {sid})) (useSession sid) :=
  useSession_within sid (frees_own (by rintro _ rfl; exact Or.inl rfl))

theorem helpers_kept {changed : Set SessionId}
    : Frees helperParts (Conduct.relating (SessionsKept changed)) := by
  refine frees_sessionsKept (fun part inside sid owned => ?_)
  rw [helperParts_session? part inside] at owned
  cases owned

theorem nextSvid_kept {changed : Set SessionId}
    : Within (Conduct.relating (SessionsKept changed)) nextSvid := by
  refine nextSvid_within (frees_sessionsKept ?_) (fun _ => trivial)
  rintro _ rfl owner ⟨⟩

theorem deleteSession_kept
    : Within (Conduct.relating (SessionsKept {sid})) (deleteSession sid) := by
  have shows : Frees {.noted (.user sid)} (Conduct.relating (SessionsKept {sid})) :=
    frees_own (by rintro _ rfl; exact Or.inl rfl)
  have forgets : Frees {.objmap} (Conduct.relating (SessionsKept {sid})) :=
    frees_own (by rintro _ rfl; exact Or.inl rfl)
  have asks : Frees {.scratch} (Conduct.relating (SessionsKept {sid})) :=
    frees_own (by rintro _ rfl; exact Or.inl rfl)
  refine Within.bind useSession_kept (fun decoder => ?_)
  refine Within.bind (note_within shows) (fun _ => ?_)
  refine Within.bind (forget_within forgets _) (fun _ => ?_)
  refine Within.bind (ask_within asks) (fun answers => ?_)
  exact Within.modify (fun proxy other outside => Function.update_of_ne outside ..)

theorem complete_kept : Within (Conduct.relating (SessionsKept {sid})) (complete sid) := by
  have shows : ∀ happening : Happening, happening.topic = .user sid
      → Within (Conduct.relating (SessionsKept {sid})) (note happening) := by
    refine fun happening about => note_within (frees_own ?_)
    rw [about]
    rintro _ rfl
    exact Or.inl rfl
  exact complete_within helpers_kept (shows _ rfl) (fun _ => shows _ rfl) useSession_kept
    nextSvid_kept deleteSession_kept

/-- What is forwarded to a session changes no other one. -/
theorem forwardToClient_kept (cmd : Int) (szTemp : List UInt8) (tempPacket : NETInputPacket)
    : Within (Conduct.relating (SessionsKept {sid}))
        (forwardToClient sid cmd szTemp tempPacket) := by
  have forwards : Frees (forwardParts sid) (Conduct.relating (SessionsKept {sid})) := by
    apply frees_own
    rintro part (rfl | rfl | rfl)
    · exact Or.inl rfl
    · exact Or.inr rfl
    · exact Or.inr rfl
  have rooms : Frees {.scratch, .game sid, .room sid, .noted (.room sid)}
      (Conduct.relating (SessionsKept {sid})) := by
    apply frees_own
    rintro part (rfl | rfl | rfl | rfl)
    · exact Or.inl rfl
    · exact Or.inr rfl
    · exact Or.inr rfl
    · exact Or.inl rfl
  exact forwardToClient_within useSession_kept forwards (assignsRooms_within useSession_kept rooms)
    complete_kept cmd szTemp tempPacket

end Kept

-----------------------------------------------------------------------------------------
-- Packets for a user
-----------------------------------------------------------------------------------------

/-- The session is one that the user is logged in at. -/
def Proxy.LoggedInAs (proxy : Proxy) (uid : Int) (sid : SessionId) : Prop :=
  (proxy.session sid).live = true ∧ (proxy.session sid).webUnit.uid = uid ∧ 0 < uid

/-- Wherever a frame is handled, `m_objmap` has the session that a user is logged in at. -/
theorem Proxy.Visited.found_iff {proxy : Proxy} (visited : proxy.Visited) (uid : Int)
    (sid : SessionId)
    : proxy.pool.objmap[uid]? = some sid ↔ proxy.LoggedInAs uid sid := by
  have registered := visited.orderly.registered
  have flagged : (proxy.session sid).live = true
      → (proxy.session sid).webUnit.uid = (proxy.session sid).flag := registered.flagged sid
  constructor
  · intro entry
    obtain ⟨live, flag, positive⟩ := found_alive visited.orderly entry
    exact ⟨live, (flagged live).trans flag, positive⟩
  · rintro ⟨live, user, positive⟩
    have flag : (proxy.session sid).flag = uid := (flagged live).symm.trans user
    refine (registered.indexed uid sid).mpr ?_
    have positive : 0 < (proxy.session sid).flag := by omega
    have loggedIn : proxy.registry.user sid = some (proxy.session sid).flag :=
      if_pos ⟨live, positive⟩
    rw [← flag]
    exact loggedIn

/-- A user is logged in at one session at most. -/
theorem Proxy.Visited.loggedIn_unique {proxy : Proxy} (visited : proxy.Visited) {uid : Int}
    {sid sid' : SessionId} (first : proxy.LoggedInAs uid sid)
    (second : proxy.LoggedInAs uid sid')
    : sid = sid' := by
  have found := (visited.found_iff uid sid).mpr first
  rw [(visited.found_iff uid sid').mpr second] at found
  exact (Option.some.inj found).symm

section Packets

variable {uid : Int} {start next : Proxy}

theorem packetForUser_kept {sid : SessionId} {cmd : Int} {szTemp : List UInt8}
    {tempPacket : NETInputPacket} (found : start.pool.objmap[uid]? = some sid)
    (run : Yields (packetForUser uid cmd szTemp tempPacket) start () next)
    : SessionsKept {sid} start next := by
  obtain ⟨_, proxy, got, rest⟩ := yields_bind.mp run
  obtain ⟨rfl, rfl⟩ := yields_get.mp got
  rw [found] at rest
  exact (forwardToClient_kept cmd szTemp tempPacket).related rest

theorem closeUser_kept {sid : SessionId} (found : start.pool.objmap[uid]? = some sid)
    (run : Yields (closeUser uid) start () next)
    : SessionsKept {sid} start next := by
  have sets : Within (Conduct.relating (SessionsKept {sid})) (setConnType sid .other) := by
    refine setConnType_within sid (frees_own ?_) useSession_kept .other
    rintro _ rfl
    exact Or.inr rfl
  have notes : Within (Conduct.relating (SessionsKept {sid})) (note (.closedByServer sid)) :=
    note_within (frees_own (by rintro _ rfl; exact Or.inl rfl))
  obtain ⟨_, proxy, got, rest⟩ := yields_bind.mp run
  obtain ⟨rfl, rfl⟩ := yields_get.mp got
  rw [found] at rest
  exact (Within.bind notes (fun _ => Within.bind sets (fun _ => complete_kept))).related rest

theorem closeUser_absent (absent : start.pool.objmap[uid]? = none)
    (run : Yields (closeUser uid) start () next)
    : next = start := by
  obtain ⟨_, proxy, got, rest⟩ := yields_bind.mp run
  obtain ⟨rfl, rfl⟩ := yields_get.mp got
  rw [absent] at rest
  exact (yields_pure.mp rest).2

end Packets

-----------------------------------------------------------------------------------------
-- Notices of users who have left
-----------------------------------------------------------------------------------------

/-- Giving a packet to a helper shows that it is appended, and changes no session. -/
theorem giveToHelper_delivers (hid : HelperId) (packet : List UInt8) (start : Proxy)
    : Delivers (giveToHelper hid packet) start
        (fun _ next => next.trace = start.trace ++ [.appended (.helper hid) packet]
          ∧ next.session = start.session) := by
  have appends : Delivers (appendPkg (.helper hid) packet) start
      (fun _ next => next.trace = start.trace ++ [.appended (.helper hid) packet]
        ∧ next.session = start.session) :=
    ⟨(), _, rfl, rfl, rfl⟩
  have sends : ∀ state, Delivers (sendToLogic (.helper hid)) state
      (fun _ next => next.trace = state.trace ∧ next.session = state.session) := by
    intro state
    refine Delivers.bind ⟨(), state, rfl, Delivers.bind ⟨_, _, rfl, ?_⟩⟩
    refine Delivers.bind (Delivers.get (Delivers.bind ⟨(), _, rfl, ?_⟩))
    split
    · exact ⟨_, _, rfl, rfl, rfl⟩
    · exact ⟨_, _, rfl, rfl, rfl⟩
  refine Delivers.bind (appends.weaken (fun _ next shown => ?_))
  exact (sends next).weaken (fun _ _ same => ⟨same.1.trans shown.1, same.2.trans shown.2⟩)

/-- A notice of a user who has left is built without a fault. -/
theorem clientClose_contents (uid svid : Int)
    : ∃ packet, (clientClose uid svid).contents = .ok packet := by
  exact ⟨_, rfl⟩

/-- What has been asked from outside does not matter to `LoopSvid`. -/
theorem nextSvid_asked {start next : Proxy} {asked : Nat} {svid : Int}
    (run : Yields nextSvid { start with asked := asked } svid next)
    : Yields nextSvid start svid { next with asked := start.asked } := by
  obtain ⟨_, proxy, got, loops⟩ := yields_bind.mp run
  obtain ⟨rfl, rfl⟩ := yields_get.mp got
  obtain ⟨_, again, got', turning⟩ := yields_bind.mp loops
  obtain ⟨rfl, rfl⟩ := yields_get.mp got'
  obtain ⟨_, turned, turns, choice⟩ := yields_bind.mp turning
  obtain rfl := yields_modify.mp turns
  refine yields_bind.mpr ⟨_, _, yields_get.mpr ⟨rfl, rfl⟩, ?_⟩
  refine yields_bind.mpr ⟨_, _, yields_get.mpr ⟨rfl, rfl⟩, ?_⟩
  refine yields_bind.mpr ⟨(), _, yields_modify.mpr rfl, ?_⟩
  split at choice
  · rename_i listed
    obtain ⟨rfl, rfl⟩ := yields_pure.mp choice
    dsimp only at listed ⊢
    rw [listed]
    exact yields_pure.mpr ⟨rfl, rfl⟩
  · exact (not_yields_throw choice).elim

/-- One `CLIENT_CLOSE_PACKET` for the user is appended, to the helper that `LoopSvid` selects,
and no session changes.
-/
def NoticeGiven (uid : Int) (start next : Proxy) : Prop :=
  ∃ svid turned hid packet,
    Yields nextSvid start svid turned
      ∧ start.pool.helpermap[svid]? = some hid
      ∧ (clientClose uid start.global.svid).contents = .ok packet
      ∧ next.trace = start.trace ++ [.appended (.helper hid) packet]
      ∧ next.session = start.session

theorem sendClientClose_delivers {start : Proxy} (routed : Routed 0 start)
    (some : start.pool.svidlist ≠ []) (uid : Int)
    : Delivers (sendClientClose uid) start (fun _ next => NoticeGiven uid start next) := by
  obtain ⟨packet, contents⟩ := clientClose_contents uid start.global.svid
  obtain ⟨svid, turned, chooses, inside, loopNum, rfl⟩ := loopSvid_delivers some start
  obtain ⟨hid, entry⟩ := routed.listed svid inside
  have plains : Yields (plain (clientClose uid start.global.svid)) start packet start := by
    rw [plain, contents]
    exact yields_pure.mpr ⟨rfl, rfl⟩
  have next : Yields nextSvid start svid _ :=
    yields_bind.mpr ⟨_, _, yields_get.mpr ⟨rfl, rfl⟩, chooses⟩
  obtain ⟨ret, given, gives, shown, kept⟩ := giveToHelper_delivers hid packet
    { start with global := { start.global with loopNum := loopNum } }
  refine Delivers.bind (Delivers.get (Delivers.bind ⟨packet, start, plains, ?_⟩))
  dsimp only
  rw [if_neg some]
  refine Delivers.bind ⟨svid, _, next, Delivers.bind ⟨_, _, rfl, ?_⟩⟩
  dsimp only
  rw [entry]
  exact ⟨(), given, yields_discard.mpr ⟨ret, gives⟩, svid, _, hid, packet, next, entry, contents,
    shown, kept⟩

-----------------------------------------------------------------------------------------
-- Frames
-----------------------------------------------------------------------------------------

/-- Nothing has changed but the counts of users, and how much was asked from outside. -/
def OnlyLevelCounts (start next : Proxy) : Prop :=
  ∃ counts asked,
    next = { start with asked := asked, pool := { start.pool with levelCountMap := counts } }

instance : IsPreorder Proxy OnlyLevelCounts where
  refl := fun start => ⟨start.pool.levelCountMap, start.asked, rfl⟩
  trans := by
    rintro start _ _ ⟨counts, asked, rfl⟩ ⟨counts', asked', rfl⟩
    exact ⟨counts', asked', rfl⟩

theorem storeLevelCounts_only (pPacket : NETInputPacket)
    : Within (Conduct.relating OnlyLevelCounts) (storeLevelCounts pPacket) := by
  have reads : Frees ∅ (Conduct.relating OnlyLevelCounts) := frees_relating (fun _ => nofun)
  refine Within.bind (reading_within reads _ _) (fun read => ?_)
  exact Within.forM (fun pair _ => Within.modify (fun proxy => ⟨_, proxy.asked, rfl⟩))

/-- A frame of command `SERVER_CLOSE_PACKET` for `uid`. -/
structure ServerCloseFrame (frame : List UInt8) (uid : Int) : Prop where
  command : signed 16 (ofBytes ((frame.drop 6).take 2)) = serverClosePacket
  layout
    : ∃ uidBytes tail : List UInt8,
        frame.drop 9 = uidBytes ++ tail ∧ uidBytes.length = 4
        ∧ signed 32 (ofBytes uidBytes) = uid

section Frames

variable {frame inner : List UInt8} {uid : Int} {start : Proxy}

/-- `ReadInt` ends without a fault, also where the field is cut short. -/
theorem readInt_ends {packet : NETInputPacket} {rest : List UInt8} (unread : Unread packet rest)
    : ∃ value next, Yields InputPacket.readInt packet value next := by
  by_cases whole : 4 ≤ rest.length
  · rw [← List.take_append_drop 4 rest] at unread
    obtain ⟨next, run, -⟩ := unread.readIntBytes (by simp [whole])
    exact ⟨_, next, run⟩
  · have cursor := unread.cursor_eq
    have nonneg := unread.cursor_nonneg
    have room := unread.room
    have last : toInt32 (4 + packet.nBufPos) = 4 + packet.nBufPos :=
      toInt32_of_range (by omega) (by omega)
    refine ⟨-1, packet, yields_bind.mpr ⟨none, packet, ?_, yields_pure.mpr ⟨rfl, rfl⟩⟩⟩
    rw [Yields, PacketBase.read, last]
    exact if_pos (Or.inl (by omega))

/-- The order in a packet for a user is one, whatever is on the stack. -/
theorem clientPacket_order (packet : ClientPacketFrame frame uid inner)
    (fits : frame.length ≤ 8192) (stale staleTemp : NETInputPacket)
    : helperOrder stale staleTemp frame = .ok (innerOrder uid inner (copied default inner)) := by
  obtain ⟨small, order⟩ := packet.helperOrder_eq fits stale staleTemp
  rw [order, copied_eq staleTemp default small]

theorem serverClose_order (packet : ServerCloseFrame frame uid) (fits : frame.length ≤ 8192)
    (stale staleTemp : NETInputPacket)
    : helperOrder stale staleTemp frame = .ok (.closeClient uid) := by
  obtain ⟨uidBytes, tail, layout, width, uid_eq⟩ := packet.layout
  have length := congrArg List.length layout
  rw [List.length_append, List.length_drop] at length
  have header : headLen ≤ frame.length := by unfold headLen; omega
  have unread := copied_unread stale header fits
  rw [layout] at unread
  obtain ⟨afterUid, readUid, unread⟩ := unread.readIntBytes width
  obtain ⟨svid, afterSvid, readSvid⟩ := readInt_ends unread
  have command := (copied_getCmdType stale header fits).trans packet.command
  have run : Yields (readOrder staleTemp) (copied stale frame) (.closeClient uid) afterSvid := by
    refine yields_bind.mpr ⟨_, _, yields_get.mpr ⟨rfl, rfl⟩, ?_⟩
    refine yields_bind.mpr ⟨_, _, readUid, yields_bind.mpr ⟨_, _, readSvid, ?_⟩⟩
    rw [command, if_neg (by decide), if_pos rfl, uid_eq]
    exact yields_pure.mpr ⟨rfl, rfl⟩
  rw [helperOrder, run]
  rfl

/-- A frame whose order is known is handled by carrying it out. -/
theorem handleHelperFrame_eq {order : HelperOrder}
    (read : ∀ stale staleTemp, helperOrder stale staleTemp frame = .ok order) (start : Proxy)
    : handleHelperFrame frame start = obey order { start with asked := start.asked + 1 + 1 } := by
  change (ofExcept (helperOrder _ _ frame) >>= obey) { start with asked := start.asked + 1 + 1 }
    = _
  rw [read]
  rfl

/-- A packet for a user changes no session but the one he is logged in at. -/
theorem packetForUser_reaches (visited : start.Visited) {cmd : Int} {szTemp : List UInt8}
    {tempPacket : NETInputPacket} {next : Proxy}
    (run : Yields (packetForUser uid cmd szTemp tempPacket) start () next)
    : SessionsKept {sid | start.LoggedInAs uid sid} start next := by
  cases found : start.pool.objmap[uid]? with
  | none =>
      obtain ⟨_, proxy, got, rest⟩ := yields_bind.mp run
      obtain ⟨rfl, rfl⟩ := yields_get.mp got
      rw [found] at rest
      exact (sendClientClose_within helpers_kept nextSvid_kept uid).related rest
  | some sid =>
      have owner := (visited.found_iff uid sid).mp found
      intro other outside
      refine packetForUser_kept found run other ?_
      rintro rfl
      exact outside owner

/-- Closing a user changes no session but the one he is logged in at. -/
theorem closeUser_reaches (visited : start.Visited) {next : Proxy}
    (run : Yields (closeUser uid) start () next)
    : SessionsKept {sid | start.LoggedInAs uid sid} start next := by
  cases found : start.pool.objmap[uid]? with
  | none =>
      obtain rfl := closeUser_absent found run
      exact fun _ _ => rfl
  | some sid =>
      have owner := (visited.found_iff uid sid).mp found
      intro other outside
      refine closeUser_kept found run other ?_
      rintro rfl
      exact outside owner

/-- A user who is logged in nowhere is reported to a helper. -/
theorem packetForUser_absent (visited : start.Visited)
    (nobody : ∀ sid, ¬start.LoggedInAs uid sid) (some : start.pool.svidlist ≠ []) (cmd : Int)
    (szTemp : List UInt8) (tempPacket : NETInputPacket)
    : Delivers (packetForUser uid cmd szTemp tempPacket) start
        (fun _ next => NoticeGiven uid start next) := by
  have absent : start.pool.objmap[uid]? = none := by
    cases found : start.pool.objmap[uid]? with
    | none => rfl
    | some sid => exact (nobody sid ((visited.found_iff uid sid).mp found)).elim
  refine Delivers.bind (Delivers.get ?_)
  rw [absent]
  exact sendClientClose_delivers visited.routed some uid

/-- A notice is the same whatever has been asked from outside. -/
theorem NoticeGiven.asked {asked : Nat} {next : Proxy}
    (given : NoticeGiven uid { start with asked := asked } next)
    : NoticeGiven uid start next := by
  obtain ⟨svid, turned, hid, packet, next, entry, contents, shown, kept⟩ := given
  exact ⟨svid, _, hid, packet, nextSvid_asked next, entry, contents, shown, kept⟩

theorem Proxy.Visited.asked (visited : start.Visited) (asked : Nat)
    : ({ start with asked := asked } : Proxy).Visited := by
  have scratch : Proxy.Changes .scratch start { start with asked := asked } := by
    intro part outside
    cases part <;> first | rfl | exact absurd rfl outside
  exact visited.around (show Part.scratch.around from trivial) scratch

end Frames

/-- The packet in `roomFrame 7 65536 [51] 99`. -/
def roomPacket : List UInt8 :=
  (roomFrame 7 65536 [51] 99).drop 21

theorem roomFrame_clientPacket : ClientPacketFrame (roomFrame 7 65536 [51] 99) 7 roomPacket where
  framed := by
    rw [Framed]
    decide +kernel
  admitted := by decide +kernel
  command := by decide +kernel
  layout := ⟨[0, 0, 0, 7], [0, 0, 0, 1], [], by decide +kernel⟩

end ProxyServer.System
