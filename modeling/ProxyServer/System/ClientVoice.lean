import ProxyServer.System.LoginHistory

/-! For whom a client's frames speak. Nothing goes to a server before the client has logged in,
and from then on what goes to a helper in an envelope carries the uid of the login.
-/

namespace ProxyServer.System

open Packets ProxyServer.Units
open WordBytes
open FaultState Footprint

-----------------------------------------------------------------------------------------
-- Packets
-----------------------------------------------------------------------------------------

/-- The command of a packet, where `GetCmdType` finds it. -/
def commandOf (buf : List UInt8) : Int :=
  signed 16 (ofBytes ((buf.drop 6).take 2))

/-- Whom an envelope is from: the `int` behind its header. -/
def senderOf (buf : List UInt8) : Int :=
  signed 32 (ofBytes ((buf.drop 9).take 4))

theorem commandOf_carries {packet : NETOutputPacket} {command : Int} {payload : List UInt8}
    (carries : Carries packet command payload)
    : commandOf packet.bytes = signed 16 (ofBytes (toBytes 2 (unsigned 16 command))) := by
  have size := carries.size_eq
  rw [commandOf, PacketBase.bytes, CellStore.drop_read _ _ _ _ (by omega),
    CellStore.take_read _ _ _ _ (by omega), Nat.zero_add, carries.command_eq]

theorem senderOf_carries {packet : NETOutputPacket} {command uid : Int} {rest : List UInt8}
    (carries : Carries packet command (toBytes 4 (unsigned 32 uid) ++ rest))
    (low : -2147483648 ≤ uid) (high : uid < 2147483648)
    : senderOf packet.bytes = uid := by
  have size := carries.size_eq
  have payload := congrArg (List.take 4) carries.payload_eq
  rw [List.length_append, length_toBytes] at size payload
  rw [CellStore.take_read _ _ _ _ (by omega), List.take_left' (length_toBytes ..)] at payload
  rw [senderOf, PacketBase.bytes, CellStore.drop_read _ _ _ _ (by omega),
    CellStore.take_read _ _ _ _ (by omega), Nat.zero_add, payload,
    ofBytes_toBytes_unsigned 4 uid]
  exact signed_unsigned (by omega) (by norm_num; exact low) (by norm_num; exact high)

/-- A binary is its length and its bytes. -/
theorem writeBinary_run (pBuf : List UInt8) (packet : NETOutputPacket)
    : OutputPacket.writeBinary pBuf packet
      = OutputPacket.writeRaw pBuf
        (OutputPacket.writeRaw (toBytes 4 (unsigned 32 pBuf.length)) packet).2 :=
  rfl

/-- The uid is written, whether or not there is room for the data. -/
theorem envelopeWrites_uid (uid svid : Int) (ip : Nat) (api : Int) (data : List UInt8)
    : ∃ rest, rest.length ≤ 8179
        ∧ Carries ((envelopeWrites uid svid ip api data).run envelopeStart).2 clientPacket2
          (toBytes 4 (unsigned 32 uid) ++ rest) := by
  have started : Carries envelopeStart clientPacket2 [] := carries_beginPacket _ _
  by_cases room : 27 + data.length ≤ 8192
  · obtain ⟨-, carries⟩ := envelopeWrites_payload started uid svid ip api room
    have width := @length_envelopePayload uid svid ip api data
    rw [envelopePayload] at carries width
    simp only [List.append_assoc] at carries width
    rw [List.length_append, length_toBytes] at width
    exact ⟨_, by omega, carries⟩
  · have first := (started.writeRaw (toBytes 4 (unsigned 32 uid))
      (by simp only [List.length_append, length_toBytes, List.length_nil]; omega)).2
    have second := (first.writeRaw (toBytes 4 (unsigned 32 svid))
      (by simp only [List.length_append, length_toBytes, List.length_nil]; omega)).2
    have third := (second.writeRaw (toBytes 4 (unsigned 32 (toInt32 ip)))
      (by simp only [List.length_append, length_toBytes, List.length_nil]; omega)).2
    have fourth := (third.writeRaw (toBytes 2 (unsigned 16 api))
      (by simp only [List.length_append, length_toBytes, List.length_nil]; omega)).2
    have fifth := (fourth.writeRaw (toBytes 4 (unsigned 32 data.length))
      (by simp only [List.length_append, length_toBytes, List.length_nil]; omega)).2
    have size := fifth.size_eq
    simp only [List.length_append, length_toBytes, List.length_nil] at size
    have full := congrArg Prod.snd (@writeRaw_full 8192 _ data (by rw [size]; omega))
    rw [← full] at fifth
    simp only [List.nil_append, List.append_assoc] at fifth
    rw [envelopeWrites, run_five]
    dsimp only
    rw [writeBinary_run]
    refine ⟨_, ?_, fifth⟩
    simp only [List.length_append, length_toBytes]
    omega

theorem envelope_carries_uid (uid svid : Int) (ip : Nat) (api : Int) (data : List UInt8)
    : ∃ rest,
        Carries (envelope uid svid ip api data) clientPacket2
          (toBytes 4 (unsigned 32 uid) ++ rest) := by
  obtain ⟨rest, short, carries⟩ := envelopeWrites_uid uid svid ip api data
  rw [envelope_eq]
  refine ⟨rest, (carries.endPacket ?_).1⟩
  rw [List.length_append, length_toBytes]
  omega

theorem bytes_of_contents {packet : NETOutputPacket} {buf : List UInt8}
    (contents : packet.contents = .ok buf)
    : buf = packet.bytes := by
  unfold PacketBase.contents at contents
  split at contents
  · cases contents
  · exact (Except.ok.inj contents).symm

/-- A notice of a user who has left is no envelope. -/
theorem clientClose_command {uid svid : Int} {buf : List UInt8}
    (contents : (clientClose uid svid).contents = .ok buf)
    : commandOf buf = clientClosePacket := by
  have started : Carries ((OutputPacket.ofStale default).beginPacket clientClosePacket
      : NETOutputPacket) clientClosePacket [] := carries_beginPacket _ _
  have first := (started.writeRaw (toBytes 4 (unsigned 32 uid))
    (by simp only [List.length_append, length_toBytes, List.length_nil]; omega)).2
  have second := (first.writeRaw (toBytes 4 (unsigned 32 svid))
    (by simp only [List.length_append, length_toBytes, List.length_nil]; omega)).2
  have ended := (second.endPacket (by
    simp only [List.length_append, length_toBytes, List.length_nil]
    omega)).1
  have command : commandOf (clientClose uid svid).bytes
      = signed 16 (ofBytes (toBytes 2 (unsigned 16 clientClosePacket))) :=
    commandOf_carries ended
  rw [bytes_of_contents contents, command]
  decide

-----------------------------------------------------------------------------------------
-- What is appended
-----------------------------------------------------------------------------------------

/-- Everything that is appended between the two states is sayable. -/
def Utters (sayable : BackendId → List UInt8 → Prop) (start next : Proxy) : Prop :=
  ∃ shown, next.trace = start.trace ++ shown
    ∧ ∀ unit buf, .appended unit buf ∈ shown → sayable unit buf

section Utters

variable {sayable : BackendId → List UInt8 → Prop} {sid : SessionId}

theorem Utters.of_same {start next : Proxy} (same : next.trace = start.trace)
    : Utters sayable start next :=
  ⟨[], by rw [same, List.append_nil], nofun⟩

theorem Utters.trans {first second third : Proxy} (before : Utters sayable first second)
    (after : Utters sayable second third)
    : Utters sayable first third := by
  obtain ⟨shown, trace, said⟩ := before
  obtain ⟨more, trace', said'⟩ := after
  refine ⟨shown ++ more, by rw [trace', trace, List.append_assoc], fun unit buf inside => ?_⟩
  rcases List.mem_append.mp inside with early | late
  · exact said unit buf early
  · exact said' unit buf late

instance : IsPreorder Proxy (Utters sayable) where
  refl := fun _ => Utters.of_same rfl
  trans := fun _ _ _ => Utters.trans

/-- Changes that are not seen in a link utter nothing. -/
theorem Utters.of_changes {part : Part} {start next : Proxy}
    (said : ∀ unit, part = .noted (.link unit) → ∀ buf, sayable unit buf)
    (changes : Proxy.Changes part start next)
    : Utters sayable start next := by
  have same := changes.unchanged
  cases part with
  | noted topic =>
      obtain ⟨happening, rfl, rfl⟩ := changes
      refine ⟨[happening], rfl, fun unit buf inside => ?_⟩
      obtain rfl := List.mem_singleton.mp inside
      exact said unit rfl buf
  | _ => exact Utters.of_same (same (.noted (.frame 0)) (by simp [Part.seen]))

theorem frees_utters {parts : Set Part}
    (apart : ∀ part ∈ parts, ∀ unit, part ≠ .noted (.link unit))
    : Frees parts (Conduct.relating (Utters sayable)) :=
  frees_relating (fun part inside _ _ changes =>
    Utters.of_changes (fun unit equal => (apart part inside unit equal).elim) changes)

theorem useSession_utters (sid : SessionId)
    : Within (Conduct.relating (Utters sayable)) (useSession sid) :=
  useSession_within sid (frees_utters (by simp))

theorem note_utters {happening : Happening} (apart : ∀ unit, happening.topic ≠ .link unit)
    : Within (Conduct.relating (Utters sayable)) (note happening) := by
  refine note_within (frees_utters ?_)
  rintro _ ⟨⟩ unit equal
  exact apart unit (Part.noted.inj equal)

theorem giveToHelper_utters {hid : HelperId} {packet : List UInt8}
    (said : sayable (.helper hid) packet)
    : Within (Conduct.relating (Utters sayable)) (giveToHelper hid packet) := by
  refine within_relating (fun {start _ _} run => ?_)
  have shown := ((giveToHelper_delivers hid packet start).of_yields run).1
  refine ⟨[.appended (.helper hid) packet], shown, fun unit buf inside => ?_⟩
  cases List.mem_singleton.mp inside
  exact said

-----------------------------------------------------------------------------------------
-- Logging in
-----------------------------------------------------------------------------------------

section Closes

variable
  (closes
    : ∀ hid buf, commandOf buf = clientClosePacket → sayable (.helper hid) buf)

include closes

theorem processUserClose_utters (sid : SessionId)
    : Within (Conduct.relating (Utters sayable)) (processUserClose sid) := by
  have scratch : Frees {.scratch} (Conduct.relating (Utters sayable)) :=
    frees_utters (by simp)
  have turn : Within (Conduct.relating (Utters sayable)) nextSvid :=
    nextSvid_within (frees_utters (by simp)) (fun _ => trivial)
  refine Within.bind (useSession_utters sid) (fun decoder => ?_)
  refine Within.ite (Within.pure _) ?_
  refine Within.bind (note_utters nofun) (fun _ => ?_)
  refine Within.bind Within.get (fun proxy => ?_)
  refine Within.step (plain_within scratch _) (fun _ packet next plains => ?_)
  have command := clientClose_command (yields_ofExcept_iff.mp plains).1
  have gives : Within (Conduct.relating (Utters sayable)) (do
      let svid ← closeSvid decoder.gameUnit.tid
      giveToHelperOf svid packet) := by
    refine Within.bind (closeSvid_within turn _) (fun svid => ?_)
    refine Within.bind (findHelper_within svid) (fun found => ?_)
    cases found with
    | none => exact Within.pure _
    | some hid =>
        have gives := giveToHelper_utters (closes hid packet command)
        exact Within.bind gives (fun _ => Within.pure _)
  exact gives next

theorem complete_utters (sid : SessionId)
    : Within (Conduct.relating (Utters sayable)) (complete sid) := by
  have parts : Frees {.scratch, .objmap} (Conduct.relating (Utters sayable)) :=
    frees_utters (by simp)
  have deletes : Within (Conduct.relating (Utters sayable)) (deleteSession sid) := by
    refine Within.bind (useSession_utters sid) (fun decoder => ?_)
    refine Within.bind (note_utters nofun) (fun _ => ?_)
    refine Within.bind (forget_within (parts.mono (by simp)) _) (fun _ => ?_)
    refine Within.bind (ask_within (parts.mono (by simp))) (fun answers => ?_)
    exact Within.modify (fun _ => Utters.of_same rfl)
  refine Within.bind (note_utters nofun) (fun _ => ?_)
  refine Within.bind (useSession_utters sid) (fun decoder => Within.ite ?_ deletes)
  exact Within.bind (processUserClose_utters closes sid) (fun _ => deletes)

theorem login_utters (sid : SessionId) (reqPacket : NETInputPacket)
    : Within (Conduct.relating (Utters sayable)) (login sid reqPacket) := by
  have kicks : ∀ other, Within (Conduct.relating (Utters sayable)) (kick other) :=
    fun other => kick_within (frees_utters (by simp)) (note_utters nofun)
      (useSession_utters other) (complete_utters closes other)
  have none : Frees ∅ (Conduct.relating (Utters sayable)) := frees_utters (by simp)
  refine login_within none (fun _ _ => note_utters nofun) (useSession_utters sid) kicks ?_
    reqPacket
  exact fun uid api => Within.bind (note_utters nofun)
    (fun _ => Within.modify (fun _ => Utters.of_same rfl))

end Closes

end Utters

/-- A login that goes on leaves its session with a uid, and so does one that was given up behind
the kick.
-/
theorem login_user {sid : SessionId} {reqPacket : NETInputPacket} {start next : Proxy}
    {goesOn : Bool} (serving : Serving sid start)
    (run : Yields (login sid reqPacket) start goesOn next)
    : goesOn = false ∧ next = start ∨ 0 < (next.session sid).webUnit.uid := by
  obtain ⟨read, _, reads, rest⟩ := yields_bind.mp run
  obtain ⟨-, rfl⟩ := yields_ofExcept_iff.mp reads
  split at rest
  · exact Or.inl (yields_pure.mp rest)
  · rename_i positive
    obtain ⟨_, kicked, kicks, rest⟩ := yields_bind.mp rest
    obtain ⟨serving', -, -⟩ := kickOther_kept serving kicks
    obtain ⟨session, used, uses, rest⟩ := yields_bind.mp rest
    obtain ⟨rfl, rfl⟩ := yields_useSession serving'.alive uses
    split at rest
    · rename_i other
      obtain ⟨-, rfl⟩ := yields_pure.mp rest
      exact Or.inr other.1
    · obtain ⟨_, entered, enters, ends⟩ := yields_bind.mp rest
      obtain ⟨-, rfl⟩ := yields_pure.mp ends
      obtain ⟨_, noted, notes, enters⟩ := yields_bind.mp enters
      obtain rfl := yields_modify.mp notes
      obtain rfl := yields_modify.mp enters
      have entered := Proxy.updateSession_same sid (Session.enter read.1.1 read.1.2)
        (used.record (.loggedIn sid read.1.1))
      have user := congrArg (fun session => session.webUnit.uid) entered
      exact Or.inr (lt_of_lt_of_eq (by exact not_le.mp positive) user.symm)

-----------------------------------------------------------------------------------------
-- Speaking for a user
-----------------------------------------------------------------------------------------

/-- What a session of a user may append: anything to its own game unit, and to helpers envelopes
of the user, if the frame's command is listed. A notice of a user who has left is no envelope.
-/
structure Sayable (sid : SessionId) (uid : Int) (listed : Prop) (unit : BackendId)
    (buf : List UInt8)
    : Prop where
  user : 0 < uid
  game : ∀ other, unit = .game other → other = sid
  envelope
    : ∀ hid, unit = .helper hid → commandOf buf = clientPacket2
      → senderOf buf = uid ∧ listed

/-- A session of the user stays his, and what is appended is sayable for it. -/
def Speaks (sid : SessionId) (uid : Int) (listed : Prop) (start next : Proxy) : Prop :=
  (start.session sid).webUnit.uid = uid
    → (next.session sid).webUnit.uid = uid ∧ Utters (Sayable sid uid listed) start next

/-- What is appended is sayable for whom the session is at the end. -/
def Voiced (sid : SessionId) (listed : Prop) (start next : Proxy) : Prop :=
  Utters (Sayable sid (next.session sid).webUnit.uid listed) start next

section Speaks

variable {sid : SessionId} {uid : Int} {listed : Prop} {start next : Proxy}

instance : IsPreorder Proxy (Speaks sid uid listed) where
  refl := fun _ user => ⟨user, Utters.of_same rfl⟩
  trans := fun _ _ _ before after user =>
    have first := before user
    have second := after first.1
    ⟨second.1, first.2.trans second.2⟩

theorem Speaks.voiced (speaks : Speaks sid (start.session sid).webUnit.uid listed start next)
    : Voiced sid listed start next := by
  obtain ⟨same, utters⟩ := speaks rfl
  rw [Voiced, same]
  exact utters

/-- Changes that keep the session's user, with links to its game unit if it has one. -/
theorem frees_speaks {parts : Set Part}
    (apart
      : ∀ part ∈ parts, part ≠ .identity sid
        ∧ ∀ unit, part = .noted (.link unit) → 0 < uid ∧ unit = .game sid)
    : Frees parts (Conduct.relating (Speaks sid uid listed)) := by
  refine frees_relating (fun part inside start next changes user => ?_)
  obtain ⟨identity, links⟩ := apart part inside
  have outside : .identity sid ∉ part.seen := by
    cases part with
    | identity other =>
        intro equal
        cases equal
        exact identity rfl
    | _ => simp [Part.seen]
  have same : (next.session sid).identity = (start.session sid).identity :=
    changes.unchanged (.identity sid) outside
  refine ⟨(congrArg (fun identity => identity.2.2.1) same).trans user, ?_⟩
  refine Utters.of_changes (fun unit equal buf => ?_) changes
  obtain ⟨positive, rfl⟩ := links unit equal
  exact ⟨positive, fun other own => (BackendId.game.inj own).symm, by simp⟩

theorem useSession_speaks (other : SessionId)
    : Within (Conduct.relating (Speaks sid uid listed)) (useSession other) :=
  useSession_within other (frees_speaks (by simp))

/-- The envelope of a user's session is his. -/
theorem sendPacketToHelperUnit_speaks (positive : 0 < uid) (small : uid < 2147483648)
    (listed' : listed) (hid : HelperId) (data : List UInt8)
    : Within (Conduct.relating (Speaks sid uid listed))
        (sendPacketToHelperUnit sid hid data) := by
  refine within_relating (fun {start ret next} run user => ?_)
  obtain ⟨session, used, uses, rest⟩ := yields_bind.mp run
  obtain ⟨user', shown⟩ := (@useSession_speaks sid uid listed sid).related uses user
  obtain ⟨rfl, -⟩ := useSession_shows uses
  obtain ⟨_, looked, got, builds⟩ := yields_bind.mp rest
  obtain ⟨rfl, rfl⟩ := yields_get.mp got
  clear got rest run
  obtain ⟨packet, plained, plains, gives⟩ := yields_bind.mp builds
  obtain ⟨contents, rfl⟩ := yields_ofExcept_iff.mp plains
  obtain rfl := bytes_of_contents contents
  obtain ⟨rest, carries⟩ := envelope_carries_uid (start.session sid).webUnit.uid
    plained.global.svid (start.session sid).ip (start.session sid).webUnit.api data
  rw [user] at carries
  have sender := senderOf_carries carries (by omega) small
  have said : Sayable sid uid listed (.helper hid) (envelope uid plained.global.svid
      (start.session sid).ip (start.session sid).webUnit.api data).bytes :=
    ⟨positive, nofun, fun _ _ _ => ⟨sender, listed'⟩⟩
  rw [← user] at said
  have same := ((giveToHelper_delivers hid _ _).of_yields gives).2
  rw [same]
  rw [user] at said gives
  exact ⟨user', shown.trans ((giveToHelper_utters said).related gives)⟩

end Speaks

-----------------------------------------------------------------------------------------
-- Frames
-----------------------------------------------------------------------------------------

/-- A live session's uid is in the range of its type. -/
theorem Faithful.small {proxy : Proxy} (faithful : Faithful proxy) {sid : SessionId}
    (alive : (proxy.session sid).live = true)
    : (proxy.session sid).webUnit.uid < 2147483648 := by
  have devoted := faithful sid alive
  by_cases positive : 0 < (proxy.session sid).webUnit.uid
  · exact (devoted.same _ (devoted.earned positive)).2.2
  · omega

section Frames

variable {sid : SessionId} {listed : Prop} {start next : Proxy} {reqPacket : NETInputPacket}
  {pData : List UInt8} {ret cmd : Int}

theorem nextSvid_speaks {uid : Int}
    : Within (Conduct.relating (Speaks sid uid listed)) nextSvid :=
  nextSvid_within (frees_speaks (by simp)) (fun _ => trivial)

/-- The commands of the game server are refused to anonymous clients. -/
theorem handleGameCmd_voiced (alive : (start.session sid).live = true)
    (run : Yields (handleGameCmd sid reqPacket cmd pData) start ret next)
    : Voiced sid listed start next := by
  by_cases positive : 0 < (start.session sid).webUnit.uid
  · have parts : Frees {.scratch, .game sid, .noted (.link (.game sid)), .room sid,
        .gameTimer sid, .noted (.room sid)}
        (Conduct.relating (Speaks sid (start.session sid).webUnit.uid listed)) :=
      frees_speaks (by simp [positive])
    have uses := @useSession_speaks sid (start.session sid).webUnit.uid listed sid
    have sends : Within
        (Conduct.relating (Speaks sid (start.session sid).webUnit.uid listed))
        (sendToLogic (.game sid)) := by
      refine sendToLogic_within (.game sid) (game_uses uses) (parts.mono (by
        simp [Set.insert_subset_iff, BackendId.route, BackendId.timer])) ?_
      exact fun _ _ => Within.ite (note_within (parts.mono (by simp [Happening.topic])))
        (Within.pure _)
    have commands := handleGameCmd_within uses
      (parts.mono (by simp [Set.insert_subset_iff])) sends reqPacket cmd pData
    exact (commands.related run).voiced
  · obtain ⟨session, used, looks, rest⟩ := yields_bind.mp run
    obtain ⟨rfl, rfl⟩ := yields_useSession alive looks
    obtain ⟨_, proxy, got, rest⟩ := yields_bind.mp rest
    obtain ⟨rfl, rfl⟩ := yields_get.mp got
    rw [if_pos (by omega)] at rest
    obtain ⟨-, rfl⟩ := yields_pure.mp rest
    exact Utters.of_same rfl

/-- An anonymous client gets no choice. -/
theorem ifLoggedIn_anonymous {choice : ProxyM Choice} {chosen : Choice}
    (alive : (start.session sid).live = true)
    (anonymous : (start.session sid).webUnit.uid ≤ 0)
    (run : Yields (ifLoggedIn sid choice) start chosen next)
    : chosen = .result (-1) ∧ next = start := by
  obtain ⟨session, used, uses, rest⟩ := yields_bind.mp run
  obtain ⟨rfl, rfl⟩ := yields_useSession alive uses
  rw [if_pos anonymous] at rest
  exact yields_pure.mp rest

/-- Before a login, no helper is chosen and nothing is given to one. -/
theorem chooseHelper_anonymous {choice : Choice} (alive : (start.session sid).live = true)
    (anonymous : (start.session sid).webUnit.uid ≤ 0) (other : cmd ≠ clientCmdClientLogin)
    (run : Yields (chooseHelper sid cmd reqPacket) start choice next)
    : (∃ ret, choice = .result ret) ∧ Voiced sid listed start next := by
  obtain ⟨_, proxy, got, branches⟩ := yields_bind.mp run
  obtain ⟨rfl, rfl⟩ := yields_get.mp got
  clear got run
  have parts : Frees {.scratch, .client sid, .levelCounts}
      (Conduct.relating (Speaks sid (proxy.session sid).webUnit.uid listed)) :=
    frees_speaks (by simp)
  split at branches
  · obtain ⟨rfl, rfl⟩ := yields_pure.mp branches
    exact ⟨⟨_, rfl⟩, Utters.of_same rfl⟩
  split at branches
  · obtain ⟨rfl, rfl⟩ := ifLoggedIn_anonymous alive anonymous branches
    exact ⟨⟨_, rfl⟩, Utters.of_same rfl⟩
  split at branches
  · obtain ⟨ret, asked, asks, ends⟩ := yields_bind.mp branches
    obtain ⟨rfl, rfl⟩ := yields_pure.mp ends
    obtain ⟨session, used, uses, rest⟩ := yields_bind.mp asks
    obtain ⟨rfl, rfl⟩ := yields_useSession alive uses
    rw [if_pos anonymous] at rest
    obtain ⟨-, rfl⟩ := yields_pure.mp rest
    exact ⟨⟨_, rfl⟩, Utters.of_same rfl⟩
  split at branches
  · obtain ⟨rfl, rfl⟩ := ifLoggedIn_anonymous alive anonymous branches
    exact ⟨⟨_, rfl⟩, Utters.of_same rfl⟩
  split at branches
  · obtain ⟨ret, replied, replies, ends⟩ := yields_bind.mp branches
    obtain ⟨rfl, rfl⟩ := yields_pure.mp ends
    have counts := levelUserCount_within (parts.mono (by simp))
    have answers := processGetLevelCount_within (useSession_speaks sid)
      (parts.mono (by simp [Set.insert_subset_iff])) counts reqPacket
    exact ⟨⟨_, rfl⟩, (answers.related replies).voiced⟩
  obtain ⟨rfl, rfl⟩ := ifLoggedIn_anonymous alive anonymous branches
  exact ⟨⟨_, rfl⟩, Utters.of_same rfl⟩

/-- A frame whose command is not listed is ignored. -/
theorem chooseHelper_unlisted {choice : Choice} (unlisted : cmd ∉ start.pool.cmdlist)
    (run : Yields (chooseHelper sid cmd reqPacket) start choice next)
    : choice = .result 0 ∧ next = start := by
  obtain ⟨_, proxy, got, branches⟩ := yields_bind.mp run
  obtain ⟨rfl, rfl⟩ := yields_get.mp got
  rw [if_pos unlisted] at branches
  exact yields_pure.mp branches

/-- A login frame speaks for the user who is logged in behind it. -/
theorem login_voiced (serving : Serving sid start) (faithful : Faithful start)
    (chosen : listed)
    (run
      : Yields
        (do let choice ← chooseAtLogin sid reqPacket; forward sid cmd pData choice)
        start ret next)
    : Voiced sid listed start next := by
  obtain ⟨choice, chose, chooses, forwards⟩ := yields_bind.mp run
  obtain ⟨goesOn, entered, logins, rest⟩ := yields_bind.mp chooses
  have alive : (entered.session sid).live = true :=
    ((login_serving reqPacket).related logins serving).alive
  have small := ((login_faithful sid reqPacket).related logins faithful).small alive
  rcases login_user serving logins with ⟨rfl, rfl⟩ | positive
  · obtain ⟨rfl, rfl⟩ := yields_pure.mp rest
    obtain ⟨-, rfl⟩ := yields_pure.mp forwards
    exact Utters.of_same rfl
  · have speaks : Speaks sid (entered.session sid).webUnit.uid listed entered next := by
      have gives := @sendPacketToHelperUnit_speaks sid _ listed positive small chosen
      have forwarding := (forward_within gives cmd pData choice).related forwards
      have chooses : Within
          (Conduct.relating (Speaks sid (entered.session sid).webUnit.uid listed))
          (if goesOn then chooseNext else pure (.result (-1))) :=
        Within.ite (chooseNext_within nextSvid_speaks) (Within.pure _)
      exact IsTrans.trans _ _ _ (chooses.related rest) forwarding
    have closes : ∀ hid buf, commandOf buf = clientClosePacket
        → Sayable sid (entered.session sid).webUnit.uid listed (.helper hid) buf := by
      refine fun hid buf command => ⟨positive, nofun, fun _ _ same => ?_⟩
      rw [command] at same
      exact absurd same (by decide)
    obtain ⟨same, utters⟩ := speaks rfl
    rw [Voiced, same]
    exact ((login_utters closes sid reqPacket).related logins).trans utters

/-- `HandleInputBuf` from `CheckCmd` on. -/
theorem chosen_voiced (serving : Serving sid start) (faithful : Faithful start)
    (run
      : Yields
        (do let choice ← chooseHelper sid cmd reqPacket; forward sid cmd pData choice)
        start ret next)
    : Voiced sid (cmd ∈ start.pool.cmdlist) start next := by
  have alive : (start.session sid).live = true := serving.alive
  by_cases chosen : cmd ∈ start.pool.cmdlist
  · by_cases login : cmd = clientCmdClientLogin
    · subst login
      obtain ⟨choice, chose, chooses, forwards⟩ := yields_bind.mp run
      obtain ⟨_, proxy, got, branches⟩ := yields_bind.mp chooses
      obtain ⟨rfl, rfl⟩ := yields_get.mp got
      rw [if_neg (not_not.mpr chosen), if_neg (by decide), if_neg (by decide),
        if_neg (by decide), if_neg (by decide), if_pos rfl] at branches
      exact login_voiced serving faithful chosen
        (yields_bind.mpr ⟨choice, chose, branches, forwards⟩)
    · by_cases positive : 0 < (start.session sid).webUnit.uid
      · have parts : Frees {.scratch, .client sid, .levelCounts}
            (Conduct.relating (Speaks sid (start.session sid).webUnit.uid
              (cmd ∈ start.pool.cmdlist))) :=
          frees_speaks (by simp)
        have gives := @sendPacketToHelperUnit_speaks sid _ _ positive (faithful.small alive)
          chosen
        have chooses := chooseHelper_within (useSession_speaks sid) parts gives
          nextSvid_speaks (fun same => (login same).elim) reqPacket
        have whole := Within.bind chooses (fun choice => forward_within gives cmd pData choice)
        exact (whole.related run).voiced
      · obtain ⟨choice, chose, chooses, forwards⟩ := yields_bind.mp run
        obtain ⟨⟨result, rfl⟩, voiced⟩ :=
          chooseHelper_anonymous alive (not_lt.mp positive) login chooses
        obtain ⟨-, rfl⟩ := yields_pure.mp forwards
        exact voiced
  · obtain ⟨choice, chose, chooses, forwards⟩ := yields_bind.mp run
    obtain ⟨rfl, rfl⟩ := chooseHelper_unlisted chosen chooses
    obtain ⟨-, rfl⟩ := yields_pure.mp forwards
    exact Utters.of_same rfl

/-- Every branch of `HandleInputBuf`. -/
theorem actOn_voiced (serving : Serving sid start) (faithful : Faithful start)
    (run : Yields (actOn sid reqPacket pData) start ret next)
    : Voiced sid (reqPacket.getCmdType ∈ start.pool.cmdlist) start next := by
  have alive : (start.session sid).live = true := serving.alive
  let rules : Conduct Proxy Fault := Conduct.relating
    (Speaks sid (start.session sid).webUnit.uid (reqPacket.getCmdType ∈ start.pool.cmdlist))
  have uses : ∀ other, Within rules (useSession other) := useSession_speaks
  have parts : Frees {.scratch, .client sid, .directory, .settings} rules :=
    frees_speaks (by simp)
  have client : Frees {.scratch, .client sid} rules :=
    parts.mono (by simp [Set.insert_subset_iff])
  have broadcasts : ∀ packet, Within rules (broadcast packet) := by
    refine broadcast_within (frees_speaks ?_) uses
    simp [broadcastParts]
  have reloads : Within rules resetHelperUnit := by
    refine resetHelperUnit_within (frees_speaks ?_)
    simp [reloadParts, or_imp, forall_and]
  rw [actOn] at run
  split at run
  · have replies : Within rules (replyBreakTime sid) :=
      Within.bind (plain_within client _)
        (fun packet => respond_within sid client (uses sid) packet)
    exact (replies.related run).voiced
  split at run
  · exact ((procGetUserCount_within (uses sid) client _).related run).voiced
  split at run
  · exact ((handleSystemBroadcast_within client broadcasts _).related run).voiced
  split at run
  · exact ((handleClientBroadcast_within client broadcasts _).related run).voiced
  split at run
  · exact handleGameCmd_voiced alive run
  split at run
  · have system : Frees {.scratch, .directory, .settings} rules :=
      parts.mono (by simp [Set.insert_subset_iff])
    exact ((handleSysCmd_within system reloads _ _).related run).voiced
  · exact chosen_voiced serving faithful run

end Frames

/-- What a frame appends speaks for the user whom its session has logged in as, at the latest
with this frame; its session has never logged in as anybody else, and nothing is taken back of
what it has logged in as. A frame that goes to a helper in an envelope has a listed command.
-/
theorem client_voice {sid : SessionId} {frame : List UInt8} {start next : Proxy} {ret : Int}
    (visited : start.Visited) (alive : (start.session sid).live = true)
    (run : Yields (handleInputBuf sid frame) start ret next)
    : start.logins sid <+: next.logins sid
      ∧ (∀ login ∈ next.logins sid, login = (next.session sid).webUnit.uid ∧ 0 < login)
      ∧ ∃ shown, next.trace = start.trace ++ shown
        ∧ ∀ unit buf, .appended unit buf ∈ shown
          → (next.session sid).webUnit.uid ∈ next.logins sid
            ∧ (∀ other, unit = .game other → other = sid)
            ∧ ∀ hid, unit = .helper hid → commandOf buf = clientPacket2
              → senderOf buf = (next.session sid).webUnit.uid
                ∧ (reqPacketOf start frame).getCmdType ∈ start.pool.cmdlist := by
  have serving : Serving sid start := ⟨visited.orderly, alive⟩
  have serving' := (handleInputBuf_serving frame).related run serving
  have faithful := visited.faithful
  have faithful' := (faithful_grants.frames sid frame).related run faithful
  have devoted := faithful' sid serving'.alive
  refine ⟨(Proxy.loginsKept_permits.grants.frames sid frame).related run sid,
    fun login inside => ⟨(devoted.same login inside).1, (devoted.same login inside).2.1⟩, ?_⟩
  rw [handleInputBuf] at run
  obtain ⟨_, noted, notes, asking⟩ := yields_bind.mp run
  obtain rfl := yields_modify.mp notes
  obtain ⟨answers, asked, asks, acts⟩ := yields_bind.mp asking
  obtain ⟨rfl, rfl⟩ := yields_ask asks
  have accounts : (copiedAt sid frame start).accounts = start.accounts := by
    have quiet : start.accounts.shown (.handled sid frame) = start.accounts :=
      @Accounts.shown_quiet (.handled sid frame) trivial _
    exact (Proxy.accounts_record (.handled sid frame) start).trans quiet
  have served : Serving sid (copiedAt sid frame start) := by
    rw [Serving, accounts]
    exact serving
  have kept : Faithful (copiedAt sid frame start) :=
    faithful.kept (fun other alive =>
      ⟨alive, rfl, Proxy.logins_record (.handled sid frame) start other⟩)
  obtain ⟨shown, trace, said⟩ := actOn_voiced served kept acts
  refine ⟨.handled sid frame :: shown, ?_, fun unit buf inside => ?_⟩
  · rw [trace]
    exact List.append_assoc ..
  · rcases List.mem_cons.mp inside with handled | appended
    · cases handled
    · obtain ⟨positive, game, envelope⟩ := said unit buf appended
      exact ⟨devoted.earned positive, game, envelope⟩

/-- The logins of a session behind a program, if it comes to its end. -/
def loginsBehind (sid : SessionId) (program : ProxyM Int) (proxy : Proxy)
    : Option (List Int) :=
  match program proxy with
  | .ok (_, next) => some (next.logins sid)
  | .error _ => none

/-- The login of a session that has just been accepted. -/
theorem client_voice_at_login
    : ∃ start next : Proxy, start.logins 1 = [] ∧ next.logins 1 = [7]
        ∧ ∃ shown, next.trace = start.trace ++ shown
          ∧ ∀ unit buf, .appended unit buf ∈ shown
            → (next.session 1).webUnit.uid ∈ next.logins 1
              ∧ (∀ other, unit = .game other → other = 1)
              ∧ ∀ hid, unit = .helper hid → commandOf buf = clientPacket2
                → senderOf buf = (next.session 1).webUnit.uid
                  ∧ (reqPacketOf start (loginFrame 7)).getCmdType ∈ start.pool.cmdlist := by
  let events : List Event := [.accept 1 33 0]
  obtain ⟨start, reached, checked⟩ := Proxy.unused_unused.run (events.map Event.calmly)
    (fun start => (start.session 1).live = true ∧ start.logins 1 = []
      ∧ loginsBehind 1 (handleInputBuf 1 (loginFrame 7)) start = some [7])
    (by decide +kernel)
  obtain ⟨live, before, behind⟩ := of_decide_eq_true checked
  rw [loginsBehind] at behind
  split at behind
  · rename_i ret next run
    obtain ⟨-, -, shown⟩ := client_voice (.between reached) live run
    exact ⟨start, next, before, Option.some.inj behind, shown⟩
  · cases behind

end ProxyServer.System
