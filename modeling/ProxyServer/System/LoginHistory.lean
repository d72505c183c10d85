import ProxyServer.System.NewRoomFrames
import ProxyServer.System.RejectedLogins

/-! The users that a session has logged in as. A session that has a uid has logged in as that user
and never as another, in every state in which a frame is handled.
-/

namespace ProxyServer.System

open Packets ProxyServer.Units
open WordBytes
open Reachability
open FaultState Footprint

-----------------------------------------------------------------------------------------
-- Logins
-----------------------------------------------------------------------------------------

/-- What happens to the uids that a session has logged in as. -/
def Happening.logIn (sid : SessionId) (logins : List Int) : Happening → List Int
  | .accepted other => if other = sid then [] else logins
  | .loggedIn other uid => if other = sid then logins ++ [uid] else logins
  | _ => logins

/-- A part whose changes are seen in the logins. -/
def Part.ofLogins : Part → Prop
  | .noted (.arrival _) | .noted (.user _) => True
  | _ => False

namespace Proxy

/-- The uids that a session has logged in as since it was accepted. -/
def logins (proxy : Proxy) (sid : SessionId) : List Int :=
  proxy.trace.foldl (Happening.logIn sid) []

theorem logins_record (happening : Happening) (proxy : Proxy) (sid : SessionId)
    : (proxy.record happening).logins sid = happening.logIn sid (proxy.logins sid) := by
  rw [logins, record, List.foldl_append]
  rfl

theorem logins_eq {start next : Proxy} (trace : next.trace = start.trace) (sid : SessionId)
    : next.logins sid = start.logins sid := by
  rw [logins, trace, logins]

/-- Changes of other parts keep the logins. -/
theorem Changes.logins {part : Part} {start next : Proxy} (apart : ¬part.ofLogins)
    (changes : Proxy.Changes part start next) (sid : SessionId)
    : next.logins sid = start.logins sid := by
  have same := changes.unchanged
  cases part with
  | noted topic =>
      obtain ⟨happening, rfl, rfl⟩ := changes
      rw [logins_record]
      cases happening <;> first | rfl | exact (apart trivial).elim
  | _ => exact logins_eq (same (.noted (.frame 0)) (by simp [Part.seen])) sid

/-- Nothing is taken back of what a session has logged in as. -/
def LoginsKept (start next : Proxy) : Prop :=
  ∀ sid, start.logins sid <+: next.logins sid

instance : IsPreorder Proxy LoginsKept where
  refl := fun _ _ => List.prefix_rfl
  trans := fun _ _ _ before after sid => (before sid).trans (after sid)

/-- Whatever is changed or shown keeps the logins, but for an arrival. -/
theorem frees_loginsKept {parts : Set Part}
    (apart : ∀ part ∈ parts, ∀ sid, part ≠ .noted (.arrival sid))
    : Frees parts (Conduct.relating LoginsKept) := by
  refine frees_relating (fun part inside start next changes sid => ?_)
  have apart := apart part inside
  by_cases user : part.ofLogins
  · cases part with
    | noted topic =>
        obtain ⟨happening, rfl, rfl⟩ := changes
        rw [logins_record]
        cases happening with
        | accepted other => exact (apart other rfl).elim
        | loggedIn other uid =>
            rw [Happening.logIn]
            split
            · exact List.prefix_append ..
            · exact List.prefix_rfl
        | _ => exact List.prefix_rfl
    | _ => exact user.elim
  · rw [changes.logins user]

theorem loginsKept_permits : Permits (Conduct.relating LoginsKept) where
  frees := by
    refine frees_loginsKept (fun part common sid arrival => ?_)
    subst arrival
    exact common.elim
  next := nextSvid_within (frees_loginsKept (by simp)) (fun _ => trivial)
  reloads := by
    refine resetHelperUnit_within (frees_loginsKept ?_)
    simp [reloadParts, or_imp, forall_and]
  deletes := by
    intro sid
    have parts : Frees {.scratch, .objmap, .noted (.user sid), .noted (.misuse sid)}
        (Conduct.relating LoginsKept) := frees_loginsKept (by simp)
    refine Within.bind (useSession_within sid (parts.mono (by simp))) (fun decoder => ?_)
    refine Within.bind (note_within (parts.mono (by simp [Happening.topic]))) (fun _ => ?_)
    refine Within.bind (forget_within (parts.mono (by simp)) _) (fun _ => ?_)
    refine Within.bind (ask_within (parts.mono (by simp))) (fun answers => ?_)
    exact Within.modify (fun _ _ => List.prefix_rfl)
  enters := by
    intro sid uid api
    refine Within.bind (note_within (frees_loginsKept (by simp [Happening.topic]))) ?_
    exact fun _ => Within.modify (fun _ _ => List.prefix_rfl)
  sends := by
    intro sid
    have parts : Frees {.scratch, .room sid, .gameTimer sid, .noted (.misuse sid),
        .noted (.room sid)} (Conduct.relating LoginsKept) := frees_loginsKept (by simp)
    have uses := useSession_within sid (parts.mono (by simp))
    refine sendToLogic_within (.game sid) (game_uses uses) (parts.mono (by
      simp [Set.insert_subset_iff, BackendId.route, BackendId.timer])) ?_
    exact fun _ _ => Within.ite (note_within (parts.mono (by simp [Happening.topic])))
      (Within.pure _)
  assigns := fun sid =>
    assignsRooms_within (useSession_within sid (frees_loginsKept (by simp)))
      (frees_loginsKept (by simp))

end Proxy

-----------------------------------------------------------------------------------------
-- One user for each session
-----------------------------------------------------------------------------------------

/-- A session with a uid has logged in as it, and never as anybody else. -/
structure Devoted (uid : Int) (logins : List Int) : Prop where
  earned : 0 < uid → uid ∈ logins
  same : ∀ login ∈ logins, login = uid ∧ 0 < login ∧ login < 2147483648

/-- Another login as the same user. -/
theorem Devoted.again {uid login : Int} {logins : List Int} (devoted : Devoted uid logins)
    (positive : 0 < login) (small : login < 2147483648) (agrees : ¬(0 < uid ∧ uid ≠ login))
    : Devoted login (logins ++ [login]) where
  earned := fun _ => by simp
  same := by
    intro other inside
    rcases List.mem_append.mp inside with before | added
    · obtain ⟨rfl, others⟩ := devoted.same other before
      have agreed : other = login := by
        by_contra different
        exact agrees ⟨others.1, different⟩
      exact ⟨agreed, others⟩
    · obtain rfl := List.mem_singleton.mp added
      exact ⟨rfl, positive, small⟩

/-- Every live session is devoted. -/
def Faithful (proxy : Proxy) : Prop :=
  ∀ sid, (proxy.session sid).live = true
    → Devoted (proxy.session sid).webUnit.uid (proxy.logins sid)

/-- Live sessions that have kept their uids and logins are as devoted as before. -/
theorem Faithful.kept {start next : Proxy} (faithful : Faithful start)
    (kept
      : ∀ sid, (next.session sid).live = true
        → (start.session sid).live = true
          ∧ (next.session sid).webUnit.uid = (start.session sid).webUnit.uid
          ∧ next.logins sid = start.logins sid)
    : Faithful next := by
  intro sid alive
  obtain ⟨before, uid, logins⟩ := kept sid alive
  rw [uid, logins]
  exact faithful sid before

/-- A part in which the devotion of sessions is seen. -/
def Part.ofDevotion (part : Part) : Prop :=
  part.ofLogins ∨ ∃ sid, part = .identity sid

theorem frees_faithful {parts : Set Part} (apart : ∀ part ∈ parts, ¬part.ofDevotion)
    : Frees parts (Conduct.sustaining Faithful) := by
  refine frees_relating (fun part inside start next changes faithful => ?_)
  have apart := not_or.mp (apart part inside)
  refine faithful.kept (fun sid alive => ?_)
  have outside : .identity sid ∉ part.seen := by
    cases part with
    | identity other => exact (apart.2 ⟨other, rfl⟩).elim
    | _ => simp [Part.seen]
  have same : (next.session sid).identity = (start.session sid).identity :=
    changes.unchanged (.identity sid) outside
  exact ⟨(congrArg Prod.fst same).symm.trans alive,
    congrArg (fun identity => identity.2.2.1) same, changes.logins apart.1 sid⟩

theorem useSession_faithful (sid : SessionId)
    : Within (Conduct.sustaining Faithful) (useSession sid) :=
  useSession_within sid (frees_faithful (by simp [Part.ofDevotion, Part.ofLogins]))

/-- What is shown of users keeps sessions devoted, but for logins. -/
theorem note_faithful (happening : Happening) (sid : SessionId)
    (about : happening.topic = .user sid) (other : ∀ uid, happening ≠ .loggedIn sid uid)
    : Within (Conduct.sustaining Faithful) (note happening) := by
  refine Within.modify (fun proxy faithful => faithful.kept (fun sid' alive => ?_))
  refine ⟨alive, rfl, ?_⟩
  rw [Proxy.logins_record]
  cases happening with
  | loggedIn entered uid =>
      obtain rfl : entered = sid := by
        cases about
        rfl
      exact (other uid rfl).elim
  | accepted => cases about
  | _ => rfl

theorem deleteSession_faithful (sid : SessionId)
    : Within (Conduct.sustaining Faithful) (deleteSession sid) := by
  have parts : Frees {.scratch, .objmap} (Conduct.sustaining Faithful) :=
    frees_faithful (by simp [Part.ofDevotion, Part.ofLogins])
  refine Within.bind (useSession_faithful sid) (fun decoder => ?_)
  refine Within.bind (note_faithful _ sid rfl nofun) (fun _ => ?_)
  refine Within.bind (forget_within (parts.mono (by simp)) _) (fun _ => ?_)
  refine Within.bind (ask_within (parts.mono (by simp))) (fun answers => ?_)
  refine Within.modify (fun proxy faithful => faithful.kept (fun other alive => ?_))
  have different : other ≠ sid := by
    rintro rfl
    rw [Proxy.updateSession_same] at alive
    cases alive
  have same := Function.update_of_ne different
    (Session.destroy answers.backend (proxy.session sid)) proxy.session
  exact ⟨(congrArg Session.live same).symm.trans alive,
    congrArg (fun session => session.webUnit.uid) same, rfl⟩

theorem completes_faithful (sid : SessionId)
    : Within (Conduct.sustaining Faithful) (complete sid) := by
  have helpers : Frees helperParts (Conduct.sustaining Faithful) :=
    frees_faithful (by
      simp [helperParts, or_imp, forall_and, Part.ofDevotion, Part.ofLogins])
  have loopNum : Frees {.loopNum} (Conduct.sustaining Faithful) :=
    frees_faithful (by simp [Part.ofDevotion, Part.ofLogins])
  have turn : Within (Conduct.sustaining Faithful) nextSvid :=
    nextSvid_within loopNum (fun _ => trivial)
  have completed : Within (Conduct.sustaining Faithful) (note (.completed sid)) :=
    note_faithful _ sid rfl (by simp)
  exact complete_within helpers completed (fun _ => note_faithful _ sid rfl (by simp))
    (useSession_faithful sid) turn (deleteSession_faithful sid)

theorem kick_faithful (sid : SessionId) : Within (Conduct.sustaining Faithful) (kick sid) := by
  have parts : Frees {.scratch, .client sid, .connType sid} (Conduct.sustaining Faithful) :=
    frees_faithful (by simp [Part.ofDevotion, Part.ofLogins])
  exact kick_within parts (note_faithful _ sid rfl nofun) (useSession_faithful sid)
    (completes_faithful sid)

/-- The result of work on packets. -/
theorem yields_ofExcept_iff {α : Type} {result : Except Fault α} {start next : Proxy}
    {value : α}
    : Yields (ofExcept result) start value next ↔ result = .ok value ∧ next = start := by
  cases result with
  | error fault => exact ⟨nofun, nofun⟩
  | ok got =>
      constructor
      · intro run
        obtain ⟨rfl, rfl⟩ := yields_pure.mp run
        exact ⟨rfl, rfl⟩
      · rintro ⟨⟨⟩, rfl⟩
        rfl

/-- An `int` that has been read is in the range of its type. -/
theorem readInt_small {packet next : NETInputPacket} {value : Int}
    (run : Yields InputPacket.readInt packet value next)
    : value < 2147483648 := by
  obtain ⟨raw, _, _, ends⟩ := yields_bind.mp run
  cases raw with
  | none =>
      obtain ⟨rfl, -⟩ := yields_pure.mp ends
      decide
  | some raw =>
      have bound : signed 32 (ofBytes raw) < (((2 ^ 32 : Nat) : Int) + 1) / 2 :=
        Int.bmod_lt (by norm_num)
      have same : value = signed 32 (ofBytes raw) := (yields_pure.mp ends).1
      rw [same]
      exact lt_of_lt_of_eq bound (by norm_num)

theorem readLogin_small {packet next : NETInputPacket} {fields : Int × Int}
    (run : decryptedThen readLogin packet = .ok (fields, next))
    : fields.1 < 2147483648 := by
  have run : Yields (decryptedThen readLogin) packet fields next := run
  obtain ⟨_, _, _, reads⟩ := yields_bind.mp run
  obtain ⟨uid, _, first, rest⟩ := yields_bind.mp reads
  obtain ⟨api, _, _, ends⟩ := yields_bind.mp rest
  obtain ⟨rfl, -⟩ := yields_pure.mp ends
  exact readInt_small first

/-- A user is entered whom the session may be. -/
theorem enterUser_faithful {sid : SessionId} {uid api : Int} {start next : Proxy}
    (faithful : Faithful start) (positive : 0 < uid) (small : uid < 2147483648)
    (agrees
      : ¬(0 < (start.session sid).webUnit.uid ∧ (start.session sid).webUnit.uid ≠ uid))
    (run : Yields (enterUser sid uid api) start () next)
    : Faithful next := by
  obtain ⟨_, noted, notes, enters⟩ := yields_bind.mp run
  obtain rfl := yields_modify.mp notes
  obtain rfl := yields_modify.mp enters
  intro other alive
  have logins := Proxy.logins_record (.loggedIn sid uid) start other
  change Devoted _ ((start.record (.loggedIn sid uid)).logins other)
  rw [logins, Happening.logIn]
  by_cases own : other = sid
  · subst own
    have entered := Proxy.updateSession_same other (Session.enter uid api)
      (start.record (.loggedIn other uid))
    have before : (start.session other).live = true :=
      (congrArg Session.live entered).symm.trans alive
    have user := congrArg (fun session => session.webUnit.uid) entered
    rw [if_pos rfl]
    change Devoted (((start.record (.loggedIn other uid)).updateSession other
      (Session.enter uid api)).session other).webUnit.uid _
    rw [user]
    exact (faithful other before).again positive small agrees
  · have same := Function.update_of_ne own (Session.enter uid api (start.session sid))
      start.session
    have before : (start.session other).live = true :=
      (congrArg Session.live same).symm.trans alive
    have user := congrArg (fun session => session.webUnit.uid) same
    rw [if_neg (fun equal => own equal.symm)]
    exact user ▸ faithful other before

/-- The login of a session that is somebody else's is rejected. -/
theorem login_faithful (sid : SessionId) (reqPacket : NETInputPacket)
    : Within (Conduct.sustaining Faithful) (login sid reqPacket) := by
  refine within_relating (fun {start goesOn next} run faithful => ?_)
  obtain ⟨read, _, reads, rest⟩ := yields_bind.mp run
  obtain ⟨fields, rfl⟩ := yields_ofExcept_iff.mp reads
  have small := readLogin_small fields
  split at rest
  · obtain ⟨-, rfl⟩ := yields_pure.mp rest
    exact faithful
  · rename_i positive
    obtain ⟨_, kicked, kicks, rest⟩ := yields_bind.mp rest
    have others := kickOther_within (fun _ _ => note_faithful _ sid rfl nofun) kick_faithful
      read.1.1
    have faithful := others.related kicks faithful
    obtain ⟨session, used, uses, rest⟩ := yields_bind.mp rest
    have faithful := (useSession_faithful sid).related uses faithful
    have same : session.webUnit.uid = (used.session sid).webUnit.uid := by
      obtain ⟨rfl, shown⟩ := useSession_shows uses
      rcases shown with rfl | rfl
      · rfl
      · rfl
    split at rest
    · obtain ⟨-, rfl⟩ := yields_pure.mp rest
      exact faithful
    · rename_i agrees
      obtain ⟨_, entered, enters, ends⟩ := yields_bind.mp rest
      obtain ⟨-, rfl⟩ := yields_pure.mp ends
      rw [same] at agrees
      exact enterUser_faithful faithful (by omega) small agrees enters

/-- A session that is accepted has not logged in. -/
theorem accept_faithful (sid : SessionId) (fd ip : Nat)
    : Within (Conduct.sustaining Faithful) (accept sid fd ip) := by
  refine within_relating (fun {start _ next} run faithful => ?_)
  obtain ⟨_, created, creates, rest⟩ := yields_bind.mp run
  obtain ⟨_, noted, notes, attaches⟩ := yields_bind.mp rest
  obtain rfl := yields_modify.mp creates
  obtain rfl := yields_modify.mp notes
  have parts : Frees {.scratch, .client sid, .decoder sid} (Conduct.sustaining Faithful) :=
    frees_faithful (by simp [Part.ofDevotion, Part.ofLogins])
  have uses := useSession_faithful sid
  have client : Frees {.client sid} (Conduct.sustaining Faithful) := parts.mono (by simp)
  refine Within.related (Within.bind (ask_within (parts.mono (by simp))) (fun answers => ?_))
    attaches ?_
  · refine Within.bind (callWeb_within client uses (ClientUnit.steady_attach _ _)) ?_
    intro attached
    refine Within.ite ?_ (setWebTimer_within uses (parts.mono (by simp)) true)
    exact Within.bind (deleteSession_faithful sid) (fun _ => Within.throw (fun _ => trivial))
  · intro other alive
    have logins := Proxy.logins_record (.accepted sid)
      (start.updateSession sid (fun _ => Session.create fd ip)) other
    rw [logins, Happening.logIn]
    by_cases own : other = sid
    · subst own
      have created := Proxy.updateSession_same other (fun _ => Session.create fd ip) start
      have user := congrArg (fun session => session.webUnit.uid) created
      rw [if_pos rfl]
      exact user.symm ▸ ⟨fun positive => (lt_irrefl 0 positive).elim, nofun⟩
    · have same := Function.update_of_ne own (Session.create fd ip) start.session
      have before : (start.session other).live = true :=
        (congrArg Session.live same).symm.trans alive
      have user := congrArg (fun session => session.webUnit.uid) same
      rw [if_neg (fun equal => own equal.symm)]
      exact user ▸ faithful other before

theorem faithful_grants : GrantsAll (Conduct.sustaining Faithful) where
  frees := by
    refine frees_faithful (fun part impersonal devotion => ?_)
    rcases devotion with logins | ⟨sid, rfl⟩
    · cases part with
      | noted topic =>
          cases topic <;> first | exact impersonal.elim | exact logins.elim
      | _ => exact logins.elim
    · exact impersonal.elim
  notes := note_faithful
  next := nextSvid_within (frees_faithful (by simp [Part.ofDevotion, Part.ofLogins]))
    (fun _ => trivial)
  reloads := by
    refine resetHelperUnit_within (frees_faithful ?_)
    simp [reloadParts, or_imp, forall_and, Part.ofDevotion, Part.ofLogins]
  deletes := deleteSession_faithful
  logins := login_faithful
  sends := by
    intro sid
    have parts : Frees {.scratch, .room sid, .gameTimer sid, .noted (.room sid)}
        (Conduct.sustaining Faithful) :=
      frees_faithful (by simp [Part.ofDevotion, Part.ofLogins])
    refine sendToLogic_within (.game sid) (game_uses (useSession_faithful sid))
      (parts.mono (by
        simp [Set.insert_subset_iff, BackendId.route, BackendId.timer])) ?_
    exact fun _ _ => Within.ite (note_within (parts.mono (by simp [Happening.topic])))
      (Within.pure _)
  assigns := fun sid =>
    assignsRooms_within (useSession_faithful sid)
      (frees_faithful (by simp [Part.ofDevotion, Part.ofLogins]))
  rooms := fun sid => frees_faithful (by simp [Part.ofDevotion, Part.ofLogins])
  any := anySvid_within (frees_faithful (by simp [Part.ofDevotion, Part.ofLogins]))
    (fun _ => trivial)
  accepts := accept_faithful

theorem reached_faithful {proxy : Proxy} (reached : proxy.Reached) : Faithful proxy := by
  refine reached.invariant Faithful ?_ (fun start label next faithful step => ?_)
  · rintro idle ⟨start, unused, boots⟩
    have parts : Frees initParts (Conduct.sustaining Faithful) :=
      frees_faithful (by
        simp [initParts, reloadParts, or_imp, forall_and, Part.ofDevotion, Part.ofLogins])
    have dead : Faithful start := by
      intro sid alive
      rw [unused.session sid] at alive
      cases alive
    exact (initHelperUnit_within parts).related boots dead
  · have before : Faithful { start with world := label.2, asked := 0 } := faithful
    have receives : ∀ sid, Frees {.received sid} (Conduct.sustaining Faithful) :=
      fun sid => frees_faithful (by simp [Part.ofDevotion, Part.ofLogins])
    have performs : Within (Conduct.sustaining Faithful) label.1.perform :=
      faithful_grants.perform
        (fun sid _ recv _ => faithful_grants.inputs (receives sid) recv)
    exact performs.related step.2 before

/-- Sessions are devoted wherever a frame is handled. -/
theorem Proxy.Visited.faithful {proxy : Proxy} (visited : proxy.Visited) : Faithful proxy := by
  have grants := faithful_grants.toGrants
  induction visited with
  | between reached => exact reached_faithful reached
  | @around part start next _ around changes ih =>
      have around : Frees {part} (Conduct.sustaining Faithful) := by
        refine frees_faithful (fun other inside => ?_)
        rw [Set.mem_singleton_iff.mp inside]
        cases part <;> first | exact around.elim | simp [Part.ofDevotion, Part.ofLogins]
      exact around.allows part rfl _ _ changes ih
  | @policy sid _ _ _ alive run ih =>
      have policies : Frees {.connType sid, .noted (.policy sid)}
          (Conduct.sustaining Faithful) :=
        frees_faithful (by simp [Part.ofDevotion, Part.ofLogins])
      exact (onPolicy_within (grants.uses sid) policies).related run ih
  | frame _ _ run ih => exact (grants.frames _ _).related run ih
  | order _ run ih => exact (grants.obey _).related run ih

end ProxyServer.System
