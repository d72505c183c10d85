import ProxyServer.System.GameLinks

/-! How many bytes a session buffers: the `while` of `CClientUnit::proc_pkg` removes two bytes
in every turn that goes on, and what it leaves behind waits for the rest of one frame.
-/

namespace ProxyServer.System

open Packets ProxyServer.Units
open Reachability
open FaultState Footprint BoundedLoop

-----------------------------------------------------------------------------------------
-- Reading
-----------------------------------------------------------------------------------------

/-- A unit that reads and does not end its session has less than one frame left. -/
theorem inputNotify_remains {σ : Type} {place : ClientPlace σ}
    {handleInputBuf : List UInt8 → StateT σ (Except Fault) Int}
    {onPolicy : StateT σ (Except Fault) Unit} {recv : RecvAnswer} {answers : ClientAnswers}
    {start next : σ}
    (run
      : Yields (place.inputNotify handleInputBuf onPolicy recv answers) start false next)
    (few : (place.unit start).r.length < 8000)
    : (place.unit next).r.length < 8000 := by
  obtain ⟨status, noted, processes, rest⟩ := yields_bind.mp run
  obtain ⟨_, settled, settles, rest⟩ := yields_bind.mp rest
  obtain ⟨_, _, got, rest⟩ := yields_bind.mp rest
  obtain ⟨rfl, rfl⟩ := yields_get.mp got
  obtain ⟨goesOn, rfl⟩ := yields_pure.mp rest
  obtain ⟨_, decoded, decodes, rest⟩ := yields_bind.mp processes
  obtain ⟨_, _, notes, rest⟩ := yields_bind.mp rest
  obtain ⟨rfl, rfl⟩ := yields_pure.mp rest
  rw [yields_modify.mp settles, yields_modify.mp notes, place.unit_update,
    place.unit_update] at goesOn ⊢
  have same (unit : ClientUnit) : (unit.settle status).r = unit.r := by
    cases status <;> rfl
  rw [same]
  have running : status ≠ .fatalError := by
    rintro rfl
    cases goesOn
  cases recv with
  | error => exact (running (yields_pure.mp decodes).1).elim
  | closed =>
      obtain ⟨rfl, -⟩ := yields_pure.mp decodes
      cases goesOn
  | transient =>
      obtain ⟨_, _, got, ends⟩ := yields_bind.mp decodes
      rw [(yields_pure.mp ends).2, (yields_get.mp got).2]
      exact few
  | data chunk => exact procChunk_remains decodes running

-----------------------------------------------------------------------------------------
-- Keeping what is received
-----------------------------------------------------------------------------------------

/-- The bytes that the client unit of a session has received and not yet handled. -/
def Proxy.received (proxy : Proxy) (sid : SessionId) : List UInt8 :=
  (proxy.session sid).webUnit.r

/-- A session that comes to life has received nothing, and what has been received is kept or
cleared, apart from sessions that are read for.
-/
def Retains (reading : Set SessionId) (start next : Proxy) : Prop :=
  ∀ sid,
    ((next.session sid).live = true → (start.session sid).live = true)
        ∧ (sid ∉ reading → next.received sid = start.received sid)
      ∨ sid ∉ reading ∧ next.received sid = []

instance (reading : Set SessionId) : IsPreorder Proxy (Retains reading) where
  refl := fun _ _ => Or.inl ⟨id, fun _ => rfl⟩
  trans := by
    intro first second third before after sid
    rcases after sid with ⟨alive, kept⟩ | cleared
    · rcases before sid with ⟨alive', kept'⟩ | ⟨outside, cleared⟩
      · exact Or.inl
          ⟨alive' ∘ alive, fun outside => (kept outside).trans (kept' outside)⟩
      · exact Or.inr ⟨outside, (kept outside).trans cleared⟩
    · exact Or.inr cleared

variable {reading : Set SessionId}

/-- The sessions of the two states are the same, to those that look at what they received. -/
theorem Retains.of_same {start next : Proxy}
    (live : ∀ sid, (next.session sid).live = (start.session sid).live)
    (received : ∀ sid, next.received sid = start.received sid)
    : Retains reading start next :=
  fun sid => Or.inl ⟨fun alive => (live sid).symm.trans alive, fun _ => received sid⟩

/-- Changes that neither begin nor end a session retain, if only those read for receive. -/
theorem frees_retains {parts : Set Part}
    (apart
      : ∀ part ∈ parts, (∀ sid, part ≠ .identity sid)
        ∧ ∀ sid, part = .received sid → sid ∈ reading)
    : Frees parts (Conduct.relating (Retains reading)) := by
  refine frees_relating (fun part inside start next changes sid => ?_)
  obtain ⟨identity, receives⟩ := apart part inside
  have alive : (next.session sid).live = (start.session sid).live := by
    have outside : .identity sid ∉ part.seen := by
      cases part with
      | identity other => exact (identity other rfl).elim
      | _ => simp [Part.seen]
    have same : (next.session sid).identity = (start.session sid).identity :=
      changes.unchanged (.identity sid) outside
    exact congrArg Prod.fst same
  by_cases own : part = .client sid
  · subst own
    rcases changes.2 with kept | cleared
    · exact Or.inl ⟨alive.symm.trans, fun _ => kept⟩
    · by_cases read : sid ∈ reading
      · exact Or.inl ⟨alive.symm.trans, fun outside => (outside read).elim⟩
      · exact Or.inr ⟨read, cleared⟩
  · refine Or.inl ⟨alive.symm.trans, fun read => ?_⟩
    have outside : .client sid ∉ part.seen := by
      cases part with
      | client other => exact fun same => own same.symm
      | received other =>
          intro same
          obtain rfl : sid = other := by
            cases same
            rfl
          exact read (receives sid rfl)
      | _ => simp [Part.seen]
    have same : (next.session sid).webUnit = (start.session sid).webUnit :=
      changes.unchanged (.client sid) outside
    exact congrArg ClientUnit.r same

theorem useSession_retains (sid : SessionId)
    : Within (Conduct.relating (Retains reading)) (useSession sid) :=
  useSession_within sid (frees_retains (by simp))

theorem deleteSession_retains (sid : SessionId)
    : Within (Conduct.relating (Retains reading)) (deleteSession sid) := by
  have parts : Frees {.scratch, .objmap, .noted (.user sid)}
      (Conduct.relating (Retains reading)) := frees_retains (by simp)
  refine Within.bind (useSession_retains sid) (fun decoder => ?_)
  refine Within.bind (note_within (parts.mono (by simp [Happening.topic]))) (fun _ => ?_)
  refine Within.bind (forget_within (parts.mono (by simp)) _) (fun _ => ?_)
  refine Within.bind (ask_within (parts.mono (by simp))) (fun answers => ?_)
  refine Within.modify (fun proxy other => ?_)
  by_cases own : other = sid
  · subst own
    by_cases read : other ∈ reading
    · refine Or.inl ⟨fun alive => ?_, fun outside => (outside read).elim⟩
      rw [Proxy.updateSession_same] at alive
      cases alive
    · refine Or.inr ⟨read, ?_⟩
      rw [Proxy.received, Proxy.updateSession_same]
      rfl
  · have same := Function.update_of_ne own
      (Session.destroy answers.backend (proxy.session sid)) proxy.session
    exact Or.inl ⟨fun alive => (congrArg Session.live same).symm.trans alive,
      fun _ => congrArg (fun session => session.webUnit.r) same⟩

theorem enterUser_retains (sid : SessionId) (uid api : Int)
    : Within (Conduct.relating (Retains reading)) (enterUser sid uid api) := by
  refine Within.bind (note_within (frees_retains (by simp))) (fun _ => ?_)
  refine Within.modify (fun proxy => Retains.of_same (fun other => ?_) (fun other => ?_))
  · exact Proxy.seen_updateSession Session.live sid other (Session.enter uid api) proxy
      (fun _ => rfl)
  · exact Proxy.seen_updateSession (fun session => session.webUnit.r) sid other
      (Session.enter uid api) proxy (fun _ => rfl)

theorem retains_permits (reading : Set SessionId)
    : Permits (Conduct.relating (Retains reading)) where
  frees := by
    refine frees_retains (fun part common => ⟨?_, ?_⟩)
    all_goals
      rintro sid rfl
      exact common.elim
  next := nextSvid_within (frees_retains (by simp)) (fun _ => trivial)
  reloads := by
    refine resetHelperUnit_within (frees_retains ?_)
    rintro part (((rfl | rfl) | ⟨hid, rfl⟩) | ⟨hid, rfl⟩)
    all_goals exact ⟨nofun, nofun⟩
  deletes := deleteSession_retains
  enters := enterUser_retains
  sends := by
    intro sid
    have parts : Frees {.scratch, .room sid, .gameTimer sid}
        (Conduct.relating (Retains reading)) := frees_retains (by simp)
    refine sendToLogic_within (.game sid) (game_uses (useSession_retains sid)) parts ?_
    exact fun _ _ => Within.ite (note_within (frees_retains (by simp [Happening.topic])))
      (Within.pure _)
  assigns := fun sid =>
    assignsRooms_within (useSession_retains sid) (frees_retains (by simp))

/-- A session starts with nothing received. -/
theorem accept_retains (sid : SessionId) (fd ip : Nat)
    : Within (Conduct.relating (Retains ∅)) (accept sid fd ip) := by
  have uses := @useSession_retains ∅ sid
  have client : Frees {.client sid} (Conduct.relating (Retains ∅)) := frees_retains (by simp)
  have starts : Within (Conduct.relating (Retains ∅))
      (modify (Proxy.updateSession sid (fun _ => Session.create fd ip)) : ProxyM Unit) := by
    refine Within.modify (fun proxy other => ?_)
    by_cases own : other = sid
    · subst own
      refine Or.inr ⟨nofun, ?_⟩
      rw [Proxy.received, Proxy.updateSession_same]
      rfl
    · have same := Function.update_of_ne own (Session.create fd ip) proxy.session
      exact Or.inl ⟨fun alive => (congrArg Session.live same).symm.trans alive,
        fun _ => congrArg (fun session => session.webUnit.r) same⟩
  refine Within.bind starts (fun _ => ?_)
  refine Within.bind (note_within (frees_retains (by simp [Happening.topic]))) (fun _ => ?_)
  refine Within.bind (ask_within (frees_retains (by simp))) (fun answers => ?_)
  refine Within.bind (callWeb_within client uses (ClientUnit.steady_attach _ _)) ?_
  intro attached
  refine Within.ite ?_ (setWebTimer_within uses (frees_retains (by simp)) true)
  exact Within.bind (deleteSession_retains sid) (fun _ => Within.throw (fun _ => trivial))

theorem retains_grantsAll : GrantsAll (Conduct.relating (Retains ∅)) where
  toGrants := (retains_permits ∅).grants
  rooms := fun sid => frees_retains (by simp)
  any := anySvid_within (frees_retains (by simp)) (fun _ => trivial)
  accepts := accept_retains

/-- A program without reading keeps or clears what a session has received. -/
theorem received_keeps {α : Type} {program : ProxyM α}
    (within : Within (Conduct.relating (Retains ∅)) program) {start next : Proxy} {value : α}
    (run : Yields program start value next) (sid : SessionId)
    : next.received sid = start.received sid ∨ next.received sid = [] := by
  rcases within.related run sid with ⟨_, kept⟩ | ⟨_, cleared⟩
  · exact Or.inl (kept nofun)
  · exact Or.inr cleared

/-- A frame keeps or clears what its session has received: a failed `send` clears it. -/
theorem handleFrame_keeps {sid : SessionId} {frame : List UInt8} {start next : Proxy} {ret : Int}
    (run : Yields (handleFrame sid frame) start ret next)
    : next.received sid = start.received sid ∨ next.received sid = [] := by
  have grants := (retains_permits ∅).grants
  have frames : Within (Conduct.relating (Retains ∅)) (handleFrame sid frame) :=
    Within.bind (grants.frames sid frame)
      (fun _ => Within.bind (grants.uses sid) (fun _ => Within.pure _))
  exact received_keeps frames run sid

/-- Reading that does not end its session leaves less than one frame. -/
theorem webRead_remains {sid : SessionId} {recv : RecvAnswer} {start next : Proxy}
    (run : Yields (webRead sid recv) start false next)
    (few : (start.received sid).length < 8000)
    : (next.received sid).length < 8000 := by
  obtain ⟨_, timed, arms, rest⟩ := yields_bind.mp run
  obtain ⟨answers, asked, asks, inputs⟩ := yields_bind.mp rest
  have uses := @useSession_retains ∅ sid
  have arming := setWebTimer_within uses (frees_retains (by simp)) true
  have asking := ask_within (retains_grantsAll.one .scratch trivial)
  apply inputNotify_remains inputs
  change (asked.received sid).length < 8000
  rcases received_keeps asking asks sid with kept | cleared
  · rw [kept]
    rcases received_keeps arming arms sid with kept' | cleared'
    · rw [kept']
      exact few
    · rw [cleared']
      exact Nat.zero_lt_succ _
  · rw [cleared]
    exact Nat.zero_lt_succ _

-----------------------------------------------------------------------------------------
-- Every reachable state
-----------------------------------------------------------------------------------------

/-- The live sessions, apart from the given ones, wait for the rest of one frame. -/
def AwaitFrames (reading : Set SessionId) (proxy : Proxy) : Prop :=
  ∀ sid, sid ∉ reading → (proxy.session sid).live = true → (proxy.received sid).length < 8000

theorem AwaitFrames.retained {start next : Proxy} (await : AwaitFrames reading start)
    (retains : Retains reading start next)
    : AwaitFrames reading next := by
  intro sid outside alive
  rcases retains sid with ⟨alive', kept⟩ | ⟨_, cleared⟩
  · rw [kept outside]
    exact await sid outside (alive' alive)
  · rw [cleared]
    exact Nat.zero_lt_succ _

/-- What retains leaves live sessions waiting. -/
theorem awaitFrames_within {α : Type} {program : ProxyM α}
    (within : Within (Conduct.relating (Retains reading)) program)
    : Within (Conduct.sustaining (AwaitFrames reading)) program :=
  within_relating (fun run await => await.retained (within.related run))

/-- A session that has bytes left that do not wait is completed. -/
theorem webInputNotify_await (sid : SessionId) (recv : RecvAnswer)
    : Within (Conduct.sustaining (AwaitFrames ∅)) (webInputNotify sid recv) := by
  refine within_relating (fun {start decision last} run await => ?_)
  obtain ⟨completes, next, reads, ends⟩ := yields_bind.mp run
  have others : AwaitFrames {sid} start := fun other _ => await other (Set.notMem_empty other)
  have grants := (retains_permits {sid}).grants
  have retains := (grants.reads (frees_retains (by simp)) recv).related reads
  have others := others.retained retains
  cases completes with
  | false =>
      obtain ⟨-, rfl⟩ := yields_pure.mp ends
      intro other _ alive
      by_cases own : other = sid
      · subst own
        have before : (start.session other).live = true := by
          rcases retains other with ⟨alive', _⟩ | ⟨outside, _⟩
          · exact alive' alive
          · exact (outside rfl).elim
        exact webRead_remains reads (await other (Set.notMem_empty other) before)
      · exact others other own alive
  | true =>
      obtain ⟨_, _, completes, rest⟩ := yields_bind.mp ends
      obtain ⟨-, rfl⟩ := yields_pure.mp rest
      have others := others.retained ((grants.completes sid).related completes)
      have ended := complete_ends sid trivial completes
      intro other _ alive
      by_cases own : other = sid
      · subst own
        rw [ended] at alive
        cases alive
      · exact others other own alive

theorem step_await {label : Event × (Nat → Answers)} {start next : Proxy}
    (await : AwaitFrames ∅ start) (step : Event.Step start label next)
    : AwaitFrames ∅ next := by
  obtain ⟨event, world⟩ := label
  have before : AwaitFrames ∅ { start with world := world, asked := 0 } := await
  by_cases reads : ∃ sid ready recv, event = .web sid ready recv
  · obtain ⟨sid, ready, recv, rfl⟩ := reads
    have grants := retains_grantsAll.toGrants
    have uses := awaitFrames_within (grants.uses sid)
    have parts : Frees {.scratch, .client sid, .decoder sid}
        (Conduct.sustaining (AwaitFrames ∅)) := by
      refine frees_relating (fun part inside state changed changes await => ?_)
      exact await.retained ((grants.client sid).allows part inside _ _ changes)
    have events := webEvent_within uses parts recv (webInputNotify_await sid recv)
      (awaitFrames_within (grants.completes sid)) ready
    exact events.related step.2 before
  · have performs := retains_grantsAll.perform
      (fun sid ready recv same => (reads ⟨sid, ready, recv, same⟩).elim)
    exact (awaitFrames_within performs).related step.2 before

/-- Between events, every live session waits for the rest of one frame. -/
theorem reached_await {proxy : Proxy} (reached : proxy.Reached) : AwaitFrames ∅ proxy := by
  refine reached.invariant (AwaitFrames ∅) ?_ (fun _ _ _ => step_await)
  rintro idle ⟨start, unused, boots⟩
  have parts : Frees initParts (Conduct.relating (Retains ∅)) := by
    apply frees_retains
    simp [initParts, reloadParts, or_imp, forall_and]
  have dead : AwaitFrames ∅ start := by
    intro sid _ alive
    rw [unused.session sid] at alive
    cases alive
  exact dead.retained ((initHelperUnit_within parts).related boots)

/-- `_r.append`. -/
def Proxy.receive (chunk : List UInt8) (sid : SessionId) (proxy : Proxy) : Proxy :=
  (Proxy.web sid).cache.replace (proxy.received sid ++ chunk) proxy

/-- One turn of the `while` of `proc_pkg` for a session. -/
abbrev clientTurn (sid : SessionId) : Unit → ProxyM (Turn DecodeStatus Unit) :=
  procPkgTurn (Proxy.web sid).cache (handleFrame sid)

/-- What the event of a client unit does before it receives. -/
def beginRead (sid : SessionId) : ProxyM Answers := do
  callWeb sid (fun unit => ((), unit.beginEvent))
  updateWebTimer sid
  ask

/-- An `EPOLLIN` begins so, and then receives. -/
theorem webEvent_begins (sid : SessionId) (output : Bool) (recv : RecvAnswer)
    : webEvent sid ⟨false, true, output⟩ recv
      = (do
        let answers ← beginRead sid
        let completes ←
          (Proxy.web sid).inputNotify (handleFrame sid) (onPolicy sid) recv answers.client
        if ← completeIf sid completes then
          if ← whenReady output (webOutputNotify sid) then
            webApply sid) := by
  simp [webEvent, whenReady, webInputNotify, webRead, beginRead]

theorem beginRead_few {answers : Answers} (run : Yields (beginRead sid) start answers next)
    (few : (start.received sid).length < 8000)
    : (next.received sid).length < 8000 := by
  have begins : Within (Conduct.relating (Retains ∅)) (beginRead sid) := by
    have uses := @useSession_retains ∅ sid
    have client : Frees {.client sid} (Conduct.relating (Retains ∅)) := frees_retains (by simp)
    have steady (unit : ClientUnit) : unit.Steady unit.beginEvent := ⟨rfl, rfl, Or.inl rfl⟩
    refine Within.bind (callWeb_within client uses steady) (fun _ => ?_)
    refine Within.bind (setWebTimer_within uses (frees_retains (by simp)) true) (fun _ => ?_)
    exact ask_within (frees_retains (by simp))
  rcases received_keeps begins run sid with kept | cleared
  · rw [kept]
    exact few
  · rw [cleared]
    exact Nat.zero_lt_succ _

/-- The loop of `proc_pkg` comes to an end on whatever has been received, and leaves less than
one frame unless it fails; each turn that goes on removes two bytes. A live session buffers less
than one frame between events, and at most one chunk more in the loop of an event.
-/
theorem received_bounded {chunk : List UInt8} (bounded : chunk.length ≤ maxWebRecvLen)
    (plain : looksLikePolicy chunk = false) (sid : SessionId) (start : Proxy)
    : (∀ answers,
        Ends (clientTurn sid) () (start.receive chunk sid)
            ((Proxy.web sid).decode (handleFrame sid) (onPolicy sid) (.data chunk) answers start)
          ∧ ∀ status next,
              Yields
                ((Proxy.web sid).decode (handleFrame sid) (onPolicy sid) (.data chunk) answers)
                start status next
              → status ≠ .fatalError → (next.received sid).length < 8000)
      ∧ (∀ state next, Yields (clientTurn sid ()) state (.again ()) next
        → (next.received sid).length + 2 ≤ (state.received sid).length)
      ∧ (start.Reached → (start.session sid).live = true
        → (start.received sid).length < 8000
          ∧ ∀ world answers begun,
              Yields (beginRead sid) { start with world := world, asked := 0 } answers begun
              → ∀ state, Visits (clientTurn sid) () (begun.receive chunk sid) () state
              → (state.received sid).length ≤ 110399) := by
  have removes : ∀ state next, Yields (clientTurn sid ()) state (.again ()) next
      → (next.received sid).length + 2 ≤ (state.received sid).length :=
    fun _ _ again => procPkgTurn_removes (fun _ _ _ _ run => handleFrame_keeps run) again
  refine ⟨fun answers => ⟨?_, fun status next run => procChunk_remains run⟩, removes, ?_⟩
  · exact procChunk_ends (fun _ _ _ _ run => handleFrame_keeps run) (onPolicy sid) _ plain start
  · intro reached alive
    have few := reached_await reached sid (Set.notMem_empty sid) alive
    refine ⟨few, fun world answers begun begins state visits => ?_⟩
    have few' : (begun.received sid).length < 8000 := beginRead_few begins few
    have appended : ((begun.receive chunk sid).received sid).length
        = (begun.received sid).length + chunk.length := by
      have data := (Proxy.web sid).cache.data_replace (begun.received sid ++ chunk) begun
      exact (congrArg List.length data).trans List.length_append
    refine visits.invariant (fun _ state => (state.received sid).length ≤ 110399) ?_ ?_
    · intro _ state _ next held again
      have shorter := removes state next again
      omega
    · unfold maxWebRecvLen at bounded
      omega

/-- A session that has received five bytes of a login, and then some more. -/
theorem received_bounded_in_login
    : ∃ proxy : Proxy, proxy.Reached ∧ (proxy.received 1).length = 5
        ∧ ∀ world answers begun,
            Yields (beginRead 1) { proxy with world := world, asked := 0 } answers begun
            → ∀ state,
                Visits (clientTurn 1) () (begun.receive ((loginFrame 7).drop 5) 1) () state
                → (state.received 1).length ≤ 110399 := by
  let events : List Event := [.accept 1 33 0, .clientFrame 1 ((loginFrame 7).take 5)]
  obtain ⟨proxy, reached, checked⟩ := Proxy.unused_unused.run (events.map Event.calmly)
    (fun proxy => (proxy.session 1).live = true ∧ (proxy.received 1).length = 5)
    (by decide +kernel)
  obtain ⟨alive, five⟩ := of_decide_eq_true checked
  have short : ((loginFrame 7).drop 5).length ≤ maxWebRecvLen := by decide +kernel
  have plain : looksLikePolicy ((loginFrame 7).drop 5) = false := by decide +kernel
  exact ⟨proxy, reached, five, ((received_bounded short plain 1 proxy).2.2 reached alive).2⟩

end ProxyServer.System
