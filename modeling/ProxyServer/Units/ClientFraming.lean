import ProxyServer.Library.StreamSplitter
import ProxyServer.Library.BoundedLoop
import ProxyServer.Units.Defs

/-! Taking frames off a client's stream: `CClientUnit::proc_pkg` and `HandleInput`.
A chunk that looks like a Flash policy request is answered before the read cache is looked
at, so the framing depends on how the stream is cut.
-/

namespace ProxyServer.Units
open FaultState BoundedLoop

-----------------------------------------------------------------------------------------
-- Framing
-----------------------------------------------------------------------------------------

/-- The local `pkglen` of `HandleInput`. -/
def pkglen (data : List UInt8) : Int := 2 + contentLength data

/-- `HandleInput`: the length of the frame in front, 0 to wait, or -1. -/
def handleInput (data : List UInt8) : Int :=
  if data.length < headLen then 0
  else if data.getD 2 0 ≠ 66 ∨ data.getD 3 0 ≠ 89 then -1
  else if pkglen data < 0 ∨ 8 * 1000 < pkglen data then -1
  else if (data.length : Int) < pkglen data then 0
  else pkglen data

/-- `std::string policy`, with the NUL that indexing it at its size gives. -/
def policy : List UInt8 := "<policy-file-request/>".toUTF8.toList ++ [0]

/-- `std::string resPolicy`, up to its first NUL. -/
def resPolicy : List UInt8 :=
  ("<cross-domain-policy><allow-access-from domain=\"*\" to-ports=\"*\" />"
    ++ "</cross-domain-policy>").toUTF8.toList

/-- The test at the head of `proc_pkg`, on one received chunk. -/
def looksLikePolicy (chunk : List UInt8) : Bool :=
  chunk.length = 23 ∧ chunk.getD 0 0 = 60 ∧ chunk.getD 1 0 = 112

section Loop

variable {σ : Type} (cache : ReadCache σ)
  (handleInputBuf : List UInt8 → StateT σ (Except Fault) Int)

/-- One turn of the `while` of `proc_pkg`. -/
def procPkgTurn (_ : Unit) : StateT σ (Except Fault) (Turn DecodeStatus Unit) := do
  let data := cache.data (← get)
  if data = [] then
    pure (.leave .waitHead)
  else if handleInput data < 0 then
    pure (.leave .fatalError)
  else if handleInput data = 0 then
    pure (.leave .waitContent)
  else if (← handleInputBuf (data.take (handleInput data).toNat)) < 0 then
    pure (.leave .fatalError)
  else do
    cache.skip (handleInput data).toNat
    pure (.again ())

/-- `proc_pkg` once a non-empty chunk has been received. `onPolicy` is `set_conn_type`,
`sendPolicy` queues and sends the policy reply.
-/
def procChunk (onPolicy sendPolicy : StateT σ (Except Fault) Unit) (chunk : List UInt8)
    : StateT σ (Except Fault) DecodeStatus := do
  if looksLikePolicy chunk then do
    onPolicy
    if chunk = policy then
      sendPolicy
    pure .fatalError
  else do
    cache.append chunk
    let buffered := (cache.data (← get)).length
    run .endless (procPkgTurn cache handleInputBuf) (buffered + 1) ()

variable {cache handleInputBuf}

/-- All that a turn can do: leave for one of four reasons, or handle and skip a frame. -/
theorem procPkgTurn_cases {state next : σ} {turn : Turn DecodeStatus Unit}
    (yields : Yields (procPkgTurn cache handleInputBuf ()) state turn next)
    : (turn = .leave .waitHead ∧ next = state ∧ cache.data state = [])
      ∨ (turn = .leave .fatalError ∧ next = state ∧ handleInput (cache.data state) < 0)
      ∨ (turn = .leave .waitContent ∧ next = state ∧ handleInput (cache.data state) = 0)
      ∨ 0 < handleInput (cache.data state)
        ∧ ∃ ret handled,
            Yields
              (handleInputBuf
                ((cache.data state).take (handleInput (cache.data state)).toNat))
              state ret handled
            ∧ (ret < 0 ∧ turn = .leave .fatalError ∧ next = handled
              ∨ 0 ≤ ret ∧ turn = .again ()
                ∧ next = cache.replace
                  ((cache.data handled).drop (handleInput (cache.data state)).toNat)
                  handled) := by
  obtain ⟨_, _, got, rest⟩ := yields_bind.mp yields
  obtain ⟨rfl, rfl⟩ := yields_get.mp got
  clear got yields
  dsimp only at rest
  split_ifs at rest with empty failed waits
  · obtain ⟨rfl, rfl⟩ := yields_pure.mp rest
    exact Or.inl ⟨rfl, rfl, empty⟩
  · obtain ⟨rfl, rfl⟩ := yields_pure.mp rest
    exact Or.inr (Or.inl ⟨rfl, rfl, failed⟩)
  · obtain ⟨rfl, rfl⟩ := yields_pure.mp rest
    exact Or.inr (Or.inr (Or.inl ⟨rfl, rfl, waits⟩))
  · refine Or.inr (Or.inr (Or.inr ⟨by omega, ?_⟩))
    obtain ⟨ret, handled, call, rest⟩ := yields_bind.mp rest
    refine ⟨ret, handled, call, ?_⟩
    split_ifs at rest with refused
    · obtain ⟨rfl, rfl⟩ := yields_pure.mp rest
      exact Or.inl ⟨refused, rfl, rfl⟩
    · obtain ⟨_, _, skipped, rest⟩ := yields_bind.mp rest
      obtain ⟨rfl, rfl⟩ := yields_pure.mp rest
      exact Or.inr ⟨by omega, rfl, (yields_modify.mp skipped)⟩

/-- The rule for the `while` of `proc_pkg`: an invariant of its loop heads, and what each way
of leaving makes of it.
-/
theorem procPkgLoop_holds (invariant : σ → Prop) (post : DecodeStatus → σ → Prop)
    (drained : ∀ state, invariant state → cache.data state = [] → post .waitHead state)
    (rejected
      : ∀ state, invariant state → handleInput (cache.data state) < 0
        → post .fatalError state)
    (waiting
      : ∀ state, invariant state → handleInput (cache.data state) = 0
        → post .waitContent state)
    (handles
      : ∀ state, invariant state → 0 < handleInput (cache.data state)
        → ∀ ret next,
            Yields
              (handleInputBuf
                ((cache.data state).take (handleInput (cache.data state)).toNat))
              state ret next
            → (ret < 0 → post .fatalError next)
              ∧ (0 ≤ ret → invariant (cache.replace
                  ((cache.data next).drop (handleInput (cache.data state)).toNat) next)))
    (fuel : Nat)
    : Holds invariant (run .endless (procPkgTurn cache handleInputBuf) fuel ()) post := by
  refine holds_run Fault.endless (fun _ => invariant) (fun _ => ?_) fuel ()
  intro state turn next before yields
  obtain ⟨rfl, rfl, empty⟩ | ⟨rfl, rfl, failed⟩ | ⟨rfl, rfl, waits⟩
    | ⟨whole, ret, handled, call, left | goesOn⟩ := procPkgTurn_cases yields
  · exact drained _ before empty
  · exact rejected _ before failed
  · exact waiting _ before waits
  · obtain ⟨refused, rfl, rfl⟩ := left
    exact (handles _ before whole _ _ call).1 refused
  · obtain ⟨accepted, rfl, rfl⟩ := goesOn
    exact (handles _ before whole _ _ call).2 accepted

/-- A frame in front has the two bytes of its length at least, and it is whole. -/
theorem handleInput_length {buffered : List UInt8} (positive : 0 < handleInput buffered)
    : 2 ≤ (handleInput buffered).toNat
      ∧ (handleInput buffered).toNat ≤ buffered.length := by
  unfold handleInput pkglen at positive ⊢
  split_ifs at positive ⊢
  all_goals omega

/-- Bytes that wait for more of a frame are fewer than the longest frame has. -/
theorem handleInput_waits {buffered : List UInt8} (waits : handleInput buffered = 0)
    : buffered.length < 8000 := by
  unfold handleInput pkglen headLen at waits
  split_ifs at waits
  all_goals omega

/-- A turn that goes on has removed two bytes, if frames keep or clear what has been received.
-/
theorem procPkgTurn_removes
    (keeps
      : ∀ frame start ret next, Yields (handleInputBuf frame) start ret next
        → cache.data next = cache.data start ∨ cache.data next = [])
    {state next : σ} (yields : Yields (procPkgTurn cache handleInputBuf ()) state (.again ()) next)
    : (cache.data next).length + 2 ≤ (cache.data state).length := by
  obtain ⟨leaves, -⟩ | ⟨leaves, -⟩ | ⟨leaves, -⟩ | ⟨whole, ret, handled, call, left | goesOn⟩ :=
    procPkgTurn_cases yields
  · cases leaves
  · cases leaves
  · cases leaves
  · cases left.2.1
  · obtain ⟨two, fits⟩ := handleInput_length whole
    rw [goesOn.2.2, cache.data_replace, List.length_drop]
    rcases keeps _ _ _ _ call with kept | cleared
    · rw [kept]
      omega
    · rw [cleared]
      simp only [List.length_nil]
      omega

/-- The loop of `proc_pkg` comes to an end, whatever has been received. -/
theorem procChunk_ends
    (keeps
      : ∀ frame start ret next, Yields (handleInputBuf frame) start ret next
        → cache.data next = cache.data start ∨ cache.data next = [])
    (onPolicy sendPolicy : StateT σ (Except Fault) Unit) {chunk : List UInt8}
    (plain : looksLikePolicy chunk = false) (state : σ)
    : Ends (procPkgTurn cache handleInputBuf) ()
        (cache.replace (cache.data state ++ chunk) state)
        (procChunk cache handleInputBuf onPolicy sendPolicy chunk state) := by
  rw [procChunk, plain]
  refine run_ends Fault.endless (fun _ state => (cache.data state).length) ?_
    (Nat.lt_succ_self _)
  intro _ start _ next again
  have removes := procPkgTurn_removes keeps again
  omega

/-- Fewer bytes than the longest frame has remain when the loop leaves without an error. -/
theorem procChunk_remains {onPolicy sendPolicy : StateT σ (Except Fault) Unit}
    {chunk : List UInt8} {state next : σ} {status : DecodeStatus}
    (run : Yields (procChunk cache handleInputBuf onPolicy sendPolicy chunk) state status next)
    (running : status ≠ .fatalError)
    : (cache.data next).length < 8000 := by
  unfold procChunk at run
  split_ifs at run with looks answered
  · obtain ⟨_, _, _, rest⟩ := yields_bind.mp run
    obtain ⟨_, _, _, ends⟩ := yields_bind.mp rest
    exact (running (yields_pure.mp ends).1).elim
  · obtain ⟨_, _, _, ends⟩ := yields_bind.mp run
    exact (running (yields_pure.mp ends).1).elim
  · obtain ⟨_, _, _, rest⟩ := yields_bind.mp run
    obtain ⟨_, _, _, loops⟩ := yields_bind.mp rest
    refine procPkgLoop_holds (fun _ => True)
      (fun status state => status ≠ .fatalError → (cache.data state).length < 8000)
      ?_ ?_ ?_ ?_ _ trivial loops running
    · intro state _ empty _
      rw [empty]
      exact Nat.zero_lt_succ _
    · exact fun _ _ _ fatal => (fatal rfl).elim
    · exact fun _ _ waits _ => handleInput_waits waits
    · exact fun _ _ _ _ _ _ => ⟨fun _ fatal => (fatal rfl).elim, fun _ => trivial⟩

/-- Reading a chunk stays within what its frames, the policy reply and skipping do. -/
theorem procChunk_within {conduct : Conduct σ Fault}
    {onPolicy sendPolicy : StateT σ (Except Fault) Unit}
    (endless : ∀ state, conduct.tolerates state .endless)
    (replaced : ∀ bytes state, conduct.related state (cache.replace bytes state))
    (handles : ∀ frame, Within conduct (handleInputBuf frame))
    (policy : Within conduct onPolicy) (sends : Within conduct sendPolicy)
    (chunk : List UInt8)
    : Within conduct (procChunk cache handleInputBuf onPolicy sendPolicy chunk) := by
  refine Within.ite ?_ ?_
  · refine Within.bind policy (fun _ => ?_)
    refine Within.ite ?_ ?_
    · exact Within.bind sends (fun _ => Within.pure _)
    · exact Within.pure _
  · refine Within.bind (Within.modify (fun state => replaced _ state)) (fun _ => ?_)
    refine Within.bind Within.get (fun buffered => ?_)
    apply within_run endless
    intro _
    refine Within.bind Within.get (fun state => ?_)
    refine Within.ite (Within.pure _) ?_
    refine Within.ite (Within.pure _) ?_
    refine Within.ite (Within.pure _) ?_
    refine Within.bind (handles _) (fun ret => ?_)
    refine Within.ite (Within.pure _) ?_
    exact Within.bind (Within.modify (fun state => replaced _ state))
      (fun _ => Within.pure _)

end Loop

/-- What the framing decides about the bytes in the cache. -/
def clientVerdict (buffered : List UInt8) : StreamSplitter.Verdict :=
  if handleInput buffered < 0 then .reject
  else if handleInput buffered = 0 then .wait
  else .frame (handleInput buffered).toNat

/-- More bytes do not change what `HandleInput` decided once it did not wait. -/
theorem handleInput_append {buffered : List UInt8} (more : List UInt8)
    (decided : handleInput buffered ≠ 0)
    : handleInput (buffered ++ more) = handleInput buffered := by
  unfold handleInput at decided ⊢
  split_ifs at decided with header
  all_goals
    unfold headLen at header
    have flags : ∀ i < 4, (buffered ++ more).getD i 0 = buffered.getD i 0 := by
      intro i bound
      simp only [List.getD_eq_getElem?_getD]
      rw [List.getElem?_append_left (by omega)]
    have same : pkglen (buffered ++ more) = pkglen buffered := by
      unfold pkglen
      rw [contentLength_append more (by unfold headLen; omega)]
    rw [same, flags 2 (by omega), flags 3 (by omega), List.length_append]
    unfold headLen
    split_ifs <;> first | rfl | omega

/-- A frame is whole, and not longer than 8000 bytes. -/
theorem handleInput_frame {buffered : List UInt8} (positive : 0 < handleInput buffered)
    : handleInput buffered = pkglen buffered
      ∧ (handleInput buffered).toNat ≤ buffered.length
      ∧ headLen ≤ buffered.length
      ∧ handleInput buffered ≤ 8000 := by
  unfold handleInput at positive ⊢
  split_ifs at positive ⊢
  all_goals omega

/-- The framing of client streams. -/
def clientSplitter : StreamSplitter UInt8 where
  verdict := clientVerdict
  frame_pos := by
    intro buffered length decision
    unfold clientVerdict at decision
    split_ifs at decision with failed waits
    cases decision
    omega
  frame_le := by
    intro buffered length decision
    unfold clientVerdict at decision
    split_ifs at decision with failed waits
    cases decision
    exact (handleInput_frame (by omega)).2.1
  frame_stable := by
    intro buffered length more decision
    unfold clientVerdict at decision ⊢
    split_ifs at decision with failed waits
    rw [handleInput_append more waits, if_neg failed, if_neg waits]
    exact decision
  reject_stable := by
    intro buffered more decision
    unfold clientVerdict at decision ⊢
    split_ifs at decision with failed
    rw [handleInput_append more (by omega), if_pos failed]

theorem clientVerdict_wait {buffered : List UInt8}
    : clientSplitter.verdict buffered = .wait ↔ handleInput buffered = 0 := by
  change clientVerdict buffered = .wait ↔ _
  unfold clientVerdict
  split_ifs with failed waits
  · exact ⟨nofun, fun h => by omega⟩
  · exact ⟨fun _ => waits, fun _ => rfl⟩
  · exact ⟨nofun, fun h => (waits h).elim⟩

theorem clientVerdict_reject {buffered : List UInt8}
    : clientSplitter.verdict buffered = .reject ↔ handleInput buffered < 0 := by
  change clientVerdict buffered = .reject ↔ _
  unfold clientVerdict
  split_ifs with failed waits
  · exact ⟨fun _ => failed, fun _ => rfl⟩
  · exact ⟨nofun, fun h => (failed h).elim⟩
  · exact ⟨nofun, fun h => (failed h).elim⟩

theorem clientVerdict_frame {buffered : List UInt8} (positive : 0 < handleInput buffered)
    : clientSplitter.verdict buffered = .frame (handleInput buffered).toNat := by
  change clientVerdict buffered = _
  unfold clientVerdict
  rw [if_neg (by omega), if_neg (by omega)]

-----------------------------------------------------------------------------------------
-- A client's stream, chunk by chunk
-----------------------------------------------------------------------------------------

/-- What a connection does with its client's bytes: the read cache, the frames given to
`HandleInputBuf` and the policy replies.
-/
structure ClientStream where
  received : List UInt8
  dispatched : List (List UInt8)
  replies : List (List UInt8)

def streamCache : ReadCache ClientStream where
  data := ClientStream.received
  replace := fun bytes stream => { stream with received := bytes }
  data_replace := fun _ _ => rfl

/-- What can be observed of a connection: frames, policy replies, and how it ended. -/
structure Observation where
  dispatched : List (List UInt8)
  replies : List (List UInt8)
  ending : StreamSplitter.Ending UInt8
  deriving DecidableEq, Repr

section Stream

-- The return value of `HandleInputBuf`, given the frames before and the frame.
variable (verdict : List (List UInt8) → List UInt8 → Int)

def dispatch (frame : List UInt8) : StateT ClientStream (Except Fault) Int := do
  let stream ← get
  modify (fun stream => { stream with dispatched := stream.dispatched ++ [frame] })
  pure (verdict stream.dispatched frame)

def sendPolicy : StateT ClientStream (Except Fault) Unit :=
  modify (fun stream => { stream with replies := stream.replies ++ [resPolicy] })

/-- Chunks that arrive one after another; a fatal decode error ends the connection. -/
def receiveChunks
    : DecodeStatus → List (List UInt8) → StateT ClientStream (Except Fault) DecodeStatus
  | status, [] => pure status
  | _, chunk :: rest => do
      let status ← procChunk streamCache (dispatch verdict) (pure ()) sendPolicy chunk
      if status = .fatalError then pure status else receiveChunks status rest

/-- What a new connection shows when its stream arrives in these chunks. -/
def observe (chunks : List (List UInt8)) : Option Observation :=
  match receiveChunks verdict .waitHead chunks ⟨[], [], []⟩ with
  | .ok (status, stream) =>
      some
        {
          dispatched := stream.dispatched
          replies := stream.replies
          ending := if status = .fatalError then .failed else .waiting stream.received
        }
  | .error _ => none

/-- A way of cutting a stream into non-empty chunks of one `recv` each. -/
structure Cut (stream : List UInt8) (chunks : List (List UInt8)) : Prop where
  flatten : chunks.flatten = stream
  nonempty : ∀ chunk ∈ chunks, chunk ≠ []
  bounded : ∀ chunk ∈ chunks, chunk.length ≤ maxWebRecvLen

/-- All ways of cutting the stream are observed alike. -/
def CutsIrrelevant (stream : List UInt8) : Prop :=
  ∃ observation, ∀ chunks, Cut stream chunks → observe verdict chunks = some observation

/-- The whole and accepted frames in front of some bytes, and the rest behind them. -/
inductive FramesOff (bytes : List UInt8) : List (List UInt8) → List UInt8 → Prop
  | none : FramesOff bytes [] bytes
  | next {frames : List (List UInt8)} {rest : List UInt8}
    (earlier : FramesOff bytes frames rest) (whole : 0 < handleInput rest)
    (accepted : 0 ≤ verdict frames (rest.take (handleInput rest).toNat))
    : FramesOff bytes (frames ++ [rest.take (handleInput rest).toNat])
        (rest.drop (handleInput rest).toNat)

/-- No chunk of the stream can be taken for a policy request where it makes a difference:
behind accepted frames and a rest that waits, 23 bytes that look like one are not one, and
the rest with all that follows is refused as a frame.
-/
def PolicySafe (stream : List UInt8) : Prop :=
  ∀ front chunk back frames rest,
    stream = front ++ chunk ++ back
    → looksLikePolicy chunk = true
    → FramesOff verdict front frames rest
    → handleInput rest = 0
    → chunk ≠ policy ∧ handleInput (rest ++ (chunk ++ back)) < 0

def accepts (taken : List (List UInt8)) (frame : List UInt8) : Bool :=
  0 ≤ verdict taken frame

-----------------------------------------------------------------------------------------
-- Chunks that do not look like a policy request
-----------------------------------------------------------------------------------------

variable {verdict}

/-- The connection's state and decode status that a splitting outcome stands for. -/
def Shows (outcome : StreamSplitter.Outcome UInt8) (replies : List (List UInt8))
    (status : DecodeStatus) (stream : ClientStream) : Prop :=
  stream.dispatched = outcome.1 ∧ stream.replies = replies
    ∧ match outcome.2 with
      | .waiting rest => status ≠ .fatalError ∧ stream.received = rest
      | .failed => status = .fatalError

/-- A turn leaves with the outcome of splitting the cache, or takes off one frame. -/
theorem procPkgTurn_delivers (stream : ClientStream)
    : Delivers (procPkgTurn streamCache (dispatch verdict) ()) stream
        (fun turn next =>
          match turn with
          | .leave status =>
              Shows
                (clientSplitter.split (accepts verdict) stream.dispatched stream.received)
                stream.replies status next
          | .again _ =>
              next.received.length < stream.received.length
                ∧ next.replies = stream.replies
                ∧ clientSplitter.split (accepts verdict) next.dispatched next.received
                  = clientSplitter.split (accepts verdict) stream.dispatched
                    stream.received) := by
  refine Delivers.bind (Delivers.get ?_)
  change Delivers (if stream.received = [] then _ else _) _ _
  split
  · rename_i empty
    have waits : handleInput stream.received = 0 := by rw [empty]; rfl
    refine Delivers.pure ?_
    rw [StreamSplitter.split_wait (clientVerdict_wait.mpr waits)]
    exact ⟨rfl, rfl, nofun, rfl⟩
  · split
    · rename_i failed
      change handleInput stream.received < 0 at failed
      refine Delivers.pure ?_
      rw [StreamSplitter.split_reject (clientVerdict_reject.mpr failed)]
      exact ⟨rfl, rfl, rfl⟩
    · split
      · rename_i waits
        change handleInput stream.received = 0 at waits
        refine Delivers.pure ?_
        rw [StreamSplitter.split_wait (clientVerdict_wait.mpr waits)]
        exact ⟨rfl, rfl, nofun, rfl⟩
      · rename_i passed decided
        change ¬handleInput stream.received < 0 at passed
        change ¬handleInput stream.received = 0 at decided
        have positive : 0 < handleInput stream.received := by omega
        have decision := clientVerdict_frame positive
        have pos := clientSplitter.frame_pos decision
        have le := clientSplitter.frame_le decision
        refine Delivers.bind (Delivers.bind (Delivers.get (Delivers.bind
          (Delivers.modify (Delivers.pure ?_)))))
        split
        · rename_i refused
          have unaccepted
              : accepts verdict stream.dispatched
                  (stream.received.take (handleInput stream.received).toNat) = false :=
            decide_eq_false (Int.not_le.mpr refused)
          refine Delivers.pure ?_
          rw [StreamSplitter.split_refused decision unaccepted]
          exact ⟨rfl, rfl, rfl⟩
        · rename_i accepted
          have taken
              : accepts verdict stream.dispatched
                  (stream.received.take (handleInput stream.received).toNat) = true :=
            decide_eq_true (Int.not_lt.mp accepted)
          refine Delivers.bind (Delivers.modify (Delivers.pure ⟨?_, rfl, ?_⟩))
          · change (stream.received.drop (handleInput stream.received).toNat).length < _
            rw [List.length_drop]
            omega
          · exact (StreamSplitter.split_accepted decision taken).symm

variable (verdict) in
/-- A chunk that does not look like a policy request is split behind the remainder. -/
theorem procChunk_delivers {chunk : List UInt8} (plain : looksLikePolicy chunk = false)
    (stream : ClientStream)
    : Delivers (procChunk streamCache (dispatch verdict) (pure ()) sendPolicy chunk) stream
        (Shows
          (clientSplitter.split (accepts verdict) stream.dispatched
            (stream.received ++ chunk)) stream.replies) := by
  unfold procChunk
  rw [plain, if_neg (by decide)]
  refine Delivers.bind (Delivers.modify (Delivers.bind (Delivers.get ?_)))
  refine run_total Fault.endless
    (fun _ next =>
      next.replies = stream.replies
        ∧ clientSplitter.split (accepts verdict) next.dispatched next.received
          = clientSplitter.split (accepts verdict) stream.dispatched
            (stream.received ++ chunk))
    (fun _ next => next.received.length) ?_ ⟨rfl, rfl⟩ (Nat.lt_succ_self _)
  rintro _ middle ⟨replies, same⟩
  refine (procPkgTurn_delivers middle).weaken ?_
  intro turn next result
  cases turn with
  | leave status =>
      rw [same, replies] at result
      exact result
  | again _ => exact ⟨⟨result.2.1.trans replies, result.2.2.trans same⟩, result.1⟩

/-- A chunk that looks like a policy request ends the connection, with a reply when it is
one.
-/
theorem procChunk_policy {chunk : List UInt8} (looks : looksLikePolicy chunk = true)
    (stream : ClientStream)
    : Delivers (procChunk streamCache (dispatch verdict) (pure ()) sendPolicy chunk) stream
        (fun status next =>
          status = .fatalError ∧ next.dispatched = stream.dispatched
            ∧ next.replies
              = if chunk = policy then stream.replies ++ [resPolicy] else stream.replies) := by
  unfold procChunk
  rw [if_pos looks]
  refine Delivers.bind (Delivers.pure ?_)
  split
  · exact Delivers.bind (Delivers.modify (Delivers.pure ⟨rfl, rfl, rfl⟩))
  · exact Delivers.pure ⟨rfl, rfl, rfl⟩

-----------------------------------------------------------------------------------------
-- Frames in front of a chunk
-----------------------------------------------------------------------------------------

/-- Splitting goes on behind the frames taken off. -/
theorem FramesOff.split_eq {bytes rest : List UInt8} {frames : List (List UInt8)}
    (off : FramesOff verdict bytes frames rest) (more : List UInt8)
    : clientSplitter.split (accepts verdict) [] (bytes ++ more)
      = clientSplitter.split (accepts verdict) frames (rest ++ more) := by
  induction off with
  | none => rfl
  | @next frames rest earlier whole accepted ih =>
      have decision := clientVerdict_frame whole
      have le := clientSplitter.frame_le decision
      have front : (rest ++ more).take (handleInput rest).toNat
          = rest.take (handleInput rest).toNat := List.take_append_of_le_length le
      rw [ih, StreamSplitter.split_accepted (clientSplitter.frame_stable more decision),
        front, List.drop_append_of_le_length le]
      rw [front]
      simpa [accepts] using accepted

/-- A splitting that waits has taken the frames off, by induction along the frames. -/
theorem framesOff_of_split {bytes rest : List UInt8} {frames : List (List UInt8)}
    (outcome : clientSplitter.split (accepts verdict) [] bytes = (frames, .waiting rest))
    : FramesOff verdict bytes frames rest := by
  have along (taken : List (List UInt8)) (buffered : List UInt8)
      (off : FramesOff verdict bytes taken buffered)
      (outcome : clientSplitter.split (accepts verdict) taken buffered
        = (frames, .waiting rest))
      : FramesOff verdict bytes frames rest := by
    induction taken, buffered
      using StreamSplitter.split_induction clientSplitter (accepts verdict) with
    | wait taken buffered decision =>
        rw [StreamSplitter.split_wait decision] at outcome
        cases outcome
        exact off
    | reject taken buffered decision => simp [StreamSplitter.split_reject decision] at outcome
    | refused taken buffered length decision refused =>
        simp [StreamSplitter.split_refused decision refused] at outcome
    | accepted taken buffered length decision accepted ih =>
        rw [StreamSplitter.split_accepted decision accepted] at outcome
        have positive : 0 < handleInput buffered := by
          by_contra negative
          rcases Int.lt_or_eq_of_le (Int.not_lt.mp negative) with failed | waits
          · rw [clientVerdict_reject.mpr failed] at decision
            cases decision
          · rw [clientVerdict_wait.mpr waits] at decision
            cases decision
        rw [clientVerdict_frame positive] at decision
        cases decision
        exact ih (FramesOff.next off positive (by simpa [accepts] using accepted)) outcome
  exact along [] bytes FramesOff.none outcome

-----------------------------------------------------------------------------------------
-- Cuts
-----------------------------------------------------------------------------------------

/-- Plain chunks are split one behind the other, by induction over the chunks. -/
theorem receiveChunks_plain (chunks : List (List UInt8))
    (plain : ∀ chunk ∈ chunks, looksLikePolicy chunk = false) {status : DecodeStatus}
    (running : status ≠ .fatalError) (stream : ClientStream)
    (waits : handleInput stream.received = 0)
    : Delivers (receiveChunks verdict status chunks) stream
        (Shows
          (clientSplitter.split (accepts verdict) stream.dispatched
            (stream.received ++ chunks.flatten)) stream.replies) := by
  induction chunks generalizing status stream with
  | nil =>
      refine Delivers.pure ?_
      rw [List.flatten_nil, List.append_nil,
        StreamSplitter.split_wait (clientVerdict_wait.mpr waits)]
      exact ⟨rfl, rfl, running, rfl⟩
  | cons chunk rest ih =>
      have first := procChunk_delivers verdict
        (plain chunk List.mem_cons_self) stream
      refine Delivers.bind (first.weaken ?_)
      intro status next shows'
      rw [List.flatten_cons, ← List.append_assoc, StreamSplitter.split_append]
      cases outcome : clientSplitter.split (accepts verdict) stream.dispatched
        (stream.received ++ chunk) with
      | mk frames ending =>
          rw [outcome] at shows'
          obtain ⟨dispatched, replies, ended⟩ := shows'
          cases ending with
          | failed =>
              rw [if_pos ended]
              exact Delivers.pure ⟨dispatched, replies, ended⟩
          | waiting remainder =>
              obtain ⟨running', same⟩ := ended
              rw [if_neg running']
              have stillWaits := StreamSplitter.split_waiting_rest outcome
              rw [← same] at stillWaits
              have later := ih (fun chunk member => plain chunk (List.mem_cons_of_mem _ member))
                running' next (clientVerdict_wait.mp stillWaits)
              rw [dispatched, same, replies] at later
              exact later

/-- What plain chunks show is what their bytes show in one split. -/
def splitObservation (verdict : List (List UInt8) → List UInt8 → Int) (stream : List UInt8)
    : Observation where
  dispatched := (clientSplitter.split (accepts verdict) [] stream).1
  replies := []
  ending := (clientSplitter.split (accepts verdict) [] stream).2

theorem Shows.observation {outcome : StreamSplitter.Outcome UInt8}
    {replies : List (List UInt8)} {status : DecodeStatus} {stream : ClientStream}
    (shows' : Shows outcome replies status stream)
    : (⟨stream.dispatched, stream.replies,
        if status = .fatalError then .failed else .waiting stream.received⟩ : Observation)
      = ⟨outcome.1, replies, outcome.2⟩ := by
  obtain ⟨frames, ending⟩ := outcome
  obtain ⟨dispatched, replied, ended⟩ := shows'
  cases ending with
  | waiting rest =>
      obtain ⟨running, same⟩ := ended
      rw [if_neg running, dispatched, replied, same]
  | failed =>
      rw [if_pos ended, dispatched, replied]

theorem observe_of_shows {chunks : List (List UInt8)} {outcome : StreamSplitter.Outcome UInt8}
    {replies : List (List UInt8)}
    (delivered
      : Delivers (receiveChunks verdict .waitHead chunks) ⟨[], [], []⟩ (Shows outcome replies))
    : observe verdict chunks = some ⟨outcome.1, replies, outcome.2⟩ := by
  obtain ⟨status, stream, run, shows'⟩ := delivered
  unfold Yields at run
  unfold observe
  rw [run, ← shows'.observation]

theorem observe_plain {chunks : List (List UInt8)}
    (plain : ∀ chunk ∈ chunks, looksLikePolicy chunk = false)
    : observe verdict chunks = some (splitObservation verdict chunks.flatten) :=
  have running : DecodeStatus.waitHead ≠ .fatalError := nofun
  observe_of_shows (receiveChunks_plain chunks plain running ⟨[], [], []⟩ rfl)

/-- The cut into single bytes, none of which looks like a policy request. -/
def singles (stream : List UInt8) : List (List UInt8) :=
  stream.map (fun byte => [byte])

theorem cut_singles (stream : List UInt8) : Cut stream (singles stream) where
  flatten := by
    induction stream with
    | nil => rfl
    | cons byte rest ih => simpa [singles] using ih
  nonempty := by simp [singles]
  bounded := by simp [singles, maxWebRecvLen]

theorem plain_singles (stream : List UInt8)
    : ∀ chunk ∈ singles stream, looksLikePolicy chunk = false := by
  simp [singles, looksLikePolicy]

/-- The rest of a stream is safe behind what has been taken and what is buffered. -/
def SafeBehind (verdict : List (List UInt8) → List UInt8 → Int)
    (taken : List (List UInt8)) (buffered stream : List UInt8) : Prop :=
  ∀ front chunk back frames rest,
    stream = front ++ chunk ++ back
    → looksLikePolicy chunk = true
    → clientSplitter.split (accepts verdict) taken (buffered ++ front) = (frames, .waiting rest)
    → chunk ≠ policy ∧ handleInput (rest ++ (chunk ++ back)) < 0

theorem PolicySafe.safeBehind {stream : List UInt8} (safe : PolicySafe verdict stream)
    : SafeBehind verdict [] [] stream := by
  intro front chunk back frames rest cut looks outcome
  rw [List.nil_append] at outcome
  exact safe front chunk back frames rest cut looks (framesOff_of_split outcome)
    (clientVerdict_wait.mp (StreamSplitter.split_waiting_rest outcome))

/-- On a safe stream every cut shows what one split of it shows, by induction over the
chunks: a chunk taken for a policy request fails where the split fails.
-/
theorem receiveChunks_safe (chunks : List (List UInt8)) {status : DecodeStatus}
    (running : status ≠ .fatalError) (stream : ClientStream)
    (waits : handleInput stream.received = 0)
    (safe : SafeBehind verdict stream.dispatched stream.received chunks.flatten)
    : Delivers (receiveChunks verdict status chunks) stream
        (Shows
          (clientSplitter.split (accepts verdict) stream.dispatched
            (stream.received ++ chunks.flatten)) stream.replies) := by
  induction chunks generalizing status stream with
  | nil => exact receiveChunks_plain [] nofun running stream waits
  | cons chunk rest ih =>
      rw [List.flatten_cons] at safe ⊢
      by_cases looks : looksLikePolicy chunk = true
      · have decision : clientSplitter.split (accepts verdict) stream.dispatched
            stream.received = (stream.dispatched, .waiting stream.received) :=
          StreamSplitter.split_wait (clientVerdict_wait.mpr waits)
        obtain ⟨notPolicy, refused⟩ := safe [] chunk rest.flatten stream.dispatched
          stream.received (by simp) looks (by rw [List.append_nil]; exact decision)
        refine Delivers.bind ((procChunk_policy looks stream).weaken ?_)
        rintro status' next ⟨rfl, dispatched, replies⟩
        rw [if_pos rfl]
        rw [if_neg notPolicy] at replies
        refine Delivers.pure ?_
        rw [StreamSplitter.split_reject (clientVerdict_reject.mpr refused)]
        exact ⟨dispatched, replies, rfl⟩
      · have first := procChunk_delivers verdict (eq_false_of_ne_true looks) stream
        refine Delivers.bind (first.weaken ?_)
        intro status' next shows'
        rw [← List.append_assoc, StreamSplitter.split_append]
        cases outcome : clientSplitter.split (accepts verdict) stream.dispatched
          (stream.received ++ chunk) with
        | mk frames ending =>
            rw [outcome] at shows'
            obtain ⟨dispatched, replies, ended⟩ := shows'
            cases ending with
            | failed =>
                rw [if_pos ended]
                exact Delivers.pure ⟨dispatched, replies, ended⟩
            | waiting remainder =>
                obtain ⟨running', same⟩ := ended
                rw [if_neg running']
                have stillWaits := clientVerdict_wait.mp
                  (StreamSplitter.split_waiting_rest outcome)
                have later := ih running' next (by rw [same]; exact stillWaits) (by
                  intro front chunk' back frames' rest' cut looks' taken
                  refine safe (chunk ++ front) chunk' back frames' rest'
                    (by rw [cut]; simp) looks' ?_
                  rw [← List.append_assoc, StreamSplitter.split_append, outcome]
                  rw [dispatched, same] at taken
                  exact taken)
                rw [dispatched, same, replies] at later
                exact later

/-- A split that fails without a further frame has refused what it looked at. -/
theorem refused_of_split_failed {frames : List (List UInt8)} {buffered : List UInt8}
    (outcome : clientSplitter.split (accepts verdict) frames buffered = (frames, .failed))
    : handleInput buffered < 0 := by
  rcases Int.lt_trichotomy (handleInput buffered) 0 with failed | waits | positive
  · exact failed
  · rw [StreamSplitter.split_wait (clientVerdict_wait.mpr waits)] at outcome
    cases outcome
  · have decision := clientVerdict_frame positive
    cases accepted : accepts verdict frames (buffered.take (handleInput buffered).toNat) with
    | false =>
        rw [StreamSplitter.split_refused decision accepted] at outcome
        simp at outcome
    | true =>
        rw [StreamSplitter.split_accepted decision accepted] at outcome
        have longer := StreamSplitter.split_taken_prefix clientSplitter (accepts verdict)
          (frames ++ [buffered.take (handleInput buffered).toNat])
          (buffered.drop (handleInput buffered).toNat)
        rw [outcome] at longer
        have lengths := longer.length_le
        simp at lengths

/-- Cutting out a chunk that looks like a policy request shows the frames in front of it, a
failure, and a reply when it is one.
-/
theorem observe_cut_out {front chunk back rest : List UInt8} {frames : List (List UInt8)}
    (looks : looksLikePolicy chunk = true) (off : FramesOff verdict front frames rest)
    (waits : handleInput rest = 0)
    : observe verdict (singles front ++ chunk :: singles back)
      = some ⟨frames, if chunk = policy then [resPolicy] else [], .failed⟩ := by
  have outcome
      : clientSplitter.split (accepts verdict) [] front = (frames, .waiting rest) := by
    have split := off.split_eq []
    rw [List.append_nil, List.append_nil,
      StreamSplitter.split_wait (clientVerdict_wait.mpr waits)] at split
    exact split
  have along (chunks : List (List UInt8))
      (plain : ∀ piece ∈ chunks, looksLikePolicy piece = false) {status : DecodeStatus}
      (running : status ≠ .fatalError) (stream : ClientStream)
      (waits : handleInput stream.received = 0) (replies : stream.replies = [])
      (outcome : clientSplitter.split (accepts verdict) stream.dispatched
        (stream.received ++ chunks.flatten) = (frames, .waiting rest))
      : Delivers (receiveChunks verdict status (chunks ++ chunk :: singles back)) stream
          (Shows (frames, .failed) (if chunk = policy then [resPolicy] else [])) := by
    induction chunks generalizing status stream with
    | nil =>
        rw [List.flatten_nil, List.append_nil,
          StreamSplitter.split_wait (clientVerdict_wait.mpr waits)] at outcome
        refine Delivers.bind ((procChunk_policy looks stream).weaken ?_)
        rintro status' next ⟨rfl, dispatched, replied⟩
        rw [if_pos rfl]
        refine Delivers.pure ⟨dispatched.trans (congrArg Prod.fst outcome), ?_, rfl⟩
        rw [replied, replies]
        rfl
    | cons piece pieces ih =>
        have first := procChunk_delivers verdict
          (plain piece List.mem_cons_self) stream
        rw [List.flatten_cons, ← List.append_assoc, StreamSplitter.split_append] at outcome
        refine Delivers.bind (first.weaken ?_)
        intro status' next shows'
        cases taken : clientSplitter.split (accepts verdict) stream.dispatched
          (stream.received ++ piece) with
        | mk taken' ending =>
            rw [taken] at outcome shows'
            obtain ⟨dispatched, replied, ended⟩ := shows'
            cases ending with
            | failed => cases outcome
            | waiting remainder =>
                obtain ⟨running', same⟩ := ended
                rw [if_neg running']
                have stillWaits := clientVerdict_wait.mp
                  (StreamSplitter.split_waiting_rest taken)
                refine ih (fun piece member => plain piece (List.mem_cons_of_mem _ member))
                  running' next (by rw [same]; exact stillWaits) (replied.trans replies) ?_
                rw [dispatched, same]
                exact outcome
  have running : DecodeStatus.waitHead ≠ .fatalError := nofun
  refine observe_of_shows (along (singles front) (plain_singles front) running ⟨[], [], []⟩
    rfl rfl ?_)
  rw [(cut_singles front).flatten]
  exact outcome

end Stream

/-- A client's stream is observed alike under all cuts exactly when no 23 bytes of it can be
taken for a policy request where it makes a difference.
-/
theorem cuts_irrelevant_iff (verdict : List (List UInt8) → List UInt8 → Int)
    (stream : List UInt8)
    : CutsIrrelevant verdict stream ↔ PolicySafe verdict stream := by
  constructor
  · rintro ⟨observation, observed⟩ front chunk back frames rest rfl looks off waits
    have whole := observed _ (cut_singles (front ++ chunk ++ back))
    rw [observe_plain (plain_singles _), (cut_singles _).flatten] at whole
    have cut : Cut (front ++ chunk ++ back) (singles front ++ chunk :: singles back) := by
      have sized : chunk.length = 23 := by
        simp only [looksLikePolicy, Bool.decide_and, Bool.and_eq_true, decide_eq_true_eq]
          at looks
        exact looks.1
      refine ⟨?_, ?_, ?_⟩
      · rw [List.flatten_append, List.flatten_cons, (cut_singles front).flatten,
          (cut_singles back).flatten, List.append_assoc]
      · intro piece member
        rcases List.mem_append.mp member with inFront | inRest
        · exact (cut_singles front).nonempty piece inFront
        · rcases List.mem_cons.mp inRest with same | inBack
          · rw [same]
            exact List.ne_nil_of_length_pos (by omega)
          · exact (cut_singles back).nonempty piece inBack
      · intro piece member
        rcases List.mem_append.mp member with inFront | inRest
        · exact (cut_singles front).bounded piece inFront
        · rcases List.mem_cons.mp inRest with same | inBack
          · rw [same, sized]
            decide
          · exact (cut_singles back).bounded piece inBack
    have cutOut := observed _ cut
    rw [observe_cut_out looks off waits] at cutOut
    have same := Option.some.inj (whole.trans cutOut.symm)
    have noReply := congrArg Observation.replies same
    have frames' := congrArg Observation.dispatched same
    have ending := congrArg Observation.ending same
    refine ⟨?_, ?_⟩
    · rintro rfl
      simp [splitObservation] at noReply
    · have failed
          : clientSplitter.split (accepts verdict) frames (rest ++ (chunk ++ back))
            = (frames, .failed) := by
        rw [← off.split_eq, ← List.append_assoc]
        exact Prod.ext frames' ending
      exact refused_of_split_failed failed
  · intro safe
    refine ⟨splitObservation verdict stream, ?_⟩
    rintro chunks ⟨rfl, _, _⟩
    have running : DecodeStatus.waitHead ≠ .fatalError := nofun
    exact observe_of_shows
      (receiveChunks_safe chunks running ⟨[], [], []⟩ rfl safe.safeBehind)

/-- A policy request that arrives in one piece is answered, and one cut in two is not. -/
theorem cuts_relevant_for_policy_request
    : observe (fun _ _ => 0) [policy] = some ⟨[], [resPolicy], .failed⟩
      ∧ observe (fun _ _ => 0) [policy.take 22, policy.drop 22] = some ⟨[], [], .failed⟩
      ∧ ¬CutsIrrelevant (fun _ _ => 0) policy := by
  have whole : observe (fun _ _ => 0) [policy] = some ⟨[], [resPolicy], .failed⟩ := by
    decide +kernel
  have halves
      : observe (fun _ _ => 0) [policy.take 22, policy.drop 22] = some ⟨[], [], .failed⟩ := by
    decide +kernel
  refine ⟨whole, halves, ?_⟩
  rintro ⟨observation, observed⟩
  have first := observed [policy] ⟨by decide +kernel, by decide +kernel, by decide +kernel⟩
  have second := observed [policy.take 22, policy.drop 22]
    ⟨by decide +kernel, by decide +kernel, by decide +kernel⟩
  rw [whole] at first
  rw [halves, ← first] at second
  exact absurd second (by decide +kernel)

end ProxyServer.Units
