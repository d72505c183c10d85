import ProxyServer.Library.StreamSplitter
import ProxyServer.Library.BoundedLoop
import ProxyServer.Units.Defs

/-! Taking frames off a back-end server's stream: the loop that `CHelperUnit::process_pkg`
and `CGameUnit::process_pkg` share. They differ in what is done with a frame, which the loop
takes as a parameter.
-/

namespace ProxyServer.Units
open FaultState BoundedLoop

-----------------------------------------------------------------------------------------
-- The loop
-----------------------------------------------------------------------------------------

section Loop

variable {σ : Type} (cache : ReadCache σ)

variable (handle settle : List UInt8 → StateT σ (Except Fault) Bool)

/-- One turn of the `while` of `process_pkg`. `handle` is what is done with a frame before it
is skipped; it returns whether to go on, or else `process_pkg` returns -1. `settle` is what
is done after it is skipped; it returns whether to leave the loop.
-/
def processPkgTurn (totalLen : Nat) : StateT σ (Except Fault) (Turn Int Nat) := do
  if totalLen = 0 then
    pure (.leave 0)
  else if totalLen < headLen then
    pure (.leave 0)
  else do
    let data := cache.data (← get)
    if data = [] then
      -- `_r.data()` is `NULL`
      pure (.leave (-1))
    else if 10240 < contentLength data then
      pure (.leave (-1))
    else
      let pkglen := 2 + contentLength data
      if totalLen < pkglen then
        pure (.leave 0)
      else if ← handle (data.take pkglen) then do
        cache.skip pkglen
        if ← settle (data.take pkglen) then
          pure (.leave 0)
        else
          pure (.again (totalLen - pkglen))
      else
        pure (.leave (-1))

/-- `process_pkg`. -/
def processPkg : StateT σ (Except Fault) Int := do
  let totalLen := (cache.data (← get)).length
  run .endless (processPkgTurn cache handle settle) (totalLen + 1) totalLen

/-- The end of `recv_from_cgi` once bytes have arrived. -/
def receive (chunk : List UInt8) : StateT σ (Except Fault) Int := do
  cache.append chunk
  processPkg cache handle settle

/-- Chunks that arrive one after another; a failed `process_pkg` ends the connection. -/
def receiveAll : List (List UInt8) → StateT σ (Except Fault) Int
  | [] => pure 0
  | chunk :: rest => do
      let ret ← receive cache handle settle chunk
      if ret < 0 then pure ret else receiveAll rest

variable {cache handle settle} {conduct : Conduct σ Fault}

/-- `process_pkg` stays within what the handling of a frame and skipping it do. -/
theorem processPkg_within
    (endless : ∀ state, conduct.tolerates state .endless)
    (replaced : ∀ bytes state, conduct.related state (cache.replace bytes state))
    (handles : ∀ frame, Within conduct (handle frame))
    (settles : ∀ frame, Within conduct (settle frame))
    : Within conduct (processPkg cache handle settle) := by
  refine Within.bind Within.get (fun start => ?_)
  apply within_run endless
  intro totalLen
  refine Within.ite (Within.pure _) ?_
  refine Within.ite (Within.pure _) ?_
  refine Within.bind Within.get (fun state => ?_)
  refine Within.ite (Within.pure _) ?_
  refine Within.ite (Within.pure _) ?_
  refine Within.ite (Within.pure _) ?_
  refine Within.bind (handles _) (fun goesOn => ?_)
  refine Within.ite ?_ ?_
  · refine Within.bind (Within.modify (fun state => replaced _ state)) (fun _ => ?_)
    refine Within.bind (settles _) (fun leaves => ?_)
    exact Within.ite (Within.pure _) (Within.pure _)
  · exact Within.pure _

end Loop

-----------------------------------------------------------------------------------------
-- The frames of a stream
-----------------------------------------------------------------------------------------

/-- What the loop decides about the bytes in the cache. -/
def backendVerdict (buffered : List UInt8) : StreamSplitter.Verdict :=
  if buffered.length < headLen then .wait
  else if 10240 < contentLength buffered then .reject
  else if buffered.length < 2 + contentLength buffered then .wait
  else .frame (2 + contentLength buffered)

/-- The framing of back-end streams, decided by complete headers and frames only. -/
def backendSplitter : StreamSplitter UInt8 where
  verdict := backendVerdict
  frame_pos := by
    intro buffered length decision
    unfold backendVerdict at decision
    split_ifs at decision
    cases decision
    omega
  frame_le := by
    intro buffered length decision
    unfold backendVerdict at decision
    split_ifs at decision with _ _ complete
    cases decision
    omega
  frame_stable := by
    intro buffered length more decision
    unfold backendVerdict at decision ⊢
    split_ifs at decision with header _ complete
    rw [contentLength_append more (by omega), List.length_append, if_neg (by omega),
      if_neg (by omega), if_neg (by omega)]
    exact decision
  reject_stable := by
    intro buffered more decision
    unfold backendVerdict at decision ⊢
    split_ifs at decision with header oversized
    rw [contentLength_append more (by omega), List.length_append, if_neg (by omega),
      if_pos oversized]

/-- A remainder the loop waits on is short of a header or of its frame. -/
theorem backendVerdict_wait {rest : List UInt8} (waits : backendVerdict rest = .wait)
    : rest.length < headLen
      ∨ contentLength rest ≤ 10240 ∧ rest.length < 2 + contentLength rest := by
  unfold backendVerdict at waits
  split_ifs at waits with header oversized short
  · exact Or.inl header
  · exact Or.inr ⟨Nat.le_of_not_lt oversized, short⟩

theorem backendVerdict_reject {rest : List UInt8} (rejected : backendVerdict rest = .reject)
    : headLen ≤ rest.length ∧ 10240 < contentLength rest := by
  unfold backendVerdict at rejected
  split_ifs at rejected with header oversized
  exact ⟨Nat.le_of_not_lt header, oversized⟩

-----------------------------------------------------------------------------------------
-- The loop against the frames
-----------------------------------------------------------------------------------------

section Steady

variable {σ : Type} {cache : ReadCache σ}
  {handle settle : List UInt8 → StateT σ (Except Fault) Bool}
  {taken : σ → List (List UInt8)}

/-- Handling that neither fails nor resets the unit: it leaves the read cache alone, goes on,
and is seen only in the frames `taken` so far.
-/
structure Steady (cache : ReadCache σ)
    (handle settle : List UInt8 → StateT σ (Except Fault) Bool)
    (taken : σ → List (List UInt8)) : Prop where
  handles
    : ∀ frame state,
        Delivers (handle frame) state
          (fun goesOn next =>
            goesOn = true ∧ cache.data next = cache.data state
              ∧ taken next = taken state ++ [frame])
  settles
    : ∀ frame state,
        Delivers (settle frame) state
          (fun leaves next =>
            leaves = false ∧ cache.data next = cache.data state ∧ taken next = taken state)
  replaced : ∀ bytes state, taken (cache.replace bytes state) = taken state

/-- The state and result that a splitting outcome stands for. -/
def Reaches (cache : ReadCache σ) (taken : σ → List (List UInt8))
    (outcome : StreamSplitter.Outcome UInt8) (ret : Int) (state : σ) : Prop :=
  taken state = outcome.1
    ∧ match outcome.2 with
      | .waiting rest => ret = 0 ∧ cache.data state = rest
      | .failed => ret = -1

/-- A turn at a loop head with `totalLen` in step either leaves with the outcome of splitting
the cache, or takes off one frame and stays in step.
-/
theorem turn_delivers (steady : Steady cache handle settle taken) (state : σ)
    : Delivers (processPkgTurn cache handle settle (cache.data state).length) state
        (fun turn next =>
          match turn with
          | .leave ret =>
              Reaches cache taken
                (backendSplitter.split (fun _ _ => true) (taken state) (cache.data state))
                ret next
          | .again totalLen =>
              totalLen = (cache.data next).length
                ∧ totalLen < (cache.data state).length
                ∧ backendSplitter.split (fun _ _ => true) (taken next) (cache.data next)
                  = backendSplitter.split (fun _ _ => true) (taken state)
                    (cache.data state)) := by
  have waits
      : backendSplitter.verdict (cache.data state) = .wait
        → Reaches cache taken
            (backendSplitter.split (fun _ _ => true) (taken state) (cache.data state)) 0
            state := by
    intro decision
    rw [StreamSplitter.split_wait decision]
    exact ⟨rfl, rfl, rfl⟩
  unfold processPkgTurn
  split
  · rename_i empty
    exact Delivers.pure (waits (if_pos (by rw [empty]; decide)))
  · split
    · rename_i short
      exact Delivers.pure (waits (if_pos short))
    · rename_i nonempty header
      refine Delivers.bind (Delivers.get ?_)
      dsimp only
      rw [if_neg (fun empty => nonempty (by rw [empty]; rfl))]
      split
      · rename_i oversized
        have decision : backendSplitter.verdict (cache.data state) = .reject :=
          (if_neg header).trans (if_pos oversized)
        refine Delivers.pure ?_
        rw [StreamSplitter.split_reject decision]
        exact ⟨rfl, rfl⟩
      · rename_i fits
        split
        · rename_i short
          exact Delivers.pure
            (waits ((if_neg header).trans ((if_neg fits).trans (if_pos short))))
        · rename_i complete
          have decision
              : backendSplitter.verdict (cache.data state)
                = .frame (2 + contentLength (cache.data state)) :=
            (if_neg header).trans ((if_neg fits).trans (if_neg complete))
          refine Delivers.bind ((steady.handles _ _).weaken ?_)
          rintro goesOn handled ⟨rfl, sameData, logged⟩
          rw [if_pos rfl]
          refine Delivers.bind (Delivers.modify ?_)
          refine Delivers.bind ((steady.settles _ _).weaken ?_)
          rintro leaves settled ⟨rfl, sameData', logged'⟩
          rw [cache.data_replace, sameData] at sameData'
          rw [steady.replaced, logged] at logged'
          rw [if_neg (by simp)]
          refine Delivers.pure ⟨?_, ?_, ?_⟩
          · rw [sameData', List.length_drop]
          · omega
          · rw [sameData', logged']
            exact (StreamSplitter.split_accepted decision rfl).symm

/-- `process_pkg` terminates and splits the cache. -/
theorem processPkg_delivers (steady : Steady cache handle settle taken) (state : σ)
    : Delivers (processPkg cache handle settle) state
        (Reaches cache taken
          (backendSplitter.split (fun _ _ => true) (taken state) (cache.data state))) := by
  refine Delivers.bind (Delivers.get ?_)
  refine run_total Fault.endless
    (fun totalLen next =>
      totalLen = (cache.data next).length
        ∧ backendSplitter.split (fun _ _ => true) (taken next) (cache.data next)
          = backendSplitter.split (fun _ _ => true) (taken state) (cache.data state))
    (fun totalLen _ => totalLen) ?_ ⟨rfl, rfl⟩ (Nat.lt_succ_self _)
  rintro totalLen middle ⟨rfl, same⟩
  refine (turn_delivers steady middle).weaken ?_
  intro turn next result
  cases turn with
  | leave ret =>
      rw [same] at result
      exact result
  | again totalLen => exact ⟨⟨result.1, result.2.2.trans same⟩, result.2.1⟩

/-- The local length equals the cache's length at every loop head. -/
theorem totalLen_in_step (steady : Steady cache handle settle taken) {state last : σ}
    {totalLen : Nat}
    (visits
      : Visits (processPkgTurn cache handle settle) (cache.data state).length state
          totalLen last)
    : totalLen = (cache.data last).length := by
  refine visits.invariant (fun totalLen next => totalLen = (cache.data next).length) ?_ rfl
  rintro totalLen middle again next rfl yields
  exact ((turn_delivers steady middle).of_yields yields).1

theorem receive_delivers (steady : Steady cache handle settle taken) (chunk : List UInt8)
    (state : σ)
    : Delivers (receive cache handle settle chunk) state
        (Reaches cache taken
          (backendSplitter.split (fun _ _ => true) (taken state)
            (cache.data state ++ chunk))) := by
  refine Delivers.bind (Delivers.modify ?_)
  have delivered := processPkg_delivers steady
    (cache.replace (cache.data state ++ chunk) state)
  rw [steady.replaced, cache.data_replace] at delivered
  exact delivered

/-- Arriving chunk by chunk is splitting the remainder with all chunks, by induction over
the chunks. A cache the loop waits on is what every call but a failed one leaves.
-/
theorem receiveAll_delivers (steady : Steady cache handle settle taken)
    (chunks : List (List UInt8)) (state : σ)
    (waits : backendSplitter.verdict (cache.data state) = .wait)
    : Delivers (receiveAll cache handle settle chunks) state
        (Reaches cache taken
          (backendSplitter.split (fun _ _ => true) (taken state)
            (cache.data state ++ chunks.flatten))) := by
  induction chunks generalizing state with
  | nil =>
      refine Delivers.pure ?_
      rw [List.flatten_nil, List.append_nil, StreamSplitter.split_wait waits]
      exact ⟨rfl, rfl, rfl⟩
  | cons chunk rest ih =>
      refine Delivers.bind ((receive_delivers steady chunk state).weaken ?_)
      intro ret next reaches
      have whole := StreamSplitter.split_append backendSplitter (fun _ _ => true)
        (taken state) (cache.data state ++ chunk) rest.flatten
      rw [List.flatten_cons, ← List.append_assoc, whole]
      cases outcome : backendSplitter.split (fun _ _ => true) (taken state)
        (cache.data state ++ chunk) with
      | mk frames ending =>
          rw [outcome] at reaches
          obtain ⟨logged, ended⟩ := reaches
          cases ending with
          | failed =>
              obtain rfl : ret = -1 := ended
              rw [if_pos (by decide)]
              exact Delivers.pure ⟨logged, rfl⟩
          | waiting remainder =>
              obtain ⟨rfl, rfl⟩ : ret = 0 ∧ cache.data next = remainder := ended
              rw [if_neg (by decide)]
              have stillWaits := StreamSplitter.split_waiting_rest outcome
              obtain rfl : taken next = frames := logged
              exact ih next stillWaits

/-- A frame is as long as its header says. -/
def Framed (frame : List UInt8) : Prop :=
  frame.length = 2 + contentLength frame

theorem backendVerdict_framed {buffered : List UInt8} {length : Nat}
    (decision : backendSplitter.verdict buffered = .frame length)
    : Framed (buffered.take length) := by
  have within := backendSplitter.frame_le decision
  change backendVerdict buffered = .frame length at decision
  unfold backendVerdict at decision
  split_ifs at decision
  cases decision
  unfold Framed
  have same : contentLength (buffered.take (2 + contentLength buffered))
      = contentLength buffered := by
    conv_lhs => rw [contentLength, List.take_take, Nat.min_eq_left (Nat.le_add_right 2 _)]
    rfl
  rw [same, List.length_take_of_le within]

/-- Chunks that arrive one after another leave what one arrival of them all leaves: the
frames taken, and either the same remainder, short of a header or of its frame, or a failure
in front of the same oversized header.
-/
def CutsAgree (cache : ReadCache σ) (handle settle : List UInt8 → StateT σ (Except Fault) Bool)
    (taken : σ → List (List UInt8)) (state : σ) (chunks : List (List UInt8)) : Prop :=
  ∃ ret next whole,
    Yields (receiveAll cache handle settle chunks) state ret next
      ∧ Yields (receive cache handle settle chunks.flatten) state ret whole
      ∧ taken next = taken whole
      ∧ (∀ frame ∈ taken next, Framed frame)
      ∧ (ret = 0 ∧ cache.data next = cache.data whole
            ∧ chunks.flatten = (taken next).flatten ++ cache.data next
            ∧ ((cache.data next).length < headLen
              ∨ contentLength (cache.data next) ≤ 10240
                ∧ (cache.data next).length < 2 + contentLength (cache.data next))
          ∨ ret = -1
            ∧ ∃ rest, chunks.flatten = (taken next).flatten ++ rest
                ∧ headLen ≤ rest.length ∧ 10240 < contentLength rest)

/-- A call of `process_pkg` returns, with `totalLen` the length of the cache at every loop
head.
-/
def ReturnsInStep (cache : ReadCache σ)
    (handle settle : List UInt8 → StateT σ (Except Fault) Bool) (start : σ) : Prop :=
  (∃ ret next, Yields (processPkg cache handle settle) start ret next)
    ∧ ∀ totalLen last,
        Visits (processPkgTurn cache handle settle) (cache.data start).length start
          totalLen last
        → totalLen = (cache.data last).length

/-- However a server's stream is cut into chunks, `process_pkg` takes off the same frames,
fails at the same frame and leaves the same remainder as after one arrival of it all.
-/
theorem server_frames_independent_of_cuts
    (steady : Steady cache handle settle taken) {state : σ} (chunks : List (List UInt8))
    (unread : cache.data state = []) (nothingTaken : taken state = [])
    : CutsAgree cache handle settle taken state chunks
      ∧ ∀ start : σ, ReturnsInStep cache handle settle start := by
  refine ⟨?_, fun start => ⟨?_, fun totalLen last => totalLen_in_step steady⟩⟩
  · have waits : backendSplitter.verdict (cache.data state) = .wait := by
      rw [unread]
      rfl
    obtain ⟨ret, next, run, logged, ended⟩ := receiveAll_delivers steady chunks state waits
    obtain ⟨ret', whole, run', logged', ended'⟩ :=
      receive_delivers steady chunks.flatten state
    rw [unread, nothingTaken, List.nil_append] at logged ended logged' ended'
    have framed
        : ∀ frame ∈ (backendSplitter.split (fun _ _ => true) [] chunks.flatten).1,
            Framed frame :=
      StreamSplitter.split_frames (fun _ _ => backendVerdict_framed) (by simp)
    cases outcome : backendSplitter.split (fun _ _ => true) [] chunks.flatten with
    | mk frames ending =>
        rw [outcome] at logged ended logged' ended' framed
        obtain rfl : taken next = frames := logged
        cases ending with
        | waiting remainder =>
            obtain ⟨rfl, rfl⟩ : ret = 0 ∧ cache.data next = remainder := ended
            obtain ⟨rfl, same⟩ : ret' = 0 ∧ cache.data whole = cache.data next := ended'
            refine ⟨0, next, whole, run, run', logged'.symm, framed, Or.inl
              ⟨rfl, same.symm, StreamSplitter.split_waiting_flatten outcome, ?_⟩⟩
            exact backendVerdict_wait (StreamSplitter.split_waiting_rest outcome)
        | failed =>
            obtain rfl : ret = -1 := ended
            obtain rfl : ret' = -1 := ended'
            obtain ⟨rest, same, rejected⟩ := StreamSplitter.split_failed_rest outcome
            refine ⟨-1, next, whole, run, run', logged'.symm, framed, Or.inr
              ⟨rfl, rest, same, ?_⟩⟩
            exact backendVerdict_reject rejected
  · obtain ⟨ret, next, run, _⟩ := processPkg_delivers steady start
    exact ⟨ret, next, run⟩

end Steady

/-- A unit that only logs its frames, with its read cache beside the log. -/
def logCache : ReadCache (List UInt8 × List (List UInt8)) where
  data := Prod.fst
  replace := fun bytes state => (bytes, state.2)
  data_replace := fun _ _ => rfl

def logFrame (frame : List UInt8)
    : StateT (List UInt8 × List (List UInt8)) (Except Fault) Bool := do
  modify (fun state => (state.1, state.2 ++ [frame]))
  pure true

/-- Two frames and a rest, cut inside the first header and inside the second frame. -/
theorem server_frames_independent_of_cuts_inside_frames
    : CutsAgree logCache logFrame (fun _ => pure false) Prod.snd ([], [])
        [[0, 7, 66], [89, 1, 1, 32, 19, 0, 0, 8, 66, 89], [1, 1, 32, 19, 0, 255, 0]]
      ∧ ∀ start, ReturnsInStep logCache logFrame (fun _ => pure false) start := by
  refine server_frames_independent_of_cuts ⟨?_, ?_, fun _ _ => rfl⟩ _ rfl rfl
  · exact fun frame state => Delivers.bind (Delivers.modify (Delivers.pure ⟨rfl, rfl, rfl⟩))
  · exact fun frame state => Delivers.pure ⟨rfl, rfl, rfl⟩

end ProxyServer.Units
