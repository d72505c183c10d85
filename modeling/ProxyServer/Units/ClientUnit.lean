import ProxyServer.Library.OutputLink
import ProxyServer.Units.ClientFraming
import ProxyServer.Units.PollerObject

/-! The client's side of a session: `CClientUnit`, and what `CDecoderUnit::web_input` and
`web_output` make of its stage. The callbacks run inside a larger state, because a frame is
handled there; they are written for any state that has a place for the unit.
-/

namespace ProxyServer.Units

open FaultState (Conduct Within)

/-- The answers that one call of `send` can ask for. -/
structure ClientAnswers where
  send : SendAnswer
  applyCtl : Bool

/-- The data members of `CClientUnit`; `link` is the history of the output queue. -/
structure ClientUnit where
  poller : PollerObject
  stage : ConnState
  decodeStatus : DecodeStatus
  uid : Int
  api : Int
  sendErrorTimes : Int
  r : List UInt8
  w : List UInt8
  link : OutputLink UInt8

namespace ClientUnit

-----------------------------------------------------------------------------------------
-- Queueing and sending
-----------------------------------------------------------------------------------------

/-- The constructor. -/
def create (fd : Int) : ClientUnit where
  poller := PollerObject.create fd
  stage := .idle
  decodeStatus := .waitHead
  uid := 0
  api := 0
  sendErrorTimes := 0
  r := []
  w := []
  link := OutputLink.fresh

/-- `Attach`, without the timer. -/
def attach (slot : Option Nat) (ctl : Bool) (unit : ClientUnit) : Int × ClientUnit :=
  let (attached, poller) := unit.poller.enableInput.attachPoller slot ctl
  if attached = -1 then (-1, { unit with poller := poller })
  else (0, { unit with poller := poller, stage := .idle })

/-- `add_rsp_buf`. -/
def addRspBuf (data : List UInt8) (unit : ClientUnit) : ClientUnit :=
  { unit with w := unit.w ++ data, link := unit.link.offer data }

/-- The end of `send` that gives the connection up, with all that is queued. -/
def giveUp (answers : ClientAnswers) (unit : ClientUnit) : ClientUnit :=
  {
    unit with
    poller := (unit.poller.disableInput.disableOutput.applyEvents answers.applyCtl).2
    w := []
    r := []
    stage := .fatalError
    link := unit.link.discard unit.w
  }

/-- `send`. An empty queue ends in the branch for a failed process. -/
def send (answers : ClientAnswers) (unit : ClientUnit) : Int × ClientUnit :=
  if unit.w = [] then
    (-1,
      {
        unit with
        poller := (unit.poller.disableOutput.applyEvents answers.applyCtl).2
        stage := .fatalError
      })
  else
    match answers.send with
    | .transient =>
        let errors := toInt16 (unit.sendErrorTimes + 1)
        if 50 ≤ errors then (-1, { unit with sendErrorTimes := errors }.giveUp answers)
        else
          (ConnState.dataSending.code,
            {
              unit with
              sendErrorTimes := errors
              poller := (unit.poller.enableOutput.applyEvents answers.applyCtl).2
              stage := .dataSending
            })
    | .error => (-1, unit.giveUp answers)
    | .accepted count =>
        let sent := min count unit.w.length
        if sent = unit.w.length then
          (sent,
            {
              unit with
              poller := (unit.poller.disableOutput.applyEvents answers.applyCtl).2
              w := unit.w.drop sent
              stage := .sendDone
              sendErrorTimes := 0
              link := unit.link.deliver (unit.w.take sent)
            })
        else
          (sent,
            {
              unit with
              poller := (unit.poller.enableOutput.applyEvents answers.applyCtl).2
              w := unit.w.drop sent
              stage := .dataSending
              sendErrorTimes := 0
              link := unit.link.deliver (unit.w.take sent)
            })

/-- `add_rsp_buf` and `send`, as every response is given to a client. -/
def respond (data : List UInt8) (answers : ClientAnswers) (unit : ClientUnit)
    : Int × ClientUnit :=
  (unit.addRspBuf data).send answers

/-- The destructor. -/
def destroy (unit : ClientUnit) : ClientUnit :=
  { unit with poller := unit.poller.destroy, w := [], r := [], link := unit.link.discard unit.w }

-----------------------------------------------------------------------------------------
-- Stages
-----------------------------------------------------------------------------------------

/-- The `switch` of `recv` on what `proc_pkg` returned. -/
def settle (status : DecodeStatus) (unit : ClientUnit) : ClientUnit :=
  match status with
  | .dataError =>
      { unit with poller := unit.poller.disableInput, stage := .dataError }
  | .waitHead | .waitContent => { unit with stage := .dataRecving }
  | .done => { unit with stage := .recvDone }
  | .disconnectByUser =>
      { unit with poller := unit.poller.disableInput, stage := .disconnect }
  | .fatalError | .headDone | .contentDone =>
      { unit with poller := unit.poller.disableInput, stage := .fatalError }

/-- Whether `web_input` completes the session; otherwise it returns `POLLER_SUCC`. -/
def webInput (unit : ClientUnit) : Bool :=
  match unit.stage with
  | .dataRecving | .idle | .recvDone => false
  | _ => true

/-- `web_output`: whether it completes the session. It returns `POLLER_COMPLETE` anyway. -/
def webOutput (answers : ClientAnswers) (unit : ClientUnit) : Bool × ClientUnit :=
  match unit.stage with
  | .sendDone => (false, unit)
  | .dataSending | .appendSending | .appendDone =>
      let (ret, sent) := unit.send answers
      if ret < 0 then (true, sent)
      else
        match sent.stage with
        | .sendDone | .dataSending | .appendSending | .appendDone => (false, sent)
        | _ => (true, sent)
  | _ => (true, unit)

/-- `OutputNotify`: whether it completes the session. `web_output` may send once more. -/
def outputNotify (first second : ClientAnswers) (unit : ClientUnit) : Bool × ClientUnit :=
  (unit.send first).2.webOutput second

/-- What `ProcessPollerEvents` does before and behind the callbacks. -/
def beginEvent (unit : ClientUnit) : ClientUnit :=
  { unit with poller := unit.poller.beginEvent }

def applyEvents (ctl : Bool) (unit : ClientUnit) : ClientUnit :=
  { unit with poller := (unit.poller.applyEvents ctl).2 }

-----------------------------------------------------------------------------------------
-- Who the client is
-----------------------------------------------------------------------------------------

/-- What neither a login nor reading does: the user stays who he is, and what has been received
is kept as it is or thrown away.
-/
def Steady (unit next : ClientUnit) : Prop :=
  next.uid = unit.uid ∧ next.api = unit.api ∧ (next.r = unit.r ∨ next.r = [])

theorem Steady.refl (unit : ClientUnit) : unit.Steady unit :=
  ⟨rfl, rfl, Or.inl rfl⟩

theorem Steady.trans {unit next last : ClientUnit} (first : unit.Steady next)
    (second : next.Steady last)
    : unit.Steady last := by
  obtain ⟨uid, api, received⟩ := first
  obtain ⟨uid', api', kept | cleared⟩ := second
  · exact ⟨uid'.trans uid, api'.trans api, received.imp kept.trans kept.trans⟩
  · exact ⟨uid'.trans uid, api'.trans api, Or.inr cleared⟩

theorem steady_send (answers : ClientAnswers) (unit : ClientUnit)
    : unit.Steady (unit.send answers).2 := by
  rw [send]
  split
  · exact ⟨rfl, rfl, Or.inl rfl⟩
  · cases answers.send with
    | transient =>
        dsimp only
        split
        · exact ⟨rfl, rfl, Or.inr rfl⟩
        · exact ⟨rfl, rfl, Or.inl rfl⟩
    | error => exact ⟨rfl, rfl, Or.inr rfl⟩
    | accepted count =>
        dsimp only
        split <;> exact ⟨rfl, rfl, Or.inl rfl⟩

theorem steady_respond (data : List UInt8) (answers : ClientAnswers) (unit : ClientUnit)
    : unit.Steady (unit.respond data answers).2 :=
  steady_send answers (unit.addRspBuf data)

theorem steady_settle (status : DecodeStatus) (unit : ClientUnit)
    : unit.Steady (unit.settle status) := by
  cases status <;> exact ⟨rfl, rfl, Or.inl rfl⟩

theorem steady_webOutput (answers : ClientAnswers) (unit : ClientUnit)
    : unit.Steady (unit.webOutput answers).2 := by
  have sent := steady_send answers unit
  rw [webOutput]
  split
  · exact Steady.refl unit
  · dsimp only
    split
    · exact sent
    · split <;> exact sent
  · dsimp only
    split
    · exact sent
    · split <;> exact sent
  · dsimp only
    split
    · exact sent
    · split <;> exact sent
  · exact Steady.refl unit

theorem steady_outputNotify (first second : ClientAnswers) (unit : ClientUnit)
    : unit.Steady (unit.outputNotify first second).2 :=
  (steady_send first unit).trans (steady_webOutput second (unit.send first).2)

theorem steady_attach (slot : Option Nat) (ctl : Bool) (unit : ClientUnit)
    : unit.Steady (unit.attach slot ctl).2 := by
  rw [attach]
  dsimp only
  split <;> exact ⟨rfl, rfl, Or.inl rfl⟩

end ClientUnit

-----------------------------------------------------------------------------------------
-- Reading
-----------------------------------------------------------------------------------------

/-- Where a larger state keeps a client unit. -/
structure ClientPlace (σ : Type) where
  unit : σ → ClientUnit
  update : (ClientUnit → ClientUnit) → σ → σ
  unit_update : ∀ change state, unit (update change state) = change (unit state)

namespace ClientPlace

variable {σ : Type} (place : ClientPlace σ)

/-- The read cache `_r` of the unit. -/
def cache : ReadCache σ where
  data := fun state => (place.unit state).r
  replace := fun bytes => place.update (fun unit => { unit with r := bytes })
  data_replace := fun _ _ => by rw [place.unit_update]

/-- A call on the unit. -/
def call {α : Type} (method : ClientUnit → α × ClientUnit) : StateT σ (Except Fault) α := do
  let unit := place.unit (← get)
  modify (place.update (fun _ => (method unit).2))
  pure (method unit).1

variable (handleInputBuf : List UInt8 → StateT σ (Except Fault) Int)

/-- The decode status of one `::recv`. One that would block has the status of the one before.
-/
def decode (onPolicy : StateT σ (Except Fault) Unit) (recv : RecvAnswer)
    (answers : ClientAnswers) : StateT σ (Except Fault) DecodeStatus :=
  match recv with
  | .error => pure .fatalError
  | .transient => do pure (place.unit (← get)).decodeStatus
  | .closed => pure .disconnectByUser
  | .data chunk =>
      procChunk place.cache handleInputBuf onPolicy
        (discard (place.call (ClientUnit.respond resPolicy answers))) chunk

/-- `proc_pkg`. -/
def procPkg (onPolicy : StateT σ (Except Fault) Unit) (recv : RecvAnswer)
    (answers : ClientAnswers) : StateT σ (Except Fault) DecodeStatus := do
  let status ← place.decode handleInputBuf onPolicy recv answers
  modify (place.update (fun unit => { unit with decodeStatus := status }))
  pure status

/-- `InputNotify`, without the timer: whether it completes the session. -/
def inputNotify (onPolicy : StateT σ (Except Fault) Unit) (recv : RecvAnswer)
    (answers : ClientAnswers) : StateT σ (Except Fault) Bool := do
  let status ← place.procPkg handleInputBuf onPolicy recv answers
  modify (place.update (ClientUnit.settle status))
  pure (place.unit (← get)).webInput

-----------------------------------------------------------------------------------------
-- What reading can change
-----------------------------------------------------------------------------------------

section Within

variable {place handleInputBuf} {conduct : Conduct σ Fault}

/-- Steady changes of the unit are within the conduct. -/
def Privately (place : ClientPlace σ) (conduct : Conduct σ Fault) : Prop :=
  ∀ change state, (place.unit state).Steady (change (place.unit state))
    → conduct.related state (place.update change state)

theorem Privately.call {α : Type} (privately : place.Privately conduct)
    {method : ClientUnit → α × ClientUnit}
    (same : ∀ unit : ClientUnit, unit.Steady (method unit).2)
    : Within conduct (place.call method) :=
  fun state => .returned (privately (fun _ => (method (place.unit state)).2) state (same _))

theorem Privately.modify (privately : place.Privately conduct)
    {change : ClientUnit → ClientUnit}
    (same : ∀ unit : ClientUnit, unit.Steady (change unit))
    : Within conduct (modify (place.update change) : StateT σ (Except Fault) Unit) :=
  Within.modify (fun _ => privately _ _ (same _))

/-- `InputNotify` stays within what frames, reading and steady changes do. -/
theorem Privately.inputNotify (privately : place.Privately conduct)
    (reads : ∀ bytes state, conduct.related state (place.cache.replace bytes state))
    (endless : ∀ state, conduct.tolerates state .endless)
    (handles : ∀ frame, Within conduct (handleInputBuf frame))
    {onPolicy : StateT σ (Except Fault) Unit} (policy : Within conduct onPolicy)
    (recv : RecvAnswer) (answers : ClientAnswers)
    : Within conduct (place.inputNotify handleInputBuf onPolicy recv answers) := by
  have decodes : Within conduct (place.decode handleInputBuf onPolicy recv answers) := by
    cases recv with
    | error => exact Within.pure _
    | transient => exact Within.bind Within.get (fun _ => Within.pure _)
    | closed => exact Within.pure _
    | data chunk =>
        have sends := privately.call (ClientUnit.steady_respond resPolicy answers)
        exact procChunk_within endless reads handles policy
          (Within.bind sends (fun _ => Within.pure _)) chunk
  have processes : Within conduct (place.procPkg handleInputBuf onPolicy recv answers) := by
    refine Within.bind decodes (fun status => ?_)
    exact Within.bind (privately.modify (fun _ => ⟨rfl, rfl, Or.inl rfl⟩))
      (fun _ => Within.pure _)
  refine Within.bind processes (fun status => ?_)
  refine Within.bind (privately.modify (ClientUnit.steady_settle status)) (fun _ => ?_)
  exact Within.bind Within.get (fun _ => Within.pure _)

end Within

end ClientPlace

end ProxyServer.Units
