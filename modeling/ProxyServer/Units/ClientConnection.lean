import ProxyServer.Library.Reachability
import ProxyServer.Units.ClientUnit

/-! One client connection over its whole life.
Its steps are the callbacks that `ProcessPollerEvents` runs for it, and the calls that other
connections' handlers make on it. What a frame of its own does to other connections is left
open; what it does to this one is the step's input.
-/

namespace ProxyServer.Units

open Reachability

-----------------------------------------------------------------------------------------
-- Frames
-----------------------------------------------------------------------------------------

/-- What `HandleInputBuf` does to its own connection: it returns what sending a response
returned; it broadcasts to all sessions, itself among them, and returns 0; it notes a login
and goes on with `ret`; or it leaves the unit alone and returns `ret`.
-/
inductive FrameEffect
  | reply (response : List UInt8) (answers : ClientAnswers)
  | broadcast (response : List UInt8) (answers : ClientAnswers)
  | login (uid api ret : Int)
  | elsewhere (ret : Int)

def FrameEffect.perform (unit : ClientUnit) : FrameEffect → Int × ClientUnit
  | .reply response answers => unit.respond response answers
  | .broadcast response answers =>
      (0, if unit.stage = .fatalError then unit else (unit.respond response answers).2)
  | .login uid api ret => (ret, { unit with uid := uid, api := api })
  | .elsewhere ret => (ret, unit)

/-- A condition on every frame of a callback, each on the unit it finds. -/
def AlongScript (condition : ClientUnit → FrameEffect → Prop)
    : List FrameEffect → ClientUnit → Prop
  | [], _ => True
  | effect :: rest, unit =>
      condition unit effect ∧ AlongScript condition rest (effect.perform unit).2

/-- A callback at work: the unit, and what the frames still to come will do. -/
structure Callback where
  unit : ClientUnit
  script : List FrameEffect

namespace Callback

def place : ClientPlace Callback where
  unit := Callback.unit
  update := fun change callback => { callback with unit := change callback.unit }
  unit_update := fun _ _ => rfl

/-- `HandleInputBuf`: the next frame of the script. -/
def handleInputBuf (_frame : List UInt8) : StateT Callback (Except Fault) Int := do
  match (← get).script with
  | [] => pure 0
  | effect :: rest =>
      modify (fun callback => { callback with script := rest })
      place.call (fun unit => effect.perform unit)

/-- `InputNotify` with its frames as scripted. -/
def inputNotify (recv : RecvAnswer) (answers : ClientAnswers)
    : StateT Callback (Except Fault) Bool :=
  place.inputNotify handleInputBuf (pure ()) recv answers

end Callback

-----------------------------------------------------------------------------------------
-- The connection
-----------------------------------------------------------------------------------------

/-- Who completed a session: `web_input` or `web_output`, or another handler. -/
inductive Completion
  | readiness
  | elsewhere
  deriving DecidableEq, Repr

/-- A session's client unit, an `EPOLLOUT` of the event at hand that is still to be served,
and whether the session was completed.
-/
structure ClientConnection where
  unit : ClientUnit
  outputDue : Bool
  completed : Option Completion

/-- The steps of a connection. `input` is an `EPOLLIN`, with an `EPOLLOUT` in the same event
or not; `output` serves an `EPOLLOUT`. The others are a packet that a helper or the game
server has for the client, a broadcast that another connection caused, the kick by a newer
login, and a close: a hang-up, a timeout or an order of the server.
-/
inductive ConnectionEvent
  | input (alsoOutput : Bool) (recv : RecvAnswer) (script : List FrameEffect)
    (policyAnswers : ClientAnswers) (applyCtl : Bool)
  | output (first second : ClientAnswers)
  | helperPacket (szTemp : List UInt8) (answers : ClientAnswers)
  | gamePacket (packet : List UInt8) (answers : ClientAnswers)
  | broadcast (packet : List UInt8) (answers : ClientAnswers)
  | kick (packet : List UInt8) (answers : ClientAnswers)
  | close

/-- The unit as its `OutputNotify` finds it: behind an `InputNotify` of the same event, or at
the begin of an event.
-/
def ClientConnection.served (connection : ClientConnection) : ClientUnit :=
  if connection.outputDue then connection.unit else connection.unit.beginEvent

namespace ConnectionEvent

def perform (connection : ClientConnection)
    : ConnectionEvent → Except Fault ClientConnection
  | .input alsoOutput recv script policyAnswers applyCtl => do
      let (completes, after) ←
        Callback.inputNotify recv policyAnswers ⟨connection.unit.beginEvent, script⟩
      if completes then
        pure ⟨after.unit, false, some .readiness⟩
      else if alsoOutput then
        pure ⟨after.unit, true, none⟩
      else
        pure ⟨after.unit.applyEvents applyCtl, false, none⟩
  | .output first second =>
      let (completes, unit) := connection.served.outputNotify first second
      pure ⟨unit, false, if completes then some .readiness else none⟩
  | .helperPacket szTemp answers =>
      if connection.unit.stage = .fatalError then
        pure { connection with completed := some .elsewhere }
      else
        pure { connection with unit := (connection.unit.respond szTemp answers).2 }
  | .gamePacket packet answers =>
      if connection.unit.stage = .fatalError then
        pure { connection with completed := some .elsewhere }
      else
        let (ret, unit) := connection.unit.respond packet answers
        pure ⟨unit, connection.outputDue, if ret < 0 then some .elsewhere else none⟩
  | .broadcast packet answers =>
      if connection.unit.stage = .fatalError then
        pure connection
      else
        pure { connection with unit := (connection.unit.respond packet answers).2 }
  | .kick packet answers =>
      pure ⟨(connection.unit.respond packet answers).2, connection.outputDue,
        some .elsewhere⟩
  | .close => pure { connection with completed := some .elsewhere }

/-- Nothing happens to a completed session. An event of the poller has bits that epoll
reports for the registration at hand, and it is served before anything else happens.
-/
def Enabled (connection : ClientConnection) (event : ConnectionEvent) : Prop :=
  connection.completed = none
    ∧ match event with
      | .input alsoOutput .. =>
          connection.outputDue = false ∧ connection.unit.poller.deliverable.input = true
            ∧ (alsoOutput = true → connection.unit.poller.deliverable.output = true)
      | .output .. =>
          connection.outputDue = true ∨ connection.unit.poller.deliverable.output = true
      | _ => connection.outputDue = false

/-- A step of the connection. -/
def Step (connection : ClientConnection) (event : ConnectionEvent)
    (next : ClientConnection) : Prop :=
  event.Enabled connection ∧ event.perform connection = .ok next

end ConnectionEvent

/-- A connection right behind its accept. -/
def ClientConnection.Accepted (connection : ClientConnection) : Prop :=
  ∃ fd slot ctl,
    (ClientUnit.create fd).attach slot ctl = (0, connection.unit)
    ∧ connection.outputDue = false ∧ connection.completed = none

/-- A new connection on descriptor 5, in the first slot. -/
def ClientConnection.fresh : ClientConnection :=
  ⟨((ClientUnit.create 5).attach (some 0) true).2, false, none⟩

theorem ClientConnection.fresh_accepted : ClientConnection.fresh.Accepted :=
  ⟨5, some 0, true, rfl, rfl, rfl⟩

/-- The states of a connection when all its steps meet a condition on the state before. -/
def ClientConnection.ReachedWhile
    (condition : ClientConnection → ConnectionEvent → Prop) (connection : ClientConnection)
    : Prop :=
  Reachable ClientConnection.Accepted
    (fun before event next => condition before event ∧ event.Step before next) connection

theorem ClientConnection.ReachedWhile.next
    {condition : ClientConnection → ConnectionEvent → Prop}
    {connection next : ClientConnection} (reached : connection.ReachedWhile condition)
    (event : ConnectionEvent) (met : condition connection event)
    (enabled : event.Enabled connection) (performed : event.perform connection = .ok next)
    : next.ReachedWhile condition :=
  .step reached ⟨met, enabled, performed⟩

-----------------------------------------------------------------------------------------
-- What one callback can do
-----------------------------------------------------------------------------------------

open FaultState

/-- A frame takes the front of the script and performs it. -/
theorem Callback.handleInputBuf_cases {frame : List UInt8} {callback next : Callback}
    {ret : Int} (yields : Yields (Callback.handleInputBuf frame) callback ret next)
    : (callback.script = [] ∧ ret = 0 ∧ next = callback)
      ∨ ∃ effect rest,
          callback.script = effect :: rest
          ∧ ret = (effect.perform callback.unit).1
          ∧ next = ⟨(effect.perform callback.unit).2, rest⟩ := by
  obtain ⟨_, seen, got, handled⟩ := yields_bind.mp yields
  obtain ⟨rfl, rfl⟩ := yields_get.mp got
  clear got yields
  cases script : seen.script with
  | nil =>
      rw [script] at handled
      obtain ⟨rfl, rfl⟩ := yields_pure.mp handled
      exact Or.inl ⟨rfl, rfl, rfl⟩
  | cons effect rest =>
      rw [script] at handled
      cases handled
      exact Or.inr ⟨effect, rest, rfl, rfl, rfl⟩

/-- What `proc_pkg` can come back with, and the callback behind it. -/
inductive Callback.Reads (callback : Callback) (answers : ClientAnswers)
    : RecvAnswer → DecodeStatus → Callback → Prop
  | error : callback.Reads answers .error .fatalError callback
  | transient : callback.Reads answers .transient callback.unit.decodeStatus callback
  | closed : callback.Reads answers .closed .disconnectByUser callback
  | policy {chunk read} (looks : looksLikePolicy chunk = true)
    (answered
      : read.unit
        = if chunk = ProxyServer.Units.policy then
            (callback.unit.respond resPolicy answers).2
          else callback.unit)
    : callback.Reads answers (.data chunk) .fatalError read
  | frames {chunk status read fuel} (plain : looksLikePolicy chunk = false)
    (looped
      : Yields
          (BoundedLoop.run .endless (procPkgTurn Callback.place.cache Callback.handleInputBuf)
            fuel ())
          { callback with unit := { callback.unit with r := callback.unit.r ++ chunk } }
          status read)
    : callback.Reads answers (.data chunk) status read

theorem Callback.decode_reads {recv : RecvAnswer} {answers : ClientAnswers}
    {callback read : Callback} {status : DecodeStatus}
    (yields
      : Yields (Callback.place.decode Callback.handleInputBuf (pure ()) recv answers)
          callback status read)
    : callback.Reads answers recv status read := by
  cases recv with
  | error =>
      obtain ⟨rfl, rfl⟩ := yields_pure.mp yields
      exact .error
  | transient =>
      obtain ⟨_, _, got, yields⟩ := yields_bind.mp yields
      obtain ⟨rfl, rfl⟩ := yields_get.mp got
      obtain ⟨rfl, rfl⟩ := yields_pure.mp yields
      exact .transient
  | closed =>
      obtain ⟨rfl, rfl⟩ := yields_pure.mp yields
      exact .closed
  | data chunk =>
      change Yields (procChunk _ _ _ _ chunk) callback status read at yields
      unfold procChunk at yields
      split_ifs at yields with looks request
      · obtain ⟨_, _, noted, yields⟩ := yields_bind.mp yields
        obtain ⟨_, rfl⟩ := yields_pure.mp noted
        cases yields
        exact .policy looks (if_pos request).symm
      · obtain ⟨_, _, noted, yields⟩ := yields_bind.mp yields
        obtain ⟨_, rfl⟩ := yields_pure.mp noted
        obtain ⟨rfl, rfl⟩ := yields_pure.mp yields
        exact .policy looks (if_neg request).symm
      · obtain ⟨_, appended, append, yields⟩ := yields_bind.mp yields
        obtain rfl := yields_modify.mp append
        obtain ⟨_, _, got, yields⟩ := yields_bind.mp yields
        obtain ⟨rfl, rfl⟩ := yields_get.mp got
        exact .frames (eq_false_of_ne_true looks) yields

/-- `InputNotify` reads, notes the decode status, and asks `web_input`. -/
theorem Callback.inputNotify_reads {recv : RecvAnswer} {answers : ClientAnswers}
    {callback next : Callback} {completes : Bool}
    (yields : Yields (Callback.inputNotify recv answers) callback completes next)
    : ∃ status read,
        callback.Reads answers recv status read
        ∧ next.unit = ClientUnit.settle status { read.unit with decodeStatus := status }
        ∧ completes = next.unit.webInput := by
  obtain ⟨status, noted, pkg, yields⟩ := yields_bind.mp yields
  obtain ⟨_, read, reads, pkg⟩ := yields_bind.mp pkg
  obtain ⟨_, _, modified, pkg⟩ := yields_bind.mp pkg
  obtain ⟨rfl, rfl⟩ := yields_pure.mp pkg
  obtain rfl := yields_modify.mp modified
  obtain ⟨_, settled, modified, yields⟩ := yields_bind.mp yields
  obtain rfl := yields_modify.mp modified
  obtain ⟨_, _, got, yields⟩ := yields_bind.mp yields
  obtain ⟨rfl, rfl⟩ := yields_get.mp got
  obtain ⟨rfl, rfl⟩ := yields_pure.mp yields
  exact ⟨_, read, Callback.decode_reads reads, rfl, rfl⟩

/-- An `EPOLLIN` runs `InputNotify` on the begun event. -/
theorem ConnectionEvent.perform_input {connection next : ClientConnection}
    {alsoOutput applyCtl : Bool} {recv : RecvAnswer} {script : List FrameEffect}
    {answers : ClientAnswers}
    (performed
      : (ConnectionEvent.input alsoOutput recv script answers applyCtl).perform connection
        = .ok next)
    : ∃ completes after,
        Yields (Callback.inputNotify recv answers) ⟨connection.unit.beginEvent, script⟩
          completes after
        ∧ next
          = if completes then ⟨after.unit, false, some .readiness⟩
            else if alsoOutput then ⟨after.unit, true, none⟩
            else ⟨after.unit.applyEvents applyCtl, false, none⟩ := by
  simp only [perform, bind, Except.bind] at performed
  split at performed
  · cases performed
  · rename_i result yields
    obtain ⟨completes, after⟩ := result
    refine ⟨completes, after, yields, ?_⟩
    split_ifs at performed with completed due
    · cases performed
      exact (if_pos completed).symm
    · cases performed
      exact ((if_neg completed).trans (if_pos due)).symm
    · cases performed
      exact ((if_neg completed).trans (if_neg due)).symm

-----------------------------------------------------------------------------------------
-- Scripts and the read cache
-----------------------------------------------------------------------------------------

/-- What a frame does to the output does not depend on what is still to be read. -/
theorem FrameEffect.perform_r (effect : FrameEffect) (unit : ClientUnit) (bytes : List UInt8)
    : ∃ bytes',
        effect.perform { unit with r := bytes }
          = ((effect.perform unit).1, { (effect.perform unit).2 with r := bytes' }) := by
  have responds (response : List UInt8) (answers : ClientAnswers)
      : ∃ bytes',
          ClientUnit.respond response answers { unit with r := bytes }
            = ((unit.respond response answers).1,
              { (unit.respond response answers).2 with r := bytes' }) := by
    unfold ClientUnit.respond ClientUnit.send ClientUnit.addRspBuf
    dsimp only
    split
    · exact ⟨bytes, rfl⟩
    · cases answers.send with
      | accepted count =>
          dsimp only
          split <;> exact ⟨bytes, rfl⟩
      | transient =>
          dsimp only
          split
          · exact ⟨[], rfl⟩
          · exact ⟨bytes, rfl⟩
      | error => exact ⟨[], rfl⟩
  cases effect with
  | reply response answers => exact responds response answers
  | broadcast response answers =>
      obtain ⟨bytes', same⟩ := responds response answers
      unfold perform
      dsimp only
      split
      · exact ⟨bytes, rfl⟩
      · exact ⟨bytes', by rw [same]⟩
  | login uid api ret => exact ⟨bytes, rfl⟩
  | elsewhere ret => exact ⟨bytes, rfl⟩

/-- Nor does a condition on the frames that ignores the read cache, by induction over them.
-/
theorem AlongScript.read {condition : ClientUnit → FrameEffect → Prop}
    (ignores
      : ∀ unit effect bytes, condition unit effect → condition { unit with r := bytes } effect)
    {script : List FrameEffect} {unit : ClientUnit} (along : AlongScript condition script unit)
    (bytes : List UInt8)
    : AlongScript condition script { unit with r := bytes } := by
  induction script generalizing unit bytes with
  | nil => trivial
  | cons effect rest ih =>
      obtain ⟨bytes', same⟩ := effect.perform_r unit bytes
      refine ⟨ignores unit effect bytes along.1, ?_⟩
      rw [same]
      exact ih along.2 bytes'

end ProxyServer.Units
