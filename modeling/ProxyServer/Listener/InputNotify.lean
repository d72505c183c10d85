import ProxyServer.Runtime

/-! `CListener::InputNotify`: batches of `accept` calls, each followed by `proc_request`.
`proc_accept` stores a descriptor under the number of its call in the batch, and
`proc_request` visits as many cells as calls were not interrupted.
-/

namespace ProxyServer.Listener

/-- A descriptor, by its number and by the `accept` call that returned it: numbers are used
again after a close.
-/
structure Descriptor where
  fd : Nat
  call : Nat
  deriving DecidableEq, Repr

/-- How a call of `accept` ends. -/
inductive AcceptOutcome
  | descriptor (fd : Nat)
  | interrupted
  | again
  | failed
  deriving DecidableEq, Repr

/-- How far the session of a descriptor is built: what `create_decoderunit` and then
`listener_input` fail at.
-/
inductive SessionResult
  | noDecoderUnit
  | noClientUnit
  | noGameUnit
  | notAttached
  | serving
  deriving DecidableEq, Repr

/-- What the listener does with a descriptor. -/
inductive ListenerAction
  | accepted (newfd : Descriptor)
  | createDecoderunit (fd : Descriptor)
  | closed (fd : Descriptor)
  deriving DecidableEq, Repr

/-- The answers from outside, and `_accept_cnt`. -/
structure Outside where
  acceptCnt : Nat
  accept : Nat → AcceptOutcome
  session : Descriptor → SessionResult

/-- `_fd_array`, where `none` is -1, and `_newfd_cnt`; how many `accept` calls there were and
what was done.
-/
structure ListenerState where
  fdArray : List (Option Descriptor)
  newfdCnt : Nat
  calls : Nat
  log : List ListenerAction
  deriving DecidableEq, Repr

/-- A listener whose `InputNotify` is called. -/
def ListenerState.idle (fdArray : List (Option Descriptor)) (newfdCnt : Nat) : ListenerState :=
  { fdArray := fdArray, newfdCnt := newfdCnt, calls := 0, log := [] }

/-- A program over the listener. -/
abbrev ListenerM := StateT ListenerState (Except Fault)

/-- The loop of `proc_accept` from index `i`, with `left` calls to go. An error other than
`EINTR` and `EAGAIN` is stored like a descriptor.
-/
def acceptLoop (outside : Outside) : Nat → Nat → ListenerState → Int × ListenerState
  | 0, _, listener => (0, listener)
  | left + 1, i, listener =>
      let called := { listener with calls := listener.calls + 1 }
      match outside.accept listener.calls with
      | .interrupted => acceptLoop outside left (i + 1) called
      | .again => (-1, called)
      | .failed =>
          acceptLoop outside left (i + 1)
            { called with
              fdArray := called.fdArray.set i none, newfdCnt := called.newfdCnt + 1 }
      | .descriptor fd =>
          let newfd : Descriptor := { fd := fd, call := listener.calls }
          acceptLoop outside left (i + 1)
            { called with
              fdArray := called.fdArray.set i (some newfd)
              newfdCnt := called.newfdCnt + 1
              log := called.log ++ [.accepted newfd] }

/-- `proc_accept`. -/
def procAccept (outside : Outside) (listener : ListenerState) : Int × ListenerState :=
  acceptLoop outside outside.acceptCnt 0
    { listener with fdArray := List.replicate outside.acceptCnt none, newfdCnt := 0 }

/-- Adds to what was done. -/
def note (action : ListenerAction) : ListenerM Unit :=
  modify (fun listener => { listener with log := listener.log ++ [action] })

/-- `::close` of the descriptor in a cell, and the -1 put there. -/
def closeCell (i : Nat) (fd : Descriptor) : ListenerM Unit := do
  note (.closed fd)
  modify (fun listener => { listener with fdArray := listener.fdArray.set i none })

/-- `DELETE` of a session with a client unit, whose base closes its descriptor. -/
def deleteDecoderunit (fd : Descriptor) : ListenerM Unit :=
  if 0 < fd.fd then note (.closed fd) else pure ()

/-- What `proc_request` does for the descriptor of a cell. After a failed `listener_input` it
closes the descriptor, deletes the session and asks the null pointer for its client unit.
-/
def serveCell (outside : Outside) (i : Nat) (fd : Descriptor) : ListenerM Unit := do
  note (.createDecoderunit fd)
  match outside.session fd with
  | .noDecoderUnit => closeCell i fd
  | .noClientUnit =>
      closeCell i fd
      throw Fault.memory
  | .noGameUnit | .notAttached =>
      closeCell i fd
      deleteDecoderunit fd
      throw Fault.memory
  | .serving => pure ()

/-- The loop of `proc_request` from index `i`, with `left` cells to go. -/
def requestLoop (outside : Outside) : Nat → Nat → ListenerM Unit
  | 0, _ => pure ()
  | left + 1, i => do
      let listener ← get
      match listener.fdArray[i]? with
      | none => throw Fault.memory
      | some none => requestLoop outside left (i + 1)
      | some (some fd) =>
          serveCell outside i fd
          requestLoop outside left (i + 1)

/-- `proc_request`. -/
def procRequest (outside : Outside) : ListenerM Unit := do
  let listener ← get
  requestLoop outside listener.newfdCnt 0

/-- The first `rounds` rounds of `InputNotify`; the result is its `POLLER_SUCC`, or `none`
when it goes on.
-/
def inputNotify (outside : Outside) : Nat → ListenerM (Option Int)
  | 0 => pure none
  | rounds + 1 => do
      let ret ← modifyGet (procAccept outside)
      let listener ← get
      if listener.newfdCnt = 0 then
        pure (some 0)
      else
        procRequest outside
        if ret < 0 then pure (some 0) else inputNotify outside rounds

end ProxyServer.Listener
