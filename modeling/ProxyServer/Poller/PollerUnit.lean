import ProxyServer.Units.PollerObject

/-! `CPollerUnit`: the table of slots that its `CPollerObject`s share, and the data by which
epoll's events name them.
Objects are named by their addresses, slots by their positions in `pollerTable`. The 32-bit
sequence number of a slot is a natural number here: it does not wrap.
-/

namespace ProxyServer.Poller

open ProxyServer.Units

abbrev ObjectId := Nat

abbrev SlotId := Nat

/-- `CEpollSlot`; the free slots are kept in a list of their own. -/
structure Slot where
  seq : Nat
  poller : Option ObjectId

/-- The data members of `CPollerObject`, whether it is live, and the data that its registration
with epoll carries, if it has one.
-/
structure Object where
  live : Bool
  netfd : Int
  ownerUnit : Bool
  newEvents : Interest
  oldEvents : Interest
  epslot : Option SlotId
  registration : Option Nat

/-- `CPollerObject(o, fd)`. -/
def Object.create (ownerUnit : Bool) (fd : Int) : Object where
  live := true
  netfd := fd
  ownerUnit := ownerUnit
  newEvents := Interest.none
  oldEvents := Interest.none
  epslot := none
  registration := none

/-- `CPollerUnit`, its objects, and all data that registrations have carried so far. -/
structure PollerUnit where
  maxPollers : Nat
  pollerTable : SlotId → Slot
  freeSlotList : List SlotId
  usedPollers : Int
  object : ObjectId → Object
  carried : List Nat

/-- `ev.data.u64` of a slot and its sequence number. -/
def eventData (seq : Nat) (slot : SlotId) : Nat :=
  seq * 4294967296 + slot

/-- `EPOLL_DATA_SLOT`. -/
def dataSlot (data : Nat) : SlotId :=
  data % 4294967296

/-- `EPOLL_DATA_SEQ`. -/
def dataSeq (data : Nat) : Nat :=
  data / 4294967296

namespace PollerUnit

/-- `InitializePollerUnit`: all slots are free, and no object has been built. -/
def initializePollerUnit (maxPollers : Nat) : PollerUnit where
  maxPollers := maxPollers
  pollerTable := fun _ => { seq := 0, poller := none }
  freeSlotList := List.range maxPollers
  usedPollers := 0
  object := fun _ => { Object.create false 0 with live := false }
  carried := []

def setSlot (slot : SlotId) (content : Slot) (unit : PollerUnit) : PollerUnit :=
  { unit with pollerTable := Function.update unit.pollerTable slot content }

def setObject (id : ObjectId) (content : Object) (unit : PollerUnit) : PollerUnit :=
  { unit with object := Function.update unit.object id content }

-----------------------------------------------------------------------------------------
-- Slots
-----------------------------------------------------------------------------------------

/-- `AllocEpollSlot`. -/
def allocEpollSlot (unit : PollerUnit) : Option (SlotId × PollerUnit) :=
  match unit.freeSlotList with
  | [] => none
  | p :: rest =>
      some (p, { unit with usedPollers := unit.usedPollers + 1, freeSlotList := rest })

/-- `FreeEpollSlot`. -/
def freeEpollSlot (p : SlotId) (unit : PollerUnit) : PollerUnit :=
  {
    unit.setSlot p { seq := (unit.pollerTable p).seq + 1, poller := none } with
    freeSlotList := p :: unit.freeSlotList
    usedPollers := unit.usedPollers - 1
  }

/-- `++epslot->seq` and `Epctl` with the new data, given whether it succeeds. The sequence number
moves on before the call, also when it fails.
-/
def register (id : ObjectId) (p : SlotId) (ctl : Bool) (unit : PollerUnit)
    : Int × PollerUnit :=
  let slot := unit.pollerTable p
  let bumped := unit.setSlot p { slot with seq := slot.seq + 1 }
  if ctl then
    let object := unit.object id
    let data := eventData (slot.seq + 1) p
    let registered :=
      { object with oldEvents := object.newEvents, registration := some data }
    (0, { bumped.setObject id registered with carried := data :: unit.carried })
  else
    (-1, bumped)

-----------------------------------------------------------------------------------------
-- Objects
-----------------------------------------------------------------------------------------

/-- `ApplyEvents`. -/
def applyEvents (id : ObjectId) (ctl : Bool) (unit : PollerUnit) : Int × PollerUnit :=
  let object := unit.object id
  match object.epslot with
  | none => (0, unit)
  | some p =>
      if object.oldEvents = object.newEvents then (0, unit)
      else unit.register id p ctl

/-- `AttachPoller` of an object that has a unit. -/
def attachOwned (id : ObjectId) (ctl : Bool) (unit : PollerUnit) : Int × PollerUnit :=
  let object := unit.object id
  match object.epslot with
  | some _ => unit.applyEvents id ctl
  | none =>
      match unit.allocEpollSlot with
      | none => (-1, unit)
      | some (p, allocated) =>
          let named := allocated.setSlot p
            { seq := (unit.pollerTable p).seq, poller := some id }
          (named.setObject id { object with epslot := some p }).register id p ctl

/-- `AttachPoller`, given whether a unit is passed; it has no result where it goes through the
null pointer of an object without a unit.
-/
def attachPoller (id : ObjectId) (passed : Bool) (ctl : Bool) (unit : PollerUnit)
    : Option (Int × PollerUnit) :=
  let object := unit.object id
  if passed ∧ object.ownerUnit then
    some (-1, unit)
  else
    let owned := unit.setObject id { object with ownerUnit := passed || object.ownerUnit }
    if object.netfd < 0 then
      some (-1, owned)
    else if (owned.object id).ownerUnit then
      some (owned.attachOwned id ctl)
    else
      none

/-- `DetachPoller`. The object is not registered any more, also when `Epctl` fails. -/
def detachPoller (id : ObjectId) (ctl : Bool) (unit : PollerUnit) : PollerUnit :=
  let object := unit.object id
  match object.epslot with
  | none => unit
  | some p =>
      let detached :=
        {
          object with
          oldEvents := if ctl then object.newEvents else object.oldEvents
          epslot := none
          registration := none
        }
      (unit.freeEpollSlot p).setObject id detached

/-- `~CPollerObject`. -/
def destroy (id : ObjectId) (unit : PollerUnit) : PollerUnit :=
  let object := unit.object id
  let gone :=
    {
      object with
      live := false
      netfd := if 0 < object.netfd then 0 else object.netfd
      epslot := none
      registration := none
    }
  match object.epslot with
  | none => unit.setObject id gone
  | some p => (if object.ownerUnit then unit.freeEpollSlot p else unit).setObject id gone

/-- What is done with the objects of a unit. -/
inductive Op
  | create (id : ObjectId) (ownerUnit : Bool) (fd : Int)
  | ask (id : ObjectId) (events : Interest)
  | attachPoller (id : ObjectId) (passed ctl : Bool)
  | applyEvents (id : ObjectId) (ctl : Bool)
  | detachPoller (id : ObjectId) (ctl : Bool)
  | destroy (id : ObjectId)

def Op.subject : Op → ObjectId
  | .create id _ _ | .ask id _ | .attachPoller id _ _ | .applyEvents id _ | .detachPoller id _
  | .destroy id => id

/-- The operation on its object, which is there. -/
def act (unit : PollerUnit) : Op → Option PollerUnit
  | .create id ownerUnit fd => some (unit.setObject id (Object.create ownerUnit fd))
  | .ask id events => some (unit.setObject id { unit.object id with newEvents := events })
  | .attachPoller id passed ctl => (unit.attachPoller id passed ctl).map Prod.snd
  | .applyEvents id ctl => some (unit.applyEvents id ctl).2
  | .detachPoller id ctl => some (unit.detachPoller id ctl)
  | .destroy id => some (unit.destroy id)

/-- An object is built where there is none; all else is done with a live one. -/
def perform (unit : PollerUnit) (op : Op) : Option PollerUnit :=
  match op with
  | .create id _ _ => if (unit.object id).live then none else unit.act op
  | _ => if (unit.object op.subject).live then unit.act op else none

def performAll (unit : PollerUnit) (ops : List Op) : Option PollerUnit :=
  ops.foldlM perform unit

-----------------------------------------------------------------------------------------
-- Events
-----------------------------------------------------------------------------------------

/-- The callbacks of an object; `OutputNotify` with whether `InputNotify` ran before it for the
same event.
-/
inductive Notification
  | hangup
  | input
  | output (behindInput : Bool)
  deriving DecidableEq

/-- A callback for an event, with the unit as it is when the callback begins. -/
structure Call where
  notification : Notification
  data : Nat
  p : ObjectId
  unit : PollerUnit

/-- A fetched event with what its callbacks do and return, and whether `Epctl` succeeds behind
them.
-/
structure Event where
  data : Nat
  hangup : Bool
  input : Bool
  output : Bool
  onHangup : List Op
  onInput : List Op × Int
  onOutput : List Op × Int
  ctl : Bool

/-- `VerifyEvents`. -/
def verifyEvents (data : Nat) (unit : PollerUnit) : Int :=
  if unit.maxPollers ≤ dataSlot data ∨ dataSeq data ≠ (unit.pollerTable (dataSlot data)).seq then
    -1
  else
    0

/-- `InputNotify` or `OutputNotify` of an event that asks for it, and the two checks behind it:
whether the slot still names the object, and `POLLER_SUCC`.
-/
def notify (notification : Notification) (data : Nat) (p : ObjectId) (asked : Bool)
    (answer : List Op × Int) (unit : PollerUnit)
    : Option (List Call × Bool × PollerUnit) :=
  if asked then do
    let after ← unit.performAll answer.1
    let stays := (after.pollerTable (dataSlot data)).poller = some p
    return ([⟨notification, data, p, unit⟩], stays ∧ answer.2 = 0, after)
  else
    some ([], true, unit)

/-- One round of `ProcessPollerEvents`, with the callbacks it runs. -/
def processEvent (unit : PollerUnit) (event : Event) : Option (List Call × PollerUnit) :=
  if unit.verifyEvents event.data = -1 then some ([], unit)
  else do
    let p ← (unit.pollerTable (dataSlot event.data)).poller
    let begun := unit.setObject p
      { unit.object p with newEvents := (unit.object p).oldEvents }
    if event.hangup then
      let after ← begun.performAll event.onHangup
      return ([⟨.hangup, event.data, p, begun⟩], after)
    let (inputs, reads, read) ← begun.notify .input event.data p event.input event.onInput
    if ¬reads then
      return (inputs, read)
    let (outputs, writes, written) ←
      read.notify (.output event.input) event.data p event.output event.onOutput
    if ¬writes then
      return (inputs ++ outputs, written)
    return (inputs ++ outputs, (written.applyEvents p event.ctl).2)

/-- `ProcessPollerEvents`. -/
def processPollerEvents (unit : PollerUnit) : List Event → Option (List Call × PollerUnit)
  | [] => some ([], unit)
  | event :: rest => do
      let (calls, next) ← unit.processEvent event
      let (later, final) ← next.processPollerEvents rest
      return (calls ++ later, final)

end PollerUnit

end ProxyServer.Poller
