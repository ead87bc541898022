/-
# Jackfield.Bus.Task -- the bus among the tasks that use it

A `World` is a bus, what its owner is doing with it, and the number of envelopes
accepted so far.  An `Action` is one indivisible thing that happens next:

* a client task gets a message or a command into its channel, or makes or drops a
  handle;
* the owner of the bus, while no call is running, registers or deregisters a
  consumer, or calls `drain` or `dispatch`;
* the running call takes a command or an envelope, goes on to its next loop, or
  goes on after `consume`;
* the future of the call is dropped at an await point.

`drain` and `dispatch` suspend in the awaited `consume`, and `dispatch` also in
`select!`; client actions are enabled at any moment.  So the runs of `World.step`
are the interleavings of the client tasks with the task of the bus, and every
choice of `select!` is among them.

Each accepted message is stamped with a serial number.  The program does not have
these: no dimension, consumer or router of the crate can read one, and they are
here to tell apart two sends of equal messages.
-/
import Jackfield.Bus.Bus
import Jackfield.Lib.Machine

namespace Jackfield

set_option autoImplicit false

/-- A message with the serial number of its send. -/
structure Stamped (M : Type) where
  serial : Nat
  body : M
  deriving DecidableEq

instance {M : Type} [Message M] : Message (Stamped M) where
  getUuid m := Message.getUuid m.body
  getLabels m := Message.getLabels m.body
  getBytes m := Message.getBytes m.body

abbrev Parcel (M : Type) := Envelope (Stamped M)

def Envelope.serial {M : Type} (e : Parcel M) : Nat := e.message.serial

/-! ## States -/

/-- Where a running `drain` or `dispatch` is. -/
inductive Loop (M : Type) where
  /-- `drain`, applying the commands that are waiting. -/
  | drainCmds
  /-- `drain`, in the loop over the queue that `mem::take` took out; `rest` is what its
  iterator still holds. -/
  | drainPending (rest : List (Parcel M))
  /-- `drain`, emptying the channel. -/
  | drainChannel
  /-- `dispatch`, at `select!`. -/
  | dispatch
  deriving DecidableEq

inductive Control (F I M C : Type) where
  /-- No call is running, and the owner has the bus. -/
  | idle
  | running (loop : Loop M)
  /-- Suspended in `consume`; `resume` is the rest of `route`. -/
  | consuming (loop : Loop M) (resume : Nat → Registry F I (Stamped M) C)

structure World (F I M C : Type) where
  bus : Bus F I (Stamped M) C
  control : Control F I M C
  sent : Nat

variable {F I M C : Type}

def Loop.rest : Loop M → List (Parcel M)
  | .drainPending rest => rest
  | _ => []

/-- What the iterator of a running `drain` holds. -/
def Control.rest : Control F I M C → List (Parcel M)
  | .idle => []
  | .running loop => loop.rest
  | .consuming loop _ => loop.rest

/-- `with_router`, then `max_pending`. -/
def World.init (capacity : Nat) (router : Router) (cap : Nat) : World F I M C where
  bus := (Bus.withRouter capacity router).capPending cap
  control := .idle
  sent := 0

/-! ## Actions and events -/

inductive Action (F I M C : Type) where
  | send (origin : ProducerId) (message : M)
  | sendCmd (cmd : BusCmd F I (Stamped M) C)
  | makeHandle
  | dropHandle
  | makeCmdHandle
  | dropCmdHandle
  | registerConsumer (consumer : C) (dims : List (DimSpec F I (Stamped M)))
  | deregisterConsumer (id : Nat)
  | drain
  | dispatch
  | takeCmd
  /-- Take the next envelope and route it; `consumer` is what the consumers answer meanwhile. -/
  | takeEnvelope (consumer : Consumer (Stamped M) C)
  /-- Nothing is left for this loop. -/
  | advance
  | resume (latency : Nat)
  | drop

def Action.isDrop : Action F I M C → Bool
  | .drop => true
  | _ => false

inductive Event (M : Type) where
  /-- A send returned `Ok`. -/
  | accepted (e : Parcel M)
  | routed (e : Parcel M)
  /-- The message was passed to `consume` of the consumer registered under `id`. -/
  | handed (id : Nat) (e : Parcel M)
  /-- `push_pending` dropped it. -/
  | evicted (e : Parcel M)
  /-- It was dropped with the iterator of a `drain`. -/
  | lost (e : Parcel M)
  | registered (id : Nat)
  | replied (reply id : Nat)
  /-- `BusCmdHandle::deregister` returned: the command is in the channel. -/
  | deregisterReturned (id : Nat)
  deriving DecidableEq

def BusCmd.returned : BusCmd F I (Stamped M) C → List (Event M)
  | .register _ _ _ => []
  | .deregister id => [.deregisterReturned id]

/-! ## Steps -/

namespace World

variable [F32 F] [Message M]

/-- The envelope the running loop takes next, with the bus and the loop it leaves. -/
def next (w : World F I M C) : Option (Parcel M × Bus F I (Stamped M) C × Loop M) :=
  match w.control with
  | .running (.drainPending (e :: rest)) => some (e, w.bus, .drainPending rest)
  | .running .drainChannel =>
      w.bus.rx.tryRecv.map fun (e, rx) => (e, { w.bus with rx := rx }, .drainChannel)
  | .running .dispatch =>
      w.bus.rx.tryRecv.map fun (e, rx) => (e, { w.bus with rx := rx }, .dispatch)
  | _ => none

/-- Route `e` from `loop`, the bus being `bus` once `e` is taken out of it. -/
def routeFrom (w : World F I M C) (consumer : Consumer (Stamped M) C) (e : Parcel M)
    (bus : Bus F I (Stamped M) C) (loop : Loop M) : World F I M C × List (Event M) :=
  match bus.router.route consumer bus.registry e with
  | .consuming _ entry resume =>
      ({ w with bus := bus, control := .consuming loop resume }, [.routed e, .handed entry.id e])
  | .unhandled registry back =>
      ({ w with bus := { bus with registry := registry }.pushPending back, control := .running loop },
        .routed e :: (EvictingQueue.evicted bus.maxPending bus.pending).map .evicted)

/-- Take the next command, if any, and apply it. -/
def takeCmd (w : World F I M C) : Option (World F I M C × List (Event M)) :=
  w.bus.cmdRx.tryRecv.map fun (cmd, cmdRx) =>
    let applied := { w.bus with cmdRx := cmdRx }.applyCmd cmd
    ({ w with bus := applied.1 },
      match applied.2 with
      | none => []
      | some (reply, id) => [.registered id, .replied reply id])

/-- What the running loop does when it finds nothing more to take. -/
def advance (w : World F I M C) : Option (World F I M C) :=
  match w.control with
  | .running .drainCmds =>
      if w.bus.cmdRx.buf.isEmpty then
        some { w with bus := { w.bus with pending := [] }, control := .running (.drainPending w.bus.pending) }
      else none
  | .running (.drainPending []) => some { w with control := .running .drainChannel }
  | .running .drainChannel => if w.bus.rx.buf.isEmpty then some { w with control := .idle } else none
  | .running .dispatch =>
      if w.bus.rx.closed && w.bus.cmdRx.closed then some { w with control := .idle } else none
  | _ => none

def step (w : World F I M C) : Action F I M C → Option (World F I M C × List (Event M))
  | .send origin message =>
      let e : Parcel M := ⟨origin, ⟨w.sent, message⟩⟩
      (w.bus.rx.send e).map fun rx =>
        ({ w with bus := { w.bus with rx := rx }, sent := w.sent + 1 }, [.accepted e])
  | .sendCmd cmd =>
      (w.bus.cmdRx.send cmd).map fun cmdRx =>
        ({ w with bus := { w.bus with cmdRx := cmdRx } }, cmd.returned)
  | .makeHandle => some ({ w with bus := { w.bus with rx := w.bus.rx.cloneSender } }, [])
  | .dropHandle =>
      -- the bus and every command handle hold a sender of the envelope channel too
      if w.bus.cmdRx.senders < w.bus.rx.senders then
        some ({ w with bus := { w.bus with rx := w.bus.rx.dropSender } }, [])
      else none
  | .makeCmdHandle =>
      some ({ w with bus := { w.bus with rx := w.bus.rx.cloneSender, cmdRx := w.bus.cmdRx.cloneSender } }, [])
  | .dropCmdHandle =>
      -- the bus keeps one command sender itself
      if 1 < w.bus.cmdRx.senders then
        some ({ w with bus := { w.bus with rx := w.bus.rx.dropSender, cmdRx := w.bus.cmdRx.dropSender } }, [])
      else none
  | .registerConsumer consumer dims =>
      match w.control with
      | .idle =>
          let registered := w.bus.registerConsumer consumer dims
          some ({ w with bus := registered.1 }, [.registered registered.2])
      | _ => none
  | .deregisterConsumer id =>
      match w.control with
      | .idle => some ({ w with bus := (w.bus.deregisterConsumer id).1 }, [])
      | _ => none
  | .drain =>
      match w.control with
      | .idle => some ({ w with control := .running .drainCmds }, [])
      | _ => none
  | .dispatch =>
      match w.control with
      | .idle => some ({ w with control := .running .dispatch }, [])
      | _ => none
  | .takeCmd =>
      match w.control with
      | .running .drainCmds => w.takeCmd
      | .running .dispatch => w.takeCmd
      | _ => none
  | .takeEnvelope consumer => w.next.map fun (e, bus, loop) => w.routeFrom consumer e bus loop
  | .advance => w.advance.map fun w' => (w', [])
  | .resume latency =>
      match w.control with
      | .consuming loop resume =>
          some ({ w with bus := { w.bus with registry := resume latency }, control := .running loop }, [])
      | _ => none
  | .drop =>
      match w.control with
      | .consuming loop _ => some ({ w with control := .idle }, loop.rest.map .lost)
      | .running .dispatch => some ({ w with control := .idle }, [])
      | _ => none

end World

end Jackfield
