/-
# Jackfield.Integrations.Python -- the message bus of the Python package

`MessageBus` wraps a bus for Python callers.  A consumer is a callback: what the bus
knows of it is a wrapper that takes everything and appends the parts of each message
to a list of its own, and `drain`, once the bus has drained, goes through these lists
in the order of registration, takes each out and calls the callback with one message
after the other.  Where a callback raises, it puts back that message and those behind
it, goes on with the next consumer, and in the end raises the first error there was.

A `PyMessageBus` is the bus with these lists and the state of the running `drain`.
Its steps are the calls and what happens in a `drain` between them, so its runs are
the interleavings of one `drain` after another with sends -- from other threads, and
from the callbacks.  The answer of each callback is left open.  `register_consumer`
needs the bus for itself.

A `drain` only borrows it, so a callback, or another thread while callbacks are called,
could begin a second `drain`.  Drains that overlap in this way are left out: in the runs
here a `drain` begins when none is under way.
-/
import Jackfield.Bus.Conservation
import Jackfield.Endpoint.Relay

namespace Jackfield

set_option autoImplicit false

/-! ## Dimensions and messages -/

/-- A `Dim` of the package. -/
inductive PyDim where
  | producer (d : ProducerDim)
  | label (d : LabelDim)
  | size (d : SizeDim)
  deriving DecidableEq

def PyDim.intoDimension {F I M : Type} [F32 F] [Inhabited I] [Message M] : PyDim → Dimension F I M
  | .producer d => d.toDimension
  | .label d => d.toDimension
  | .size d => d.toDimension

/-- The dimensions a `register_consumer` call lists; required ones have no weight of their own. -/
def PyDim.listed {F I M : Type} [F32 F] [Inhabited I] [Message M] (requireFrom : Option String)
    (require : Option (List PyDim)) (prefer : Option (List (PyDim × F))) : List (DimSpec F I M) :=
  requireFrom.toList.map (fun name => ((ProducerDim.only name).toDimension, true, F32.lit 1)) ++
    (require.getD []).map (fun d => (d.intoDimension, true, F32.lit 1)) ++
      (prefer.getD []).map fun d => (d.1.intoDimension, false, d.2)

/-- What a wrapper keeps of a message: identifier, labels and bytes. -/
abbrev Parts := Uuid × List String × List UInt8

def Parts.of {M : Type} [Message M] (m : M) : Parts :=
  (Message.getUuid m, Message.getLabels m, Message.getBytes m)

def Parts.toMessage (p : Parts) : BaseMessage := .new (some p.1) (some p.2.1) (some p.2.2)

@[simp] theorem Parts.toMessage_of (m : BaseMessage) : (Parts.of m).toMessage = m := rfl

/-- The parts, under the serial number of the message. -/
def Stamped.parts (m : Stamped BaseMessage) : Stamped Parts := ⟨m.serial, .of m.body⟩

def Stamped.whole (p : Stamped Parts) : Stamped BaseMessage := ⟨p.serial, p.body.toMessage⟩

@[simp] theorem Stamped.whole_parts (m : Stamped BaseMessage) : m.parts.whole = m := rfl

@[simp] theorem Stamped.parts_whole (p : Stamped Parts) : p.whole.parts = p := rfl

/-! ## States -/

/-- Where a running `drain` is. -/
inductive PyCall (Err : Type) where
  /-- None is running. -/
  | idle
  /-- The bus drains. -/
  | draining
  /-- The consumers before the `i`-th are done; `firstErr` is the first error of theirs. -/
  | between (i : Nat) (firstErr : Option Err)
  /-- Of the messages taken from the `i`-th consumer's list, `msgs` have not gone to its callback yet. -/
  | calling (i : Nat) (msgs : List (Stamped Parts)) (firstErr : Option Err)
  deriving DecidableEq

structure PyMessageBus (F I Err : Type) where
  world : World F I BaseMessage Nat
  /-- The producers that have a handle. -/
  handles : List String
  /-- How many consumers are registered; each has its number for the bus. -/
  consumers : Nat
  /-- What is pending for each of them. -/
  queues : Nat → List (Stamped Parts)
  call : PyCall Err

inductive PyAction (F Err : Type) where
  | registerConsumer (requireFrom : Option String) (require : Option (List PyDim))
      (prefer : Option (List (PyDim × F)))
  | send (producerName : String) (msg : BaseMessage)
  | drain
  /-- The bus takes an envelope and routes it. -/
  | route
  | resume (latency : Nat)
  | advance
  /-- The messages pending for the next consumer are taken out of its list. -/
  | take
  /-- A callback returns, or raises. -/
  | callback (error : Option Err)
  /-- The messages taken are used up. -/
  | next
  /-- There is no further consumer. -/
  | finish

inductive PyEvent (Err : Type) where
  | bus (e : Event BaseMessage)
  /-- A `send` raised: the channel is full. -/
  | refused (producerName : String)
  | started
  /-- The bus handed the message to the wrapper of the `i`-th consumer. -/
  | pushed (i : Nat) (e : Parcel BaseMessage)
  | taken (i : Nat) (msgs : List (Stamped Parts))
  /-- The callback of the `i`-th consumer was called; `error` is what it raised. -/
  | called (i : Nat) (m : Stamped BaseMessage) (error : Option Err)
  /-- A `drain` returned, or raised. -/
  | returned (error : Option Err)
  deriving DecidableEq

/-! ## Steps -/

namespace PyMessageBus

variable {F I Err : Type}

/-- A bus as `Bus::default` makes it. -/
def new : PyMessageBus F I Err where
  world := .init 256 .affinity 1024
  handles := []
  consumers := 0
  queues _ := []
  call := .idle

def isEmpty (s : PyMessageBus F I Err) : Bool := s.world.bus.isEmpty

/-- `PyConsumerWrapper::available` and `validate`. -/
def wrappers : Consumer (Stamped BaseMessage) Nat := ⟨fun _ => true, fun _ _ => true⟩

variable [F32 F]

/-- The handle for a producer: there already, or made, for which the bus must be free. -/
def handle (s : PyMessageBus F I Err) (producerName : String) : Option (PyMessageBus F I Err) :=
  if s.handles.contains producerName then some s
  else
    match s.call with
    | .draining => none
    | _ => (s.world.step .makeHandle).map fun (world, _) =>
        { s with world := world, handles := producerName :: s.handles }

variable [Inhabited I]

def step (s : PyMessageBus F I Err) : PyAction F Err → Option (PyMessageBus F I Err × List (PyEvent Err))
  | .registerConsumer requireFrom require prefer =>
      match s.call with
      | .idle =>
          (s.world.step (.registerConsumer s.consumers (PyDim.listed requireFrom require prefer))).map
            fun (world, es) =>
              ({ s with
                  world := world
                  consumers := s.consumers + 1
                  queues := Function.update s.queues s.consumers [] }, es.map .bus)
      | _ => none
  | .send producerName msg =>
      (s.handle producerName).map fun s =>
        match s.world.step (.send ⟨producerName⟩ (Parts.of msg).toMessage) with
        | none => (s, [.refused producerName])
        | some (world, es) => ({ s with world := world }, es.map .bus)
  | .drain =>
      match s.call with
      -- overlapping drains are left out
      | .idle => (s.world.step .drain).map fun (world, es) =>
          ({ s with world := world, call := .draining }, .started :: es.map .bus)
      | _ => none
  | .route =>
      match s.call with
      | .draining => (s.world.step (.takeEnvelope wrappers)).map fun (world, es) =>
          match s.world.recipient wrappers with
          | none => ({ s with world := world }, es.map .bus)
          | some (entry, e) =>
              ({ s with
                  world := world
                  queues := Function.update s.queues entry.consumer
                    (s.queues entry.consumer ++ [e.message.parts]) },
                es.map .bus ++ [.pushed entry.consumer e])
      | _ => none
  | .resume latency =>
      match s.call with
      | .draining => (s.world.step (.resume latency)).map fun (world, es) =>
          ({ s with world := world }, es.map .bus)
      | _ => none
  | .advance =>
      match s.call with
      | .draining => (s.world.step .advance).map fun (world, es) =>
          ({ s with
              world := world
              call := match world.control with
                | .idle => .between 0 none
                | _ => .draining }, es.map .bus)
      | _ => none
  | .take =>
      match s.call with
      | .between i firstErr =>
          if i < s.consumers then
            some ({ s with
                queues := Function.update s.queues i []
                call := .calling i (s.queues i) firstErr }, [.taken i (s.queues i)])
          else none
      | _ => none
  | .callback error =>
      match s.call with
      | .calling i (m :: rest) firstErr =>
          match error with
          | none => some ({ s with call := .calling i rest firstErr }, [.called i m.whole none])
          | some e =>
              some ({ s with
                  queues := Function.update s.queues i (s.queues i ++ m :: rest)
                  call := .between (i + 1) (firstErr.or (some e)) }, [.called i m.whole (some e)])
      | _ => none
  | .next =>
      match s.call with
      | .calling i [] firstErr => some ({ s with call := .between (i + 1) firstErr }, [])
      | _ => none
  | .finish =>
      match s.call with
      | .between i firstErr =>
          if i < s.consumers then none else some ({ s with call := .idle }, [.returned firstErr])
      | _ => none

end PyMessageBus

end Jackfield
