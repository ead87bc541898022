/-
# Jackfield.Endpoint.WsServer -- the connections of a WebSocket endpoint, side by side

`handle_connection` runs once for every client, all of them beside the bus.  A
consumer's connection spawns two more tasks: one takes the items out of the channel of
its `ChannelConsumer` and passes them, encoded, through a channel of its own to the
other, which writes them on the socket.  Whatever ends a task drops the halves of the
channels it holds, and this is all that the tasks learn of each other.

A `WsServer` is a relay with the connections, numbered like the `register` call each
may make, and their tasks.  Each step is one thing that happens between two awaits.
Ws.lean has one connection by itself, as a function of all its frames; here the frames
come one by one, and anything may happen in between.
-/
import Jackfield.Endpoint.Ws

namespace Jackfield

set_option autoImplicit false

/-- What the connections of a server use, with the encoder of `prost`. -/
structure WsEndpoint extends WsService where
  encodeItem : BusableItem → List UInt8

/-- Where `handle_connection` is. -/
inductive WsPhase (M : Type) where
  /-- `accept_async`. -/
  | accepting
  /-- The first loop, at `source.next()`. -/
  | awaiting
  /-- In `register`. -/
  | registering (reg : RegisterData)
  /-- The second loop, at `source.next()`. -/
  | reading (id : Option Nat) (producerHandle : Option ProducerId)
  /-- In `make_send`. -/
  | sending (id : Option Nat) (handle : ProducerId) (message : M)
  /-- In `deregister`. -/
  | leaving (id : Nat)
  | done

/-- The task that encodes the items. -/
inductive WsForward where
  | receiving
  | sending (bytes : List UInt8)
  deriving DecidableEq

/-- The task that holds the socket's sink. -/
inductive WsWriter where
  | receiving
  | writing (bytes : List UInt8)
  deriving DecidableEq

/-- The two tasks, while they run, and the channel between them. -/
structure WsOutbound where
  forward : Option WsForward
  bytes : Channel (List UInt8)
  writer : Option WsWriter

/-- They have not been spawned. -/
def WsOutbound.unspawned : WsOutbound := ⟨none, .new 256, none⟩

def WsOutbound.spawned : WsOutbound := ⟨some .receiving, .new 256, some .receiving⟩

structure WsServer (F I M L : Type) where
  relay : Relay F I M L
  phases : Nat → Option (WsPhase M)
  outbounds : Nat → WsOutbound

/-! ## Actions and events -/

/-- How a task goes on. -/
inductive WsTask where
  | receive
  | send
  /-- What it sends to is gone. -/
  | fail
  /-- What it receives from is at its end. -/
  | leave
  deriving DecidableEq

inductive WsServerAction (F I M L : Type) where
  | accept (k : Nat)
  | handshake (k : Nat) (succeeds : Bool)
  /-- The socket yields a frame, or its end; `uuid` is what `new_v4` draws, if it is called. -/
  | frame (k : Nat) (f : Option Frame) (uuid : Uuid)
  /-- The `Register` command is sent. -/
  | submit (k : Nat)
  /-- The bus has answered. -/
  | answered (k : Nat) (uuid : Uuid)
  /-- A channel of the bus is closed. -/
  | failed (k : Nat)
  | send (k : Nat)
  | deregister (k : Nat)
  | forward (k : Nat) (a : WsTask)
  | writer (k : Nat) (a : WsTask)
  /-- Anything that happens to the bus and to the consumers of others. -/
  | relay (a : RelayAction F I M L)

inductive WsEvent (F I M : Type) where
  | relay (e : RelayEvent M)
  | shook (k : Nat) (succeeded : Bool)
  | read (k : Nat) (f : Option Frame)
  /-- What a connection does to the bus. -/
  | acted (k : Nat) (a : WsAction F I M)
  /-- A frame was written on the socket. -/
  | wrote (k : Nat) (bytes : List UInt8)

/-! ## Steps -/

/-- The receiving half of channel `r` is dropped. -/
def Relay.dropReceiver {F I M L : Type} (s : Relay F I M L) (r : Nat) : Relay F I M L := s.hangUp (some r)

namespace WsService

variable {M : Type} [BoxedMessage M]

/-- How the second loop goes on. -/
def inboundFrame (service : WsService) (id : Option Nat) (producerHandle : Option ProducerId) :
    Option Frame → WsPhase M
  | some (.binary b) =>
      match producerHandle with
      | none => .reading id producerHandle
      | some handle =>
          match service.decodeItem b with
          | none => .reading id producerHandle
          | some item => .sending id handle item.toMessage
  | some .other => .reading id producerHandle
  | _ =>
      match id with
      | some id => .leaving id
      | none => .done

end WsService

namespace WsServer

variable {F I M L : Type}

def init (capacity : Nat) (router : Router) (cap : Nat) : WsServer F I M L where
  relay := .init capacity router cap
  phases _ := none
  outbounds _ := .unspawned

def setPhase (s : WsServer F I M L) (k : Nat) (phase : WsPhase M) : WsServer F I M L :=
  { s with phases := Function.update s.phases k (some phase) }

def setOutbound (s : WsServer F I M L) (k : Nat) (out : WsOutbound) : WsServer F I M L :=
  { s with outbounds := Function.update s.outbounds k out }

/-- No connection and no call has had this number. -/
def unusedNumber (s : WsServer F I M L) (k : Nat) : Bool :=
  match s.phases k, s.relay.desk.calls k with
  | none, .unused => true
  | _, _ => false

variable [F32 F] [Inhabited I] [BoxedMessage M]

/-- A step of the relay. -/
def relayStep (s : WsServer F I M L) (a : RelayAction F I M L) :
    Option (WsServer F I M L × List (WsEvent F I M)) :=
  (s.relay.step a).map fun (relay, es) => ({ s with relay := relay }, es.map .relay)

/-- A step of the bus, which is skipped if there is none any more. -/
def busStep (s : WsServer F I M L) (a : Action F I M (Boxed (Plug L))) :
    Option (WsServer F I M L × List (WsEvent F I M)) :=
  if s.relay.desk.closed then some (s, []) else s.relayStep (.desk (.world a))

/-- The client's RegisterData. -/
def takeIn (endpoint : WsEndpoint) (s : WsServer F I M L) (k : Nat) (reg : RegisterData) (uuid : Uuid) :
    Option (WsServer F I M L × List (WsEvent F I M)) :=
  match parseDimensions endpoint.fromStr reg.dimensionsJson with
  | .error _ => some (s.setPhase k .done, [])
  | .ok dims =>
      if reg.type.contains EndpointType.consumer then
        (s.relayStep (.plugIn k dims)).map fun (s, es) => (s.setPhase k (.registering reg), es)
      else some (s.setPhase k (.reading none (endpoint.producerHandle reg uuid)), [])

def frameStep (endpoint : WsEndpoint) (s : WsServer F I M L) (k : Nat) (f : Option Frame) (uuid : Uuid) :
    Option (WsServer F I M L × List (WsEvent F I M)) :=
  match s.phases k with
  | some .awaiting =>
      match f with
      | some (.binary b) =>
          match endpoint.decodeRegisterData b with
          | none => some (s.setPhase k .done, [])
          | some reg => s.takeIn endpoint k reg uuid
      | some .close => some (s.setPhase k .done, [])
      | none => some (s.setPhase k .done, [])
      | _ => some (s, [])
  | some (.reading id producerHandle) =>
      some (s.setPhase k (endpoint.inboundFrame id producerHandle f), [])
  | _ => none

def forwardStep (endpoint : WsEndpoint) (s : WsServer F I M L) (k : Nat) (a : WsTask) :
    Option (WsServer F I M L × List (WsEvent F I M)) :=
  let out := s.outbounds k
  match out.forward, a with
  | some .receiving, .receive =>
      match (s.relay.pipes k).items.tryRecv with
      | none => none
      | some (item, _) =>
          (s.relayStep (.receive k)).map fun (s, es) =>
            (s.setOutbound k { out with forward := some (.sending (endpoint.encodeItem item)) }, es)
  | some (.sending bytes), .send =>
      if out.writer.isSome then
        (out.bytes.send bytes).map fun bytes =>
          (s.setOutbound k { out with forward := some .receiving, bytes := bytes }, [])
      else none
  | some (.sending _), .fail =>
      if out.writer.isSome then none
      else
        some ({ s with relay := s.relay.dropReceiver k }.setOutbound k { out with forward := none }, [])
  | some .receiving, .leave =>
      if (s.relay.pipes k).items.buf.isEmpty && !s.relay.hasSender k then
        some ({ s with relay := s.relay.dropReceiver k }.setOutbound k { out with forward := none }, [])
      else none
  | _, _ => none

def writerStep (s : WsServer F I M L) (k : Nat) (a : WsTask) :
    Option (WsServer F I M L × List (WsEvent F I M)) :=
  let out := s.outbounds k
  match out.writer, a with
  | some .receiving, .receive =>
      out.bytes.tryRecv.map fun (b, bytes) =>
        (s.setOutbound k { out with bytes := bytes, writer := some (.writing b) }, [])
  | some (.writing b), .send => some (s.setOutbound k { out with writer := some .receiving }, [.wrote k b])
  | some (.writing _), .fail =>
      -- what the channel still holds goes with the task
      some (s.setOutbound k { out with bytes := .new 256, writer := none }, [])
  | some .receiving, .leave =>
      if out.bytes.buf.isEmpty && out.forward.isNone then some (s.setOutbound k { out with writer := none }, [])
      else none
  | _, _ => none

def step (endpoint : WsEndpoint) (s : WsServer F I M L) :
    WsServerAction F I M L → Option (WsServer F I M L × List (WsEvent F I M))
  | .accept k => if s.unusedNumber k then some (s.setPhase k .accepting, []) else none
  | .handshake k succeeds =>
      match s.phases k with
      | some .accepting => some (s.setPhase k (if succeeds then .awaiting else .done), [.shook k succeeds])
      | _ => none
  | .frame k f uuid => (s.frameStep endpoint k f uuid).map fun (s, es) => (s, .read k f :: es)
  | .submit k =>
      match s.phases k, s.relay.desk.calls k with
      | some (.registering _), .sending _ dims =>
          (s.relayStep (.desk (.submit k))).map fun (s, es) => (s, es ++ [.acted k (.register dims)])
      | _, _ => none
  | .answered k uuid =>
      match s.phases k, s.relay.desk.calls k with
      | some (.registering reg), .replied id =>
          (s.relayStep (.desk (.receive k))).map fun (s, es) =>
            ((s.setPhase k (.reading (some id) (endpoint.producerHandle reg uuid))).setOutbound k .spawned, es)
      | _, _ => none
  | .failed k =>
      match s.phases k with
      | some (.registering _) =>
          (s.relayStep (.desk (.fail k))).map fun (s, es) =>
            ({ s with relay := s.relay.dropReceiver k }.setPhase k .done, es)
      | _ => none
  | .send k =>
      match s.phases k with
      | some (.sending id handle message) =>
          (s.busStep (.send handle message)).map fun (s, es) =>
            (s.setPhase k (.reading id (some handle)), es ++ [.acted k (.send handle message)])
      | _ => none
  | .deregister k =>
      match s.phases k with
      | some (.leaving id) =>
          (s.busStep (.sendCmd (.deregister id))).map fun (s, es) =>
            (s.setPhase k .done, es ++ [.acted k (.deregister id)])
      | _ => none
  | .forward k a => s.forwardStep endpoint k a
  | .writer k a => s.writerStep k a
  | .relay a => if a.number?.all fun r => (s.phases r).isNone then s.relayStep a else none

end WsServer

end Jackfield
