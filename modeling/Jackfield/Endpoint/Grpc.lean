/-
# Jackfield.Endpoint.Grpc -- the gRPC endpoint

`GrpcEndpoint` serves three calls.  Register makes an entry for the caller's remote
address: a fresh identifier, for a consumer the receiving half of a new channel and
the id the bus answered with, for a producer a handle named after the identifier.
Stream takes channel and handle out of the entry and spawns a task for each: one
forwards items to the client and at the end deregisters the consumer and removes the
entry, the other sends the client's items into the bus, and removes the entry if there
is no forwarding task.  Deregister removes the entry, if the identifier is right, and
deregisters the consumer.

A `Grpc` is a relay with the entries, the handlers of the calls being served, and the
tasks of the streams.  Each step is one thing that happens between two awaits, so the
runs are the interleavings of handlers, tasks, clients and bus.  Calls are numbered;
the number of a Register call is also that of its `register` call to the bus and of
its channel.

Some of this is not in the program and only tells apart what it treats alike: the
numbers of calls and connections, the call and the connection an entry knows it comes
from, and the identifier a task keeps of the entry its stream was opened from.
-/
import Jackfield.Endpoint.Dimensions
import Jackfield.Endpoint.Relay

namespace Jackfield

set_option autoImplicit false

/-- What a server is made with, and the two foreign functions it uses: how an identifier
is printed, and the JSON parser. -/
structure GrpcService where
  name : String
  display : Uuid → String
  fromStr : String → Except String Json

/-- `format!("{}/{}", self.name, endpoint_uuid)`. -/
def GrpcService.producerId (service : GrpcService) (uuid : Uuid) : ProducerId :=
  ⟨service.name ++ "/" ++ service.display uuid⟩

/-- A server whose clients ask for no dimensions. -/
def GrpcService.plain : GrpcService := ⟨"grpc", Uuid.hyphenated, fun _ => .error "expected value at line 1 column 1"⟩

/-- The enumeration `EndpointType`, on the wire. -/
def EndpointType.producer : Int := 0
def EndpointType.consumer : Int := 1

structure RegisterData where
  name : String
  type : List Int
  dimensionsJson : String

structure EndpointEntry where
  uuid : Uuid
  consumerRegId : Option Nat
  /-- The receiving half, by the number of its channel. -/
  consumerRx : Option Nat
  /-- The handle, by the name it sends under. -/
  producerHandle : Option ProducerId
  /-- The Register call it comes from. -/
  call : Nat
  /-- The connection that call was made on. -/
  conn : Nat
  deriving DecidableEq

/-- A call that is being served, at its await point. -/
inductive Handler (Addr : Type) where
  /-- Register, waiting for the bus; `entry` lacks the id and the channel. -/
  | registering (addr : Addr) (entry : EndpointEntry)
  /-- Register, about to insert its entry. -/
  | inserting (addr : Addr) (entry : EndpointEntry)
  /-- Deregister, having removed the entry, about to send the command. -/
  | deregistering (addr : Addr) (uuid : Uuid) (id : Nat)
  deriving DecidableEq

inductive ForwardPhase where
  | receiving
  | sending (item : BusableItem)
  /-- The loop is over; the command is to be sent. -/
  | deregistering (id : Nat)
  /-- The entry is to be removed. -/
  | removing
  deriving DecidableEq

/-- The task that forwards a consumer's items. -/
structure Forward (Addr : Type) where
  addr : Addr
  uuid : Uuid
  /-- The channel it receives from. -/
  rx : Nat
  consumerRegId : Option Nat
  phase : ForwardPhase
  deriving DecidableEq

inductive InboundPhase where
  | reading
  | sending (item : BusableItem)
  | removing
  deriving DecidableEq

/-- The task that sends a producer's items. -/
structure Inbound (Addr : Type) where
  addr : Addr
  uuid : Uuid
  handle : ProducerId
  /-- There is no forwarding task to remove the entry. -/
  cleanup : Bool
  phase : InboundPhase
  deriving DecidableEq

structure Grpc (F I M L Addr : Type) where
  relay : Relay F I M L
  /-- The connection open from an address. -/
  conns : Addr → Option Nat
  nextConn : Nat
  endpoints : Addr → Option EndpointEntry
  /-- Who made a call. -/
  callers : Nat → Option Addr
  handlers : Nat → Option (Handler Addr)
  forwards : Nat → Option (Forward Addr)
  inbounds : Nat → Option (Inbound Addr)
  /-- The response streams. -/
  outbounds : Nat → Pipe

/-! ## Actions and events -/

/-- How a handler goes on. -/
inductive HandlerAction where
  /-- The `Register` command is sent. -/
  | submit
  /-- The bus has answered. -/
  | answered
  /-- A channel of the bus is closed. -/
  | failed
  | insert
  | deregister
  /-- The client cancels the call, and its future is dropped. -/
  | cancel
  deriving DecidableEq

inductive ForwardAction where
  | receive
  | send
  /-- The loop ends: no sender is left, or the response stream is gone. -/
  | leave
  | deregister
  | remove
  deriving DecidableEq

inductive InboundAction where
  | read (item : BusableItem)
  | send
  /-- The inbound stream ends or breaks. -/
  | leave
  | remove
  deriving DecidableEq

inductive GrpcAction (F I M L Addr : Type) where
  | connect (addr : Addr)
  | disconnect (addr : Addr)
  /-- A Register call arrives; `uuid` is what `new_v4` draws for it. -/
  | register (n : Nat) (addr : Addr) (data : RegisterData) (uuid : Uuid)
  | stream (m : Nat) (addr : Addr)
  | deregister (n : Nat) (addr : Addr) (uuid : List UInt8)
  | handler (n : Nat) (a : HandlerAction)
  | forward (m : Nat) (a : ForwardAction)
  | inbound (m : Nat) (a : InboundAction)
  /-- The client reads an item of the response stream. -/
  | readOutbound (m : Nat)
  /-- The response stream breaks, or is dropped by the client. -/
  | breakOutbound (m : Nat)
  /-- Anything that happens to the bus and to the consumers of others. -/
  | relay (a : RelayAction F I M L)

inductive Reply where
  | registered (uuid : List UInt8)
  | streaming
  | empty
  deriving DecidableEq

inductive GrpcEvent (M Addr : Type) where
  | relay (e : RelayEvent M)
  /-- A Register call drew its identifier. -/
  | drew (n : Nat) (uuid : Uuid)
  | answered (n : Nat) (reply : Except Status Reply)
  /-- A Stream call on connection `conn` found `entry`, and took channel and handle out. -/
  | opened (m conn : Nat) (entry : EndpointEntry)
  /-- A stream opened from the entry with `uuid` ended and removed the entry at its address. -/
  | cleaned (uuid : Uuid) (removed : Option EndpointEntry)
  /-- A `Deregister` command was sent because of a call or a stream from `addr`. -/
  | commanded (addr : Addr) (id : Nat)
  /-- A Deregister call with this identifier returned `Ok`. -/
  | deregistered (uuid : Uuid)
  /-- An item of channel `r` was put on a response stream. -/
  | streamed (r : Nat) (item : BusableItem)
  deriving DecidableEq

/-! ## Steps -/

/-- The receiving half of a channel is dropped. -/
def Relay.hangUp {F I M L : Type} (s : Relay F I M L) (rx : Option Nat) : Relay F I M L :=
  match rx with
  | none => s
  | some r => if (s.pipes r).live then s.setPipe r .dead else s

/-- The forwarding loop is over. -/
def Forward.over {Addr : Type} (f : Forward Addr) : ForwardPhase :=
  match f.consumerRegId with
  | some id => .deregistering id
  | none => .removing

namespace Grpc

variable {F I M L Addr : Type}

def init (capacity : Nat) (router : Router) (cap : Nat) : Grpc F I M L Addr where
  relay := .init capacity router cap
  conns _ := none
  nextConn := 0
  endpoints _ := none
  callers _ := none
  handlers _ := none
  forwards _ := none
  inbounds _ := none
  outbounds _ := .dead

/-- No call has had this number. -/
def unusedNumber (s : Grpc F I M L Addr) (n : Nat) : Bool :=
  match s.callers n, s.relay.desk.calls n with
  | none, .unused => true
  | _, _ => false

/-- No stream has this number now. -/
def freeStream (s : Grpc F I M L Addr) (m : Nat) : Bool :=
  (s.forwards m).isNone && (s.inbounds m).isNone && !(s.outbounds m).live

variable [DecidableEq Addr]

/-- `endpoints.insert`: what was there is dropped. -/
def insert (s : Grpc F I M L Addr) (addr : Addr) (entry : EndpointEntry) : Grpc F I M L Addr :=
  { s with
    relay := s.relay.hangUp ((s.endpoints addr).bind fun old => old.consumerRx)
    endpoints := Function.update s.endpoints addr (some entry) }

/-- `endpoints.remove`: what was there is dropped. -/
def remove (s : Grpc F I M L Addr) (addr : Addr) : Grpc F I M L Addr :=
  { s with
    relay := s.relay.hangUp ((s.endpoints addr).bind fun old => old.consumerRx)
    endpoints := Function.update s.endpoints addr none }

variable [F32 F] [Inhabited I] [BoxedMessage M]

/-- A step of the relay. -/
def relayStep (s : Grpc F I M L Addr) (a : RelayAction F I M L) :
    Option (Grpc F I M L Addr × List (GrpcEvent M Addr)) :=
  (s.relay.step a).map fun (relay, es) => ({ s with relay := relay }, es.map .relay)

/-- `BusCmdHandle::deregister`, on behalf of `addr`; that the bus is gone is ignored. -/
def command (s : Grpc F I M L Addr) (addr : Addr) (id : Nat) :
    Option (Grpc F I M L Addr × List (GrpcEvent M Addr)) :=
  if s.relay.desk.closed then some (s, [])
  else (s.relayStep (.desk (.world (.sendCmd (.deregister id))))).map fun (s, es) =>
    (s, es ++ [.commanded addr id])

/-! ### Register -/

def registerStep (service : GrpcService) (s : Grpc F I M L Addr) (n : Nat) (addr : Addr) (conn : Nat)
    (data : RegisterData) (uuid : Uuid) : Option (Grpc F I M L Addr × List (GrpcEvent M Addr)) :=
  let s := { s with callers := Function.update s.callers n (some addr) }
  match parseDimensions service.fromStr data.dimensionsJson with
  | .error status => some (s, [.drew n uuid, .answered n (.error status)])
  | .ok dims =>
      let entry : EndpointEntry :=
        { uuid := uuid
          consumerRegId := none
          consumerRx := none
          producerHandle :=
            if data.type.contains EndpointType.producer then some (service.producerId uuid) else none
          call := n
          conn := conn }
      if data.type.contains EndpointType.consumer then
        (s.relayStep (.plugIn n dims)).map fun (s, es) =>
          ({ s with handlers := Function.update s.handlers n (some (.registering addr entry)) },
            .drew n uuid :: es)
      else
        some ({ s with handlers := Function.update s.handlers n (some (.inserting addr entry)) },
          [.drew n uuid])

/-! ### Stream -/

def streamStep (s : Grpc F I M L Addr) (m : Nat) (addr : Addr) (conn : Nat) :
    Grpc F I M L Addr × List (GrpcEvent M Addr) :=
  match s.endpoints addr with
  | none => (s, [.answered m (.error ⟨.failedPrecondition, "not registered; call Register first"⟩)])
  | some entry =>
      ({ s with
          endpoints :=
            Function.update s.endpoints addr (some { entry with consumerRx := none, producerHandle := none })
          forwards := Function.update s.forwards m (entry.consumerRx.map fun rx =>
            ⟨addr, entry.uuid, rx, entry.consumerRegId, .receiving⟩)
          inbounds := Function.update s.inbounds m (entry.producerHandle.map fun handle =>
            ⟨addr, entry.uuid, handle, entry.consumerRx.isNone, .reading⟩)
          outbounds := Function.update s.outbounds m .new },
        [.opened m conn entry, .answered m (.ok .streaming)])

/-! ### Deregister -/

def deregisterStep (s : Grpc F I M L Addr) (n : Nat) (addr : Addr) (bytes : List UInt8) :
    Grpc F I M L Addr × List (GrpcEvent M Addr) :=
  let s := { s with callers := Function.update s.callers n (some addr) }
  match Uuid.fromSlice bytes with
  | none => (s, [.answered n (.error ⟨.invalidArgument, "invalid uuid"⟩)])
  | some uuid =>
      match s.endpoints addr with
      | none => (s, [.answered n (.error ⟨.notFound, "not registered"⟩)])
      | some entry =>
          if entry.uuid = uuid then
            match entry.consumerRegId with
            | some id =>
                ({ s.remove addr with
                    handlers := Function.update s.handlers n (some (.deregistering addr uuid id)) }, [])
            | none => (s.remove addr, [.answered n (.ok .empty), .deregistered uuid])
          else (s, [.answered n (.error ⟨.notFound, "uuid mismatch"⟩)])

/-! ### The handlers and the tasks -/

def handlerStep (s : Grpc F I M L Addr) (n : Nat) (a : HandlerAction) :
    Option (Grpc F I M L Addr × List (GrpcEvent M Addr)) :=
  match s.handlers n, a with
  | some (.registering _ _), .submit => s.relayStep (.desk (.submit n))
  | some (.registering addr entry), .answered =>
      match s.relay.desk.calls n with
      | .replied id =>
          (s.relayStep (.desk (.receive n))).map fun (s, es) =>
            ({ s with
                handlers := Function.update s.handlers n
                  (some (.inserting addr { entry with consumerRegId := some id, consumerRx := some n })) }, es)
      | _ => none
  | some (.registering _ _), .failed =>
      (s.relayStep (.desk (.fail n))).map fun (s, es) =>
        ({ s with
            relay := s.relay.hangUp (some n)
            handlers := Function.update s.handlers n none },
          es ++ [.answered n (.error ⟨.internal, "bus registration failed"⟩)])
  | some (.inserting addr entry), .insert =>
      some ({ s.insert addr entry with handlers := Function.update s.handlers n none },
        [.answered n (.ok (.registered entry.uuid.bytes))])
  | some (.deregistering addr uuid id), .deregister =>
      (s.command addr id).map fun (s, es) =>
        ({ s with handlers := Function.update s.handlers n none },
          es ++ [.answered n (.ok .empty), .deregistered uuid])
  | some (.registering _ _), .cancel =>
      (s.relayStep (.desk (.abandon n))).map fun (s, es) =>
        ({ s with
            relay := s.relay.hangUp (some n)
            handlers := Function.update s.handlers n none }, es)
  | some (.inserting _ entry), .cancel =>
      some ({ s with
          relay := s.relay.hangUp entry.consumerRx
          handlers := Function.update s.handlers n none }, [])
  | some (.deregistering _ _ _), .cancel =>
      some ({ s with handlers := Function.update s.handlers n none }, [])
  | _, _ => none

def forwardStep (s : Grpc F I M L Addr) (m : Nat) (f : Forward Addr) (a : ForwardAction) :
    Option (Grpc F I M L Addr × List (GrpcEvent M Addr)) :=
  match f.phase, a with
  | .receiving, .receive =>
      match (s.relay.pipes f.rx).items.tryRecv with
      | none => none
      | some (item, _) =>
          (s.relayStep (.receive f.rx)).map fun (s, es) =>
            ({ s with forwards := Function.update s.forwards m (some { f with phase := .sending item }) }, es)
  | .sending item, .send =>
      if (s.outbounds m).live then
        ((s.outbounds m).items.send item).map fun items =>
          ({ s with
              forwards := Function.update s.forwards m (some { f with phase := .receiving })
              outbounds := Function.update s.outbounds m ⟨items, true⟩ }, [.streamed f.rx item])
      else none
  | .receiving, .leave =>
      if (s.relay.pipes f.rx).items.buf.isEmpty && !s.relay.hasSender f.rx then
        some ({ s with forwards := Function.update s.forwards m (some { f with phase := f.over }) }, [])
      else none
  | .sending _, .leave =>
      if (s.outbounds m).live then none
      else some ({ s with forwards := Function.update s.forwards m (some { f with phase := f.over }) }, [])
  | .deregistering id, .deregister =>
      (s.command f.addr id).map fun (s, es) =>
        ({ s with forwards := Function.update s.forwards m (some { f with phase := .removing }) }, es)
  | .removing, .remove =>
      -- with the task goes the channel it received from
      some ({ s.remove f.addr with
          relay := (s.remove f.addr).relay.hangUp (some f.rx)
          forwards := Function.update s.forwards m none }, [.cleaned f.uuid (s.endpoints f.addr)])
  | _, _ => none

def inboundStep (s : Grpc F I M L Addr) (m : Nat) (i : Inbound Addr) (a : InboundAction) :
    Option (Grpc F I M L Addr × List (GrpcEvent M Addr)) :=
  match i.phase, a with
  | .reading, .read item =>
      some ({ s with inbounds := Function.update s.inbounds m (some { i with phase := .sending item }) }, [])
  | .sending item, .send =>
      -- that the bus is gone is ignored
      (if s.relay.desk.closed then some (s, [])
        else s.relayStep (.desk (.world (.send i.handle item.toMessage)))).map fun (s, es) =>
          ({ s with inbounds := Function.update s.inbounds m (some { i with phase := .reading }) }, es)
  | .reading, .leave =>
      some ({ s with
          inbounds := Function.update s.inbounds m
            (if i.cleanup then some { i with phase := .removing } else none) }, [])
  | .removing, .remove =>
      some ({ s.remove i.addr with inbounds := Function.update s.inbounds m none },
        [.cleaned i.uuid (s.endpoints i.addr)])
  | _, _ => none

def step (service : GrpcService) (s : Grpc F I M L Addr) :
    GrpcAction F I M L Addr → Option (Grpc F I M L Addr × List (GrpcEvent M Addr))
  | .connect addr =>
      match s.conns addr with
      | none =>
          some ({ s with
              conns := Function.update s.conns addr (some s.nextConn)
              nextConn := s.nextConn + 1 }, [])
      | some _ => none
  | .disconnect addr =>
      match s.conns addr with
      | none => none
      | some _ => some ({ s with conns := Function.update s.conns addr none }, [])
  | .register n addr data uuid =>
      match s.conns addr with
      | none => none
      | some conn => if s.unusedNumber n then s.registerStep service n addr conn data uuid else none
  | .stream m addr =>
      match s.conns addr with
      | none => none
      | some conn => if s.freeStream m then some (s.streamStep m addr conn) else none
  | .deregister n addr bytes =>
      match s.conns addr with
      | none => none
      | some _ => if s.unusedNumber n then some (s.deregisterStep n addr bytes) else none
  | .handler n a => s.handlerStep n a
  | .forward m a =>
      match s.forwards m with
      | none => none
      | some f => s.forwardStep m f a
  | .inbound m a =>
      match s.inbounds m with
      | none => none
      | some i => s.inboundStep m i a
  | .readOutbound m =>
      if (s.outbounds m).live then
        (s.outbounds m).items.tryRecv.map fun (_, items) =>
          ({ s with outbounds := Function.update s.outbounds m ⟨items, true⟩ }, [])
      else none
  | .breakOutbound m =>
      if (s.outbounds m).live then
        some ({ s with outbounds := Function.update s.outbounds m .dead }, [])
      else none
  | .relay a => if a.number?.all fun r => (s.callers r).isNone then s.relayStep a else none

end Grpc

end Jackfield
