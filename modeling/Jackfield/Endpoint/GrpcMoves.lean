/-
# Jackfield.Endpoint.GrpcMoves -- everything one step of the endpoint can do

`Grpc.Move` lists the steps of a gRPC endpoint, each with its guard and all that it
changes, and `move_of_step` reads it off `Grpc.step` once.  Only the status with which a
Deregister call is rejected is left open.  Underneath, every step is
a schedule of the relay (`simulates`).
-/
import Jackfield.Endpoint.Grpc

namespace Jackfield

set_option autoImplicit false
set_option linter.unusedSectionVars false

variable {F I M L Addr : Type} [DecidableEq Addr] [F32 F] [Inhabited I] [BoxedMessage M]

/-! ## What is told of the relay -/

def GrpcEvent.relay? : GrpcEvent M Addr → Option (RelayEvent M)
  | .relay e => some e
  | _ => none

theorem GrpcEvent.filterMap_relay (es : List (RelayEvent M)) :
    (es.map .relay : List (GrpcEvent M Addr)).filterMap GrpcEvent.relay? = es := by
  rw [List.filterMap_map]
  exact List.filterMap_some ..

theorem GrpcEvent.filterMap_relay_append (es : List (RelayEvent M)) {rest : List (GrpcEvent M Addr)}
    (apart : rest.filterMap GrpcEvent.relay? = []) :
    (es.map GrpcEvent.relay ++ rest).filterMap GrpcEvent.relay? = es := by
  rw [List.filterMap_append, filterMap_relay, apart, List.append_nil]

omit [DecidableEq Addr] [F32 F] [Inhabited I] [BoxedMessage M] in
theorem GrpcEvent.mem_filterMap_relay {es : List (GrpcEvent M Addr)} {e : RelayEvent M} :
    e ∈ es.filterMap GrpcEvent.relay? ↔ GrpcEvent.relay e ∈ es := by
  rw [List.mem_filterMap]
  constructor
  · rintro ⟨told, member, isRelay⟩
    cases told with
    | relay below =>
        cases isRelay
        exact member
    | _ => cases isRelay
  · exact fun member => ⟨_, member, rfl⟩

namespace Grpc

/-- The entry a Register call begins with. -/
def newEntry (service : GrpcService) (n conn : Nat) (data : RegisterData) (uuid : Uuid) : EndpointEntry where
  uuid := uuid
  consumerRegId := none
  consumerRx := none
  producerHandle :=
    if data.type.contains EndpointType.producer then some (service.producerId uuid) else none
  call := n
  conn := conn

/-- What sending a `Deregister` command for `addr` does. -/
inductive Commanded (s : Grpc F I M L Addr) (addr : Addr) (id : Nat) :
    Relay F I M L → List (GrpcEvent M Addr) → Prop
  | gone (closed : s.relay.desk.closed = true) : Commanded s addr id s.relay []
  | sent {relay : Relay F I M L} {es : List (RelayEvent M)} (live : s.relay.desk.closed = false)
      (stepped : s.relay.step (.desk (.world (.sendCmd (.deregister id)))) = some (relay, es)) :
      Commanded s addr id relay (es.map .relay ++ [.commanded addr id])

theorem commanded_of_command {s s' : Grpc F I M L Addr} {addr : Addr} {id : Nat}
    {es : List (GrpcEvent M Addr)} (sent : s.command addr id = some (s', es)) :
    ∃ relay, s' = { s with relay := relay } ∧ Commanded s addr id relay es := by
  unfold command at sent
  split at sent
  · rename_i closed
    cases sent
    exact ⟨s.relay, rfl, .gone closed⟩
  · rename_i live
    obtain ⟨⟨next, es'⟩, stepped, same⟩ := Option.map_eq_some_iff.mp sent
    obtain ⟨⟨relay, es''⟩, relayed, isNext⟩ := Option.map_eq_some_iff.mp stepped
    cases isNext
    cases same
    exact ⟨relay, rfl, .sent (by simpa using live) relayed⟩

/-- It tells of the bus and of the command only. -/
theorem Commanded.silent {s : Grpc F I M L Addr} {addr : Addr} {id : Nat} {relay : Relay F I M L}
    {es : List (GrpcEvent M Addr)} (sent : Commanded s addr id relay es) {e : GrpcEvent M Addr}
    (apart : ∀ below, e ≠ .relay below) (other : e ≠ .commanded addr id) : e ∉ es := by
  intro member
  cases sent with
  | gone closed => cases member
  | sent live stepped =>
      rcases List.mem_append.mp member with ofBus | isCommand
      · obtain ⟨below, -, same⟩ := List.mem_map.mp ofBus
        exact apart below same.symm
      · exact other (List.mem_singleton.mp isCommand)

inductive Move (service : GrpcService) (s : Grpc F I M L Addr) :
    GrpcAction F I M L Addr → Grpc F I M L Addr → List (GrpcEvent M Addr) → Prop
  | connected {addr : Addr} (free : s.conns addr = none) :
      Move service s (.connect addr)
        { s with conns := Function.update s.conns addr (some s.nextConn), nextConn := s.nextConn + 1 } []
  | disconnected {addr : Addr} (connected : s.conns addr ≠ none) :
      Move service s (.disconnect addr) { s with conns := Function.update s.conns addr none } []
  | refused {n conn : Nat} {addr : Addr} {data : RegisterData} {uuid : Uuid} {status : Status}
      (connected : s.conns addr = some conn) (unused : s.unusedNumber n = true)
      (invalid : (parseDimensions service.fromStr data.dimensionsJson :
        Except Status (List (DimSpec F I (Stamped M)))) = .error status) :
      Move service s (.register n addr data uuid)
        { s with callers := Function.update s.callers n (some addr) }
        [.drew n uuid, .answered n (.error status)]
  | registering {n conn : Nat} {addr : Addr} {data : RegisterData} {uuid : Uuid}
      {dims : List (DimSpec F I (Stamped M))} {relay : Relay F I M L} {es : List (RelayEvent M)}
      (connected : s.conns addr = some conn) (unused : s.unusedNumber n = true)
      (stepped : s.relay.step (.plugIn n dims) = some (relay, es))
      (valid : parseDimensions service.fromStr data.dimensionsJson = .ok dims)
      (consumer : data.type.contains EndpointType.consumer = true) :
      Move service s (.register n addr data uuid)
        { s with
          relay := relay
          callers := Function.update s.callers n (some addr)
          handlers := Function.update s.handlers n (some (.registering addr (newEntry service n conn data uuid))) }
        (.drew n uuid :: es.map .relay)
  | producing {n conn : Nat} {addr : Addr} {data : RegisterData} {uuid : Uuid}
      (connected : s.conns addr = some conn) (unused : s.unusedNumber n = true)
      (valid : ∃ dims : List (DimSpec F I (Stamped M)),
        parseDimensions service.fromStr data.dimensionsJson = .ok dims)
      (noConsumer : data.type.contains EndpointType.consumer = false) :
      Move service s (.register n addr data uuid)
        { s with
          callers := Function.update s.callers n (some addr)
          handlers := Function.update s.handlers n (some (.inserting addr (newEntry service n conn data uuid))) }
        [.drew n uuid]
  | notRegistered {m : Nat} {addr : Addr} (vacant : s.endpoints addr = none)
      (connected : s.conns addr ≠ none) (free : s.freeStream m = true) :
      Move service s (.stream m addr) s
        [.answered m (.error ⟨.failedPrecondition, "not registered; call Register first"⟩)]
  | opened {m conn : Nat} {addr : Addr} {entry : EndpointEntry} (connected : s.conns addr = some conn)
      (free : s.freeStream m = true) (occupied : s.endpoints addr = some entry) :
      Move service s (.stream m addr)
        { s with
          endpoints :=
            Function.update s.endpoints addr (some { entry with consumerRx := none, producerHandle := none })
          forwards := Function.update s.forwards m (entry.consumerRx.map fun rx =>
            ⟨addr, entry.uuid, rx, entry.consumerRegId, .receiving⟩)
          inbounds := Function.update s.inbounds m (entry.producerHandle.map fun handle =>
            ⟨addr, entry.uuid, handle, entry.consumerRx.isNone, .reading⟩)
          outbounds := Function.update s.outbounds m .new }
        [.opened m conn entry, .answered m (.ok .streaming)]
  | rejected {n : Nat} {addr : Addr} {bytes : List UInt8} {status : Status} (unused : s.unusedNumber n = true)
      (wrong : ∀ entry, s.endpoints addr = some entry → Uuid.fromSlice bytes ≠ some entry.uuid)
      (connected : s.conns addr ≠ none) :
      Move service s (.deregister n addr bytes)
        { s with callers := Function.update s.callers n (some addr) } [.answered n (.error status)]
  | deregistered {n : Nat} {addr : Addr} {bytes : List UInt8} {entry : EndpointEntry}
      (unused : s.unusedNumber n = true) (occupied : s.endpoints addr = some entry)
      (right : Uuid.fromSlice bytes = some entry.uuid) (producer : entry.consumerRegId = none)
      (connected : s.conns addr ≠ none) :
      Move service s (.deregister n addr bytes)
        { s.remove addr with callers := Function.update s.callers n (some addr) }
        [.answered n (.ok .empty), .deregistered entry.uuid]
  | deregistering {n id : Nat} {addr : Addr} {bytes : List UInt8} {entry : EndpointEntry}
      (unused : s.unusedNumber n = true) (occupied : s.endpoints addr = some entry)
      (right : Uuid.fromSlice bytes = some entry.uuid) (consumer : entry.consumerRegId = some id)
      (connected : s.conns addr ≠ none) :
      Move service s (.deregister n addr bytes)
        { s.remove addr with
          callers := Function.update s.callers n (some addr)
          handlers := Function.update s.handlers n (some (.deregistering addr entry.uuid id)) } []
  | submitted {n : Nat} {addr : Addr} {entry : EndpointEntry} {relay : Relay F I M L}
      {es : List (RelayEvent M)} (serving : s.handlers n = some (.registering addr entry))
      (stepped : s.relay.step (.desk (.submit n)) = some (relay, es)) :
      Move service s (.handler n .submit) { s with relay := relay } (es.map .relay)
  | answered {n id : Nat} {addr : Addr} {entry : EndpointEntry} {relay : Relay F I M L}
      {es : List (RelayEvent M)} (serving : s.handlers n = some (.registering addr entry))
      (reply : s.relay.desk.calls n = .replied id)
      (stepped : s.relay.step (.desk (.receive n)) = some (relay, es)) :
      Move service s (.handler n .answered)
        { s with
          relay := relay
          handlers := Function.update s.handlers n
            (some (.inserting addr { entry with consumerRegId := some id, consumerRx := some n })) }
        (es.map .relay)
  | failed {n : Nat} {addr : Addr} {entry : EndpointEntry} {relay : Relay F I M L} {es : List (RelayEvent M)}
      (serving : s.handlers n = some (.registering addr entry))
      (stepped : s.relay.step (.desk (.fail n)) = some (relay, es)) :
      Move service s (.handler n .failed)
        { s with relay := relay.hangUp (some n), handlers := Function.update s.handlers n none }
        (es.map .relay ++ [.answered n (.error ⟨.internal, "bus registration failed"⟩)])
  | inserted {n : Nat} {addr : Addr} {entry : EndpointEntry}
      (serving : s.handlers n = some (.inserting addr entry)) :
      Move service s (.handler n .insert)
        { s.insert addr entry with handlers := Function.update s.handlers n none }
        [.answered n (.ok (.registered entry.uuid.bytes))]
  | commanded {n id : Nat} {addr : Addr} {uuid : Uuid} {relay : Relay F I M L}
      {es : List (GrpcEvent M Addr)} (serving : s.handlers n = some (.deregistering addr uuid id))
      (sent : Commanded s addr id relay es) :
      Move service s (.handler n .deregister)
        { s with relay := relay, handlers := Function.update s.handlers n none }
        (es ++ [.answered n (.ok .empty), .deregistered uuid])
  | cancelledRegister {n : Nat} {addr : Addr} {entry : EndpointEntry} {relay : Relay F I M L}
      {es : List (RelayEvent M)} (serving : s.handlers n = some (.registering addr entry))
      (stepped : s.relay.step (.desk (.abandon n)) = some (relay, es)) :
      Move service s (.handler n .cancel)
        { s with relay := relay.hangUp (some n), handlers := Function.update s.handlers n none } (es.map .relay)
  | cancelledInsert {n : Nat} {addr : Addr} {entry : EndpointEntry}
      (serving : s.handlers n = some (.inserting addr entry)) :
      Move service s (.handler n .cancel)
        { s with
          relay := s.relay.hangUp entry.consumerRx
          handlers := Function.update s.handlers n none } []
  | cancelledDeregister {n id : Nat} {addr : Addr} {uuid : Uuid}
      (serving : s.handlers n = some (.deregistering addr uuid id)) :
      Move service s (.handler n .cancel) { s with handlers := Function.update s.handlers n none } []
  | forwardReceived {m : Nat} {f : Forward Addr} {item : BusableItem} {relay : Relay F I M L}
      {es : List (RelayEvent M)} (task : s.forwards m = some f) (phase : f.phase = .receiving)
      (stepped : s.relay.step (.receive f.rx) = some (relay, es))
      (front : ∃ items, (s.relay.pipes f.rx).items.tryRecv = some (item, items)) :
      Move service s (.forward m .receive)
        { s with
          relay := relay
          forwards := Function.update s.forwards m (some { f with phase := .sending item }) } (es.map .relay)
  | forwardSent {m : Nat} {f : Forward Addr} {item : BusableItem} {items : Channel BusableItem}
      (task : s.forwards m = some f) (phase : f.phase = .sending item)
      (sent : (s.outbounds m).items.send item = some items) (live : (s.outbounds m).live = true) :
      Move service s (.forward m .send)
        { s with
          forwards := Function.update s.forwards m (some { f with phase := .receiving })
          outbounds := Function.update s.outbounds m ⟨items, true⟩ } [.streamed f.rx item]
  | forwardLeft {m : Nat} {f : Forward Addr} (task : s.forwards m = some f)
      (looping : f.phase = .receiving ∨ ∃ item, f.phase = .sending item)
      (ended : f.phase = .receiving →
        (s.relay.pipes f.rx).items.buf = [] ∧ s.relay.hasSender f.rx = false)
      (gone : ∀ item, f.phase = .sending item → (s.outbounds m).live = false) :
      Move service s (.forward m .leave)
        { s with forwards := Function.update s.forwards m (some { f with phase := f.over }) } []
  | forwardCommanded {m id : Nat} {f : Forward Addr} {relay : Relay F I M L} {es : List (GrpcEvent M Addr)}
      (task : s.forwards m = some f) (phase : f.phase = .deregistering id)
      (sent : Commanded s f.addr id relay es) :
      Move service s (.forward m .deregister)
        { s with
          relay := relay
          forwards := Function.update s.forwards m (some { f with phase := .removing }) } es
  | forwardRemoved {m : Nat} {f : Forward Addr} (task : s.forwards m = some f) (phase : f.phase = .removing) :
      Move service s (.forward m .remove)
        { s.remove f.addr with
          relay := (s.remove f.addr).relay.hangUp (some f.rx)
          forwards := Function.update s.forwards m none } [.cleaned f.uuid (s.endpoints f.addr)]
  | inboundRead {m : Nat} {i : Inbound Addr} {item : BusableItem} (task : s.inbounds m = some i)
      (phase : i.phase = .reading) :
      Move service s (.inbound m (.read item))
        { s with inbounds := Function.update s.inbounds m (some { i with phase := .sending item }) } []
  | inboundFailed {m : Nat} {i : Inbound Addr} {item : BusableItem} (task : s.inbounds m = some i)
      (phase : i.phase = .sending item) (closed : s.relay.desk.closed = true) :
      Move service s (.inbound m .send)
        { s with inbounds := Function.update s.inbounds m (some { i with phase := .reading }) } []
  | inboundSent {m : Nat} {i : Inbound Addr} {item : BusableItem} {relay : Relay F I M L}
      {es : List (RelayEvent M)} (task : s.inbounds m = some i) (phase : i.phase = .sending item)
      (stepped : s.relay.step (.desk (.world (.send i.handle item.toMessage))) = some (relay, es))
      (live : s.relay.desk.closed = false) :
      Move service s (.inbound m .send)
        { s with
          relay := relay
          inbounds := Function.update s.inbounds m (some { i with phase := .reading }) } (es.map .relay)
  | inboundLeft {m : Nat} {i : Inbound Addr} (task : s.inbounds m = some i) (phase : i.phase = .reading) :
      Move service s (.inbound m .leave)
        { s with
          inbounds := Function.update s.inbounds m
            (if i.cleanup then some { i with phase := .removing } else none) } []
  | inboundRemoved {m : Nat} {i : Inbound Addr} (task : s.inbounds m = some i) (phase : i.phase = .removing) :
      Move service s (.inbound m .remove)
        { s.remove i.addr with inbounds := Function.update s.inbounds m none }
        [.cleaned i.uuid (s.endpoints i.addr)]
  | outboundRead {m : Nat} {items : Channel BusableItem} (live : (s.outbounds m).live = true)
      (front : ∃ item, (s.outbounds m).items.tryRecv = some (item, items)) :
      Move service s (.readOutbound m) { s with outbounds := Function.update s.outbounds m ⟨items, true⟩ } []
  | outboundBroken {m : Nat} (live : (s.outbounds m).live = true) :
      Move service s (.breakOutbound m) { s with outbounds := Function.update s.outbounds m .dead } []
  | relayed {a : RelayAction F I M L} {relay : Relay F I M L} {es : List (RelayEvent M)}
      (others : ∀ r, a.number? = some r → s.callers r = none) (stepped : s.relay.step a = some (relay, es)) :
      Move service s (.relay a) { s with relay := relay } (es.map .relay)

theorem relayStep_eq_some {s s' : Grpc F I M L Addr} {a : RelayAction F I M L} {es : List (GrpcEvent M Addr)}
    (stepped : s.relayStep a = some (s', es)) :
    ∃ relay below, s.relay.step a = some (relay, below) ∧ s' = { s with relay := relay } ∧
      es = below.map .relay := by
  obtain ⟨⟨relay, below⟩, relayed, same⟩ := Option.map_eq_some_iff.mp stepped
  cases same
  exact ⟨relay, below, relayed, rfl, rfl⟩

variable {service : GrpcService} {s s' : Grpc F I M L Addr} {es : List (GrpcEvent M Addr)}

theorem move_of_registerStep {n conn : Nat} {addr : Addr} {data : RegisterData} {uuid : Uuid}
    (connected : s.conns addr = some conn) (unused : s.unusedNumber n = true)
    (stepped : s.registerStep service n addr conn data uuid = some (s', es)) :
    Move service s (.register n addr data uuid) s' es := by
  simp only [registerStep] at stepped
  split at stepped
  · rename_i status invalid
    cases stepped
    exact .refused connected unused invalid
  · rename_i dims valid
    split at stepped
    · rename_i consumer
      obtain ⟨⟨next, es'⟩, plugged, same⟩ := Option.map_eq_some_iff.mp stepped
      obtain ⟨relay, below, relayed, rfl, rfl⟩ := relayStep_eq_some plugged
      cases same
      exact .registering connected unused relayed valid consumer
    · rename_i noConsumer
      cases stepped
      exact .producing connected unused ⟨dims, valid⟩ (by simpa using noConsumer)

theorem move_of_streamStep {m conn : Nat} {addr : Addr} (connected : s.conns addr = some conn)
    (free : s.freeStream m = true) (stepped : s.streamStep m addr conn = (s', es)) :
    Move service s (.stream m addr) s' es := by
  simp only [streamStep] at stepped
  split at stepped
  · rename_i vacant
    cases stepped
    exact .notRegistered vacant (by simp [connected]) free
  · rename_i entry occupied
    cases stepped
    exact .opened connected free occupied

theorem move_of_deregisterStep {n : Nat} {addr : Addr} {bytes : List UInt8}
    (connected : s.conns addr ≠ none) (unused : s.unusedNumber n = true)
    (stepped : s.deregisterStep n addr bytes = (s', es)) :
    Move service s (.deregister n addr bytes) s' es := by
  simp only [deregisterStep] at stepped
  split at stepped
  · rename_i malformed
    cases stepped
    refine .rejected unused ?_ connected
    intro entry _ same
    cases malformed.symm.trans same
  · rename_i uuid wellFormed
    split at stepped
    · rename_i vacant
      cases stepped
      refine .rejected unused ?_ connected
      intro entry occupied
      cases vacant.symm.trans occupied
    · rename_i entry occupied
      split at stepped
      · rename_i right
        rw [← right] at wellFormed
        split at stepped
        · rename_i id consumer
          cases stepped
          rw [← right]
          exact .deregistering unused occupied wellFormed consumer connected
        · rename_i producer
          cases stepped
          rw [← right]
          exact .deregistered unused occupied wellFormed producer connected
      · rename_i wrong
        cases stepped
        refine .rejected unused ?_ connected
        intro entry' occupied' same
        cases occupied.symm.trans occupied'
        exact wrong (Option.some.inj (wellFormed.symm.trans same)).symm

theorem move_of_handlerStep {n : Nat} {a : HandlerAction} (stepped : s.handlerStep n a = some (s', es)) :
    Move service s (.handler n a) s' es := by
  unfold handlerStep at stepped
  split at stepped
  · rename_i serving
    obtain ⟨relay, below, relayed, rfl, rfl⟩ := relayStep_eq_some stepped
    exact .submitted serving relayed
  · rename_i serving
    split at stepped
    · rename_i id reply
      obtain ⟨⟨next, es'⟩, received, same⟩ := Option.map_eq_some_iff.mp stepped
      obtain ⟨relay, below, relayed, rfl, rfl⟩ := relayStep_eq_some received
      cases same
      exact .answered serving reply relayed
    · cases stepped
  · rename_i serving
    obtain ⟨⟨next, es'⟩, failed, same⟩ := Option.map_eq_some_iff.mp stepped
    obtain ⟨relay, below, relayed, rfl, rfl⟩ := relayStep_eq_some failed
    cases same
    exact .failed serving relayed
  · rename_i serving
    cases stepped
    exact .inserted serving
  · rename_i serving
    obtain ⟨⟨next, es'⟩, sent, same⟩ := Option.map_eq_some_iff.mp stepped
    obtain ⟨relay, rfl, commanded⟩ := commanded_of_command sent
    cases same
    exact .commanded serving commanded
  · rename_i serving
    obtain ⟨⟨next, es'⟩, abandoned, same⟩ := Option.map_eq_some_iff.mp stepped
    obtain ⟨relay, below, relayed, rfl, rfl⟩ := relayStep_eq_some abandoned
    cases same
    exact .cancelledRegister serving relayed
  · rename_i serving
    cases stepped
    exact .cancelledInsert serving
  · rename_i serving
    cases stepped
    exact .cancelledDeregister serving
  · cases stepped

theorem move_of_forwardStep {m : Nat} {f : Forward Addr} {a : ForwardAction} (task : s.forwards m = some f)
    (stepped : s.forwardStep m f a = some (s', es)) : Move service s (.forward m a) s' es := by
  unfold forwardStep at stepped
  split at stepped
  · rename_i phase
    split at stepped
    · cases stepped
    · rename_i item rest front
      obtain ⟨⟨next, es'⟩, received, same⟩ := Option.map_eq_some_iff.mp stepped
      obtain ⟨relay, below, relayed, rfl, rfl⟩ := relayStep_eq_some received
      cases same
      exact .forwardReceived task phase relayed ⟨rest, front⟩
  · rename_i item phase
    split at stepped
    · rename_i live
      obtain ⟨items, sent, same⟩ := Option.map_eq_some_iff.mp stepped
      cases same
      exact .forwardSent task phase sent live
    · cases stepped
  · rename_i phase
    split at stepped
    · rename_i emptied
      cases stepped
      exact .forwardLeft task (Or.inl phase) (by simpa using fun _ => emptied) (by simp [phase])
    · cases stepped
  · rename_i item phase
    split at stepped
    · cases stepped
    · rename_i gone
      cases stepped
      exact .forwardLeft task (Or.inr ⟨item, phase⟩) (by simp [phase]) (by simpa using fun _ _ => gone)
  · rename_i id phase
    obtain ⟨⟨next, es'⟩, sent, same⟩ := Option.map_eq_some_iff.mp stepped
    obtain ⟨relay, rfl, commanded⟩ := commanded_of_command sent
    cases same
    exact .forwardCommanded task phase commanded
  · rename_i phase
    cases stepped
    exact .forwardRemoved task phase
  · cases stepped

theorem move_of_inboundStep {m : Nat} {i : Inbound Addr} {a : InboundAction} (task : s.inbounds m = some i)
    (stepped : s.inboundStep m i a = some (s', es)) : Move service s (.inbound m a) s' es := by
  unfold inboundStep at stepped
  split at stepped
  · rename_i item phase
    cases stepped
    exact .inboundRead task phase
  · rename_i item phase
    obtain ⟨⟨next, es'⟩, sent, same⟩ := Option.map_eq_some_iff.mp stepped
    cases same
    split at sent
    · rename_i closed
      cases sent
      exact .inboundFailed task phase closed
    · rename_i live
      obtain ⟨relay, below, relayed, rfl, rfl⟩ := relayStep_eq_some sent
      exact .inboundSent task phase relayed (by simpa using live)
  · rename_i phase
    cases stepped
    exact .inboundLeft task phase
  · rename_i phase
    cases stepped
    exact .inboundRemoved task phase
  · cases stepped

/-- **Every step is one of these moves.** -/
theorem move_of_step {a : GrpcAction F I M L Addr} (stepped : s.step service a = some (s', es)) :
    Move service s a s' es := by
  unfold step at stepped
  split at stepped
  · split at stepped
    · rename_i free
      cases stepped
      exact .connected free
    · cases stepped
  · split at stepped
    · cases stepped
    · rename_i connected
      cases stepped
      exact .disconnected (by simp [connected])
  · split at stepped
    · cases stepped
    · rename_i conn connected
      split at stepped
      · rename_i unused
        exact move_of_registerStep connected unused stepped
      · cases stepped
  · split at stepped
    · cases stepped
    · rename_i conn connected
      split at stepped
      · rename_i free
        exact move_of_streamStep connected free (Option.some.inj stepped)
      · cases stepped
  · split at stepped
    · cases stepped
    · rename_i connected
      split at stepped
      · rename_i unused
        exact move_of_deregisterStep (by simp [connected]) unused (Option.some.inj stepped)
      · cases stepped
  · exact move_of_handlerStep stepped
  · split at stepped
    · cases stepped
    · rename_i f task
      exact move_of_forwardStep task stepped
  · split at stepped
    · cases stepped
    · rename_i i task
      exact move_of_inboundStep task stepped
  · split at stepped
    · rename_i live
      obtain ⟨⟨item, items⟩, front, same⟩ := Option.map_eq_some_iff.mp stepped
      cases same
      exact .outboundRead live ⟨item, front⟩
    · cases stepped
  · split at stepped
    · rename_i live
      cases stepped
      exact .outboundBroken live
    · cases stepped
  · rename_i a
    split at stepped
    · rename_i others
      obtain ⟨relay, below, relayed, rfl, rfl⟩ := relayStep_eq_some stepped
      refine .relayed ?_ relayed
      intro r named
      rw [named] at others
      simpa using others
    · cases stepped

/-! ## Where entries, handlers and tasks come from -/

/-- What an updated table holds was put there now, or was there. -/
theorem cases_of_update {K V : Type} [DecidableEq K] {table : K → Option V} {key key' : K}
    {value : Option V} {held : V} (found : Function.update table key value key' = some held) :
    key' = key ∧ value = some held ∨ table key' = some held := by
  rw [Function.update_apply] at found
  split at found
  · rename_i same
    exact Or.inl ⟨same, found⟩
  · exact Or.inr found

section Origins

variable {a : GrpcAction F I M L Addr}

/-- An entry was there, has had its channel and handle taken out, or is new. -/
theorem Move.entry_cases (move : Move service s a s' es) {addr : Addr} {entry : EndpointEntry}
    (held : s'.endpoints addr = some entry) :
    s.endpoints addr = some entry ∨
      (∃ m old, a = .stream m addr ∧ s.endpoints addr = some old ∧
        entry = { old with consumerRx := none, producerHandle := none }) ∨
      ∃ n, a = .handler n .insert ∧ s.handlers n = some (.inserting addr entry) := by
  -- where an entry is removed, those that are left were there
  have removed : ∀ addr', Function.update s.endpoints addr' none addr = some entry →
      s.endpoints addr = some entry := by
    intro addr' held
    rcases cases_of_update held with ⟨-, new⟩ | was
    · cases new
    · exact was
  cases move with
  | @opened m conn addr' old connected free occupied =>
      rcases cases_of_update held with ⟨rfl, new⟩ | was
      · exact Or.inr (Or.inl ⟨m, old, rfl, occupied, (Option.some.inj new).symm⟩)
      · exact Or.inl was
  | @inserted n addr' new serving =>
      rcases cases_of_update held with ⟨rfl, isNew⟩ | was
      · cases isNew
        exact Or.inr (Or.inr ⟨n, rfl, serving⟩)
      · exact Or.inl was
  | deregistered unused occupied right producer => exact Or.inl (removed _ held)
  | deregistering unused occupied right consumer => exact Or.inl (removed _ held)
  | forwardRemoved task phase => exact Or.inl (removed _ held)
  | inboundRemoved task phase => exact Or.inl (removed _ held)
  | _ => exact Or.inl held

/-- A forwarding task was there, in some phase, or a stream has just been opened.  The id
it is going to deregister is its own. -/
theorem Move.forward_cases (move : Move service s a s' es) {m : Nat} {f : Forward Addr}
    (task : s'.forwards m = some f) :
    (∃ old, s.forwards m = some old ∧ f = { old with phase := f.phase } ∧
        ∀ id, f.phase = .deregistering id → old.phase = .deregistering id ∨ old.consumerRegId = some id) ∨
      (a = .stream m f.addr ∧ ∃ entry, s.endpoints f.addr = some entry ∧ f.uuid = entry.uuid ∧
        entry.consumerRx = some f.rx ∧ f.consumerRegId = entry.consumerRegId ∧ f.phase = .receiving) := by
  have stayed : s.forwards m = some f → ∃ old, s.forwards m = some old ∧ f = { old with phase := f.phase } ∧
      ∀ id, f.phase = .deregistering id → old.phase = .deregistering id ∨ old.consumerRegId = some id :=
    fun was => ⟨f, was, rfl, fun _ leaving => Or.inl leaving⟩
  have moved : ∀ m' old phase, s.forwards m' = some old →
      Function.update s.forwards m' (some { old with phase := phase }) m = some f →
      (∀ id, phase = .deregistering id → old.consumerRegId = some id) →
        ∃ old, s.forwards m = some old ∧ f = { old with phase := f.phase } ∧
          ∀ id, f.phase = .deregistering id → old.phase = .deregistering id ∨ old.consumerRegId = some id := by
    intro m' old phase was task own
    rcases cases_of_update task with ⟨rfl, new⟩ | same
    · cases new
      exact ⟨old, was, rfl, fun id leaving => Or.inr (own id leaving)⟩
    · exact stayed same
  cases move with
  | @opened m' conn addr entry connected free occupied =>
      rcases cases_of_update task with ⟨rfl, new⟩ | was
      · obtain ⟨rx, holds, isForward⟩ := Option.map_eq_some_iff.mp new
        cases isForward
        exact Or.inr ⟨rfl, entry, occupied, rfl, holds, rfl, rfl⟩
      · exact Or.inl (stayed was)
  | forwardRemoved was phase =>
      rcases cases_of_update task with ⟨-, new⟩ | same
      · cases new
      · exact Or.inl (stayed same)
  | forwardReceived was phase stepped =>
      apply Or.inl (moved _ _ _ was task _)
      intro id leaving
      cases leaving
  | forwardSent was phase sent =>
      apply Or.inl (moved _ _ _ was task _)
      intro id leaving
      cases leaving
  | @forwardLeft m' old was looping =>
      apply Or.inl (moved _ _ _ was task _)
      intro id leaving
      unfold Forward.over at leaving
      split at leaving
      · rename_i id' own
        cases leaving
        exact own
      · cases leaving
  | forwardCommanded was phase sent =>
      apply Or.inl (moved _ _ _ was task _)
      intro id leaving
      cases leaving
  | _ => exact Or.inl (stayed task)

/-- The same for an inbound task.  One that is about to remove the entry does nothing else,
and only one without a forwarding task gets there. -/
theorem Move.inbound_cases (move : Move service s a s' es) {m : Nat} {i : Inbound Addr}
    (task : s'.inbounds m = some i) :
    (∃ old, s.inbounds m = some old ∧ i = { old with phase := i.phase } ∧
        (old.phase = .removing → i.phase = .removing) ∧
        (i.phase = .removing → old.phase = .removing ∨ old.cleanup = true)) ∨
      (a = .stream m i.addr ∧ ∃ entry, s.endpoints i.addr = some entry ∧ i.uuid = entry.uuid ∧
        entry.producerHandle = some i.handle ∧ i.cleanup = entry.consumerRx.isNone ∧ i.phase = .reading) := by
  have stayed : s.inbounds m = some i → ∃ old, s.inbounds m = some old ∧ i = { old with phase := i.phase } ∧
      (old.phase = .removing → i.phase = .removing) ∧
        (i.phase = .removing → old.phase = .removing ∨ old.cleanup = true) :=
    fun was => ⟨i, was, rfl, id, Or.inl⟩
  have moved : ∀ m' old phase, s.inbounds m' = some old → old.phase ≠ .removing → phase ≠ .removing →
      Function.update s.inbounds m' (some { old with phase := phase }) m = some i →
        ∃ old, s.inbounds m = some old ∧ i = { old with phase := i.phase } ∧
          (old.phase = .removing → i.phase = .removing) ∧
            (i.phase = .removing → old.phase = .removing ∨ old.cleanup = true) := by
    intro m' old phase was apart apart' task
    rcases cases_of_update task with ⟨rfl, new⟩ | same
    · cases new
      exact ⟨old, was, rfl, fun removing => absurd removing apart, fun removing => absurd removing apart'⟩
    · exact stayed same
  cases move with
  | @opened m' conn addr entry connected free occupied =>
      rcases cases_of_update task with ⟨rfl, new⟩ | was
      · obtain ⟨handle, holds, isInbound⟩ := Option.map_eq_some_iff.mp new
        cases isInbound
        exact Or.inr ⟨rfl, entry, occupied, rfl, holds, rfl, rfl⟩
      · exact Or.inl (stayed was)
  | inboundRead was phase => exact Or.inl (moved _ _ _ was (by simp [phase]) InboundPhase.noConfusion task)
  | inboundFailed was phase closed => exact Or.inl (moved _ _ _ was (by simp [phase]) InboundPhase.noConfusion task)
  | inboundSent was phase stepped => exact Or.inl (moved _ _ _ was (by simp [phase]) InboundPhase.noConfusion task)
  | @inboundLeft m' old was phase =>
      rcases cases_of_update task with ⟨rfl, new⟩ | same
      · split at new
        · rename_i cleans
          cases new
          exact Or.inl ⟨old, was, rfl, fun _ => rfl, fun _ => Or.inr cleans⟩
        · cases new
      · exact Or.inl (stayed same)
  | inboundRemoved was phase =>
      rcases cases_of_update task with ⟨-, new⟩ | same
      · cases new
      · exact Or.inl (stayed same)
  | _ => exact Or.inl (stayed task)

/-- A handler was there, serves a new call, or has just received the bus's answer. -/
theorem Move.handler_cases (move : Move service s a s' es) {n : Nat} {h : Handler Addr}
    (serving : s'.handlers n = some h) :
    s.handlers n = some h ∨
      (∃ addr data uuid conn, a = .register n addr data uuid ∧ s.conns addr = some conn ∧
        (h = .registering addr (newEntry service n conn data uuid) ∨
          h = .inserting addr (newEntry service n conn data uuid))) ∨
      (∃ addr entry id, a = .handler n .answered ∧ s.handlers n = some (.registering addr entry) ∧
        s.relay.desk.calls n = .replied id ∧
        h = .inserting addr { entry with consumerRegId := some id, consumerRx := some n }) ∨
      ∃ addr bytes entry id, a = .deregister n addr bytes ∧ s.endpoints addr = some entry ∧
        Uuid.fromSlice bytes = some entry.uuid ∧ entry.consumerRegId = some id ∧
        h = .deregistering addr entry.uuid id := by
  have ended : ∀ n', Function.update s.handlers n' none n = some h → s.handlers n = some h := by
    intro n' serving
    rcases cases_of_update serving with ⟨-, new⟩ | was
    · cases new
    · exact was
  cases move with
  | @registering n' conn addr data uuid dims relay es connected unused stepped =>
      rcases cases_of_update serving with ⟨rfl, new⟩ | was
      · exact Or.inr (Or.inl ⟨addr, data, uuid, conn, rfl, connected, Or.inl (Option.some.inj new).symm⟩)
      · exact Or.inl was
  | @producing n' conn addr data uuid connected unused =>
      rcases cases_of_update serving with ⟨rfl, new⟩ | was
      · exact Or.inr (Or.inl ⟨addr, data, uuid, conn, rfl, connected, Or.inr (Option.some.inj new).symm⟩)
      · exact Or.inl was
  | @answered n' id addr entry relay es waits reply stepped =>
      rcases cases_of_update serving with ⟨rfl, new⟩ | was
      · exact Or.inr (Or.inr (Or.inl ⟨addr, entry, id, rfl, waits, reply, (Option.some.inj new).symm⟩))
      · exact Or.inl was
  | @deregistering n' id addr bytes entry unused occupied right consumer =>
      rcases cases_of_update serving with ⟨rfl, new⟩ | was
      · exact Or.inr (Or.inr (Or.inr
          ⟨addr, bytes, entry, id, rfl, occupied, right, consumer, (Option.some.inj new).symm⟩))
      · exact Or.inl was
  | failed was stepped => exact Or.inl (ended _ serving)
  | inserted was => exact Or.inl (ended _ serving)
  | commanded was sent => exact Or.inl (ended _ serving)
  | cancelledRegister was stepped => exact Or.inl (ended _ serving)
  | cancelledInsert was => exact Or.inl (ended _ serving)
  | cancelledDeregister was => exact Or.inl (ended _ serving)
  | _ => exact Or.inl serving

/-- The step of the relay that a step of the endpoint takes. -/
inductive Relayed (service : GrpcService) (s : Grpc F I M L Addr) : GrpcAction F I M L Addr → RelayAction F I M L → Prop
  | plugIn {n : Nat} {addr : Addr} {data : RegisterData} {uuid : Uuid} {dims : List (DimSpec F I (Stamped M))}
      (valid : parseDimensions service.fromStr data.dimensionsJson = .ok dims) :
      Relayed service s (.register n addr data uuid) (.plugIn n dims)
  | submit {n : Nat} : Relayed service s (.handler n .submit) (.desk (.submit n))
  | answered {n : Nat} : Relayed service s (.handler n .answered) (.desk (.receive n))
  | failed {n : Nat} : Relayed service s (.handler n .failed) (.desk (.fail n))
  | cancelled {n : Nat} : Relayed service s (.handler n .cancel) (.desk (.abandon n))
  | commanded {b : GrpcAction F I M L Addr} {id : Nat} :
      Relayed service s b (.desk (.world (.sendCmd (.deregister id))))
  | received {m : Nat} {f : Forward Addr} (task : s.forwards m = some f) :
      Relayed service s (.forward m .receive) (.receive f.rx)
  | sent {m : Nat} {i : Inbound Addr} {item : BusableItem} (task : s.inbounds m = some i)
      (phase : i.phase = .sending item) :
      Relayed service s (.inbound m .send) (.desk (.world (.send i.handle item.toMessage)))
  | other {c : RelayAction F I M L} (others : ∀ r, c.number? = some r → s.callers r = none) :
      Relayed service s (.relay c) c

/-- What is told of the relay, one step of it tells. -/
theorem Move.relay_step (move : Move service s a s' es) {e : RelayEvent M} (told : GrpcEvent.relay e ∈ es) :
    ∃ c relay, s.relay.step c = some (relay, es.filterMap GrpcEvent.relay?) ∧ Relayed service s a c := by
  have ofCommand : ∀ {addr : Addr} {id : Nat} {relay : Relay F I M L} {below : List (GrpcEvent M Addr)},
      Commanded s addr id relay below → GrpcEvent.relay e ∈ below →
        ∃ c relay, s.relay.step c = some (relay, below.filterMap GrpcEvent.relay?) ∧ Relayed service s a c := by
    intro addr id relay below sent member
    cases sent with
    | gone closed => cases member
    | sent live stepped =>
        rw [GrpcEvent.filterMap_relay_append _ rfl]
        exact ⟨_, _, stepped, .commanded⟩
  cases move with
  | registering connected unused stepped valid =>
      rw [List.filterMap_cons_none rfl, GrpcEvent.filterMap_relay]
      exact ⟨_, _, stepped, .plugIn valid⟩
  | submitted serving stepped =>
      rw [GrpcEvent.filterMap_relay]
      exact ⟨_, _, stepped, .submit⟩
  | answered serving reply stepped =>
      rw [GrpcEvent.filterMap_relay]
      exact ⟨_, _, stepped, .answered⟩
  | failed serving stepped =>
      rw [GrpcEvent.filterMap_relay_append _ rfl]
      exact ⟨_, _, stepped, .failed⟩
  | cancelledRegister serving stepped =>
      rw [GrpcEvent.filterMap_relay]
      exact ⟨_, _, stepped, .cancelled⟩
  | commanded serving sent =>
      rw [List.filterMap_append]
      have read := ofCommand sent (by simpa using told)
      rw [← List.append_nil (List.filterMap _ _)] at read
      exact read
  | forwardReceived task phase stepped =>
      rw [GrpcEvent.filterMap_relay]
      exact ⟨_, _, stepped, .received task⟩
  | forwardCommanded task phase sent => exact ofCommand sent told
  | inboundSent task phase stepped =>
      rw [GrpcEvent.filterMap_relay]
      exact ⟨_, _, stepped, .sent task phase⟩
  | relayed others stepped =>
      rw [GrpcEvent.filterMap_relay]
      exact ⟨_, _, stepped, .other others⟩
  | _ => simp at told

theorem Move.relay_cases (move : Move service s a s' es) {e : RelayEvent M} (told : GrpcEvent.relay e ∈ es) :
    ∃ c relay below, s.relay.step c = some (relay, below) ∧ e ∈ below ∧ Relayed service s a c := by
  obtain ⟨c, relay, stepped, relayed⟩ := move.relay_step told
  exact ⟨c, relay, _, stepped, GrpcEvent.mem_filterMap_relay.mpr told, relayed⟩

end Origins

end Grpc

/-! ## Runs -/

open Machine

namespace Relay

/-- A relation that goes along with the relay, as long as it takes steps `within`: nothing
happens, a step is taken, a receiver is dropped. -/
structure Along (within : RelayAction F I M L → Prop)
    (R : Relay F I M L → Relay F I M L → List (RelayEvent M) → Prop) : Prop where
  refl : ∀ s, R s s []
  one : ∀ {s s' : Relay F I M L} {c : RelayAction F I M L} {es : List (RelayEvent M)},
    s.step c = some (s', es) → within c → R s s' es
  hangUp : ∀ {s s' : Relay F I M L} {es : List (RelayEvent M)} (rx : Option Nat), R s s' es → R s (s'.hangUp rx) es

/-- The relay gets from `s` to `s'` by steps of its own, with these events. -/
def Leads (s s' : Relay F I M L) (es : List (RelayEvent M)) : Prop :=
  ∃ schedule, exec step s schedule = some (s', es)

/-- The steps are all `within`. -/
def Keeps (within : RelayAction F I M L → Prop) (s s' : Relay F I M L) (es : List (RelayEvent M)) : Prop :=
  ∃ schedule, (∀ c ∈ schedule, within c) ∧ exec step s schedule = some (s', es)

theorem Keeps.leads {within : RelayAction F I M L → Prop} {s s' : Relay F I M L} {es : List (RelayEvent M)}
    (keeps : Keeps within s s' es) : Leads s s' es := by
  obtain ⟨schedule, -, evaluates⟩ := keeps
  exact ⟨schedule, evaluates⟩

theorem Keeps.along {within : RelayAction F I M L → Prop} (unplugs : ∀ r, within (.unplug r)) :
    Along within (Keeps within) where
  refl s := ⟨[], by simp, rfl⟩
  one := by
    intro s s' c es stepped allowed
    exact ⟨[c], by simpa using allowed, (exec_singleton ..).trans stepped⟩
  hangUp := by
    intro s s' es rx before
    unfold Relay.hangUp
    split
    · exact before
    · rename_i r
      split
      · rename_i live
        obtain ⟨schedule, keeps, evaluates⟩ := before
        have unplugged : exec step s' [.unplug r] = some (s'.setPipe r .dead, []) := by
          rw [exec_singleton]
          simp only [step, live, if_true]
        refine ⟨schedule ++ [.unplug r], ?_, ?_⟩
        · intro c member
          rcases List.mem_append.mp member with old | new
          · exact keeps c old
          · rw [List.mem_singleton.mp new]
            exact unplugs r
        · rw [exec_append evaluates unplugged, List.append_nil]
      · exact before

end Relay

namespace Grpc

variable {service : GrpcService} {s s' : Grpc F I M L Addr} {es : List (GrpcEvent M Addr)}

section

variable {within : RelayAction F I M L → Prop} {R : Relay F I M L → Relay F I M L → List (RelayEvent M) → Prop}

theorem Commanded.along {addr : Addr} {id : Nat} {relay : Relay F I M L} (sent : Commanded s addr id relay es)
    (rules : Relay.Along within R) (own : within (.desk (.world (.sendCmd (.deregister id))))) :
    R s.relay relay (es.filterMap GrpcEvent.relay?) := by
  cases sent with
  | gone closed => exact rules.refl _
  | sent live stepped =>
      rw [GrpcEvent.filterMap_relay_append _ rfl]
      exact rules.one stepped own

/-- **What a step is for the relay**: steps for a client, or one of somebody else's, and
receivers that are dropped. -/
theorem Move.along {a : GrpcAction F I M L Addr} (move : Move service s a s' es) (rules : Relay.Along within R)
    (keeps : ∀ c, Relayed service s a c → within c) :
    R s.relay s'.relay (es.filterMap GrpcEvent.relay?) := by
  cases move with
  | deregistered unused occupied right producer => exact rules.hangUp _ (rules.refl _)
  | deregistering unused occupied right consumer => exact rules.hangUp _ (rules.refl _)
  | inserted serving => exact rules.hangUp _ (rules.refl _)
  | cancelledInsert serving => exact rules.hangUp _ (rules.refl _)
  | @forwardRemoved m f task phase =>
      have removed := rules.hangUp ((s.endpoints f.addr).bind fun old => old.consumerRx) (rules.refl s.relay)
      exact rules.hangUp (some f.rx) removed
  | inboundRemoved task phase => exact rules.hangUp _ (rules.refl _)
  | registering connected unused relayed valid =>
      rw [List.filterMap_cons_none rfl, GrpcEvent.filterMap_relay]
      exact rules.one relayed (keeps _ (.plugIn valid))
  | submitted serving relayed =>
      rw [GrpcEvent.filterMap_relay]
      exact rules.one relayed (keeps _ .submit)
  | answered serving reply relayed =>
      rw [GrpcEvent.filterMap_relay]
      exact rules.one relayed (keeps _ .answered)
  | failed serving relayed =>
      rw [GrpcEvent.filterMap_relay_append _ rfl]
      exact rules.hangUp (some _) (rules.one relayed (keeps _ .failed))
  | cancelledRegister serving relayed =>
      rw [GrpcEvent.filterMap_relay]
      exact rules.hangUp (some _) (rules.one relayed (keeps _ .cancelled))
  | commanded serving sent =>
      have read := sent.along rules (keeps _ .commanded)
      rw [← List.append_nil (List.filterMap _ _)] at read
      rw [List.filterMap_append]
      exact read
  | forwardReceived task phase relayed =>
      rw [GrpcEvent.filterMap_relay]
      exact rules.one relayed (keeps _ (.received task))
  | forwardCommanded task phase sent => exact sent.along rules (keeps _ .commanded)
  | inboundSent task phase relayed =>
      rw [GrpcEvent.filterMap_relay]
      exact rules.one relayed (keeps _ (.sent task phase))
  | relayed apart relayed =>
      rw [GrpcEvent.filterMap_relay]
      exact rules.one relayed (keeps _ (.other apart))
  | _ => exact rules.refl _

end

/-- A step of an endpoint is a schedule of its relay. -/
theorem simulates {a : GrpcAction F I M L Addr} (stepped : s.step service a = some (s', es)) :
    s.relay.Leads s'.relay (es.filterMap GrpcEvent.relay?) :=
  ((move_of_step stepped).along (Relay.Keeps.along fun _ => trivial) fun _ _ => trivial).leads

variable {ok : Grpc F I M L Addr → List (GrpcEvent M Addr) → GrpcAction F I M L Addr → Prop}
  {capacity cap : Nat} {router : Router} {t : List (GrpcEvent M Addr)}

theorem relay_runs (runs : Runs (step service) ok (init capacity router cap) s t) :
    Runs Relay.step anyStep (Relay.init capacity router cap) s.relay (t.filterMap GrpcEvent.relay?) :=
  runs.simulated (fun s => s.relay) GrpcEvent.relay? (fun _ _ _ _ => simulates)

end Grpc

end Jackfield
