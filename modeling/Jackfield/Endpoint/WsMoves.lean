/-
# Jackfield.Endpoint.WsMoves -- everything one step of the server can do

`WsServer.Move` lists the steps of a WebSocket server, each with its guard and all that
it changes, and `move_of_step` reads it off `WsServer.step` once.  Underneath, every
step is a schedule of the relay (`simulates`).
-/
import Jackfield.Endpoint.WsServer
import Jackfield.Endpoint.GrpcMoves

namespace Jackfield

set_option autoImplicit false
set_option linter.unusedSectionVars false

variable {F I M L : Type}

/-! ## What is told of the relay -/

def WsEvent.relay? : WsEvent F I M → Option (RelayEvent M)
  | .relay e => some e
  | _ => none

theorem WsEvent.filterMap_relay (es : List (RelayEvent M)) :
    (es.map .relay : List (WsEvent F I M)).filterMap WsEvent.relay? = es := by
  rw [List.filterMap_map]
  exact List.filterMap_some ..

theorem WsEvent.filterMap_relay_append (es : List (RelayEvent M)) {rest : List (WsEvent F I M)}
    (apart : rest.filterMap WsEvent.relay? = []) :
    (es.map WsEvent.relay ++ rest).filterMap WsEvent.relay? = es := by
  rw [List.filterMap_append, filterMap_relay, apart, List.append_nil]

namespace WsServer

@[simp] theorem setPhase_relay (s : WsServer F I M L) (k : Nat) (phase : WsPhase M) :
    (s.setPhase k phase).relay = s.relay := rfl

@[simp] theorem setPhase_outbounds (s : WsServer F I M L) (k : Nat) (phase : WsPhase M) :
    (s.setPhase k phase).outbounds = s.outbounds := rfl

@[simp] theorem setPhase_phases (s : WsServer F I M L) (k k' : Nat) (phase : WsPhase M) :
    (s.setPhase k phase).phases k' = if k' = k then some phase else s.phases k' := by
  simp [setPhase, Function.update_apply]

@[simp] theorem setOutbound_relay (s : WsServer F I M L) (k : Nat) (out : WsOutbound) :
    (s.setOutbound k out).relay = s.relay := rfl

@[simp] theorem setOutbound_phases (s : WsServer F I M L) (k : Nat) (out : WsOutbound) :
    (s.setOutbound k out).phases = s.phases := rfl

@[simp] theorem setOutbound_outbounds (s : WsServer F I M L) (k k' : Nat) (out : WsOutbound) :
    (s.setOutbound k out).outbounds k' = if k' = k then out else s.outbounds k' := by
  simp [setOutbound, Function.update_apply]

variable [F32 F] [Inhabited I] [BoxedMessage M]

/-- What a step of the bus comes to. -/
inductive Bussed (s : WsServer F I M L) (a : Action F I M (Boxed (Plug L))) :
    Relay F I M L → List (RelayEvent M) → Prop
  | gone (closed : s.relay.desk.closed = true) : Bussed s a s.relay []
  | stepped {relay : Relay F I M L} {es : List (RelayEvent M)} (live : s.relay.desk.closed = false)
      (stepped : s.relay.step (.desk (.world a)) = some (relay, es)) : Bussed s a relay es

/-- What the first loop takes for the end of the connection. -/
inductive TurnedAway (endpoint : WsEndpoint) : Option Frame → Prop
  | ended : TurnedAway endpoint none
  | closed : TurnedAway endpoint (some .close)
  | undecoded {b : List UInt8} (garbage : endpoint.decodeRegisterData b = none) :
      TurnedAway endpoint (some (.binary b))
  | unparsed {b : List UInt8} {reg : RegisterData} {status : Status}
      (decoded : endpoint.decodeRegisterData b = some reg)
      (invalid : (parseDimensions endpoint.fromStr reg.dimensionsJson :
        Except Status (List (DimSpec F I (Stamped M)))) = .error status) : TurnedAway endpoint (some (.binary b))

inductive Move (endpoint : WsEndpoint) (s : WsServer F I M L) :
    WsServerAction F I M L → WsServer F I M L → List (WsEvent F I M) → Prop
  | accepted {k : Nat} (fresh : s.phases k = none) (unused : s.relay.desk.calls k = .unused) :
      Move endpoint s (.accept k) (s.setPhase k .accepting) []
  | shook {k : Nat} {succeeds : Bool} (phase : s.phases k = some .accepting) :
      Move endpoint s (.handshake k succeeds) (s.setPhase k (if succeeds then .awaiting else .done))
        [.shook k succeeds]
  | skipped {k : Nat} {f : Frame} {uuid : Uuid} (phase : s.phases k = some .awaiting)
      (skips : f = .other ∨ f = .error) : Move endpoint s (.frame k (some f) uuid) s [.read k (some f)]
  | turnedAway {k : Nat} {f : Option Frame} {uuid : Uuid} (phase : s.phases k = some .awaiting)
      (refused : TurnedAway (F := F) (I := I) (M := M) endpoint f) :
      Move endpoint s (.frame k f uuid) (s.setPhase k .done) [.read k f]
  | registering {k : Nat} {b : List UInt8} {uuid : Uuid} {reg : RegisterData}
      {dims : List (DimSpec F I (Stamped M))} {relay : Relay F I M L} (phase : s.phases k = some .awaiting)
      (decoded : endpoint.decodeRegisterData b = some reg)
      (valid : parseDimensions endpoint.fromStr reg.dimensionsJson = .ok dims)
      (consumer : EndpointType.consumer ∈ reg.type)
      (stepped : s.relay.step (.plugIn k dims) = some (relay, [])) :
      Move endpoint s (.frame k (some (.binary b)) uuid)
        ({ s with relay := relay }.setPhase k (.registering reg)) [.read k (some (.binary b))]
  | admitted {k : Nat} {b : List UInt8} {uuid : Uuid} {reg : RegisterData}
      {dims : List (DimSpec F I (Stamped M))} (phase : s.phases k = some .awaiting)
      (decoded : endpoint.decodeRegisterData b = some reg)
      (valid : parseDimensions endpoint.fromStr reg.dimensionsJson = .ok dims)
      (noConsumer : EndpointType.consumer ∉ reg.type) :
      Move endpoint s (.frame k (some (.binary b)) uuid)
        (s.setPhase k (.reading none (endpoint.producerHandle reg uuid))) [.read k (some (.binary b))]
  | read {k : Nat} {f : Option Frame} {uuid : Uuid} {id : Option Nat} {producerHandle : Option ProducerId}
      (phase : s.phases k = some (.reading id producerHandle)) :
      Move endpoint s (.frame k f uuid) (s.setPhase k (endpoint.inboundFrame id producerHandle f)) [.read k f]
  | submitted {k : Nat} {reg : RegisterData} {consumer : Plug L} {dims : List (DimSpec F I (Stamped M))}
      {relay : Relay F I M L} {es : List (RelayEvent M)} (phase : s.phases k = some (.registering reg))
      (sending : s.relay.desk.calls k = .sending consumer dims)
      (stepped : s.relay.step (.desk (.submit k)) = some (relay, es)) :
      Move endpoint s (.submit k) { s with relay := relay } (es.map .relay ++ [.acted k (.register dims)])
  | answered {k id : Nat} {uuid : Uuid} {reg : RegisterData} {relay : Relay F I M L} {es : List (RelayEvent M)}
      (phase : s.phases k = some (.registering reg)) (reply : s.relay.desk.calls k = .replied id)
      (stepped : s.relay.step (.desk (.receive k)) = some (relay, es)) :
      Move endpoint s (.answered k uuid)
        (({ s with relay := relay }.setPhase k
          (.reading (some id) (endpoint.producerHandle reg uuid))).setOutbound k .spawned) (es.map .relay)
  | failed {k : Nat} {reg : RegisterData} {relay : Relay F I M L} {es : List (RelayEvent M)}
      (phase : s.phases k = some (.registering reg))
      (stepped : s.relay.step (.desk (.fail k)) = some (relay, es)) :
      Move endpoint s (.failed k) ({ s with relay := relay.dropReceiver k }.setPhase k .done) (es.map .relay)
  | sent {k : Nat} {id : Option Nat} {handle : ProducerId} {message : M} {relay : Relay F I M L}
      {es : List (RelayEvent M)} (phase : s.phases k = some (.sending id handle message))
      (bussed : Bussed s (.send handle message) relay es) :
      Move endpoint s (.send k) ({ s with relay := relay }.setPhase k (.reading id (some handle)))
        (es.map .relay ++ [.acted k (.send handle message)])
  | deregistered {k id : Nat} {relay : Relay F I M L} {es : List (RelayEvent M)}
      (phase : s.phases k = some (.leaving id)) (bussed : Bussed s (.sendCmd (.deregister id)) relay es) :
      Move endpoint s (.deregister k) ({ s with relay := relay }.setPhase k .done)
        (es.map .relay ++ [.acted k (.deregister id)])
  | forwardReceived {k : Nat} {item : BusableItem} {relay : Relay F I M L}
      (task : (s.outbounds k).forward = some .receiving)
      (stepped : s.relay.step (.receive k) = some (relay, [.received k item])) :
      Move endpoint s (.forward k .receive)
        ({ s with relay := relay }.setOutbound k
          { s.outbounds k with forward := some (.sending (endpoint.encodeItem item)) })
        [.relay (.received k item)]
  | forwardSent {k : Nat} {b : List UInt8} {bytes : Channel (List UInt8)}
      (task : (s.outbounds k).forward = some (.sending b)) (held : (s.outbounds k).writer.isSome)
      (sent : (s.outbounds k).bytes.send b = some bytes) :
      Move endpoint s (.forward k .send)
        (s.setOutbound k { s.outbounds k with forward := some .receiving, bytes := bytes }) []
  | forwardFailed {k : Nat} {b : List UInt8} (task : (s.outbounds k).forward = some (.sending b))
      (gone : (s.outbounds k).writer = none) :
      Move endpoint s (.forward k .fail)
        ({ s with relay := s.relay.dropReceiver k }.setOutbound k { s.outbounds k with forward := none }) []
  | forwardOver {k : Nat} (task : (s.outbounds k).forward = some .receiving)
      (empty : (s.relay.pipes k).items.buf = []) (noSender : s.relay.hasSender k = false) :
      Move endpoint s (.forward k .leave)
        ({ s with relay := s.relay.dropReceiver k }.setOutbound k { s.outbounds k with forward := none }) []
  | writerReceived {k : Nat} {b : List UInt8} {bytes : Channel (List UInt8)}
      (task : (s.outbounds k).writer = some .receiving)
      (front : (s.outbounds k).bytes.tryRecv = some (b, bytes)) :
      Move endpoint s (.writer k .receive)
        (s.setOutbound k { s.outbounds k with bytes := bytes, writer := some (.writing b) }) []
  | wrote {k : Nat} {b : List UInt8} (task : (s.outbounds k).writer = some (.writing b)) :
      Move endpoint s (.writer k .send) (s.setOutbound k { s.outbounds k with writer := some .receiving })
        [.wrote k b]
  | writerFailed {k : Nat} {b : List UInt8} (task : (s.outbounds k).writer = some (.writing b)) :
      Move endpoint s (.writer k .fail)
        (s.setOutbound k { s.outbounds k with bytes := .new 256, writer := none }) []
  | writerOver {k : Nat} (task : (s.outbounds k).writer = some .receiving)
      (empty : (s.outbounds k).bytes.buf = []) (noSender : (s.outbounds k).forward = none) :
      Move endpoint s (.writer k .leave) (s.setOutbound k { s.outbounds k with writer := none }) []
  | relayed {a : RelayAction F I M L} {relay : Relay F I M L} {es : List (RelayEvent M)}
      (others : ∀ r, a.number? = some r → s.phases r = none) (stepped : s.relay.step a = some (relay, es)) :
      Move endpoint s (.relay a) { s with relay := relay } (es.map .relay)

variable {endpoint : WsEndpoint} {s s' : WsServer F I M L} {es : List (WsEvent F I M)}

theorem relayStep_eq_some {a : RelayAction F I M L} (stepped : s.relayStep a = some (s', es)) :
    ∃ relay below, s.relay.step a = some (relay, below) ∧ s' = { s with relay := relay } ∧
      es = below.map .relay := by
  obtain ⟨⟨relay, below⟩, stepped', same⟩ := Option.map_eq_some_iff.mp stepped
  cases same
  exact ⟨relay, below, stepped', rfl, rfl⟩

theorem busStep_eq_some {a : Action F I M (Boxed (Plug L))} (stepped : s.busStep a = some (s', es)) :
    ∃ relay below, Bussed s a relay below ∧ s' = { s with relay := relay } ∧ es = below.map .relay := by
  unfold busStep at stepped
  split at stepped
  · rename_i closed
    cases stepped
    exact ⟨_, _, .gone closed, rfl, rfl⟩
  · rename_i live
    obtain ⟨relay, below, stepped', same, told⟩ := relayStep_eq_some stepped
    exact ⟨relay, below, .stepped (by simpa using live) stepped', same, told⟩

theorem move_of_frameStep {k : Nat} {f : Option Frame} {uuid : Uuid}
    (stepped : s.frameStep endpoint k f uuid = some (s', es)) :
    Move endpoint s (.frame k f uuid) s' (.read k f :: es) := by
  unfold frameStep at stepped
  split at stepped
  · rename_i phase
    split at stepped
    · rename_i b
      split at stepped
      · rename_i garbage
        cases stepped
        exact .turnedAway phase (.undecoded garbage)
      · rename_i reg decoded
        unfold takeIn at stepped
        split at stepped
        · rename_i status invalid
          cases stepped
          exact .turnedAway phase (.unparsed decoded invalid)
        · rename_i dims valid
          split at stepped
          · rename_i consumer
            obtain ⟨⟨s₁, es₁⟩, plugged, same⟩ := Option.map_eq_some_iff.mp stepped
            obtain ⟨relay, below, stepped', rfl, rfl⟩ := relayStep_eq_some plugged
            cases same
            have silent : below = [] := by
              cases Relay.move_of_step stepped' with
              | pluggedIn fresh => rfl
            subst silent
            exact .registering phase decoded valid (List.contains_iff_mem.mp consumer) stepped'
          · rename_i noConsumer
            cases stepped
            exact .admitted phase decoded valid fun isIn => noConsumer (List.contains_iff_mem.mpr isIn)
    · cases stepped
      exact .turnedAway phase .closed
    · cases stepped
      exact .turnedAway phase .ended
    · rename_i notBinary notClose notEnd
      cases stepped
      match f with
      | none => exact absurd rfl notEnd
      | some (.binary b) => exact absurd rfl (notBinary b)
      | some .close => exact absurd rfl notClose
      | some .other => exact .skipped phase (Or.inl rfl)
      | some .error => exact .skipped phase (Or.inr rfl)
  · rename_i id producerHandle phase
    cases stepped
    exact .read phase
  · cases stepped

theorem move_of_forwardStep {k : Nat} {a : WsTask} (stepped : s.forwardStep endpoint k a = some (s', es)) :
    Move endpoint s (.forward k a) s' es := by
  unfold forwardStep at stepped
  simp only at stepped
  split at stepped
  · rename_i task
    split at stepped
    · cases stepped
    · rename_i item items front
      obtain ⟨⟨s₁, es₁⟩, received, same⟩ := Option.map_eq_some_iff.mp stepped
      obtain ⟨relay, below, stepped', rfl, rfl⟩ := relayStep_eq_some received
      cases same
      have told : below = [.received k item] := by
        cases Relay.move_of_step stepped' with
        | received live front' =>
            rw [front] at front'
            cases front'
            rfl
      subst told
      exact .forwardReceived task stepped'
  · rename_i b task
    split at stepped
    · rename_i held
      obtain ⟨bytes, sent, same⟩ := Option.map_eq_some_iff.mp stepped
      cases same
      exact .forwardSent task held sent
    · cases stepped
  · rename_i b task
    split at stepped
    · cases stepped
    · rename_i gone
      cases stepped
      exact .forwardFailed task (by simpa using gone)
  · rename_i task
    split at stepped
    · rename_i ended
      cases stepped
      obtain ⟨empty, noSender⟩ := Bool.and_eq_true_iff.mp ended
      exact .forwardOver task (List.isEmpty_iff.mp empty) (by simpa using noSender)
    · cases stepped
  · cases stepped

theorem move_of_writerStep {k : Nat} {a : WsTask} (stepped : s.writerStep k a = some (s', es)) :
    Move endpoint s (.writer k a) s' es := by
  unfold writerStep at stepped
  simp only at stepped
  split at stepped
  · rename_i task
    obtain ⟨⟨b, bytes⟩, front, same⟩ := Option.map_eq_some_iff.mp stepped
    cases same
    exact .writerReceived task front
  · rename_i b task
    cases stepped
    exact .wrote task
  · rename_i b task
    cases stepped
    exact .writerFailed task
  · rename_i task
    split at stepped
    · rename_i ended
      cases stepped
      obtain ⟨empty, noSender⟩ := Bool.and_eq_true_iff.mp ended
      exact .writerOver task (List.isEmpty_iff.mp empty) (Option.isNone_iff_eq_none.mp noSender)
    · cases stepped
  · cases stepped

/-- **Every step is one of these moves.** -/
theorem move_of_step {a : WsServerAction F I M L} (stepped : s.step endpoint a = some (s', es)) :
    Move endpoint s a s' es := by
  cases a with
  | accept k =>
      simp only [step] at stepped
      split at stepped
      · rename_i isUnused
        cases stepped
        unfold unusedNumber at isUnused
        split at isUnused
        · rename_i fresh unused
          exact .accepted fresh unused
        · cases isUnused
      · cases stepped
  | handshake k succeeds =>
      simp only [step] at stepped
      split at stepped
      · rename_i phase
        cases stepped
        exact .shook phase
      · cases stepped
  | frame k f uuid =>
      obtain ⟨⟨s₁, es₁⟩, framed, same⟩ := Option.map_eq_some_iff.mp stepped
      cases same
      exact move_of_frameStep framed
  | submit k =>
      simp only [step] at stepped
      split at stepped
      · rename_i reg consumer dims phase sending
        obtain ⟨⟨s₁, es₁⟩, submitted, same⟩ := Option.map_eq_some_iff.mp stepped
        obtain ⟨relay, below, stepped', rfl, rfl⟩ := relayStep_eq_some submitted
        cases same
        exact .submitted phase sending stepped'
      · cases stepped
  | answered k uuid =>
      simp only [step] at stepped
      split at stepped
      · rename_i reg id phase reply
        obtain ⟨⟨s₁, es₁⟩, received, same⟩ := Option.map_eq_some_iff.mp stepped
        obtain ⟨relay, below, stepped', rfl, rfl⟩ := relayStep_eq_some received
        cases same
        exact .answered phase reply stepped'
      · cases stepped
  | failed k =>
      simp only [step] at stepped
      split at stepped
      · rename_i reg phase
        obtain ⟨⟨s₁, es₁⟩, gaveUp, same⟩ := Option.map_eq_some_iff.mp stepped
        obtain ⟨relay, below, stepped', rfl, rfl⟩ := relayStep_eq_some gaveUp
        cases same
        exact .failed phase stepped'
      · cases stepped
  | send k =>
      simp only [step] at stepped
      split at stepped
      · rename_i id handle message phase
        obtain ⟨⟨s₁, es₁⟩, sent, same⟩ := Option.map_eq_some_iff.mp stepped
        obtain ⟨relay, below, bussed, rfl, rfl⟩ := busStep_eq_some sent
        cases same
        exact .sent phase bussed
      · cases stepped
  | deregister k =>
      simp only [step] at stepped
      split at stepped
      · rename_i id phase
        obtain ⟨⟨s₁, es₁⟩, sent, same⟩ := Option.map_eq_some_iff.mp stepped
        obtain ⟨relay, below, bussed, rfl, rfl⟩ := busStep_eq_some sent
        cases same
        exact .deregistered phase bussed
      · cases stepped
  | forward k a => exact move_of_forwardStep stepped
  | writer k a => exact move_of_writerStep stepped
  | relay a =>
      simp only [step] at stepped
      split at stepped
      · rename_i others
        obtain ⟨relay, below, stepped', rfl, rfl⟩ := relayStep_eq_some stepped
        refine .relayed (fun r isNumber => ?_) stepped'
        rw [isNumber] at others
        simpa using others
      · cases stepped

/-! ## Runs -/

open Machine

section

variable {within : RelayAction F I M L → Prop} {R : Relay F I M L → Relay F I M L → List (RelayEvent M) → Prop}

/-- The step of the relay that a step of the server takes. -/
inductive Relayed (endpoint : WsEndpoint) (s : WsServer F I M L) : WsServerAction F I M L → RelayAction F I M L → Prop
  | plugIn {k : Nat} {b : List UInt8} {uuid : Uuid} {reg : RegisterData} {dims : List (DimSpec F I (Stamped M))}
      (phase : s.phases k = some .awaiting) (decoded : endpoint.decodeRegisterData b = some reg)
      (valid : parseDimensions endpoint.fromStr reg.dimensionsJson = .ok dims) :
      Relayed endpoint s (.frame k (some (.binary b)) uuid) (.plugIn k dims)
  | submit {k : Nat} : Relayed endpoint s (.submit k) (.desk (.submit k))
  | answered {k : Nat} {uuid : Uuid} : Relayed endpoint s (.answered k uuid) (.desk (.receive k))
  | failed {k : Nat} : Relayed endpoint s (.failed k) (.desk (.fail k))
  | sent {k : Nat} {handle : ProducerId} {message : M} :
      Relayed endpoint s (.send k) (.desk (.world (.send handle message)))
  | deregister {k id : Nat} : Relayed endpoint s (.deregister k) (.desk (.world (.sendCmd (.deregister id))))
  | received {k : Nat} : Relayed endpoint s (.forward k .receive) (.receive k)
  | other {c : RelayAction F I M L} (others : ∀ k, c.number? = some k → s.phases k = none) :
      Relayed endpoint s (.relay c) c

theorem Bussed.along {a : Action F I M (Boxed (Plug L))} {relay : Relay F I M L} {below : List (RelayEvent M)}
    (bussed : Bussed s a relay below) (rules : Relay.Along within R) (own : within (.desk (.world a))) :
    R s.relay relay below := by
  cases bussed with
  | gone closed => exact rules.refl _
  | stepped live stepped => exact rules.one stepped own

/-- **What a step is for the relay**: a step for a client, or one of somebody else's, and
a receiver that is dropped. -/
theorem Move.along {a : WsServerAction F I M L} (move : Move endpoint s a s' es) (rules : Relay.Along within R)
    (keeps : ∀ c, Relayed endpoint s a c → within c) :
    R s.relay s'.relay (es.filterMap WsEvent.relay?) := by
  cases move with
  | registering phase decoded valid consumer below => exact rules.one below (keeps _ (.plugIn phase decoded valid))
  | submitted phase sending below =>
      rw [WsEvent.filterMap_relay_append _ rfl]
      exact rules.one below (keeps _ .submit)
  | answered phase reply below =>
      rw [WsEvent.filterMap_relay]
      exact rules.one below (keeps _ .answered)
  | failed phase below =>
      rw [WsEvent.filterMap_relay]
      exact rules.hangUp (some _) (rules.one below (keeps _ .failed))
  | sent phase bussed =>
      rw [WsEvent.filterMap_relay_append _ rfl]
      exact bussed.along rules (keeps _ .sent)
  | deregistered phase bussed =>
      rw [WsEvent.filterMap_relay_append _ rfl]
      exact bussed.along rules (keeps _ .deregister)
  | forwardReceived task below => exact rules.one below (keeps _ .received)
  | forwardFailed task gone => exact rules.hangUp (some _) (rules.refl _)
  | forwardOver task empty noSender => exact rules.hangUp (some _) (rules.refl _)
  | relayed apart below =>
      rw [WsEvent.filterMap_relay]
      exact rules.one below (keeps _ (.other apart))
  | _ => exact rules.refl _

end

/-- A step of a server is a schedule of its relay. -/
theorem simulates {a : WsServerAction F I M L} (stepped : s.step endpoint a = some (s', es)) :
    s.relay.Leads s'.relay (es.filterMap WsEvent.relay?) :=
  ((move_of_step stepped).along (Relay.Keeps.along fun _ => trivial) fun _ _ => trivial).leads

variable {ok : WsServer F I M L → List (WsEvent F I M) → WsServerAction F I M L → Prop}
  {capacity cap : Nat} {router : Router} {t : List (WsEvent F I M)}

theorem relay_runs (runs : Runs (step endpoint) ok (init capacity router cap) s t) :
    Runs Relay.step anyStep (Relay.init capacity router cap) s.relay (t.filterMap WsEvent.relay?) :=
  runs.simulated (fun s => s.relay) WsEvent.relay? (fun _ _ _ _ => simulates)

end WsServer

end Jackfield
