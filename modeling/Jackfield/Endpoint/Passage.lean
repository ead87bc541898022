/-
# Jackfield.Endpoint.Passage -- an item, from one client to another

A producer's client sends an item, which becomes a message, and `consume` makes an item
of it again for the client of a consumer.  The wire has any number of bytes for the
identifier, the program sixteen: `BusableItem.relayed` is what is left.  Between the two
conversions the message is not touched, so whatever else is going on, the client of the
consumer is sent exactly that (`items_relayed`).
-/
import Jackfield.Endpoint.Streams

namespace Jackfield

set_option autoImplicit false
set_option linter.unusedSectionVars false

variable {F I M L Addr : Type}

open Machine

/-- The stamp is not converted. -/
theorem BusableItem.ofMessage_body [Message M] (message : Stamped M) :
    BusableItem.ofMessage message = .ofMessage message.body := rfl

namespace Relay

variable [F32 F] [Message M] {s s' : Relay F I M L} {a : RelayAction F I M L} {es : List (RelayEvent M)}

/-- What is accepted in a step that sends a message is that message. -/
theorem Move.body_of_accepted {origin : ProducerId} {message : M} {e : Parcel M}
    (move : Move s (.desk (.world (.send origin message))) s' es) (accepted : .bus (.accepted e) ∈ es) :
    e.message.body = message := by
  cases move with
  | @aside _ desk below apart stepped =>
      have told : Event.accepted e ∈ below := by
        rw [← after_events s desk below]
        exact List.mem_filterMap.mpr ⟨_, accepted, rfl⟩
      obtain ⟨-, sent, -, -⟩ := Desk.world_step stepped
      obtain ⟨rx, -, same⟩ := Option.map_eq_some_iff.mp sent
      obtain ⟨-, rfl⟩ := Prod.mk.inj same
      cases List.mem_singleton.mp told
      rfl

/-- The item that `consume` begins to send with an envelope is its message, converted. -/
theorem Move.offered_eq (move : Move s a s' es) {id r : Nat} {e : Parcel M} {item : BusableItem}
    (isHanded : RelayEvent.bus (.handed id e) ∈ es) (isOffered : RelayEvent.offered r item ∈ es) :
    item = .ofMessage e.message := by
  obtain ⟨id', e', isHanded', isItem⟩ := move.offered_handed isOffered
  cases move with
  | @routed consumer desk send below stepped begun =>
      obtain ⟨-, taken, -, -⟩ := Desk.world_step stepped
      have once : ∀ {id e}, RelayEvent.bus (.handed id e) ∈
          below.map .bus ++ send.toList.map (fun send => .offered send.1 send.2) → Event.handed id e ∈ below := by
        intro id e told
        simpa using told
      rcases World.takeEnvelope_cases taken with ⟨entry, taken, bus, loop, resume, -, -, rfl, -⟩ | ⟨nobody, -⟩
      · have first := once isHanded
        have second := once isHanded'
        simp only [List.mem_cons, reduceCtorEq, List.not_mem_nil, false_or, or_false, Event.handed.injEq] at first second
        rw [isItem, second.2, first.2]
      · rw [begun, nobody] at isOffered
        simp [sendOf] at isOffered
  | @aside a desk below apart stepped =>
      unfold after at isOffered
      split at isOffered <;> simp at isOffered
  | _ => simp at isOffered

end Relay

namespace Grpc

variable [DecidableEq Addr] [F32 F] [Inhabited I] [BoxedMessage M] {service : GrpcService}
  {s s' s'' : Grpc F I M L Addr} {a : GrpcAction F I M L Addr} {t es u : List (GrpcEvent M Addr)}
  {capacity cap : Nat} {router : Router}

/-- What a producer's task gets accepted is the item its client sent, as a message. -/
theorem Move.sends_item {m : Nat} {i : Inbound Addr} {item : BusableItem} {e : Parcel M}
    (move : Move service s (.inbound m .send) s' es) (task : s.inbounds m = some i) (phase : i.phase = .sending item)
    (accepted : GrpcEvent.relay (.bus (.accepted e)) ∈ es) : e.message.body = item.toMessage := by
  cases move with
  | inboundFailed task' phase' closed => cases accepted
  | inboundSent task' phase' stepped =>
      cases task.symm.trans task'
      cases phase.symm.trans phase'
      exact (Relay.move_of_step stepped).body_of_accepted (by simpa using accepted)

/-- Unless a send was withdrawn, the items streamed are the first of those handed over. -/
theorem streamed_first (runs : Runs (step service) anyStep (init capacity router cap) s t) (r : Nat)
    (kept : ∀ item, GrpcEvent.relay (.withdrawn r item) ∉ t) : streamedOn r t <+: (handedOn r t).map .ofMessage := by
  apply ((streaming runs).behind r).trans ((Relay.received_of_handed (relay_runs runs) r).2 _)
  exact fun item withdrawn => kept item (GrpcEvent.mem_filterMap_relay.mp withdrawn)

/-- **The relay preserves items whose identifier has sixteen bytes, and the labels and the data of
all others.**  Whatever a producer's client sends, in every interleaving: once the bus has accepted it,
`consume` of any channel consumer it is handed to sends `item.relayed`, and if it is the `k`-th message
handed to the consumer of Register call `r`, the `k`-th item on that call's response streams, if there
is one, is `item.relayed` -- unless sends on that channel were withdrawn, with a call of `drain` or
`dispatch`.  This is the item itself exactly if its identifier has sixteen bytes, and else the item
under the nil identifier.  A message that becomes an item and a message again keeps everything. -/
theorem items_relayed (runs : Runs (step service) anyStep (init capacity router cap) s t) {m : Nat}
    {i : Inbound Addr} {item : BusableItem} {e : Parcel M} (task : s.inbounds m = some i)
    (phase : i.phase = .sending item) (sent : s.step service (.inbound m .send) = some (s', es))
    (accepted : GrpcEvent.relay (.bus (.accepted e)) ∈ es) (later : Runs (step service) anyStep s' s'' u) :
    (∀ a s₃ es₃ id r offered, s''.step service a = some (s₃, es₃) → GrpcEvent.relay (.bus (.handed id e)) ∈ es₃ →
        GrpcEvent.relay (.offered r offered) ∈ es₃ → offered = item.relayed) ∧
      (∀ (r k : Nat) (received : BusableItem), (∀ other, GrpcEvent.relay (.withdrawn r other) ∉ t ++ es ++ u) →
        (handedOn r (t ++ es ++ u))[k]? = some e.message →
        (streamedOn r (t ++ es ++ u))[k]? = some received → received = item.relayed) ∧
      (item.relayed = item ↔ item.uuid.length = 16) ∧
      (item.uuid.length ≠ 16 → item.relayed = ⟨List.replicate 16 0, item.labels, item.data⟩) ∧
      ∀ (N : Type) [Message N] (message : N),
        Message.getUuid ((BusableItem.ofMessage message).toMessage : M) = Message.getUuid message ∧
          Message.getLabels ((BusableItem.ofMessage message).toMessage : M) = Message.getLabels message ∧
          Message.getBytes ((BusableItem.ofMessage message).toMessage : M) = Message.getBytes message := by
  have body := (move_of_step sent).sends_item task phase accepted
  have converted : BusableItem.ofMessage e.message = item.relayed := by
    rw [BusableItem.ofMessage_body, body, item.ofMessage_toMessage]
  have whole : Runs (step service) anyStep (init capacity router cap) s'' (t ++ es ++ u) :=
    (runs.act _ trivial sent).append (fun _ _ _ _ => trivial) later
  refine ⟨?_, ?_, item.relayed_eq_self_iff, ?_, fun N _ message => BusableItem.toMessage_ofMessage message⟩
  · intro a s₃ es₃ id r offered stepped isHanded isOffered
    obtain ⟨c, relay, relayStepped, -⟩ := (move_of_step stepped).relay_step isOffered
    rw [← converted]
    exact (Relay.move_of_step relayStepped).offered_eq (GrpcEvent.mem_filterMap_relay.mpr isHanded)
      (GrpcEvent.mem_filterMap_relay.mpr isOffered)
  · intro r k received kept isHanded isStreamed
    obtain ⟨inside, same⟩ := List.getElem?_eq_some_iff.mp isStreamed
    have inFront := List.prefix_iff_getElem?.mp (streamed_first whole r kept) k inside
    rw [same, List.getElem?_map, isHanded, Option.map_some, converted] at inFront
    exact (Option.some.inj inFront).symm
  · intro other
    rw [BusableItem.relayed, if_neg other]
    rfl

/-- A listener and a meter open their streams, and the meter's client sends an item. -/
def measuring (item : BusableItem) : Grpc ℚ Unit BaseMessage String Nat × List (GrpcEvent BaseMessage Nat) :=
  outcome (step .plain) (init 4 .affinity 8)
    ([.relay (.desk (.world .dispatch)), .connect 7] ++ registerCall 0 (drawn 1) ++ [.stream 0 7] ++
      [.connect 8, .register 1 8 ⟨"meter", [EndpointType.producer], ""⟩ (drawn 2), .handler 1 .insert,
        .stream 1 8, .inbound 1 (.read item)])

/-- It goes to the bus, to the consumer, and onto the response stream. -/
def relaying : List (GrpcAction ℚ Unit BaseMessage String Nat) :=
  [.relay (.takeEnvelope World.obliging), .relay (.resume 7), .forward 0 .receive, .forward 0 .send]

def measured (item : BusableItem) : Grpc ℚ Unit BaseMessage String Nat × List (GrpcEvent BaseMessage Nat) :=
  outcome (step .plain) (measuring item).1 (.inbound 1 .send :: relaying)

/-- An item without an identifier does not come out as it went in. -/
def unnamed : BusableItem := ⟨[], ["volts"], [7]⟩

theorem unnamed_not_preserved :
    Runs (step .plain) anyStep (init 4 .affinity 8) (measuring unnamed).1 (measuring unnamed).2 ∧
      Runs (step .plain) anyStep (measuring unnamed).1 (measured unnamed).1 (measured unnamed).2 ∧
      ((measuring unnamed).1.inbounds 1).map (fun i => i.phase) = some (.sending unnamed) ∧
      streamedOn 0 (measured unnamed).2 = [⟨List.replicate 16 0, ["volts"], [7]⟩] ∧
      streamedOn 0 (measured unnamed).2 ≠ [unnamed] :=
  ⟨runs_outcome_any _ rfl, runs_outcome_any _ rfl, by decide +kernel, by decide +kernel, by decide +kernel⟩

/-- One with an identifier does. -/
def named : BusableItem := ⟨(drawn 3).bytes, ["volts"], [7]⟩

def accepting : Grpc ℚ Unit BaseMessage String Nat × List (GrpcEvent BaseMessage Nat) :=
  outcome (step .plain) (measuring named).1 [.inbound 1 .send]

def arrived : Grpc ℚ Unit BaseMessage String Nat × List (GrpcEvent BaseMessage Nat) :=
  outcome (step .plain) accepting.1 relaying

/-- The listener is sent the item the meter's client sent. -/
theorem items_relayed_arrived :
    ∃ received, (streamedOn 0 ((measuring named).2 ++ accepting.2 ++ arrived.2))[0]? = some received ∧
      received = named := by
  have runs : Runs (step .plain) anyStep (init 4 .affinity 8) (measuring named).1 (measuring named).2 :=
    runs_outcome_any _ rfl
  have later : Runs (step .plain) anyStep accepting.1 arrived.1 arrived.2 := runs_outcome_any _ rfl
  have sent : (measuring named).1.step .plain (.inbound 1 .send) = some (accepting.1, accepting.2) := rfl
  have task : (measuring named).1.inbounds 1 =
      some ⟨8, drawn 2, GrpcService.plain.producerId (drawn 2), true, .sending named⟩ := rfl
  have accepted : GrpcEvent.relay (.bus (.accepted
      ⟨GrpcService.plain.producerId (drawn 2), ⟨0, named.toMessage⟩⟩)) ∈ accepting.2 := by decide +kernel
  have items : (((measuring named).2 ++ accepting.2 ++ arrived.2).filterMap GrpcEvent.relay?).filter
      (fun e => e.bus?.isNone) = [.offered 0 named, .delivered 0 named, .received 0 named] := by decide +kernel
  have kept : ∀ other, GrpcEvent.relay (.withdrawn 0 other) ∉ (measuring named).2 ++ accepting.2 ++ arrived.2 := by
    intro other withdrawn
    have member : RelayEvent.withdrawn 0 other ∈ List.filter (fun e => e.bus?.isNone) _ :=
      List.mem_filter.mpr ⟨GrpcEvent.mem_filterMap_relay.mpr withdrawn, rfl⟩
    rw [items] at member
    simp at member
  obtain ⟨received, isStreamed⟩ : ∃ received,
      (streamedOn 0 ((measuring named).2 ++ accepting.2 ++ arrived.2))[0]? = some received :=
    Option.isSome_iff_exists.mp (by decide +kernel)
  obtain ⟨-, same, sixteen, -⟩ := items_relayed runs task rfl sent accepted later
  refine ⟨received, isStreamed, ?_⟩
  rw [same 0 0 received kept (by decide +kernel) isStreamed]
  exact sixteen.mpr rfl

end Grpc

end Jackfield
