/-
# Jackfield.Endpoint.GrpcClients -- what each Register call of the gRPC endpoint gets

The items streamed for a Register call are the envelopes that went to its channel, converted
(`streamed_parcels`).  So no message goes to two calls, or twice to one
(`each_stream_its_own`); a call gets what its own filter lets through
(`streams_get_what_they_asked_for`); and with a bus driven by `drain` alone, or by `dispatch`
alone, it gets its messages in the order they were sent in (`streams_in_send_order`).
-/
import Jackfield.Endpoint.Isolation
import Jackfield.Endpoint.Ordering
import Jackfield.Endpoint.Senders
import Jackfield.Endpoint.Streams

namespace Jackfield

set_option autoImplicit false
set_option linter.unusedSectionVars false

variable {F I M L Addr : Type}

open Machine
open RelayEvent (handOvers parcelsTo)

namespace Grpc

variable [DecidableEq Addr] [F32 F] [Inhabited I] [BoxedMessage M] {service : GrpcService}
  {s s' : Grpc F I M L Addr} {a : GrpcAction F I M L Addr} {t es : List (GrpcEvent M Addr)}

/-! ## Whose number it is -/

/-- Number `r` belongs to a call of this service, or to nobody yet. -/
def Own (s : Grpc F I M L Addr) (r : Nat) : Prop := s.callers r ≠ none ∨ s.relay.desk.calls r = .unused

/-- Who makes a call takes a new number for it. -/
theorem Move.caller_before (move : Move service s a s' es) {r : Nat} (made : s'.callers r ≠ none) :
    s.callers r ≠ none ∨ s.relay.desk.calls r = .unused := by
  have called : ∀ n addr, s.unusedNumber n = true → Function.update s.callers n (some addr) r ≠ none →
      s.callers r ≠ none ∨ s.relay.desk.calls r = .unused := by
    intro n addr unused made
    by_cases same : r = n
    · subst same
      exact Or.inr (unusedNumber_iff.mp unused).2
    · rw [Function.update_of_ne same] at made
      exact Or.inl made
  cases move with
  | refused connected unused => exact called _ _ unused made
  | registering connected unused stepped => exact called _ _ unused made
  | producing connected unused => exact called _ _ unused made
  | rejected unused wrong => exact called _ _ unused made
  | deregistered unused occupied right producer => exact called _ _ unused made
  | deregistering unused occupied right consumer => exact called _ _ unused made
  | _ => exact Or.inl made

theorem Move.own_before (move : Move service s a s' es) {r : Nat} (own : Own s' r) : Own s r := by
  rcases own with made | unused
  · exact move.caller_before made
  · exact Or.inr (move.along (Relay.unused_along r) (fun _ _ => trivial) unused)

/-- Whoever makes Register call `r` asks for such dimensions. -/
def Registers (service : GrpcService) (such : List (DimSpec F I (Stamped M)) → Prop) (r : Nat)
    (a : GrpcAction F I M L Addr) : Prop :=
  ∀ addr data uuid dims, a = .register r addr data uuid →
    parseDimensions service.fromStr data.dimensionsJson = .ok dims → such dims

theorem Move.plugs (move : Move service s a s' es) {such : List (DimSpec F I (Stamped M)) → Prop} {r : Nat}
    (own : Own s' r) (registers : Registers service such r a) {c : RelayAction F I M L}
    (relayed : Relayed service s a c) : Relay.Plugs such r c := by
  rintro dims rfl
  cases relayed with
  | @plugIn r addr data uuid dims valid => exact registers addr data uuid dims rfl valid
  | other others =>
      -- a call of somebody else's
      cases move with
      | relayed apart stepped =>
          cases Relay.move_of_step stepped with
          | pluggedIn fresh =>
              rcases own with made | unused
              · exact absurd (others r rfl) made
              · simp at unused

/-! ## Runs -/

variable {ok : Grpc F I M L Addr → List (GrpcEvent M Addr) → GrpcAction F I M L Addr → Prop} {capacity cap : Nat}
  {router : Router}

/-- **What a run is for the channel of a Register call.**  The steps of the relay are such as
`within` allows, if those of the endpoint are, and the channel is plugged in with what the call
asks for. -/
theorem relay_plugs (within : RelayAction F I M L → Prop) (such : List (DimSpec F I (Stamped M)) → Prop)
    (unplugs : ∀ r, within (.unplug r)) (keeps : ∀ s t a, ok s t a → ∀ c, Relayed service s a c → within c)
    {r : Nat} (asks : ∀ s t a, ok s t a → Registers service such r a)
    (runs : Runs (step service) ok (init capacity router cap) s t) (own : Own s r) :
    Runs Relay.step (fun _ _ c => within c ∧ Relay.Plugs such r c) (Relay.init capacity router cap) s.relay
      (t.filterMap GrpcEvent.relay?) := by
  apply runs.simulated_while (fun s => s.relay) GrpcEvent.relay? (fun c => within c ∧ Relay.Plugs such r c)
    (fun s _ => Own s r) ?_ own
  intro s t a s' es before allowed stepped own
  have move := move_of_step stepped
  refine ⟨move.own_before own, ?_⟩
  apply move.along (Relay.Keeps.along fun r' => ⟨unplugs r', by simp [Relay.Plugs]⟩)
  exact fun c relayed => ⟨keeps s t a allowed c relayed, move.plugs own (asks s t a allowed) relayed⟩

/-- Nothing is streamed for a number that belongs to somebody else. -/
theorem streamed_of_unknown (runs : Runs (step service) ok (init capacity router cap) s t) {r : Nat}
    (unknown : s.callers r = none) : streamedOn r t = [] := by
  revert unknown
  apply runs.invariant_reached (P := fun s t => s.callers r = none → streamedOn r t = [])
  · exact fun _ => rfl
  · intro s t a s' es before ih _ stepped unknown
    have move := move_of_step stepped
    have was : s.callers r = none := by
      by_contra made
      obtain ⟨addr, made⟩ := Option.ne_none_iff_exists'.mp made
      cases unknown.symm.trans (move.caller_stays made)
    rw [streamedOn_append, ih was, List.nil_append]
    apply streamedOn_eq_nil
    intro item streamed
    obtain ⟨m, rfl⟩ := move.streamed_cases streamed
    obtain ⟨f, item', task, -, -, rfl⟩ := move.sent_cases
    cases List.mem_singleton.mp streamed
    cases was.symm.trans ((provenance before).forward m f task).1

/-- What the trace tells of the bus and its channels. -/
def relayTrace (t : List (GrpcEvent M Addr)) : List (RelayEvent M) := t.filterMap GrpcEvent.relay?

/-- The item of an envelope: uuid, labels and bytes of its message. -/
def itemOf (e : Parcel M) : BusableItem :=
  ⟨(Message.getUuid e.message).bytes, Message.getLabels e.message, Message.getBytes e.message⟩

/-- The envelopes that the items streamed for Register call `r` are of. -/
def StreamedFrom (r : Nat) (t : List (GrpcEvent M Addr)) (parcels : List (Parcel M)) : Prop :=
  RelayEvent.CameThrough itemOf r (relayTrace t) (streamedOn r t) parcels

/-- The items streamed for a call are envelopes handed to its channel. -/
theorem streamed_parcels (runs : Runs (step service) ok (init capacity router cap) s t) (r : Nat) :
    ∃ parcels, StreamedFrom r t parcels := by
  have received := (Relay.received_of_handed (relay_runs runs) r).1
  have streamed := ((streaming runs).behind r).sublist.trans received
  rw [RelayEvent.handedTo_eq, List.map_map] at streamed
  obtain ⟨parcels, part, images⟩ := List.sublist_map_iff.mp streamed
  exact ⟨parcels, Relay.cameThrough (relay_runs runs) part images⟩

/-- Nothing was streamed from anything for a number that belongs to somebody else. -/
theorem StreamedFrom.of_unknown (runs : Runs (step service) ok (init capacity router cap) s t) {r : Nat}
    (unknown : s.callers r = none) {parcels : List (Parcel M)} (came : StreamedFrom r t parcels) : parcels = [] := by
  have images := came.images
  rw [streamed_of_unknown runs unknown] at images
  exact List.map_eq_nil_iff.mp images.symm

/-- The service of a listener at address 7, who asks for telemetry that is not private, and
of one at address 8, who asks for nothing. -/
def choosy : GrpcService := { GrpcService.plain with fromStr := readsOnly publicOnlyText publicOnly.toJson }

/-- Both register, two messages each of telemetry and of other things are sent, and each
listener is sent what is for it; the owner of the bus calls `dispatch`. -/
def audience : List (GrpcAction ℚ Unit BaseMessage String Nat) :=
  let message (n : UInt8) (labels : List String) : GrpcAction ℚ Unit BaseMessage String Nat :=
    .relay (.desk (.world (.send ⟨"radio"⟩ (.new none (some labels) (some [n])))))
  let listener (n addr : Nat) (text : String) (b : UInt8) : List (GrpcAction ℚ Unit BaseMessage String Nat) :=
    [.connect addr, .register n addr ⟨"listener", [EndpointType.consumer], text⟩ (drawn b), .handler n .submit,
      .relay (.desk (.world .takeCmd)), .handler n .answered, .handler n .insert, .stream n addr]
  let handOver : List (GrpcAction ℚ Unit BaseMessage String Nat) :=
    [.relay (.takeEnvelope World.obliging), .relay (.resume 7)]
  let pass (m : Nat) : List (GrpcAction ℚ Unit BaseMessage String Nat) := [.forward m .receive, .forward m .send]
  [.relay (.desk (.world .dispatch))] ++ listener 0 7 publicOnlyText 1 ++ listener 1 8 "" 2 ++
    [message 1 ["gossip"], message 2 ["telemetry"], message 3 ["telemetry", "indoors"], message 4 ["gossip"]] ++
    handOver ++ handOver ++ pass 1 ++ handOver ++ handOver ++ pass 0 ++ pass 1 ++ pass 0

def heard : Grpc ℚ Unit BaseMessage String Nat × List (GrpcEvent BaseMessage Nat) :=
  outcome (step choosy) (init 8 .affinity 8) audience

theorem heard_runs : Runs (step choosy) anyStep (init 8 .affinity 8) heard.1 heard.2 :=
  runs_outcome_any audience (by decide +kernel)

/-- **No message goes to two Register calls, or twice to one.**  In every interleaving of calls,
streams, cleanups, bus and other users of it: the items streamed for all the Register calls, on
however many response streams, are accepted messages, and no two of them, for one call or for
different ones, are of the same message. -/
theorem each_stream_its_own (runs : Runs (step service) anyStep (init capacity router cap) s t) :
    ∃ parcels : Nat → List (Parcel M), (∀ r, StreamedFrom r t (parcels r)) ∧
      ∀ r r', r ≠ r' → ∀ e ∈ parcels r, ∀ e' ∈ parcels r', e.serial ≠ e'.serial := by
  choose parcels came using streamed_parcels runs
  refine ⟨parcels, came, ?_⟩
  intro r r' other
  exact Relay.cameThrough_apart (relay_runs runs) (came r) (came r') other

/-- The bytes of what was streamed are those of its envelopes. -/
theorem StreamedFrom.bytes {r : Nat} {t : List (GrpcEvent M Addr)} {parcels : List (Parcel M)}
    (came : StreamedFrom r t parcels) :
    (streamedOn r t).map (fun item => item.data) = parcels.map fun e => (itemOf e).data := by
  rw [came.images, List.map_map]
  rfl

theorem each_stream_its_own_heard : ∃ parcels : Nat → List (Parcel BaseMessage),
    ((parcels 0).map fun e => (itemOf e).data) = [[2], [3]] ∧
      ((parcels 1).map fun e => (itemOf e).data) = [[1], [4]] ∧ (∀ r, StreamedFrom r heard.2 (parcels r)) ∧
      ∀ e ∈ parcels 0, ∀ e' ∈ parcels 1, e.serial ≠ e'.serial := by
  obtain ⟨parcels, came, apart⟩ := each_stream_its_own heard_runs
  refine ⟨parcels, ?_, ?_, came, apart 0 1 (by decide)⟩
  · exact (came 0).bytes.symm.trans (by decide +kernel)
  · exact (came 1).bytes.symm.trans (by decide +kernel)

/-- **A Register call gets what it has asked for.**  In every interleaving in which whoever makes
Register call `r` sends the filter `text` with it, well-typed JSON: what is streamed for this call
meets what the parser keeps of that filter. -/
theorem streams_get_what_they_asked_for {r : Nat} {text : String} {v : Json}
    (runs : Runs (step service) (fun _ _ a => ∀ addr data uuid, a = .register r addr data uuid →
      data.dimensionsJson = text) (init capacity router cap) s t)
    (nonempty : text ≠ "") (isJson : service.fromStr text = .ok v) (typed : v.WellTyped) :
    (∃ parcels, StreamedFrom r t parcels) ∧
      ∀ parcels, StreamedFrom r t parcels → ∀ e ∈ parcels, v.filter.kept.Holds (.fromEnvelope e) := by
  refine ⟨streamed_parcels runs r, ?_⟩
  intro parcels came e member
  by_cases unknown : s.callers r = none
  · rw [came.of_unknown runs unknown] at member
    cases member
  · have plugged := relay_plugs (fun _ => True) (fun dims => parseDimensions service.fromStr text = .ok dims)
      (fun _ => trivial) (fun _ _ _ _ _ _ => trivial) ?_ runs (Or.inl unknown)
    · obtain ⟨dims, valid, entry, registered, kept⟩ := Relay.parcels_asked_for
        (plugged.mono_reached fun _ _ _ _ allowed => allowed.2) e (came.handed.subset member)
      obtain ⟨-, rfl⟩ := (typed.parseDimensions_iff nonempty isJson dims).mp valid
      exact (v.filter.hardRejected_iff registered e).mp kept
    · intro s t a asks addr data uuid dims registers valid
      rwa [asks addr data uuid registers] at valid

theorem streams_get_what_they_asked_for_heard : ∃ parcels, StreamedFrom 0 heard.2 parcels ∧
    (parcels.map fun e => (itemOf e).data) = [[2], [3]] ∧ ∀ e ∈ parcels, publicOnly.kept.Holds (.fromEnvelope e) := by
  have asks : ∀ a ∈ audience, ∀ addr data uuid, a = .register 0 addr data uuid →
      data.dimensionsJson = publicOnlyText := by
    intro a member addr data uuid isRegister
    subst isRegister
    simp [audience] at member
    rw [member.2.1]
  have runs : Runs (step choosy) (fun _ _ a => ∀ addr data uuid, a = .register 0 addr data uuid →
      data.dimensionsJson = publicOnlyText) (init 8 .affinity 8) heard.1 heard.2 :=
    runs_outcome_within audience asks (by decide +kernel)
  obtain ⟨⟨parcels, came⟩, holds⟩ := streams_get_what_they_asked_for runs (by decide)
    (readsOnly_text publicOnlyText publicOnly.toJson) publicOnly.toJson_wellTyped
  refine ⟨parcels, came, came.bytes.symm.trans (by decide +kernel), ?_⟩
  have suited := holds parcels came
  rwa [publicOnly.filter_toJson] at suited

/-- The owner of the bus does not make this call of it. -/
def Without (call : Action F I M (Boxed (Plug L))) (a : GrpcAction F I M L Addr) : Prop :=
  a ≠ .relay (.desk (.world call))

/-- **A Register call gets its messages in the order of their sends**, if the owner of the bus calls
only `dispatch`, or only `drain`, whatever is cancelled or cleaned up, and whatever the other
consumers answer and ask for: what is streamed for call `r` are accepted messages in the order in
which they were accepted. -/
theorem streams_in_send_order
    (oneWay : Runs (step service) (fun _ _ a => Without .drain a) (init capacity router cap) s t ∨
      Runs (step service) (fun _ _ a => Without .dispatch a) (init capacity router cap) s t) (r : Nat) :
    (∃ parcels, StreamedFrom r t parcels) ∧
      ∀ parcels, StreamedFrom r t parcels →
        List.Sublist parcels ((busTrace t).filterMap Event.accepted?) := by
  have runs : Runs (step service) anyStep (init capacity router cap) s t := by
    rcases oneWay with undrained | undispatched
    · exact undrained.mono_reached fun _ _ _ _ _ => trivial
    · exact undispatched.mono_reached fun _ _ _ _ _ => trivial
  refine ⟨streamed_parcels runs r, ?_⟩
  intro parcels came
  by_cases unknown : s.callers r = none
  · rw [came.of_unknown runs unknown]
    exact List.nil_sublist _
  · have plugged : Runs Relay.step (fun _ _ c => Relay.Undrained c) (Relay.init capacity router cap) s.relay
          (relayTrace t) ∨
        Runs Relay.step (fun _ _ c => Relay.Driven r c) (Relay.init capacity router cap) s.relay (relayTrace t) := by
      rcases oneWay with undrained | undispatched
      · left
        have plugged := relay_plugs Relay.Undrained (fun _ => True) (fun _ => by simp [Relay.Undrained]) ?_
          (fun _ _ _ _ _ _ _ _ _ _ => trivial) undrained (Or.inl unknown)
        · exact plugged.mono_reached fun _ _ _ _ allowed => allowed.1
        · intro s t a without c relayed isDrain
          cases relayed with
          | other others => exact without (by rw [isDrain])
          | _ => cases isDrain
      · right
        apply relay_plugs Relay.Undispatched Relay.Shipped (fun _ => by simp [Relay.Undispatched]) ?_
          (fun _ _ _ _ _ _ _ _ _ valid => Relay.shipped_of_parsed valid) undispatched (Or.inl unknown)
        intro s t a without c relayed isDispatch
        cases relayed with
        | other others => exact without (by rw [isDispatch])
        | _ => cases isDispatch
    exact came.handed.trans (Relay.parcels_in_order plugged)

theorem streams_in_send_order_heard : ∃ parcels, StreamedFrom 1 heard.2 parcels ∧
    List.Sublist parcels ((busTrace heard.2).filterMap Event.accepted?) ∧
      (parcels.map fun e => (itemOf e).data) = [[1], [4]] := by
  have dispatched : ∀ a ∈ audience, Without .drain a := by simp [audience, Without]
  have runs : Runs (step choosy) (fun _ _ a => Without .drain a) (init 8 .affinity 8) heard.1 heard.2 :=
    runs_outcome_within audience dispatched (by decide +kernel)
  obtain ⟨⟨parcels, came⟩, inOrder⟩ := streams_in_send_order (Or.inl runs) 1
  exact ⟨parcels, came, inOrder parcels came, came.bytes.symm.trans (by decide +kernel)⟩

end Grpc

end Jackfield
