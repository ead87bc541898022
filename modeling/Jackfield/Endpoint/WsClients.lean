/-
# Jackfield.Endpoint.WsClients -- what each client of a WebSocket server gets

The frames of a connection are the envelopes that went to the channel of its call, encoded
(`written_parcels`).  So no message goes to two clients, or twice to one
(`each_client_its_own`); a client gets what the filter in its own `RegisterData` lets through
(`clients_get_what_they_asked_for`); and with a bus driven by `drain` alone, or by `dispatch`
alone, it gets its messages in the order they were sent in (`clients_in_order`).

The relay's rules ask what dimensions channel `k` is plugged in with.  It is connection `k` that
does so, with the dimensions its own first frame asks for, unless its number belongs to
another user of the bus (`Own`, `relay_plugs`).
-/
import Jackfield.Endpoint.Ordering
import Jackfield.Endpoint.Senders
import Jackfield.Endpoint.WsStreams

namespace Jackfield

set_option autoImplicit false
set_option linter.unusedSectionVars false

variable {F I M L : Type}

open Machine
open RelayEvent (handOvers parcelsTo)
open WsEvent (socketOf failsFor)

def sensorOnly : ClientFilter := ⟨⟨none, none, none⟩, ⟨some "sensor", none, none⟩, ⟨none, none, none⟩⟩

def sensorOnlyText : String := "\x7b\"producer\":\x7b\"only\":\"sensor\"\x7d\x7d"

/-- One kind of client asks for messages of one producer, the other for all. -/
def WsEndpoint.choosy : WsEndpoint where
  display := Uuid.hyphenated
  fromStr := readsOnly sensorOnlyText sensorOnly.toJson
  decodeRegisterData b :=
    if b = [0] then some ⟨"choosy", [1], sensorOnlyText⟩ else if b = [1] then some ⟨"open", [1], ""⟩ else none
  decodeItem _ := none
  encodeItem item := item.data

namespace WsServer

variable [F32 F] [Inhabited I] [BoxedMessage M] {endpoint : WsEndpoint} {s s' : WsServer F I M L}
  {a : WsServerAction F I M L} {t es : List (WsEvent F I M)}

/-! ## The first frame -/

/-- What the client of connection `k` has asked for in its first binary frame. -/
def AskedFor (endpoint : WsEndpoint) (t : List (WsEvent F I M)) (k : Nat) (reg : RegisterData) : Prop :=
  ∃ frames rest, socketOf k t = some frames ∧ endpoint.awaitRegister frames = some (reg, rest)

/-- A handshake fails before there are frames. -/
theorem Move.unshaken (move : Move endpoint s a s' es) (k : Nat) :
    es.any (failsFor k) = false ∨ s.phases k = some .accepting := by
  by_cases own : a.handler? = some k
  swap
  · exact Or.inl (WsEvent.frame_of_aside (move.elsewhere own).2).2.2
  have andOne : ∀ (below : List (RelayEvent M)) (b : WsAction F I M),
      (below.map .relay ++ [.acted k b] : List (WsEvent F I M)).any (failsFor k) = false := by
    intro below b
    rw [List.any_append, (WsEvent.relay_frame k below).2.2]
    rfl
  cases move with
  | shook phase =>
      cases own
      exact Or.inr phase
  | submitted phase sending stepped =>
      cases own
      exact Or.inl (andOne _ _)
  | sent phase bussed =>
      cases own
      exact Or.inl (andOne _ _)
  | deregistered phase bussed =>
      cases own
      exact Or.inl (andOne _ _)
  | answered phase reply stepped => exact Or.inl (WsEvent.relay_frame k _).2.2
  | failed phase stepped => exact Or.inl (WsEvent.relay_frame k _).2.2
  | relayed others stepped => exact Or.inl (WsEvent.relay_frame k _).2.2
  | _ => exact Or.inl rfl

/-- What a client has asked for, it has asked for. -/
theorem AskedFor.stays {k : Nat} {reg : RegisterData} (asked : AskedFor endpoint t k reg)
    (conducts : Conducts endpoint s t k) (move : Move endpoint s a s' es) : AskedFor endpoint (t ++ es) k reg := by
  obtain ⟨frames, rest, isSocket, first⟩ := asked
  rcases move.unshaken k with steady | accepting
  · refine ⟨frames ++ es.filterMap (WsEvent.readBy k), _, ?_, endpoint.awaitRegister_append first _⟩
    rw [WsEvent.socketOf_append k t es steady, isSocket]
    rfl
  · rw [Conducts, accepting] at conducts
    cases isSocket.symm.trans conducts.2.1
    cases first

/-! ## Whose number it is -/

/-- Number `k` belongs to a connection, or to nobody yet. -/
def Own (s : WsServer F I M L) (k : Nat) : Prop := s.phases k ≠ none ∨ s.relay.desk.calls k = .unused

theorem Move.unused_before (move : Move endpoint s a s' es) {k : Nat} (unused : s'.relay.desk.calls k = .unused) :
    s.relay.desk.calls k = .unused :=
  move.along (Relay.unused_along k) (fun _ _ => trivial) unused

theorem Move.own_before (move : Move endpoint s a s' es) {k : Nat} (own : Own s' k) : Own s k := by
  rcases own with connected | unused
  · by_cases new : s.phases k = none
    · obtain ⟨phase, connected⟩ := Option.ne_none_iff_exists'.mp connected
      exact Or.inr (move.unused_before (move.begins new connected).2)
    · exact Or.inl new
  · exact Or.inr (move.unused_before unused)

/-- A connection plugs its channel in with what its first frame asks for. -/
theorem Move.plugs (move : Move endpoint s a s' es) {k : Nat} (own : Own s' k)
    (conducts : Conducts endpoint s t k) {c : RelayAction F I M L} (relayed : Relayed endpoint s a c) :
    Relay.Plugs (fun dims => ∃ reg, AskedFor endpoint (t ++ es) k reg ∧
      parseDimensions endpoint.fromStr reg.dimensionsJson = .ok dims) k c := by
  rintro dims rfl
  cases relayed with
  | @plugIn k b uuid reg dims awaiting decoded valid =>
      rw [Conducts, awaiting] at conducts
      obtain ⟨-, ⟨frames, isSocket, skipped⟩, -⟩ := conducts
      have told : es = [.read k (some (.binary b))] := by
        cases move with
        | skipped phase skips => rcases skips with wrong | wrong <;> cases wrong
        | read phase => cases awaiting.symm.trans phase
        | _ => rfl
      refine ⟨reg, ⟨frames ++ [.binary b], [], ?_, ?_⟩, valid⟩
      · rw [told, WsEvent.socketOf_read, isSocket]
        rfl
      · rw [endpoint.awaitRegister_skips skipped]
        simp [WsService.awaitRegister, decoded]
  | other others =>
      -- a call of somebody else's
      cases move with
      | relayed apart stepped =>
          cases Relay.move_of_step stepped with
          | pluggedIn fresh =>
              rcases own with connected | unused
              · exact absurd (others k rfl) connected
              · simp at unused

/-! ## Runs -/

variable {ok : WsServer F I M L → List (WsEvent F I M) → WsServerAction F I M L → Prop} {capacity cap : Nat}
  {router : Router}

/-- **What a run is for the channel of a connection.**  The steps of the relay are such as
`within` allows, if those of the server are, and the channel is plugged in with what its client has
asked for. -/
theorem relay_plugs (within : RelayAction F I M L → Prop) (such : List (DimSpec F I (Stamped M)) → Prop)
    (unplugs : ∀ r, within (.unplug r)) (keeps : ∀ s t a, ok s t a → ∀ c, Relayed endpoint s a c → within c)
    (runs : Runs (step endpoint) ok (init capacity router cap) s t) {k : Nat} (own : Own s k)
    (asks : ∀ reg dims, AskedFor endpoint t k reg → parseDimensions endpoint.fromStr reg.dimensionsJson = .ok dims →
      such dims) :
    Runs Relay.step (fun _ _ c => within c ∧ Relay.Plugs such k c) (Relay.init capacity router cap) s.relay
      (t.filterMap WsEvent.relay?) := by
  apply runs.simulated_while (fun s => s.relay) WsEvent.relay? (fun c => within c ∧ Relay.Plugs such k c)
    (fun s t => Own s k ∧ ∀ reg dims, AskedFor endpoint t k reg →
      parseDimensions endpoint.fromStr reg.dimensionsJson = .ok dims → such dims) ?_ ⟨own, asks⟩
  rintro s t a s' es before allowed stepped ⟨own, asks⟩
  have move := move_of_step stepped
  have conducts := conducts before k
  refine ⟨⟨move.own_before own, fun reg dims asked => asks reg dims (asked.stays conducts move)⟩, ?_⟩
  apply move.along (Relay.Keeps.along fun r => ⟨unplugs r, by simp [Relay.Plugs]⟩)
  refine fun c relayed => ⟨keeps s t a allowed c relayed, ?_⟩
  intro dims isPlugIn
  obtain ⟨reg, asked, valid⟩ := move.plugs own conducts relayed dims isPlugIn
  exact asks reg dims asked valid

/-- A number that belongs to somebody else has no frames. -/
theorem written_of_unknown (runs : Runs (step endpoint) ok (init capacity router cap) s t) {k : Nat}
    (unknown : s.phases k = none) : writtenOn k t = [] := by
  revert unknown
  apply runs.invariant_reached (P := fun s t => s.phases k = none → writtenOn k t = [])
  · exact fun _ => rfl
  · intro s t a s' es before ih _ stepped unknown
    have move := move_of_step stepped
    have was : s.phases k = none := by
      by_contra connected
      obtain ⟨phase, connected⟩ := Option.ne_none_iff_exists'.mp connected
      exact move.stays_connected connected unknown
    rw [writtenOn_append, ih was, List.nil_append]
    apply writtenOn_eq_nil
    intro bytes wrote
    have idle := (passing before k).idle was
    by_cases own : a.task? = some k
    · cases move with
      | @wrote j b task =>
          cases own
          simp [idle, WsOutbound.unspawned] at task
      | _ => simp at wrote
    · have none := (move.tasks_stay own).2
      rw [writtenOn, List.filterMap_eq_nil_iff] at none
      simpa [WsEvent.writtenBy] using none _ wrote

/-- What the trace tells of the bus and its channels. -/
def relayTrace (t : List (WsEvent F I M)) : List (RelayEvent M) := t.filterMap WsEvent.relay?

/-- The frame of an envelope: uuid, labels and bytes of its message, encoded. -/
def frameOf (endpoint : WsEndpoint) (e : Parcel M) : List UInt8 :=
  endpoint.encodeItem
    ⟨(Message.getUuid e.message).bytes, Message.getLabels e.message, Message.getBytes e.message⟩

/-- The envelopes that the frames written on connection `k` are of. -/
def WrittenFrom (endpoint : WsEndpoint) (k : Nat) (t : List (WsEvent F I M)) (parcels : List (Parcel M)) : Prop :=
  RelayEvent.CameThrough (frameOf endpoint) k (relayTrace t) (writtenOn k t) parcels

/-- The frames of a connection are envelopes handed to its channel. -/
theorem written_parcels (runs : Runs (step endpoint) ok (init capacity router cap) s t) (k : Nat) :
    ∃ parcels, WrittenFrom endpoint k t parcels := by
  have written := written_sublist runs k
  rw [handedOn, RelayEvent.handedTo_eq, List.map_map] at written
  obtain ⟨parcels, part, images⟩ := List.sublist_map_iff.mp written
  exact ⟨parcels, Relay.cameThrough (relay_runs runs) part images⟩

/-- Nothing was written from anything for a number that belongs to somebody else. -/
theorem WrittenFrom.of_unknown (runs : Runs (step endpoint) ok (init capacity router cap) s t) {k : Nat}
    (unknown : s.phases k = none) {parcels : List (Parcel M)} (came : WrittenFrom endpoint k t parcels) :
    parcels = [] := by
  have images := came.images
  rw [written_of_unknown runs unknown] at images
  exact List.map_eq_nil_iff.mp images.symm

/-- A client of each kind, two messages of the producer, and two of another; the owner of the bus
calls `drain`. -/
def serving : List (WsServerAction ℚ Unit BaseMessage String) :=
  let bus (a : Action ℚ Unit BaseMessage (Boxed (Plug String))) : WsServerAction ℚ Unit BaseMessage String :=
    .relay (.desk (.world a))
  let numbered (n : UInt8) : BaseMessage := .new none none (some [n])
  let handOver : List (WsServerAction ℚ Unit BaseMessage String) :=
    [.relay (.takeEnvelope World.obliging), .relay (.resume 7)]
  let pass (k : Nat) : List (WsServerAction ℚ Unit BaseMessage String) :=
    [.forward k .receive, .forward k .send, .writer k .receive, .writer k .send]
  [.accept 0, .accept 1, .handshake 0 true, .handshake 1 true, .frame 0 (some (.binary [0])) .nil,
    .frame 1 (some (.binary [1])) .nil, .submit 0, .submit 1, bus (.send ⟨"radio"⟩ (numbered 1)),
    bus (.send ⟨"sensor"⟩ (numbered 2)), bus (.send ⟨"radio"⟩ (numbered 3)), bus (.send ⟨"sensor"⟩ (numbered 4)),
    bus .drain, bus .takeCmd, bus .takeCmd, .answered 0 .nil, .answered 1 .nil, bus .advance, bus .advance] ++
    handOver ++ handOver ++ handOver ++ handOver ++ pass 0 ++ pass 1 ++ pass 1 ++ pass 0

def served : WsServer ℚ Unit BaseMessage String × List (WsEvent ℚ Unit BaseMessage) :=
  outcome (step .choosy) (init 8 .affinity 8) serving

theorem served_runs : Runs (step .choosy) anyStep (init 8 .affinity 8) served.1 served.2 :=
  runs_outcome_any serving (by decide +kernel)

/-- **No message goes to two clients, or twice to one.**  In every interleaving of connections,
tasks, bus and other users of it: the frames written on all the connections are accepted messages,
and no two of them, on one connection or on different ones, are of the same message. -/
theorem each_client_its_own (runs : Runs (step endpoint) anyStep (init capacity router cap) s t) :
    ∃ parcels : Nat → List (Parcel M), (∀ k, WrittenFrom endpoint k t (parcels k)) ∧
      ∀ j k, j ≠ k → ∀ e ∈ parcels j, ∀ e' ∈ parcels k, e.serial ≠ e'.serial := by
  choose parcels came using written_parcels runs
  refine ⟨parcels, came, ?_⟩
  intro j k other
  exact Relay.cameThrough_apart (relay_runs runs) (came j) (came k) other

theorem each_client_its_own_served : ∃ parcels : Nat → List (Parcel BaseMessage),
    (parcels 0).map (frameOf .choosy) = [[2], [4]] ∧ (parcels 1).map (frameOf .choosy) = [[1], [3]] ∧
      (∀ k, WrittenFrom .choosy k served.2 (parcels k)) ∧
      ∀ e ∈ parcels 0, ∀ e' ∈ parcels 1, e.serial ≠ e'.serial := by
  obtain ⟨parcels, came, apart⟩ := each_client_its_own served_runs
  refine ⟨parcels, ?_, ?_, came, apart 0 1 (by decide)⟩
  · exact (came 0).images.symm.trans (by decide +kernel)
  · exact (came 1).images.symm.trans (by decide +kernel)

/-- **A client gets what it has asked for.**  In every interleaving: the messages written on
connection `k` meet what the parser has kept of the filter in the `RegisterData` that came first
on this connection, where that is a text of well-typed JSON. -/
theorem clients_get_what_they_asked_for (runs : Runs (step endpoint) anyStep (init capacity router cap) s t)
    (k : Nat) : (∃ parcels, WrittenFrom endpoint k t parcels) ∧
      ∀ parcels, WrittenFrom endpoint k t parcels → ∀ e ∈ parcels, ∃ reg, AskedFor endpoint t k reg ∧
        ∀ v, reg.dimensionsJson ≠ "" → endpoint.fromStr reg.dimensionsJson = .ok v → v.WellTyped →
          v.filter.kept.Holds (.fromEnvelope e) := by
  refine ⟨written_parcels runs k, ?_⟩
  intro parcels came e member
  by_cases unknown : s.phases k = none
  · rw [came.of_unknown runs unknown] at member
    cases member
  · have plugged := relay_plugs (fun _ => True) (fun dims => ∃ reg, AskedFor endpoint t k reg ∧
        parseDimensions endpoint.fromStr reg.dimensionsJson = .ok dims) (fun _ => trivial)
      (fun _ _ _ _ _ _ => trivial) runs (Or.inl unknown) fun reg dims asked valid => ⟨reg, asked, valid⟩
    have suited := Relay.parcels_asked_for (plugged.mono_reached fun _ _ _ _ allowed => allowed.2) e
      (came.handed.subset member)
    obtain ⟨dims, ⟨reg, asked, valid⟩, entry, registered, kept⟩ := suited
    refine ⟨reg, asked, ?_⟩
    intro v nonempty isJson typed
    obtain ⟨-, rfl⟩ := (typed.parseDimensions_iff nonempty isJson dims).mp valid
    exact (v.filter.hardRejected_iff registered e).mp kept

theorem clients_get_what_they_asked_for_served : writtenOn 0 served.2 = [[2], [4]] ∧
    ∃ parcels, WrittenFrom .choosy 0 served.2 parcels ∧ ∀ e ∈ parcels, sensorOnly.kept.Holds (.fromEnvelope e) := by
  obtain ⟨⟨parcels, came⟩, suited⟩ := clients_get_what_they_asked_for served_runs 0
  refine ⟨by decide +kernel, parcels, came, ?_⟩
  intro e member
  obtain ⟨reg, ⟨frames, rest, isSocket, first⟩, holds⟩ := suited parcels came e member
  have socket : socketOf 0 served.2 = some [.binary [0]] := by decide +kernel
  cases socket.symm.trans isSocket
  cases first
  have isJson : WsEndpoint.choosy.fromStr sensorOnlyText = .ok sensorOnly.toJson :=
    readsOnly_text sensorOnlyText sensorOnly.toJson
  have kept := holds sensorOnly.toJson (by decide) isJson sensorOnly.toJson_wellTyped
  rwa [sensorOnly.filter_toJson] at kept

/-- The owner of the bus does not make this call of it. -/
def Without (call : Action F I M (Boxed (Plug L))) (a : WsServerAction F I M L) : Prop :=
  a ≠ .relay (.desk (.world call))

/-- What is handed to the channel of a connection comes in the order of the sends, if the bus goes one way. -/
theorem channel_in_turn
    (oneWay : Runs (step endpoint) (fun _ _ a => Without .drain a) (init capacity router cap) s t ∨
      Runs (step endpoint) (fun _ _ a => Without .dispatch a) (init capacity router cap) s t) {k : Nat}
    (own : Own s k) : List.Sublist (parcelsTo k (relayTrace t)) ((busTrace t).filterMap Event.accepted?) := by
  have plugged : Runs Relay.step (fun _ _ c => Relay.Undrained c) (Relay.init capacity router cap) s.relay
        (relayTrace t) ∨
      Runs Relay.step (fun _ _ c => Relay.Driven k c) (Relay.init capacity router cap) s.relay (relayTrace t) := by
    rcases oneWay with undrained | undispatched
    · left
      have plugged := relay_plugs Relay.Undrained (fun _ => True) (fun _ => by simp [Relay.Undrained]) ?_ undrained
        own fun _ _ _ _ => trivial
      · exact plugged.mono_reached fun _ _ _ _ allowed => allowed.1
      · intro s t a without c relayed isDrain
        cases relayed with
        | other others => exact without (by rw [isDrain])
        | _ => cases isDrain
    · right
      apply relay_plugs Relay.Undispatched Relay.Shipped (fun _ => by simp [Relay.Undispatched]) ?_ undispatched own
        fun reg dims _ valid => Relay.shipped_of_parsed valid
      intro s t a without c relayed isDispatch
      cases relayed with
      | other others => exact without (by rw [isDispatch])
      | _ => cases isDispatch
  exact Relay.parcels_in_order plugged

/-- **A client gets its messages in the order of their sends**, if the owner of the bus calls only
`dispatch`, or only `drain`, whatever is cancelled, and whatever the other consumers answer and
ask for: the frames written on connection `k` are accepted messages in the order in which they were
accepted. -/
theorem clients_in_order
    (oneWay : Runs (step endpoint) (fun _ _ a => Without .drain a) (init capacity router cap) s t ∨
      Runs (step endpoint) (fun _ _ a => Without .dispatch a) (init capacity router cap) s t) (k : Nat) :
    (∃ parcels, WrittenFrom endpoint k t parcels) ∧
      ∀ parcels, WrittenFrom endpoint k t parcels →
        List.Sublist parcels ((busTrace t).filterMap Event.accepted?) := by
  have runs : Runs (step endpoint) anyStep (init capacity router cap) s t := by
    rcases oneWay with undrained | undispatched
    · exact undrained.mono_reached fun _ _ _ _ _ => trivial
    · exact undispatched.mono_reached fun _ _ _ _ _ => trivial
  refine ⟨written_parcels runs k, ?_⟩
  intro parcels came
  by_cases unknown : s.phases k = none
  · rw [came.of_unknown runs unknown]
    exact List.nil_sublist _
  · exact came.handed.trans (channel_in_turn oneWay (Or.inl unknown))

theorem clients_in_order_served : ∃ parcels, WrittenFrom .choosy 1 served.2 parcels ∧
    List.Sublist parcels ((busTrace served.2).filterMap Event.accepted?) ∧
      parcels.map (frameOf .choosy) = [[1], [3]] := by
  have drained : ∀ a ∈ serving, Without .dispatch a := by simp [serving, Without]
  have runs : Runs (step .choosy) (fun _ _ a => Without .dispatch a) (init 8 .affinity 8) served.1 served.2 :=
    runs_outcome_within serving drained (by decide +kernel)
  obtain ⟨⟨parcels, came⟩, inOrder⟩ := clients_in_order (Or.inr runs) 1
  exact ⟨parcels, came, inOrder parcels came, came.images.symm.trans (by decide +kernel)⟩

end WsServer

end Jackfield
