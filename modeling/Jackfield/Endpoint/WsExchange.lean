/-
# Jackfield.Endpoint.WsExchange -- what one client of a WebSocket server sends another

A connection sends under the handle it has made of its client's name and a drawn identifier.
If nobody else sends under this handle (`HeldBy`), the messages the bus has accepted under it
are those the connection has sent while the bus was there (`accepted_sent`), and those are what
`handle_connection` makes of its frames (`sends_in_frame_order`).  So with a bus driven by
`drain` alone, or by `dispatch` alone, what one client sends another comes in the order of the
frames it was sent in (`exchange_in_order`).
-/
import Jackfield.Endpoint.Passage
import Jackfield.Endpoint.Silence
import Jackfield.Endpoint.WsClients

namespace Jackfield

set_option autoImplicit false
set_option linter.unusedSectionVars false

variable {F I M L : Type}

open Machine
open RelayEvent (parcelsTo)
open WsEvent (actedBy socketOf)

/-- A send of the bus is accepted, and that is all. -/
theorem Relay.Move.accepted_of_send [F32 F] [Message M] {s s' : Relay F I M L} {origin : ProducerId} {message : M}
    {es : List (RelayEvent M)} (move : Relay.Move s (.desk (.world (.send origin message))) s' es) :
    ∃ serial, es.filterMap RelayEvent.bus? = [.accepted ⟨origin, ⟨serial, message⟩⟩] := by
  cases move with
  | @aside _ desk below apart stepped =>
      obtain ⟨-, sent, -, -⟩ := Desk.world_step stepped
      obtain ⟨rx, -, same⟩ := Option.map_eq_some_iff.mp sent
      rw [after_events, ← (Prod.mk.inj same).2]
      exact ⟨_, rfl⟩

/-- What is sent under a name. -/
def WsAction.under (h : ProducerId) (acts : List (WsAction F I M)) : List (ProducerId × M) :=
  (acts.filterMap WsAction.sent?).filter fun sent => sent.1 = h

theorem WsAction.under_append (h : ProducerId) (acts more : List (WsAction F I M)) :
    under h (acts ++ more) = under h acts ++ under h more := by
  rw [under, List.filterMap_append, List.filter_append]
  rfl

/-- Registering and deregistering sends nothing. -/
theorem WsAction.under_visit (h : ProducerId) (dims : List (DimSpec F I (Stamped M))) (acts : List (WsAction F I M))
    (id : Nat) : under h (.register dims :: (acts ++ [.deregister id])) = under h acts := by
  rw [under, List.filterMap_cons_none rfl, List.filterMap_append, List.filterMap_cons_none rfl, List.filterMap_nil,
    List.append_nil]
  rfl

/-- A beginning of what is done begins with what is sent. -/
theorem WsAction.under_of_begins {h : ProducerId} {acts whole : List (WsAction F I M)} (begins : acts <+: whole) :
    under h acts <+: under h whole :=
  (begins.filterMap _).filter _

/-- The handle of a client that is in. -/
def WsPhase.handle? : WsPhase M → Option ProducerId
  | .reading _ producerHandle => producerHandle
  | .sending _ handle _ => some handle
  | _ => none

/-- The connection that may draw an identifier in this step, and the identifier. -/
def WsServerAction.draws? : WsServerAction F I M L → Option (Nat × Uuid)
  | .frame k _ uuid => some (k, uuid)
  | .answered k uuid => some (k, uuid)
  | _ => none

namespace WsService

variable [F32 F] [Inhabited I] [BoxedMessage M] (service : WsService)

/-- Identifiers that are displayed in the same width make different names, whatever comes in front. -/
theorem producerId_apart {uuid uuid' : Uuid} (width : (service.display uuid).length = (service.display uuid').length)
    (different : service.display uuid ≠ service.display uuid') (reg reg' : RegisterData) :
    service.producerId reg uuid ≠ service.producerId reg' uuid' := by
  intro same
  have ends := congrArg String.toList (congrArg ProducerId.name same)
  simp only [producerId, String.toList_append] at ends
  have last := (List.append_inj' ends (by simpa only [String.length_toList] using width)).2
  exact different (String.toList_injective last)

/-- The items in what the socket yields behind the RegisterData. -/
def itemsOf (socket : Option (List Frame)) : List BusableItem :=
  match socket.bind service.awaitRegister with
  | some (_, rest) => service.items rest
  | none => []

/-- A frame changes no handle. -/
theorem handle_inboundFrame {id : Option Nat} {producerHandle : Option ProducerId} {f : Option Frame} {h : ProducerId}
    (holds : (service.inboundFrame id producerHandle f : WsPhase M).handle? = some h) : producerHandle = some h := by
  unfold inboundFrame at holds
  split at holds
  · split at holds
    · exact holds
    · split at holds <;> exact holds
  · exact holds
  · split at holds <;> cases holds

/-- What the second loop sends under a name is items, or nothing. -/
theorem under_inboundLoop (h : ProducerId) (producerHandle : Option ProducerId) (frames : List Frame) :
    WsAction.under h (service.inboundLoop producerHandle frames : List (WsAction F I M)) <+:
      (service.items frames).map fun item => (h, item.toMessage) := by
  cases producerHandle with
  | none =>
      rw [inboundLoop_eq]
      exact List.nil_prefix
  | some origin =>
      rw [WsAction.under, inboundLoop_sent]
      by_cases own : origin = h
      · rw [own, List.filter_eq_self.mpr (by simp)]
      · rw [List.filter_eq_nil_iff.mpr (by simp [own])]
        exact List.nil_prefix

/-- **What a connection sends under a name is items of its client, from the first on.** -/
theorem under_handleConnection (h : ProducerId) (socket : Option (List Frame)) (answer : RegisterAnswer)
    (uuid : Uuid) : WsAction.under h (service.handleConnection socket answer uuid : List (WsAction F I M)) <+:
      (service.itemsOf socket).map fun item => (h, item.toMessage) := by
  cases socket with
  | none => exact List.nil_prefix
  | some source =>
      simp only [handleConnection, itemsOf, Option.bind_some]
      cases service.awaitRegister source with
      | none => exact List.nil_prefix
      | some found =>
          obtain ⟨reg, rest⟩ := found
          simp only
          split
          · exact List.nil_prefix
          · exact service.under_inboundLoop h _ rest
          · rename_i dims producerHandle made
            cases answer with
            | answered id =>
                rw [WsAction.under_visit]
                exact service.under_inboundLoop h _ rest
            | _ => exact List.nil_prefix

end WsService

namespace WsServer

variable [F32 F] [Inhabited I] [BoxedMessage M] {endpoint : WsEndpoint} {s s' : WsServer F I M L}
  {a : WsServerAction F I M L} {t es : List (WsEvent F I M)} {k : Nat} {h : ProducerId}

/-- Nobody but connection `k` sends under this name: no other handler draws its identifier, and no
handle that the owner of the bus gives out has it. -/
structure HeldBy (endpoint : WsEndpoint) (k : Nat) (h : ProducerId) (a : WsServerAction F I M L) : Prop where
  drawn : ∀ j uuid reg, a.draws? = some (j, uuid) → j ≠ k → endpoint.producerId reg uuid ≠ h
  others : ∀ message, a ≠ .relay (.desk (.world (.send h message)))

/-- The envelopes accepted under a name. -/
def acceptedUnder (h : ProducerId) (t : List (WsEvent F I M)) : List (Parcel M) :=
  ((busTrace t).filterMap Event.accepted?).filter fun e => e.origin = h

theorem acceptedUnder_append (h : ProducerId) (t es : List (WsEvent F I M)) :
    acceptedUnder h (t ++ es) = acceptedUnder h t ++ acceptedUnder h es := by
  simp [acceptedUnder, busTrace]

def contentOf (e : Parcel M) : ProducerId × M := (e.origin, e.message.body)

/-! ## Whose handle it is -/

/-- No other connection has this handle. -/
def Apart (k : Nat) (h : ProducerId) (s : WsServer F I M L) : Prop :=
  ∀ j phase, j ≠ k → s.phases j = some phase → phase.handle? ≠ some h

/-- A handle is made of an identifier that its connection draws. -/
theorem producerHandle_eq_some {reg : RegisterData} {uuid : Uuid}
    (made : endpoint.producerHandle reg uuid = some h) : endpoint.producerId reg uuid = h := by
  unfold WsService.producerHandle at made
  split at made
  · exact Option.some.inj made
  · cases made

theorem Apart.step (apart : Apart k h s) (held : HeldBy endpoint k h a) (move : Move endpoint s a s' es) :
    Apart k h s' := by
  intro j phase other now holds
  by_cases own : a.handler? = some j
  swap
  · exact apart j phase other ((move.elsewhere own).1 ▸ now) holds
  cases move with
  | accepted fresh unused =>
      cases own
      simp only [setPhase_phases, if_true, Option.some.injEq] at now
      cases now
      cases holds
  | shook phase' =>
      cases own
      simp only [setPhase_phases, if_true, Option.some.injEq] at now
      split at now <;>
      · cases now
        cases holds
  | skipped phase' skips => exact apart j phase other now holds
  | turnedAway phase' refused =>
      cases own
      simp only [setPhase_phases, if_true, Option.some.injEq] at now
      cases now
      cases holds
  | registering phase' decoded valid consumer stepped =>
      cases own
      simp only [setPhase_phases, if_true, Option.some.injEq] at now
      cases now
      cases holds
  | admitted phase' decoded valid noConsumer =>
      cases own
      simp only [setPhase_phases, if_true, Option.some.injEq] at now
      cases now
      exact held.drawn j _ _ rfl other (producerHandle_eq_some holds)
  | read phase' =>
      cases own
      simp only [setPhase_phases, if_true, Option.some.injEq] at now
      cases now
      exact apart j _ other phase' (endpoint.handle_inboundFrame holds)
  | submitted phase' sending stepped => exact apart j phase other now holds
  | answered phase' reply stepped =>
      cases own
      simp only [setOutbound_phases, setPhase_phases, if_true, Option.some.injEq] at now
      cases now
      exact held.drawn j _ _ rfl other (producerHandle_eq_some holds)
  | failed phase' stepped =>
      cases own
      simp only [setPhase_phases, if_true, Option.some.injEq] at now
      cases now
      cases holds
  | sent phase' bussed =>
      cases own
      simp only [setPhase_phases, if_true, Option.some.injEq] at now
      cases now
      exact apart j _ other phase' holds
  | deregistered phase' bussed =>
      cases own
      simp only [setPhase_phases, if_true, Option.some.injEq] at now
      cases now
      cases holds
  | forwardReceived task stepped => cases own
  | forwardSent task held sent => cases own
  | forwardFailed task gone => cases own
  | forwardOver task empty noSender => cases own
  | writerReceived task front => cases own
  | wrote task => cases own
  | writerFailed task => cases own
  | writerOver task empty noSender => cases own
  | relayed others stepped => cases own

/-! ## What is sent and what is accepted -/

/-- A step of the relay that is no send under this name has nothing accepted under it. -/
theorem acceptedUnder_relay {relay relay' : Relay F I M L} {c : RelayAction F I M L} {below : List (RelayEvent M)}
    (stepped : relay.step c = some (relay', below)) (silent : ∀ message, c ≠ .desk (.world (.send h message))) :
    acceptedUnder h (below.map .relay : List (WsEvent F I M)) = [] := by
  rw [acceptedUnder, busTrace, WsEvent.filterMap_relay, List.filter_eq_nil_iff]
  intro e member own
  have told := Event.mem_filterMap_accepted.mp member
  obtain ⟨told, isIn, isBus⟩ := List.mem_filterMap.mp told
  cases told with
  | bus b =>
      cases isBus
      obtain ⟨message, isSend⟩ := (Relay.move_of_step stepped).send_of_accepted isIn
      exact silent message (of_decide_eq_true own ▸ isSend)
  | _ => cases isBus

/-- What a connection does goes behind what is told of the relay. -/
theorem acted_behind (h : ProducerId) (k j : Nat) (below : List (RelayEvent M)) (b : WsAction F I M) :
    acceptedUnder h (below.map .relay ++ [.acted j b] : List (WsEvent F I M)) =
        acceptedUnder h (below.map .relay : List (WsEvent F I M)) ∧
      (below.map .relay ++ [.acted j b] : List (WsEvent F I M)).filterMap (actedBy k) =
        if j = k then [b] else [] := by
  rw [acceptedUnder_append, List.filterMap_append, (WsEvent.relay_frame k below).2.1]
  refine ⟨List.append_nil _, ?_⟩
  by_cases own : j = k <;> simp [actedBy, own]

/-- What is accepted under a name in a step is what connection `k` sends in it, if the bus is there. -/
structure Accounts (s : WsServer F I M L) (k : Nat) (h : ProducerId) (es : List (WsEvent F I M)) : Prop where
  live : s.relay.desk.closed = false →
    (acceptedUnder h es).map contentOf = WsAction.under h (es.filterMap (actedBy k))
  gone : s.relay.desk.closed = true → acceptedUnder h es = []

theorem Accounts.neither (noEnvelope : acceptedUnder h es = [])
    (noSend : WsAction.under h (es.filterMap (actedBy k)) = []) : Accounts s k h es where
  live _ := by rw [noEnvelope, noSend, List.map_nil]
  gone _ := noEnvelope

/-- A connection that does something else than send. -/
theorem Accounts.commanded {below : List (RelayEvent M)} {j : Nat} {b : WsAction F I M} (noMessage : b.sent? = none)
    (noEnvelope : acceptedUnder h (below.map .relay : List (WsEvent F I M)) = []) :
    Accounts s k h (below.map .relay ++ [.acted j b]) := by
  obtain ⟨envelopes, acts⟩ := acted_behind h k j below b
  apply Accounts.neither
  · rw [envelopes, noEnvelope]
  · rw [acts]
    split
    · rw [WsAction.under, List.filterMap_cons_none noMessage]
      rfl
    · rfl

/-- A step of the relay that is none of a connection. -/
theorem Accounts.beneath {below : List (RelayEvent M)}
    (noEnvelope : acceptedUnder h (below.map .relay : List (WsEvent F I M)) = []) :
    Accounts s k h (below.map .relay) := by
  apply Accounts.neither noEnvelope
  rw [(WsEvent.relay_frame k below).2.1]
  rfl

theorem Move.accounts (move : Move endpoint s a s' es) (held : HeldBy endpoint k h a) (apart : Apart k h s) :
    Accounts s k h es := by
  cases move with
  | submitted phase sending stepped => exact .commanded rfl (acceptedUnder_relay stepped (by simp))
  | answered phase reply stepped => exact .beneath (acceptedUnder_relay stepped (by simp))
  | failed phase stepped => exact .beneath (acceptedUnder_relay stepped (by simp))
  | deregistered phase bussed =>
      apply Accounts.commanded rfl
      cases bussed with
      | gone closed => rfl
      | stepped live stepped => exact acceptedUnder_relay stepped (by simp)
  | relayed others stepped =>
      apply Accounts.beneath
      apply acceptedUnder_relay stepped
      rintro message rfl
      exact held.others message rfl
  | @sent j id handle message relay below phase bussed =>
      obtain ⟨envelopes, acts⟩ := acted_behind h k j below (.send handle message : WsAction F I M)
      cases bussed with
      | gone closed =>
          exact ⟨fun live => absurd (live.symm.trans closed) (by decide), fun _ => envelopes.trans rfl⟩
      | stepped live stepped =>
          refine ⟨fun _ => ?_, fun closed => absurd (live.symm.trans closed) (by decide)⟩
          obtain ⟨serial, told⟩ := (Relay.move_of_step stepped).accepted_of_send
          rw [envelopes, acts, acceptedUnder, busTrace, WsEvent.filterMap_relay, told]
          by_cases own : j = k
          · rw [if_pos own]
            by_cases named : handle = h <;>
              simp [WsAction.under, WsAction.sent?, Event.accepted?, contentOf, named]
          · -- the handle of another connection
            have foreign : handle ≠ h := fun same => apart j _ own phase (by rw [same]; rfl)
            rw [if_neg own]
            simp [WsAction.under, Event.accepted?, foreign]
  | _ => exact .neither rfl rfl

/-! ## Runs -/

variable {ok : WsServer F I M L → List (WsEvent F I M) → WsServerAction F I M L → Prop} {capacity cap : Nat}
  {router : Router}

theorem apart (runs : Runs (step endpoint) (fun _ _ a => HeldBy endpoint k h a) (init capacity router cap) s t) :
    Apart k h s := by
  apply runs.invariant (P := fun s _ => Apart k h s)
  · intro j phase other connected
    cases connected
  · intro s t a s' es apart held stepped
    exact apart.step held (move_of_step stepped)

/-- **What is accepted under a handle is what its connection has sent**, as long as the bus is there, and
after that it is what it sent before. -/
theorem accepted_sent
    (runs : Runs (step endpoint) (fun _ _ a => HeldBy endpoint k h a) (init capacity router cap) s t) :
    (acceptedUnder h t).map contentOf <+: WsAction.under h (t.filterMap (actedBy k)) ∧
      (s.relay.desk.closed = false →
        (acceptedUnder h t).map contentOf = WsAction.under h (t.filterMap (actedBy k))) := by
  apply runs.invariant_reached (P := fun s t =>
    (acceptedUnder h t).map contentOf <+: WsAction.under h (t.filterMap (actedBy k)) ∧
      (s.relay.desk.closed = false →
        (acceptedUnder h t).map contentOf = WsAction.under h (t.filterMap (actedBy k))))
  · exact ⟨List.prefix_rfl, fun _ => rfl⟩
  · intro s t a s' es before ⟨begins, whole⟩ held stepped
    have move := move_of_step stepped
    have accounts := move.accounts held (apart before)
    rw [acceptedUnder_append, List.filterMap_append, WsAction.under_append, List.map_append]
    cases closed : s.relay.desk.closed with
    | false =>
        have same := whole closed
        rw [same, accounts.live closed]
        exact ⟨List.prefix_rfl, fun _ => rfl⟩
    | true =>
        rw [accounts.gone closed, List.map_nil, List.append_nil]
        refine ⟨begins.trans (List.prefix_append _ _), fun opened => ?_⟩
        have was : s.relay.desk.closed = false := move.along Relay.live_along (fun _ _ => trivial) opened
        exact absurd (was.symm.trans closed) (by decide)

/-- A message that was made of an item goes out as `item.relayed`. -/
theorem frames_of_items {parcels : List (Parcel M)} {items : List BusableItem}
    (made : List.Sublist (parcels.map contentOf) (items.map fun item => (h, item.toMessage))) :
    List.Sublist (parcels.map (frameOf endpoint)) (items.map fun item => endpoint.encodeItem item.relayed) := by
  have frames := made.map fun content => endpoint.encodeItem (.ofMessage content.2)
  have relayed : (items.map fun item => endpoint.encodeItem (.ofMessage (item.toMessage : M))) =
      items.map fun item => endpoint.encodeItem item.relayed := by
    apply List.map_congr_left
    intro item _
    rw [item.ofMessage_toMessage]
  rw [List.map_map, List.map_map] at frames
  rw [← relayed]
  exact frames

theorem accepted_items
    (runs : Runs (step endpoint) (fun _ _ a => HeldBy endpoint k h a) (init capacity router cap) s t) :
    (acceptedUnder h t).map contentOf <+:
      (endpoint.itemsOf (socketOf k t)).map fun item => (h, item.toMessage) := by
  have follows := conducts runs k
  rw [Conducts] at follows
  obtain ⟨whole, ⟨answer, uuid, isWhole, -⟩, sofar⟩ := follows.begins
  rw [isWhole] at sofar
  exact ((accepted_sent runs).1.trans (WsAction.under_of_begins sofar)).trans
    (endpoint.under_handleConnection h (socketOf k t) answer uuid)

/-- **The messages of a client are accepted in the order of its frames.**  In every interleaving in which
nobody else sends under handle `h`: what the bus has accepted under it are the items in the frames
of connection `k`, in their order and none of them left out between two others.  As long as the bus is
there it is all that the connection has sent under `h`; and what the connection has done is at any time a
beginning of what `handle_connection` does by itself on these frames, and all of it when it is over. -/
theorem sends_in_frame_order
    (runs : Runs (step endpoint) (fun _ _ a => HeldBy endpoint k h a) (init capacity router cap) s t) :
    (acceptedUnder h t).map contentOf <+: (endpoint.itemsOf (socketOf k t)).map (fun item =>
        (h, BoxedMessage.box ⟨(Uuid.fromSlice item.uuid).getD .nil, item.labels, item.data⟩)) ∧
      (s.relay.desk.closed = false →
        (acceptedUnder h t).map contentOf = WsAction.under h (t.filterMap (actedBy k))) ∧
      ∃ answer uuid, (∀ id, s.relay.desk.calls k = .received id ↔ answer = .answered id) ∧
        t.filterMap (actedBy k) <+: endpoint.handleConnection (socketOf k t) answer uuid ∧
        (s.phases k = some .done →
          t.filterMap (actedBy k) = endpoint.handleConnection (socketOf k t) answer uuid ∧
          (s.relay.desk.closed = false → (acceptedUnder h t).map contentOf =
            WsAction.under h (endpoint.handleConnection (socketOf k t) answer uuid : List (WsAction F I M)))) := by
  have sent := (accepted_sent runs).2
  refine ⟨accepted_items runs, sent, ?_⟩
  have follows := conducts runs k
  rw [Conducts] at follows
  by_cases isOver : s.phases k = some .done
  · rw [isOver] at follows
    obtain ⟨-, answer, uuid, done, known⟩ := follows
    exact ⟨answer, uuid, known, done ▸ List.prefix_rfl, fun _ => ⟨done, fun live => by rw [sent live, done]⟩⟩
  · obtain ⟨whole, ⟨answer, uuid, same, known⟩, begins⟩ := follows.begins
    exact ⟨answer, uuid, known, same ▸ begins, fun ended => absurd ended isOver⟩

/-- **What one client sends another comes as it was sent, and in the order of the frames**, if the owner of
the bus calls only `drain`, or only `dispatch`.  In every such interleaving in which nobody else sends under
handle `h`: the messages under `h` among those written on connection `j` are items of the frames of
connection `k`, each at most once and in their order, as `item.relayed` on the wire. -/
theorem exchange_in_order {call : Action F I M (Boxed (Plug L))} (oneWay : call = .drain ∨ call = .dispatch)
    (runs : Runs (step endpoint) (fun _ _ a => HeldBy endpoint k h a ∧ Without call a) (init capacity router cap)
      s t) (j : Nat) :
    (∃ parcels, WrittenFrom endpoint j t parcels) ∧
      ∀ parcels, WrittenFrom endpoint j t parcels →
        List.Sublist ((parcels.filter fun e => e.origin = h).map (frameOf endpoint))
          ((endpoint.itemsOf (socketOf k t)).map fun item => endpoint.encodeItem item.relayed) := by
  have any : Runs (step endpoint) anyStep (init capacity router cap) s t :=
    runs.mono_reached fun _ _ _ _ _ => trivial
  have held := runs.mono_reached fun _ _ _ _ (allowed : _ ∧ _) => allowed.1
  have turns : Runs (step endpoint) (fun _ _ a => Without .drain a) (init capacity router cap) s t ∨
      Runs (step endpoint) (fun _ _ a => Without .dispatch a) (init capacity router cap) s t := by
    rcases oneWay with rfl | rfl
    · exact Or.inl (runs.mono_reached fun _ _ _ _ (allowed : _ ∧ _) => allowed.2)
    · exact Or.inr (runs.mono_reached fun _ _ _ _ (allowed : _ ∧ _) => allowed.2)
  refine ⟨written_parcels any j, ?_⟩
  intro parcels came
  by_cases unknown : s.phases j = none
  · rw [came.of_unknown any unknown]
    exact List.nil_sublist _
  · have inTurn : List.Sublist (parcels.filter fun e => e.origin = h) (acceptedUnder h t) :=
      (came.handed.trans (channel_in_turn turns (Or.inl unknown))).filter _
    exact frames_of_items ((inTurn.map contentOf).trans (accepted_items held).sublist)

/-! ## A chat -/

def speakerBytes : List UInt8 := [10, 1, 115, 18, 1, 0]
def listenerBytes : List UInt8 := [10, 1, 108, 18, 1, 1]

end WsServer

/-- Two kinds of clients, and items of one byte. -/
def WsEndpoint.chatty : WsEndpoint where
  display := Uuid.hyphenated
  fromStr _ := .error "expected value at line 1 column 1"
  decodeRegisterData b :=
    if b = WsServer.speakerBytes then some ⟨"s", [0], ""⟩
    else if b = WsServer.listenerBytes then some ⟨"l", [1], ""⟩
    else none
  decodeItem
    | [26, 1, n] => some ⟨[], [], [n]⟩
    | _ => none
  encodeItem item := [10, 16] ++ item.uuid ++ [26, 1] ++ item.data

namespace WsServer

def speaker : ProducerId := WsEndpoint.chatty.producerId ⟨"s", [0], ""⟩ (Grpc.drawn 1)

/-- One client sends two items, another listens, and the radio sends too. -/
def chat : List (WsServerAction ℚ Unit BaseMessage String) :=
  let bus (a : Action ℚ Unit BaseMessage (Boxed (Plug String))) : WsServerAction ℚ Unit BaseMessage String :=
    .relay (.desk (.world a))
  let spoken (n : UInt8) : List (WsServerAction ℚ Unit BaseMessage String) :=
    [.frame 0 (some (.binary [26, 1, n])) (Grpc.drawn 1), .send 0]
  let handOver : List (WsServerAction ℚ Unit BaseMessage String) :=
    [.relay (.takeEnvelope World.obliging), .relay (.resume 7), .forward 1 .receive, .forward 1 .send,
      .writer 1 .receive, .writer 1 .send]
  [bus .dispatch, .accept 0, .accept 1, .handshake 0 true, .handshake 1 true,
    .frame 1 (some (.binary listenerBytes)) .nil, .submit 1, bus .takeCmd, .answered 1 .nil,
    .frame 0 (some (.binary speakerBytes)) (Grpc.drawn 1)] ++ spoken 7 ++
    [bus (.send ⟨"radio"⟩ (.new none none (some [9])))] ++ spoken 8 ++ handOver ++ handOver ++ handOver ++
    [.frame 0 none (Grpc.drawn 1)]

def chatted : WsServer ℚ Unit BaseMessage String × List (WsEvent ℚ Unit BaseMessage) :=
  outcome (step .chatty) (init 8 .affinity 8) chat

/-- Only the speaker draws its identifier, and no handle is given out under its name. -/
def heldBySpeaker (a : WsServerAction ℚ Unit BaseMessage String) : Bool :=
  (a.draws?.all fun drew => drew.1 == 0 || drew.2.bytes == Uuid.nil.bytes) &&
    match a with
    | .relay (.desk (.world (.send origin _))) => origin != speaker
    | .relay (.desk (.world .drain)) => false
    | _ => true

theorem chat_held : ∀ a ∈ chat, HeldBy .chatty 0 speaker a ∧ Without .drain a := by
  intro a member
  have all : chat.all heldBySpeaker = true := by decide +kernel
  have passes := List.all_eq_true.mp all a member
  obtain ⟨drew, named⟩ := Bool.and_eq_true_iff.mp passes
  refine ⟨⟨?_, ?_⟩, ?_⟩
  · intro j uuid reg draws other
    rw [draws, Option.all_some, Bool.or_eq_true, beq_iff_eq, beq_iff_eq] at drew
    rcases drew with own | isNil
    · exact absurd own other
    · have same : uuid = .nil := by
        cases uuid
        cases isNil
        rfl
      rw [same]
      exact WsEndpoint.chatty.producerId_apart (by decide +kernel) (by decide +kernel) reg _
  · rintro message rfl
    simp at named
  · rintro rfl
    cases named

theorem chatted_runs : Runs (step .chatty) (fun _ _ a => HeldBy .chatty 0 speaker a ∧ Without .drain a)
    (init 8 .affinity 8) chatted.1 chatted.2 :=
  runs_outcome_within chat chat_held (by decide +kernel)

/-- Both items of the speaker are accepted, in its order, and they are all its connection sends. -/
theorem sends_in_frame_order_chatted :
    (acceptedUnder speaker chatted.2).map contentOf =
        [(speaker, ⟨.nil, [], [7]⟩), (speaker, ⟨.nil, [], [8]⟩)] ∧
      ∃ answer uuid, chatted.2.filterMap (actedBy 0) =
          WsEndpoint.chatty.handleConnection (socketOf 0 chatted.2) answer uuid ∧
        (acceptedUnder speaker chatted.2).map contentOf =
          WsAction.under speaker (WsEndpoint.chatty.handleConnection (socketOf 0 chatted.2) answer uuid :
            List (WsAction ℚ Unit BaseMessage)) := by
  have held := chatted_runs.mono_reached fun _ _ _ _ allowed => allowed.1
  obtain ⟨-, -, answer, uuid, -, -, whole⟩ := sends_in_frame_order held
  obtain ⟨done, sent⟩ := whole rfl
  exact ⟨by decide +kernel, answer, uuid, done, sent (by decide +kernel)⟩

/-- What the listener is sent of the speaker is of its two items. -/
theorem exchange_in_order_chatted : ∃ parcels, WrittenFrom .chatty 1 chatted.2 parcels ∧
    List.Sublist ((parcels.filter fun e => e.origin = speaker).map (frameOf .chatty))
      [[10, 16] ++ List.replicate 16 0 ++ [26, 1, 7], [10, 16] ++ List.replicate 16 0 ++ [26, 1, 8]] := by
  obtain ⟨⟨parcels, came⟩, inOrder⟩ := exchange_in_order (Or.inl rfl) chatted_runs 1
  have items : ((WsEndpoint.chatty.itemsOf (socketOf 0 chatted.2)).map fun item =>
      WsEndpoint.chatty.encodeItem item.relayed) =
      [[10, 16] ++ List.replicate 16 0 ++ [26, 1, 7], [10, 16] ++ List.replicate 16 0 ++ [26, 1, 8]] := by
    decide +kernel
  rw [items] at inOrder
  exact ⟨parcels, came, inOrder parcels came⟩

end WsServer

end Jackfield
