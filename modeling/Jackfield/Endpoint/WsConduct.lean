/-
# Jackfield.Endpoint.WsConduct -- a connection among others does what it does by itself

`handleConnection` gives what one connection does to the bus, from all its frames and
the bus's answer.  In a server its steps lie scattered over the run, and frames, answers
and the other connections come in between.  What they add up to is the same
(`Follows`): at any moment the connection has done a part of what the function gives for
the frames it has read, and what is left of it can be read off its phase.
-/
import Jackfield.Endpoint.WsMoves
import Jackfield.Endpoint.Handovers

namespace Jackfield

set_option autoImplicit false
set_option linter.unusedSectionVars false

variable {F I M L : Type}

open Machine

/-! ## Reading a trace -/

namespace WsEvent

def readBy (k : Nat) : WsEvent F I M → Option Frame
  | .read k' f => if k' = k then f else none
  | _ => none

def actedBy (k : Nat) : WsEvent F I M → Option (WsAction F I M)
  | .acted k' a => if k' = k then some a else none
  | _ => none

/-- The handshake of the connection failed. -/
def failsFor (k : Nat) : WsEvent F I M → Bool
  | .shook k' succeeded => k' == k && !succeeded
  | _ => false

/-- What the socket of the connection has yielded so far. -/
def socketOf (k : Nat) (t : List (WsEvent F I M)) : Option (List Frame) :=
  if t.any (failsFor k) then none else some (t.filterMap (readBy k))

/-- Events that are not of a connection. -/
def asideOf (k : Nat) : WsEvent F I M → Prop
  | .relay _ => True
  | .shook k' _ => k' ≠ k
  | .read k' _ => k' ≠ k
  | .acted k' _ => k' ≠ k
  | .wrote _ _ => True

theorem frame_of_aside {k : Nat} {es : List (WsEvent F I M)} (aside : ∀ e ∈ es, e.asideOf k) :
    es.filterMap (readBy k) = [] ∧ es.filterMap (actedBy k) = [] ∧ es.any (failsFor k) = false := by
  refine ⟨List.filterMap_eq_nil_iff.mpr ?_, List.filterMap_eq_nil_iff.mpr ?_, List.any_eq_false.mpr ?_⟩ <;>
    intro e member <;>
    have apart := aside e member <;>
    cases e <;> simp_all [asideOf, readBy, actedBy, failsFor]

theorem socketOf_append (k : Nat) (t es : List (WsEvent F I M)) (steady : es.any (failsFor k) = false) :
    socketOf k (t ++ es) = (socketOf k t).map (· ++ es.filterMap (readBy k)) := by
  rw [socketOf, socketOf, List.any_append, steady, Bool.or_false, List.filterMap_append]
  split <;> rfl

theorem socketOf_read (k : Nat) (t : List (WsEvent F I M)) (f : Option Frame) :
    socketOf k (t ++ [.read k f]) = (socketOf k t).map (· ++ f.toList) := by
  rw [socketOf_append k t _ rfl]
  cases f <;> simp [readBy]

theorem socketOf_shook (k : Nat) (t : List (WsEvent F I M)) (succeeded : Bool) :
    socketOf k (t ++ [.shook k succeeded]) = if succeeded then socketOf k t else none := by
  cases succeeded with
  | true =>
      rw [socketOf_append k t _ (by simp [failsFor]), List.filterMap_cons_none (by rfl)]
      simp
  | false => simp [socketOf, failsFor]

/-- What is told of the relay is not of the connection. -/
theorem relay_frame (k : Nat) (es : List (RelayEvent M)) :
    (es.map .relay : List (WsEvent F I M)).filterMap (readBy k) = [] ∧
      (es.map .relay : List (WsEvent F I M)).filterMap (actedBy k) = [] ∧
      (es.map .relay : List (WsEvent F I M)).any (failsFor k) = false := by
  apply frame_of_aside
  intro e member
  obtain ⟨told, -, rfl⟩ := List.mem_map.mp member
  trivial

theorem socketOf_relay (k : Nat) (t : List (WsEvent F I M)) (es : List (RelayEvent M)) :
    socketOf k (t ++ es.map .relay) = socketOf k t := by
  obtain ⟨noFrame, -, noShake⟩ := relay_frame (F := F) (I := I) k es
  rw [socketOf_append k t _ noShake, noFrame]
  simp

theorem socketOf_acted (k : Nat) (t : List (WsEvent F I M)) (es : List (RelayEvent M)) (b : WsAction F I M) :
    socketOf k (t ++ (es.map .relay ++ [.acted k b])) = socketOf k t := by
  rw [← List.append_assoc, socketOf_append k _ [.acted k b] rfl, socketOf_relay, List.filterMap_cons_none (by rfl)]
  simp

theorem actedBy_relay (k : Nat) (t : List (WsEvent F I M)) (es : List (RelayEvent M)) :
    (t ++ (es.map .relay : List (WsEvent F I M))).filterMap (actedBy k) = t.filterMap (actedBy k) := by
  rw [List.filterMap_append, (relay_frame (F := F) (I := I) k es).2.1, List.append_nil]

theorem actedBy_acted (k : Nat) (t : List (WsEvent F I M)) (es : List (RelayEvent M)) (b : WsAction F I M) :
    (t ++ (es.map .relay ++ [.acted k b] : List (WsEvent F I M))).filterMap (actedBy k) =
      t.filterMap (actedBy k) ++ [b] := by
  rw [← List.append_assoc, List.filterMap_append, actedBy_relay,
    List.filterMap_cons_some (by rw [actedBy, if_pos rfl]), List.filterMap_nil]

end WsEvent

/-- The connection whose handler takes this step. -/
def WsServerAction.handler? : WsServerAction F I M L → Option Nat
  | .accept k => some k
  | .handshake k _ => some k
  | .frame k _ _ => some k
  | .submit k => some k
  | .answered k _ => some k
  | .failed k => some k
  | .send k => some k
  | .deregister k => some k
  | _ => none

/-- A step aside of a relay is one of its desk. -/
theorem Relay.desk_step [F32 F] [Message M] {s relay : Relay F I M L} {b : DeskAction F I M (Plug L)}
    {es : List (RelayEvent M)} (stepped : s.step (.desk b) = some (relay, es)) :
    ∃ below, s.desk.step b = some (relay.desk, below) := by
  cases move_of_step stepped with
  | aside apart deskStepped =>
      rw [(after_desk ..).1]
      exact ⟨_, deskStepped⟩

/-! ## Frame by frame -/

namespace WsService

variable [F32 F] [Inhabited I] [BoxedMessage M] (service : WsService)

/-- What comes later does not change what the first loop has found. -/
theorem awaitRegister_append {frames rest : List Frame} {reg : RegisterData}
    (first : service.awaitRegister frames = some (reg, rest)) (more : List Frame) :
    service.awaitRegister (frames ++ more) = some (reg, rest ++ more) := by
  obtain ⟨before, b, rfl, skipped, decoded⟩ := (service.awaitRegister_iff ..).mp first
  exact (service.awaitRegister_iff ..).mpr ⟨before, b, by simp, skipped, decoded⟩

theorem awaitRegister_skips {frames : List Frame} (skipped : ∀ f ∈ frames, f = .other ∨ f = .error)
    (more : List Frame) : service.awaitRegister (frames ++ more) = service.awaitRegister more := by
  induction frames with
  | nil => rfl
  | cons f frames ih =>
      have rest := ih fun g member => skipped g (List.mem_cons_of_mem _ member)
      rcases skipped f (List.mem_cons_self ..) with rfl | rfl <;> exact rest

/-- The second loop takes the frames one after the other. -/
theorem inboundLoop_append {frames : List Frame} (goesOn : ∀ f ∈ frames, f.goesOn = true)
    (producerHandle : Option ProducerId) (more : List Frame) :
    (service.inboundLoop producerHandle (frames ++ more) : List (WsAction F I M)) =
      service.inboundLoop producerHandle frames ++ service.inboundLoop producerHandle more := by
  have parts : service.items (frames ++ more) = service.items frames ++ service.items more := by
    rw [items, items, items, List.takeWhile_append_of_pos goesOn, List.takeWhile_eq_self_iff.mpr goesOn,
      List.filterMap_append, List.filterMap_append]
  rw [inboundLoop_eq, inboundLoop_eq, inboundLoop_eq]
  cases producerHandle with
  | none => rfl
  | some origin => simp only [parts, List.map_append]

/-- A connection that has turned nobody in does nothing. -/
theorem handleConnection_of_none {frames : List Frame} (nobody : service.awaitRegister frames = none)
    (answer : RegisterAnswer) (uuid : Uuid) :
    (service.handleConnection (some frames) answer uuid : List (WsAction F I M)) = [] := by
  simp only [handleConnection, nobody]

end WsService

namespace WsServer

open WsEvent (readBy actedBy socketOf)

variable [F32 F] [Inhabited I] [BoxedMessage M] {endpoint : WsEndpoint} {s s' : WsServer F I M L}
  {a : WsServerAction F I M L} {t es : List (WsEvent F I M)}

/-! ## The bus underneath -/

/-- The step of a connection in which its `register` call takes this one. -/
inductive OnBehalf (s : WsServer F I M L) (k : Nat) :
    WsServerAction F I M L → DeskAction F I M (Plug L) → Prop
  | others {a : WsServerAction F I M L} {b : DeskAction F I M (Plug L)} (unknown : s.phases k = none) :
      OnBehalf s k a b
  | call {b : List UInt8} {uuid : Uuid} {dims : List (DimSpec F I (Stamped M))}
      (phase : s.phases k = some .awaiting) : OnBehalf s k (.frame k (some (.binary b)) uuid) (.call k .channel dims)
  | submit {reg : RegisterData} (phase : s.phases k = some (.registering reg)) : OnBehalf s k (.submit k) (.submit k)
  | answered {reg : RegisterData} {uuid : Uuid} (phase : s.phases k = some (.registering reg)) :
      OnBehalf s k (.answered k uuid) (.receive k)
  | failed {reg : RegisterData} (phase : s.phases k = some (.registering reg)) : OnBehalf s k (.failed k) (.fail k)

/-- A step takes one of the desk, on behalf of the call it is about, or none. -/
theorem Move.desk_cases (move : Move endpoint s a s' es) :
    s'.relay.desk = s.relay.desk ∨ ∃ b below, s.relay.desk.step b = some (s'.relay.desk, below) ∧
      ∀ k, b.number? = some k → s.OnBehalf k a b := by
  have through : ∀ {c : RelayAction F I M L} {relay : Relay F I M L} {below : List (RelayEvent M)},
      s.relay.step c = some (relay, below) → s'.relay.desk = relay.desk →
      (∀ r b, c.number? = some r → b.number? = some r → (c = .desk b ∨ ∃ dims, c = .plugIn r dims ∧
        b = .call r .channel dims) → s.OnBehalf r a b) →
      s'.relay.desk = s.relay.desk ∨ ∃ b below, s.relay.desk.step b = some (s'.relay.desk, below) ∧
        ∀ k, b.number? = some k → s.OnBehalf k a b := by
    intro c relay below relayed same own
    rw [same]
    cases Relay.move_of_step relayed with
    | @pluggedIn r dims fresh =>
        refine Or.inr ⟨.call r .channel dims, [], by simp [Desk.step, fresh], ?_⟩
        rintro k isCall
        cases isCall
        exact own r _ rfl rfl (Or.inr ⟨dims, rfl, rfl⟩)
    | routed stepped begun => exact Or.inr ⟨_, _, stepped, fun r none => by cases none⟩
    | resumed elsewhere stepped => exact Or.inr ⟨_, _, stepped, fun r none => by cases none⟩
    | delivered sending live sent stepped => exact Or.inr ⟨_, _, stepped, fun r none => by cases none⟩
    | refused sending gone stepped => exact Or.inr ⟨_, _, stepped, fun r none => by cases none⟩
    | @aside b desk below apart deskStepped =>
        rw [(Relay.after_desk ..).1]
        refine Or.inr ⟨b, below, deskStepped, ?_⟩
        intro k isCall
        have number : (RelayAction.desk b : RelayAction F I M L).number? = some k := by cases b <;> exact isCall
        exact own k b number isCall (Or.inl rfl)
    | _ => exact Or.inl rfl
  have bussed : ∀ {b : Action F I M (Boxed (Plug L))} {relay : Relay F I M L} {below : List (RelayEvent M)},
      Bussed s b relay below → s'.relay.desk = relay.desk →
      s'.relay.desk = s.relay.desk ∨ ∃ b below, s.relay.desk.step b = some (s'.relay.desk, below) ∧
        ∀ k, b.number? = some k → s.OnBehalf k a b := by
    intro b relay below sent same
    cases sent with
    | gone closed => exact Or.inl same
    | stepped live relayed => exact through relayed same fun r b none => by cases none
  cases move with
  | registering phase decoded valid consumer stepped =>
      apply through stepped rfl
      rintro r b isNumber - (wrong | ⟨dims, isPlugIn, rfl⟩)
      · cases wrong
      · cases isNumber
        exact .call phase
  | submitted phase sending stepped =>
      apply through stepped rfl
      rintro r b isNumber - (isDesk | ⟨dims, wrong, -⟩)
      · cases isDesk
        cases isNumber
        exact .submit phase
      · cases wrong
  | answered phase reply stepped =>
      apply through stepped rfl
      rintro r b isNumber - (isDesk | ⟨dims, wrong, -⟩)
      · cases isDesk
        cases isNumber
        exact .answered phase
      · cases wrong
  | failed phase stepped =>
      apply through stepped (Relay.hangUp_desk ..)
      rintro r b isNumber - (isDesk | ⟨dims, wrong, -⟩)
      · cases isDesk
        cases isNumber
        exact .failed phase
      · cases wrong
  | sent phase sent => exact bussed sent rfl
  | deregistered phase sent => exact bussed sent rfl
  | forwardReceived task stepped =>
      cases Relay.move_of_step stepped with
      | received live front => exact Or.inl rfl
  | forwardFailed task gone => exact Or.inl (Relay.hangUp_desk ..)
  | forwardOver task empty noSender => exact Or.inl (Relay.hangUp_desk ..)
  | relayed others stepped =>
      exact through stepped rfl fun r b isNumber _ _ => .others (others r isNumber)
  | _ => exact Or.inl rfl

/-- **What a step does to the call of a connection**: the connection's next step, or the bus
answers it. -/
theorem Move.call_cases (move : Move endpoint s a s' es) {k : Nat} {phase : WsPhase M}
    (connected : s.phases k = some phase) :
    s'.relay.desk.calls k = s.relay.desk.calls k ∨
      (∃ b uuid dims, a = .frame k (some (.binary b)) uuid ∧ phase = .awaiting ∧
        s'.relay.desk.calls k = .sending .channel dims) ∨
      (a = .submit k ∧ s'.relay.desk.calls k = .waiting) ∨
      (∃ id uuid, a = .answered k uuid ∧ s.relay.desk.calls k = .replied id ∧
        s'.relay.desk.calls k = .received id) ∨
      (a = .failed k ∧ (s.relay.desk.calls k).Suspended ∧ s'.relay.desk.calls k = .failed) ∨
      ∃ id, s.relay.desk.calls k = .waiting ∧ s'.relay.desk.calls k = .replied id := by
  rcases move.desk_cases with same | ⟨b, below, stepped, own⟩
  · exact Or.inl (congrArg (fun desk => desk.calls k) same)
  have notOthers : s.phases k ≠ none := by
    rw [connected]
    exact Option.some_ne_none phase
  rcases (Desk.move_of_step stepped).call_cases k with same | ⟨consumer, dims, rfl, unused, now⟩ |
    ⟨rfl, -, now⟩ | ⟨id, rfl, was, now⟩ | ⟨rfl, was, now⟩ | ⟨rfl, was, now⟩ | ⟨id, was, -, now⟩
  · exact Or.inl same
  · cases own k rfl with
    | others unknown => exact absurd unknown notOthers
    | call awaiting =>
        cases connected.symm.trans awaiting
        exact Or.inr (Or.inl ⟨_, _, dims, rfl, rfl, now⟩)
  · cases own k rfl with
    | others unknown => exact absurd unknown notOthers
    | submit registering => exact Or.inr (Or.inr (Or.inl ⟨rfl, now⟩))
  · cases own k rfl with
    | others unknown => exact absurd unknown notOthers
    | answered registering => exact Or.inr (Or.inr (Or.inr (Or.inl ⟨id, _, rfl, was, now⟩)))
  · cases own k rfl with
    | others unknown => exact absurd unknown notOthers
    | failed registering => exact Or.inr (Or.inr (Or.inr (Or.inr (Or.inl ⟨rfl, was, now⟩))))
  · cases own k rfl with
    | others unknown => exact absurd unknown notOthers
  · exact Or.inr (Or.inr (Or.inr (Or.inr (Or.inr ⟨id, was, now⟩))))

/-- The other connections see nothing of a step. -/
theorem Move.elsewhere (move : Move endpoint s a s' es) {k : Nat} (other : a.handler? ≠ some k) :
    s'.phases k = s.phases k ∧ ∀ e ∈ es, e.asideOf k := by
  have apart : ∀ {j : Nat}, (some j : Option Nat) ≠ some k → k ≠ j := by
    rintro j different rfl
    exact different rfl
  have relayOnly : ∀ below : List (RelayEvent M), ∀ e ∈ (below.map .relay : List (WsEvent F I M)), e.asideOf k := by
    intro below e member
    obtain ⟨told, -, rfl⟩ := List.mem_map.mp member
    trivial
  have andOne : ∀ (below : List (RelayEvent M)) {j : Nat} {b : WsAction F I M}, j ≠ k →
      ∀ e ∈ (below.map .relay ++ [.acted j b] : List (WsEvent F I M)), e.asideOf k := by
    intro below j b different e member
    rcases List.mem_append.mp member with told | acted
    · exact relayOnly below e told
    · rw [List.mem_singleton.mp acted]
      exact different
  cases move with
  | accepted fresh unused => exact ⟨by simp [apart other], by simp⟩
  | shook phase => exact ⟨by simp [apart other], by simpa [WsEvent.asideOf] using (apart other).symm⟩
  | skipped phase skips => exact ⟨rfl, by simpa [WsEvent.asideOf] using (apart other).symm⟩
  | turnedAway phase refused => exact ⟨by simp [apart other], by simpa [WsEvent.asideOf] using (apart other).symm⟩
  | registering phase decoded valid consumer stepped =>
      exact ⟨by simp [apart other], by simpa [WsEvent.asideOf] using (apart other).symm⟩
  | admitted phase decoded valid noConsumer =>
      exact ⟨by simp [apart other], by simpa [WsEvent.asideOf] using (apart other).symm⟩
  | read phase => exact ⟨by simp [apart other], by simpa [WsEvent.asideOf] using (apart other).symm⟩
  | submitted phase sending stepped => exact ⟨rfl, andOne _ (apart other).symm⟩
  | answered phase reply stepped => exact ⟨by simp [apart other], relayOnly _⟩
  | failed phase stepped => exact ⟨by simp [apart other], relayOnly _⟩
  | sent phase bussed => exact ⟨by simp [apart other], andOne _ (apart other).symm⟩
  | deregistered phase bussed => exact ⟨by simp [apart other], andOne _ (apart other).symm⟩
  | relayed others stepped => exact ⟨rfl, relayOnly _⟩
  | _ => exact ⟨rfl, by simp [WsEvent.asideOf]⟩

/-! ## What a connection has done -/

/-- It has a client: what it has done up to now, and its handle, if the frames are `socket`. -/
inductive Underway (endpoint : WsEndpoint) (id : Option Nat) (socket : Option (List Frame))
    (acts : List (WsAction F I M)) : Option ProducerId → Prop
  | mk {frames rest : List Frame} {reg : RegisterData} {dims : List (DimSpec F I (Stamped M))} {uuid : Uuid}
      (isSocket : socket = some frames) (first : endpoint.awaitRegister frames = some (reg, rest))
      (valid : parseDimensions endpoint.fromStr reg.dimensionsJson = .ok dims)
      (role : id.isSome ↔ EndpointType.consumer ∈ reg.type) (goesOn : ∀ f ∈ rest, f.goesOn = true)
      (done : acts = (if id.isSome then [.register dims] else []) ++
        endpoint.inboundLoop (endpoint.producerHandle reg uuid) rest) :
      Underway endpoint id socket acts (endpoint.producerHandle reg uuid)

/-- What a connection is still to do for the bus, if its client is gone. -/
def owed (id : Option Nat) : List (WsAction F I M) := id.toList.map .deregister

/-- The connection has done all there is to do, given the frames and the bus's answer. -/
def Whole (endpoint : WsEndpoint) (call : Call F I M (Plug L)) (socket : Option (List Frame))
    (acts : List (WsAction F I M)) : Prop :=
  ∃ answer uuid, acts = endpoint.handleConnection socket answer uuid ∧
    ∀ id, call = .received id ↔ answer = .answered id

/-- The call of a connection whose consumer has this id, or that has none. -/
def callOf (id : Option Nat) : Call F I M (Plug L) :=
  match id with
  | some id => .received id
  | none => .unused

/-- The call was not made, or has returned. -/
def Settled (call : Call F I M (Plug L)) : Prop := call = .unused ∨ call = .failed ∨ ∃ id, call = .received id

def Follows (endpoint : WsEndpoint) (call : Call F I M (Plug L)) (socket : Option (List Frame))
    (acts : List (WsAction F I M)) : Option (WsPhase M) → Prop
  | none => socket = some [] ∧ acts = []
  | some .accepting => call = .unused ∧ socket = some [] ∧ acts = []
  | some .awaiting =>
      call = .unused ∧ (∃ frames, socket = some frames ∧ ∀ f ∈ frames, f = .other ∨ f = .error) ∧ acts = []
  | some (.registering reg) =>
      ∃ frames dims, socket = some frames ∧ endpoint.awaitRegister frames = some (reg, []) ∧
        parseDimensions endpoint.fromStr reg.dimensionsJson = .ok dims ∧ EndpointType.consumer ∈ reg.type ∧
        (call = .sending .channel dims ∧ acts = [] ∨
          (call = .waiting ∨ ∃ id, call = .replied id) ∧ acts = [.register dims])
  | some (.reading id producerHandle) => call = callOf id ∧ Underway endpoint id socket acts producerHandle
  | some (.sending id handle message) =>
      call = callOf id ∧ Underway endpoint id socket (acts ++ [.send handle message]) (some handle)
  | some (.leaving id) => call = callOf (some id) ∧ Whole endpoint call socket (acts ++ owed (some id))
  | some .done => Settled call ∧ Whole endpoint call socket acts

/-- When its client is gone, a connection is done but for the `Deregister` command. -/
theorem whole_of_ended {id : Option Nat} {frames rest : List Frame} {reg : RegisterData}
    {dims : List (DimSpec F I (Stamped M))} {uuid : Uuid} {acts : List (WsAction F I M)}
    (first : endpoint.awaitRegister frames = some (reg, rest))
    (valid : parseDimensions endpoint.fromStr reg.dimensionsJson = .ok dims)
    (role : id.isSome ↔ EndpointType.consumer ∈ reg.type)
    (done : acts = (if id.isSome then [.register dims] else []) ++
      endpoint.inboundLoop (endpoint.producerHandle reg uuid) rest) :
    Whole endpoint (callOf id : Call F I M (Plug L)) (some frames) (acts ++ owed id) := by
  cases id with
  | none =>
      have noConsumer : EndpointType.consumer ∉ reg.type := fun isIn => by simpa using role.mpr isIn
      refine ⟨.unsent, uuid, ?_, fun id => by simp [callOf]⟩
      rw [done]
      simp [WsService.handleConnection, first, WsService.welcome, valid, noConsumer, owed]
  | some id =>
      have consumer : EndpointType.consumer ∈ reg.type := role.mp rfl
      refine ⟨.answered id, uuid, ?_, ?_⟩
      · rw [done]
        simp [WsService.handleConnection, first, WsService.welcome, valid, consumer, owed]
      · intro id'
        simp [callOf]

/-- The second loop ends. -/
theorem follows_ended {id : Option Nat} {socket : Option (List Frame)} {acts : List (WsAction F I M)}
    {producerHandle : Option ProducerId} {f : Option Frame} (ends : f = none ∨ f = some .close ∨ f = some .error)
    (whole : Whole endpoint (callOf id : Call F I M (Plug L)) socket (acts ++ owed id)) :
    Follows endpoint (callOf id : Call F I M (Plug L)) socket acts
      (some (endpoint.inboundFrame id producerHandle f)) := by
  cases id with
  | none =>
      rw [owed, Option.toList_none, List.map_nil, List.append_nil] at whole
      rcases ends with rfl | rfl | rfl <;> exact ⟨Or.inl rfl, whole⟩
  | some id => rcases ends with rfl | rfl | rfl <;> exact ⟨rfl, whole⟩

/-- **A frame, or the end, comes to the second loop.** -/
theorem Underway.next {id : Option Nat} {socket : Option (List Frame)} {acts : List (WsAction F I M)}
    {producerHandle : Option ProducerId} (underway : Underway endpoint id socket acts producerHandle)
    (f : Option Frame) :
    Follows endpoint (callOf id : Call F I M (Plug L)) (socket.map (· ++ f.toList)) acts
      (some (endpoint.inboundFrame id producerHandle f)) := by
  cases underway with
  | @mk frames rest reg dims uuid isSocket first valid role goesOn done =>
      subst isSocket
      -- what the loop gives for the frames and this one
      have extended (g : Frame) := endpoint.inboundLoop_append (F := F) (I := I) (M := M) goesOn
        (endpoint.producerHandle reg uuid) [g]
      have ended (g : Frame) (last : (endpoint.inboundLoop (endpoint.producerHandle reg uuid) [g] :
          List (WsAction F I M)) = []) :
          Whole endpoint (callOf id : Call F I M (Plug L)) (some (frames ++ [g])) (acts ++ owed id) := by
        apply whole_of_ended (endpoint.awaitRegister_append first [g]) valid role
        rw [extended, last, List.append_nil]
        exact done
      have onward (g : Frame) (more : List (WsAction F I M)) (goes : g.goesOn = true)
          (adds : endpoint.inboundLoop (endpoint.producerHandle reg uuid) [g] = more) :
          Underway endpoint id (some (frames ++ [g])) (acts ++ more) (endpoint.producerHandle reg uuid) := by
        refine .mk rfl (endpoint.awaitRegister_append first [g]) valid role ?_ ?_
        · intro g' member
          rcases List.mem_append.mp member with old | new
          · exact goesOn g' old
          · rw [List.mem_singleton.mp new]
            exact goes
        · rw [extended, adds, done, List.append_assoc]
      have stays (g : Frame) (goes : g.goesOn = true)
          (adds : (endpoint.inboundLoop (endpoint.producerHandle reg uuid) [g] : List (WsAction F I M)) = []) :
          Underway endpoint id (some (frames ++ [g])) acts (endpoint.producerHandle reg uuid) := by
        have next := onward g [] goes adds
        rwa [List.append_nil] at next
      match f with
      | none =>
          rw [Option.toList_none, Option.map_some, List.append_nil]
          exact follows_ended (Or.inl rfl) (whole_of_ended first valid role done)
      | some .close => exact follows_ended (Or.inr (Or.inl rfl)) (ended .close rfl)
      | some .error => exact follows_ended (Or.inr (Or.inr rfl)) (ended .error rfl)
      | some .other => exact ⟨rfl, stays .other rfl rfl⟩
      | some (.binary b) =>
          cases handle : endpoint.producerHandle reg uuid with
          | none =>
              have next := stays (.binary b) rfl (by simp [handle, WsService.inboundLoop])
              rw [handle] at next
              exact ⟨rfl, next⟩
          | some origin =>
              cases decoded : endpoint.decodeItem b with
              | none =>
                  have next := stays (.binary b) rfl (by simp [handle, WsService.inboundLoop, decoded])
                  rw [handle] at next
                  simp only [WsService.inboundFrame, decoded]
                  exact ⟨rfl, next⟩
              | some item =>
                  have next := onward (.binary b) [.send origin item.toMessage] rfl
                    (by simp [handle, WsService.inboundLoop, decoded])
                  rw [handle] at next
                  simp only [WsService.inboundFrame, decoded]
                  exact ⟨rfl, next⟩

/-- The answer of the bus, or nothing, comes to the call of a connection. -/
theorem Follows.answer {call call' : Call F I M (Plug L)} {socket : Option (List Frame)}
    {acts : List (WsAction F I M)} {phase : WsPhase M} (follows : Follows endpoint call socket acts (some phase))
    (answer : call' = call ∨ ∃ id, call = .waiting ∧ call' = .replied id) :
    Follows endpoint call' socket acts (some phase) := by
  rcases answer with rfl | ⟨id, rfl, rfl⟩
  · exact follows
  have notThere : ∀ {id : Option Nat}, (.waiting : Call F I M (Plug L)) ≠ callOf id := by
    intro id
    cases id <;> simp [callOf]
  cases phase with
  | registering reg =>
      obtain ⟨frames, dims, isSocket, first, valid, consumer, ⟨wrong, -⟩ | ⟨-, done⟩⟩ := follows
      · cases wrong
      · exact ⟨frames, dims, isSocket, first, valid, consumer, Or.inr ⟨Or.inr ⟨id, rfl⟩, done⟩⟩
  | accepting => cases follows.1
  | awaiting => cases follows.1
  | reading id producerHandle => exact absurd follows.1 notThere
  | sending id handle message => exact absurd follows.1 notThere
  | leaving id => exact absurd follows.1 notThere
  | done =>
      rcases follows.1 with wrong | wrong | ⟨id, wrong⟩ <;> cases wrong

/-! ## Whole runs -/

/-- How connection `k` stands, after `t`. -/
def Conducts (endpoint : WsEndpoint) (s : WsServer F I M L) (t : List (WsEvent F I M)) (k : Nat) : Prop :=
  Follows endpoint (s.relay.desk.calls k) (socketOf k t) (t.filterMap (actedBy k)) (s.phases k)

theorem Conducts.elsewhere {k : Nat} (conducts : Conducts endpoint s t k) (move : Move endpoint s a s' es)
    (other : a.handler? ≠ some k) : Conducts endpoint s' (t ++ es) k := by
  obtain ⟨samePhase, aside⟩ := move.elsewhere other
  obtain ⟨noFrame, noAct, noShake⟩ := WsEvent.frame_of_aside aside
  have sameSocket : socketOf k (t ++ es) = socketOf k t := by
    rw [WsEvent.socketOf_append k t es noShake, noFrame]
    simp
  rw [Conducts, samePhase, sameSocket, List.filterMap_append, noAct, List.append_nil]
  cases connected : s.phases k with
  | none =>
      rw [Conducts, connected] at conducts
      exact conducts
  | some phase =>
      rw [Conducts, connected] at conducts
      apply conducts.answer
      rcases move.call_cases connected with same | ⟨b, uuid, dims, rfl, -⟩ | ⟨rfl, -⟩ | ⟨id, uuid, rfl, -⟩ |
        ⟨rfl, -⟩ | ⟨id, waiting, replied⟩
      · exact Or.inl same
      · exact absurd rfl other
      · exact absurd rfl other
      · exact absurd rfl other
      · exact absurd rfl other
      · exact Or.inr ⟨id, waiting, replied⟩

/-- The call of a connection that is not waiting for the bus stays as it is. -/
theorem Move.call_stays (move : Move endpoint s a s' es) {k : Nat} {phase : WsPhase M}
    (connected : s.phases k = some phase) (own : a = .send k ∨ a = .deregister k)
    (answered : s.relay.desk.calls k ≠ .waiting) : s'.relay.desk.calls k = s.relay.desk.calls k := by
  rcases move.call_cases connected with same | ⟨b, uuid, dims, rfl, -⟩ | ⟨rfl, -⟩ | ⟨id, uuid, rfl, -⟩ |
    ⟨rfl, -⟩ | ⟨id, waiting, -⟩
  · exact same
  · rcases own with wrong | wrong <;> cases wrong
  · rcases own with wrong | wrong <;> cases wrong
  · rcases own with wrong | wrong <;> cases wrong
  · rcases own with wrong | wrong <;> cases wrong
  · exact absurd waiting answered

theorem callOf_ne_waiting (id : Option Nat) : (callOf id : Call F I M (Plug L)) ≠ .waiting := by
  cases id <;> simp [callOf]

theorem Conducts.step {k : Nat} (conducts : Conducts endpoint s t k) (move : Move endpoint s a s' es) :
    Conducts endpoint s' (t ++ es) k := by
  by_cases own : a.handler? = some k
  swap
  · exact conducts.elsewhere move own
  have whole := move
  cases move with
  | accepted fresh unused =>
      cases own
      rw [Conducts, fresh] at conducts
      simp only [Conducts, setPhase_phases, setPhase_relay, if_true, List.append_nil]
      exact ⟨unused, conducts⟩
  | @shook k succeeds phase =>
      cases own
      rw [Conducts, phase] at conducts
      obtain ⟨unused, isSocket, nothing⟩ := conducts
      simp only [Conducts, setPhase_phases, setPhase_relay, if_true, WsEvent.socketOf_shook, List.filterMap_append,
        nothing, isSocket]
      cases succeeds with
      | true => exact ⟨unused, ⟨[], rfl, by simp⟩, rfl⟩
      | false => exact ⟨Or.inl unused, .unsent, .nil, rfl, fun id => by simp [unused]⟩
  | @skipped k f uuid phase skips =>
      cases own
      rw [Conducts, phase] at conducts
      obtain ⟨unused, ⟨frames, isSocket, skipped⟩, nothing⟩ := conducts
      simp only [Conducts, phase, WsEvent.socketOf_read, List.filterMap_append, nothing, isSocket]
      refine ⟨unused, ⟨frames ++ [f], rfl, ?_⟩, rfl⟩
      intro g member
      rcases List.mem_append.mp member with old | new
      · exact skipped g old
      · rw [List.mem_singleton.mp new]
        exact skips
  | @turnedAway k f uuid phase refused =>
      cases own
      rw [Conducts, phase] at conducts
      obtain ⟨unused, ⟨frames, isSocket, skipped⟩, nothing⟩ := conducts
      simp only [Conducts, setPhase_phases, setPhase_relay, if_true, WsEvent.socketOf_read, List.filterMap_append,
        nothing, isSocket]
      refine ⟨Or.inl unused, .unsent, .nil, ?_, fun id => by simp [unused]⟩
      have onward := endpoint.awaitRegister_skips skipped f.toList
      cases refused with
      | ended =>
          rw [Option.map_some, endpoint.handleConnection_of_none onward]
          rfl
      | closed =>
          rw [Option.map_some, endpoint.handleConnection_of_none onward]
          rfl
      | @undecoded b garbage =>
          have nobody : endpoint.awaitRegister (frames ++ (some (Frame.binary b)).toList) = none := by
            rw [onward]
            simp [WsService.awaitRegister, garbage]
          rw [Option.map_some, endpoint.handleConnection_of_none nobody]
          rfl
      | @unparsed b reg status decoded invalid =>
          have found : endpoint.awaitRegister (frames ++ (some (Frame.binary b)).toList) = some (reg, []) := by
            rw [onward]
            simp [WsService.awaitRegister, decoded]
          simp only [Option.map_some, WsService.handleConnection, found, WsService.welcome, invalid]
          rfl
  | @registering k b uuid reg dims relay phase decoded valid consumer stepped =>
      cases own
      rw [Conducts, phase] at conducts
      obtain ⟨unused, ⟨frames, isSocket, skipped⟩, nothing⟩ := conducts
      have sending : relay.desk.calls k = .sending .channel dims := by
        cases Relay.move_of_step stepped with
        | pluggedIn fresh => simp
      simp only [Conducts, setPhase_phases, setPhase_relay, if_true, WsEvent.socketOf_read, List.filterMap_append,
        nothing, isSocket, sending]
      refine ⟨frames ++ [.binary b], dims, rfl, ?_, valid, consumer, Or.inl ⟨rfl, rfl⟩⟩
      rw [endpoint.awaitRegister_skips skipped]
      simp [WsService.awaitRegister, decoded]
  | @admitted k b uuid reg dims phase decoded valid noConsumer =>
      cases own
      rw [Conducts, phase] at conducts
      obtain ⟨unused, ⟨frames, isSocket, skipped⟩, nothing⟩ := conducts
      simp only [Conducts, setPhase_phases, setPhase_relay, if_true, WsEvent.socketOf_read, List.filterMap_append,
        nothing, isSocket]
      have found : endpoint.awaitRegister (frames ++ [.binary b]) = some (reg, []) := by
        rw [endpoint.awaitRegister_skips skipped]
        simp [WsService.awaitRegister, decoded]
      exact ⟨unused, .mk rfl found valid (by simp [noConsumer]) (by simp) rfl⟩
  | @read k f uuid id producerHandle phase =>
      cases own
      rw [Conducts, phase] at conducts
      obtain ⟨isCall, underway⟩ := conducts
      have next := underway.next (F := F) (I := I) (L := L) f
      simp only [Conducts, setPhase_phases, setPhase_relay, if_true, WsEvent.socketOf_read, List.filterMap_append,
        isCall]
      rw [← List.append_nil (t.filterMap (actedBy k))] at next
      exact next
  | @submitted k reg consumer dims relay below phase sending stepped =>
      cases own
      rw [Conducts, phase, sending] at conducts
      obtain ⟨frames, dims', isSocket, first, valid, isConsumer, ⟨isCall, nothing⟩ | ⟨wrong | ⟨id, wrong⟩, -⟩⟩ := conducts
      · cases isCall
        have waiting : relay.desk.calls k = .waiting := by
          obtain ⟨deskEvents, deskStepped⟩ := Relay.desk_step stepped
          have moved := Desk.move_of_step deskStepped
          generalize relay.desk = after at moved
          cases moved with
          | submitted sending live sent queued => simp
        simp only [Conducts, phase, waiting, WsEvent.socketOf_acted, WsEvent.actedBy_acted, nothing]
        exact ⟨frames, dims, isSocket, first, valid, isConsumer, Or.inr ⟨Or.inl rfl, rfl⟩⟩
      · cases wrong
      · cases wrong
  | @answered k id uuid reg relay below phase reply stepped =>
      cases own
      rw [Conducts, phase, reply] at conducts
      obtain ⟨frames, dims, isSocket, first, valid, isConsumer, ⟨wrong, -⟩ | ⟨-, done⟩⟩ := conducts
      · cases wrong
      · have received : relay.desk.calls k = .received id := by
          obtain ⟨deskEvents, deskStepped⟩ := Relay.desk_step stepped
          have moved := Desk.move_of_step deskStepped
          generalize relay.desk = after at moved
          cases moved with
          | received answer =>
              cases reply.symm.trans answer
              simp
        simp only [Conducts, setOutbound_phases, setOutbound_relay, setPhase_phases, setPhase_relay, if_true,
          WsEvent.socketOf_relay, WsEvent.actedBy_relay, received]
        exact ⟨rfl, .mk isSocket first valid (by simp [isConsumer]) (by simp) done⟩
  | @failed k reg relay below phase stepped =>
      cases own
      rw [Conducts, phase] at conducts
      obtain ⟨frames, dims, isSocket, first, valid, isConsumer, done⟩ := conducts
      obtain ⟨deskEvents, deskStepped⟩ := Relay.desk_step stepped
      simp only [Conducts, setPhase_phases, setPhase_relay, if_true, WsEvent.socketOf_relay, WsEvent.actedBy_relay,
        Relay.dropReceiver, Relay.hangUp_desk, isSocket]
      have moved := Desk.move_of_step deskStepped
      generalize relay.desk = after at moved ⊢
      cases moved with
      | failed suspended closed =>
          have unsent : (endpoint.handleConnection (some frames) .unsent .nil : List (WsAction F I M)) = [] := by
            simp [WsService.handleConnection, first, WsService.welcome, valid, isConsumer]
          have unanswered : (endpoint.handleConnection (some frames) .unanswered .nil : List (WsAction F I M)) =
              [.register dims] := by
            simp [WsService.handleConnection, first, WsService.welcome, valid, isConsumer]
          refine ⟨Or.inr (Or.inl (by simp)), ?_⟩
          rcases done with ⟨-, nothing⟩ | ⟨-, registered⟩
          · exact ⟨.unsent, .nil, nothing.trans unsent.symm, fun id => by simp⟩
          · exact ⟨.unanswered, .nil, registered.trans unanswered.symm, fun id => by simp⟩
  | @sent k id handle message relay below phase bussed =>
      cases own
      rw [Conducts, phase] at conducts
      obtain ⟨isCall, underway⟩ := conducts
      have stays := whole.call_stays phase (Or.inl rfl) (by rw [isCall]; exact callOf_ne_waiting id)
      rw [Conducts, stays, isCall]
      simp only [setPhase_phases, if_true, WsEvent.socketOf_acted, WsEvent.actedBy_acted]
      exact ⟨rfl, underway⟩
  | @deregistered k id relay below phase bussed =>
      cases own
      rw [Conducts, phase] at conducts
      obtain ⟨isCall, done⟩ := conducts
      have stays := whole.call_stays phase (Or.inr rfl) (by rw [isCall]; exact callOf_ne_waiting _)
      rw [Conducts, stays]
      simp only [setPhase_phases, if_true, WsEvent.socketOf_acted, WsEvent.actedBy_acted]
      exact ⟨Or.inr (Or.inr ⟨id, isCall⟩), done⟩
  | forwardReceived task stepped => cases own
  | forwardSent task held sent => cases own
  | forwardFailed task gone => cases own
  | forwardOver task empty noSender => cases own
  | writerReceived task front => cases own
  | wrote task => cases own
  | writerFailed task => cases own
  | writerOver task empty noSender => cases own
  | relayed others stepped => cases own

variable {ok : WsServer F I M L → List (WsEvent F I M) → WsServerAction F I M L → Prop} {capacity cap : Nat}
  {router : Router}

theorem conducts (runs : Runs (step endpoint) ok (init capacity router cap) s t) (k : Nat) :
    Conducts endpoint s t k := by
  apply runs.invariant (P := fun s t => Conducts endpoint s t k)
  · exact ⟨rfl, rfl⟩
  · intro s t a s' es conducts _ stepped
    exact conducts.step (move_of_step stepped)

/-- What a connection has done is the beginning of something whole. -/
theorem Follows.begins {call : Call F I M (Plug L)} {socket : Option (List Frame)} {acts : List (WsAction F I M)}
    {phase : Option (WsPhase M)} (follows : Follows endpoint call socket acts phase) :
    ∃ whole, Whole endpoint call socket whole ∧ acts <+: whole := by
  cases phase with
  | none =>
      obtain ⟨rfl, rfl⟩ := follows
      cases call with
      | received id => exact ⟨[], ⟨.answered id, .nil, rfl, fun id' => by simp⟩, List.prefix_rfl⟩
      | _ => exact ⟨[], ⟨.unsent, .nil, rfl, fun id' => by simp⟩, List.prefix_rfl⟩
  | some phase =>
      cases phase with
      | accepting =>
          obtain ⟨rfl, rfl, rfl⟩ := follows
          exact ⟨[], ⟨.unsent, .nil, rfl, fun id' => by simp⟩, List.prefix_rfl⟩
      | awaiting =>
          obtain ⟨rfl, ⟨frames, rfl, skipped⟩, rfl⟩ := follows
          refine ⟨[], ⟨.unsent, .nil, ?_, fun id' => by simp⟩, List.prefix_rfl⟩
          have nobody : endpoint.awaitRegister frames = none := by
            have onward := endpoint.awaitRegister_skips skipped []
            rwa [List.append_nil] at onward
          exact (endpoint.handleConnection_of_none nobody ..).symm
      | registering reg =>
          obtain ⟨frames, dims, rfl, first, valid, consumer, done⟩ := follows
          refine ⟨endpoint.handleConnection (some frames) .unanswered .nil, ⟨.unanswered, .nil, rfl, ?_⟩, ?_⟩
          · intro id
            rcases done with ⟨rfl, -⟩ | ⟨rfl | ⟨id', rfl⟩, -⟩ <;> simp
          · have whole : (endpoint.handleConnection (some frames) .unanswered .nil : List (WsAction F I M)) =
                [.register dims] := by
              simp [WsService.handleConnection, first, WsService.welcome, valid, consumer]
            rw [whole]
            rcases done with ⟨-, rfl⟩ | ⟨-, rfl⟩
            · exact List.nil_prefix
            · exact List.prefix_rfl
      | reading id producerHandle =>
          obtain ⟨rfl, underway⟩ := follows
          cases underway with
          | mk isSocket first valid role goesOn done =>
              subst isSocket
              exact ⟨_, whole_of_ended first valid role done, List.prefix_append _ _⟩
      | sending id handle message =>
          obtain ⟨rfl, underway⟩ := follows
          generalize some handle = producerHandle at underway
          cases underway with
          | mk isSocket first valid role goesOn done =>
              subst isSocket
              refine ⟨_, whole_of_ended first valid role done, ?_⟩
              rw [List.append_assoc]
              exact List.prefix_append _ _
      | leaving id => exact ⟨_, follows.2, List.prefix_append _ _⟩
      | done => exact ⟨acts, follows.2, List.prefix_rfl⟩

/-- **A connection does among all the others what it does by itself.**  In every interleaving
of the bus, the calls, the connections and their tasks, what connection `k` has done to the bus
is at any time a beginning of what `handleConnection` gives for the frames it has read, with
the answer its `register` call got; and once the connection is over, it is all of it. -/
theorem connection_refines (runs : Runs (step endpoint) anyStep (init capacity router cap) s t) (k : Nat) :
    ∃ answer uuid, (∀ id, s.relay.desk.calls k = .received id ↔ answer = .answered id) ∧
      t.filterMap (actedBy k) <+: endpoint.handleConnection (socketOf k t) answer uuid ∧
      (s.phases k = some .done → t.filterMap (actedBy k) =
        endpoint.handleConnection (socketOf k t) answer uuid) := by
  have follows := conducts runs k
  rw [Conducts] at follows
  by_cases isOver : s.phases k = some .done
  · rw [isOver] at follows
    obtain ⟨-, answer, uuid, same, known⟩ := follows
    exact ⟨answer, uuid, known, same ▸ List.prefix_rfl, fun _ => same⟩
  · obtain ⟨whole, ⟨answer, uuid, same, known⟩, begins⟩ := follows.begins
    exact ⟨answer, uuid, known, same ▸ begins, fun connected => absurd connected isOver⟩

end WsServer

/-! ## Two visits -/

/-- With an encoder that knows one item. -/
def WsEndpoint.probe : WsEndpoint := { WsService.probe with encodeItem := fun _ => WsService.itemBytes }

namespace WsServer

open WsEvent (actedBy)

/-- Two clients register at the same time; the bus answers them in the other order, and one
leaves after it has sent an item. -/
def visits : List (WsServerAction ℚ Unit BaseMessage String) :=
  [.relay (.desk (.world .dispatch)), .accept 0, .accept 1, .handshake 0 true, .frame 0 (some .other) .nil,
    .handshake 1 true, .frame 0 (some (.binary WsService.probeBytes)) .nil,
    .frame 1 (some (.binary WsService.probeBytes)) .nil, .submit 1, .submit 0, .relay (.desk (.world .takeCmd)),
    .relay (.desk (.world .takeCmd)), .answered 0 .nil, .frame 0 (some (.binary WsService.itemBytes)) .nil,
    .answered 1 .nil, .send 0, .frame 0 none .nil, .deregister 0]

def visited : WsServer ℚ Unit BaseMessage String × List (WsEvent ℚ Unit BaseMessage) :=
  outcome (step .probe) (init 4 .affinity 8) visits

theorem visited_runs : Runs (step .probe) anyStep (init 4 .affinity 8) visited.1 visited.2 :=
  runs_outcome_any visits rfl

theorem connection_refines_visited : ∃ uuid, visited.2.filterMap (actedBy 0) =
    WsService.probe.handleConnection
      (some [.other, .binary WsService.probeBytes, .binary WsService.itemBytes]) (.answered 1) uuid := by
  obtain ⟨answer, uuid, known, -, whole⟩ := connection_refines visited_runs 0
  cases (known 1).mp rfl
  exact ⟨uuid, whole rfl⟩

end WsServer

end Jackfield
