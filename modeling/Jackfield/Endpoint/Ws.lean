/-
# Jackfield.Endpoint.Ws -- the WebSocket endpoint

`handle_connection` serves one client.  The first binary frame is its RegisterData, the
binary frames behind it are items, and at the end of the connection, however it comes
about, the consumer is deregistered.  Its two loops take the same frames differently: the
first goes on after a read error, the second ends.

`handleConnection` gives what a connection does to the bus, from what the socket yields,
the answer to its `register` call and the identifier it draws.  The handshake and the
protobuf decoders are parameters; what is sent to a bus that is gone counts as sent.

The theorem reads the frames by themselves: `Admits` says which frame registers the
client, and `items` what of the rest is forwarded (`connection_leaves_nothing`).
-/
import Jackfield.Endpoint.Grpc

namespace Jackfield

set_option autoImplicit false

/-- What the socket yields, until its end. -/
inductive Frame where
  | binary (bytes : List UInt8)
  | close
  /-- Text, ping, pong. -/
  | other
  /-- A read error. -/
  | error
  deriving DecidableEq

/-- What a `register` call comes to. -/
inductive RegisterAnswer where
  | answered (id : Nat)
  /-- The command was sent, and the bus dropped it. -/
  | unanswered
  /-- The command could not be sent. -/
  | unsent
  deriving DecidableEq

/-- The foreign functions that the handler uses. -/
structure WsService where
  display : Uuid → String
  fromStr : String → Except String Json
  decodeRegisterData : List UInt8 → Option RegisterData
  decodeItem : List UInt8 → Option BusableItem

/-- What a connection does to the bus. -/
inductive WsAction (F I M : Type) where
  | register (dims : List (DimSpec F I (Stamped M)))
  | send (origin : ProducerId) (message : M)
  | deregister (id : Nat)

namespace WsService

variable {F I M : Type} (service : WsService)

/-- `format!("{}/{}", reg.name, Uuid::new_v4())`. -/
def producerId (reg : RegisterData) (uuid : Uuid) : ProducerId :=
  ⟨reg.name ++ "/" ++ service.display uuid⟩

/-- The handle of a producer, by the name it sends under. -/
def producerHandle (reg : RegisterData) (uuid : Uuid) : Option ProducerId :=
  if reg.type.contains EndpointType.producer then some (service.producerId reg uuid) else none

/-- The first loop: the RegisterData, and the frames behind it. -/
def awaitRegister : List Frame → Option (RegisterData × List Frame)
  | [] => none
  | .binary b :: rest => (service.decodeRegisterData b).map fun reg => (reg, rest)
  | .close :: _ => none
  | _ :: rest => awaitRegister rest

variable [BoxedMessage M]

/-- The second loop. -/
def inboundLoop (producerHandle : Option ProducerId) : List Frame → List (WsAction F I M)
  | [] => []
  | .binary b :: rest =>
      match producerHandle with
      | none => inboundLoop producerHandle rest
      | some origin =>
          match service.decodeItem b with
          | none => inboundLoop producerHandle rest
          | some item => .send origin item.toMessage :: inboundLoop producerHandle rest
  | .close :: _ => []
  | .other :: rest => inboundLoop producerHandle rest
  | .error :: _ => []

variable [F32 F] [Inhabited I]

/-- What a RegisterData comes to: the dimensions of a consumer and the handle of a producer. -/
def welcome (reg : RegisterData) (uuid : Uuid) :
    Option (Option (List (DimSpec F I (Stamped M))) × Option ProducerId) :=
  match parseDimensions service.fromStr reg.dimensionsJson with
  | .error _ => none
  | .ok dims =>
      some (if reg.type.contains EndpointType.consumer then some dims else none,
        service.producerHandle reg uuid)

/-- One connection; `ws` is what the socket yields once the handshake has succeeded. -/
def handleConnection (ws : Option (List Frame)) (answer : RegisterAnswer) (uuid : Uuid) :
    List (WsAction F I M) :=
  match ws with
  | none => []
  | some source =>
      match service.awaitRegister source with
      | none => []
      | some (reg, source) =>
          match service.welcome reg uuid with
          | none => []
          | some (none, producerHandle) => service.inboundLoop producerHandle source
          | some (some dims, producerHandle) =>
              match answer with
              | .answered id =>
                  .register dims :: (service.inboundLoop producerHandle source ++ [.deregister id])
              | .unanswered => [.register dims]
              | .unsent => []

end WsService

/-! ## Reading the frames -/

namespace Frame

def binary? : Frame → Option (List UInt8)
  | .binary b => some b
  | _ => none

/-- The connection goes on after this frame. -/
def goesOn : Frame → Bool
  | .close => false
  | .error => false
  | _ => true

end Frame

namespace WsAction

variable {F I M : Type}

def command? : WsAction F I M → Option (List (DimSpec F I (Stamped M)) ⊕ Nat)
  | .register dims => some (.inl dims)
  | .deregister id => some (.inr id)
  | .send _ _ => none

def sent? : WsAction F I M → Option (ProducerId × M)
  | .send origin message => some (origin, message)
  | _ => none

end WsAction

namespace WsService

variable {F I M : Type} (service : WsService)

/-- The items of the frames before the first close or read error. -/
def items (frames : List Frame) : List BusableItem :=
  ((frames.takeWhile Frame.goesOn).filterMap Frame.binary?).filterMap service.decodeItem

/-- The first binary frame is the RegisterData `reg`, no close comes before it, and `rest`
comes behind it. -/
def Registers (frames : List Frame) (reg : RegisterData) (rest : List Frame) : Prop :=
  ∃ before b, frames = before ++ .binary b :: rest ∧ (∀ f ∈ before, f = .other ∨ f = .error) ∧
    service.decodeRegisterData b = some reg

/-- What the first loop skips. -/
theorem registers_cons {f : Frame} (skipped : f = .other ∨ f = .error) (frames : List Frame)
    (reg : RegisterData) (rest : List Frame) :
    service.Registers (f :: frames) reg rest ↔ service.Registers frames reg rest := by
  constructor
  · rintro ⟨before, b, same, all, decoded⟩
    cases before with
    | nil =>
        cases same
        rcases skipped with wrong | wrong <;> cases wrong
    | cons g before =>
        cases same
        exact ⟨before, b, rfl, fun f member => all f (List.mem_cons_of_mem _ member), decoded⟩
  · rintro ⟨before, b, rfl, all, decoded⟩
    refine ⟨f :: before, b, rfl, fun g member => ?_, decoded⟩
    rcases List.mem_cons.mp member with rfl | later
    · exact skipped
    · exact all g later

theorem awaitRegister_iff (frames : List Frame) (reg : RegisterData) (rest : List Frame) :
    service.awaitRegister frames = some (reg, rest) ↔ service.Registers frames reg rest := by
  induction frames with
  | nil =>
      constructor
      · intro found
        cases found
      · rintro ⟨before, b, same, -⟩
        simp at same
  | cons f frames ih =>
      cases f with
      | binary b =>
          simp only [awaitRegister, Option.map_eq_some_iff, Prod.mk.injEq]
          constructor
          · rintro ⟨reg, decoded, rfl, rfl⟩
            exact ⟨[], b, rfl, by simp, decoded⟩
          · rintro ⟨before, b', same, skipped, decoded⟩
            cases before with
            | nil =>
                cases same
                exact ⟨reg, decoded, rfl, rfl⟩
            | cons f before =>
                cases same
                rcases skipped _ (List.mem_cons_self ..) with wrong | wrong <;> cases wrong
      | close =>
          constructor
          · intro found
            cases found
          · rintro ⟨before, b, same, skipped, -⟩
            cases before with
            | nil => cases same
            | cons f before =>
                cases same
                rcases skipped _ (List.mem_cons_self ..) with wrong | wrong <;> cases wrong
      | other => exact (ih.trans (service.registers_cons (Or.inl rfl) frames reg rest).symm)
      | error => exact (ih.trans (service.registers_cons (Or.inr rfl) frames reg rest).symm)

section

variable [BoxedMessage M]

/-- **The second loop sends the items**, if there is a handle, and nothing else. -/
theorem inboundLoop_eq (producerHandle : Option ProducerId) (frames : List Frame) :
    (service.inboundLoop producerHandle frames : List (WsAction F I M)) =
      match producerHandle with
      | none => []
      | some origin => (service.items frames).map fun item => .send origin item.toMessage := by
  induction frames with
  | nil => cases producerHandle <;> rfl
  | cons f frames ih =>
      cases f with
      | binary b =>
          cases producerHandle with
          | none => exact ih
          | some origin =>
              cases decoded : service.decodeItem b with
              | none =>
                  simp only [inboundLoop, decoded, items, List.takeWhile_cons, Frame.goesOn, if_true,
                    List.filterMap_cons, Frame.binary?]
                  exact ih
              | some item =>
                  simp only [inboundLoop, decoded, items, List.takeWhile_cons, Frame.goesOn, if_true,
                    List.filterMap_cons, Frame.binary?, List.map_cons]
                  exact congrArg _ ih
      | close => cases producerHandle <;> rfl
      | other => exact ih
      | error => cases producerHandle <;> rfl

theorem inboundLoop_commands (producerHandle : Option ProducerId) (frames : List Frame) :
    (service.inboundLoop producerHandle frames : List (WsAction F I M)).filterMap WsAction.command? = [] := by
  rw [inboundLoop_eq]
  cases producerHandle with
  | none => rfl
  | some origin =>
      rw [List.filterMap_map, List.filterMap_eq_nil_iff]
      exact fun item _ => rfl

theorem inboundLoop_sent (origin : ProducerId) (frames : List Frame) :
    (service.inboundLoop (some origin) frames : List (WsAction F I M)).filterMap WsAction.sent? =
      (service.items frames).map fun item => (origin, item.toMessage) := by
  rw [inboundLoop_eq, List.filterMap_map]
  exact congrFun (List.filterMap_eq_map' (f := fun item : BusableItem => (origin, (item.toMessage : M)))) _

theorem inboundLoop_sends (reg : RegisterData) (uuid : Uuid) (frames : List Frame) :
    (service.inboundLoop (service.producerHandle reg uuid) frames : List (WsAction F I M)).filterMap
        WsAction.sent? =
      if EndpointType.producer ∈ reg.type then
        (service.items frames).map fun item => (service.producerId reg uuid, item.toMessage)
      else [] := by
  by_cases isProducer : EndpointType.producer ∈ reg.type
  · have handle : service.producerHandle reg uuid = some (service.producerId reg uuid) := by
      simp [producerHandle, isProducer]
    rw [handle, inboundLoop_sent, if_pos isProducer]
  · have handle : service.producerHandle reg uuid = none := by simp [producerHandle, isProducer]
    rw [handle, inboundLoop_eq, if_neg isProducer]
    rfl

end

variable [F32 F] [Inhabited I] [BoxedMessage M]

/-- The client is in: its RegisterData is `reg`, with `dims`, `rest` comes behind it, and if it is
to be a consumer, the bus has answered. -/
structure Admits (frames : List Frame) (answer : RegisterAnswer) (reg : RegisterData) (rest : List Frame)
    (dims : List (DimSpec F I (Stamped M))) : Prop where
  registers : service.Registers frames reg rest
  valid : parseDimensions service.fromStr reg.dimensionsJson = .ok dims
  answered : EndpointType.consumer ∈ reg.type → ∃ id, answer = .answered id

/-- The frames, or a handshake that failed, let no client in. -/
def Refuses (ws : Option (List Frame)) (answer : RegisterAnswer) : Prop :=
  ∀ frames reg rest (dims : List (DimSpec F I (Stamped M))), ws = some frames →
    ¬ service.Admits frames answer reg rest dims

/-- **What a connection does**: it serves a client that is in, and else it does nothing, or has
sent a `Register` command in vain. -/
theorem handleConnection_cases (ws : Option (List Frame)) (answer : RegisterAnswer) (uuid : Uuid) :
    (∃ frames reg rest, ∃ dims : List (DimSpec F I (Stamped M)), ws = some frames ∧
        service.Admits frames answer reg rest dims ∧
        ((EndpointType.consumer ∉ reg.type ∧ (service.handleConnection ws answer uuid : List (WsAction F I M)) =
            service.inboundLoop (service.producerHandle reg uuid) rest) ∨
          ∃ id, answer = .answered id ∧ (service.handleConnection ws answer uuid : List (WsAction F I M)) =
            .register dims :: (service.inboundLoop (service.producerHandle reg uuid) rest ++ [.deregister id]))) ∨
      (service.Refuses (F := F) (I := I) (M := M) ws answer ∧
        ((service.handleConnection ws answer uuid : List (WsAction F I M)) = [] ∨
          ∃ dims, answer = .unanswered ∧
            (service.handleConnection ws answer uuid : List (WsAction F I M)) = [.register dims])) := by
  cases ws with
  | none => exact Or.inr ⟨fun frames reg rest dims same => (by cases same), Or.inl rfl⟩
  | some frames =>
      cases first : service.awaitRegister frames with
      | none =>
          refine Or.inr ⟨?_, Or.inl (by simp [handleConnection, first])⟩
          rintro frames' reg rest dims same admits
          cases same
          rw [(service.awaitRegister_iff frames reg rest).mpr admits.registers] at first
          cases first
      | some found =>
          obtain ⟨reg, rest⟩ := found
          have registers := (service.awaitRegister_iff frames reg rest).mp first
          have only {reg' : RegisterData} {rest' : List Frame} (registers' : service.Registers frames reg' rest') :
              reg' = reg := by
            have first' := (service.awaitRegister_iff frames reg' rest').mpr registers'
            rw [first] at first'
            cases first'
            rfl
          cases parsed : (parseDimensions service.fromStr reg.dimensionsJson :
              Except Status (List (DimSpec F I (Stamped M)))) with
          | error status =>
              refine Or.inr ⟨?_, Or.inl (by simp [handleConnection, first, welcome, parsed])⟩
              rintro frames' reg' rest' dims same admits
              cases same
              have valid := admits.valid
              rw [only admits.registers, parsed] at valid
              cases valid
          | ok dims =>
              by_cases isConsumer : EndpointType.consumer ∈ reg.type
              · have refuses (noAnswer : ∀ id, answer ≠ .answered id) :
                    service.Refuses (F := F) (I := I) (M := M) (some frames) answer := by
                  rintro frames' reg' rest' dims' same admits
                  cases same
                  obtain ⟨id, known⟩ := admits.answered (by rw [only admits.registers]; exact isConsumer)
                  exact noAnswer id known
                cases answer with
                | answered id =>
                    refine Or.inl ⟨frames, reg, rest, dims, rfl, ⟨registers, parsed, fun _ => ⟨id, rfl⟩⟩,
                      Or.inr ⟨id, rfl, ?_⟩⟩
                    simp [handleConnection, first, welcome, parsed, isConsumer]
                | unanswered =>
                    refine Or.inr ⟨refuses (by simp), Or.inr ⟨dims, rfl, ?_⟩⟩
                    simp [handleConnection, first, welcome, parsed, isConsumer]
                | unsent =>
                    refine Or.inr ⟨refuses (by simp), Or.inl ?_⟩
                    simp [handleConnection, first, welcome, parsed, isConsumer]
              · refine Or.inl ⟨frames, reg, rest, dims, rfl, ⟨registers, parsed, fun isIn => absurd isIn isConsumer⟩,
                  Or.inl ⟨isConsumer, ?_⟩⟩
                simp [handleConnection, first, welcome, parsed, isConsumer]

/-- **A connection leaves nothing behind**, whatever the socket yields and the bus answers.  It
sends no command, or one `Register`, and if this is answered, one `Deregister` with that id
after it, the last thing it does.  A producer that is in sends, under one name, the items of
the frames behind its RegisterData and before the first close or read error, in their order;
else nothing is sent. -/
theorem connection_leaves_nothing (ws : Option (List Frame)) (answer : RegisterAnswer) (uuid : Uuid)
    (actions : List (WsAction F I M)) (handled : service.handleConnection ws answer uuid = actions) :
    (actions.filterMap WsAction.command? = [] ∨
      ∃ dims, ((∀ id, answer ≠ .answered id) ∧ actions.filterMap WsAction.command? = [.inl dims]) ∨
        ∃ id, answer = .answered id ∧ actions.filterMap WsAction.command? = [.inl dims, .inr id] ∧
          actions.getLast? = some (.deregister id)) ∧
      (∀ frames reg rest (dims : List (DimSpec F I (Stamped M))), ws = some frames →
        service.Admits frames answer reg rest dims → EndpointType.producer ∈ reg.type →
          actions.filterMap WsAction.sent? = (service.items rest).map fun item =>
            (service.producerId reg uuid,
              BoxedMessage.box ⟨(Uuid.fromSlice item.uuid).getD .nil, item.labels, item.data⟩)) ∧
      ((∀ frames reg rest (dims : List (DimSpec F I (Stamped M))), ws = some frames →
        service.Admits frames answer reg rest dims → EndpointType.producer ∉ reg.type) →
          actions.filterMap WsAction.sent? = []) := by
  subst handled
  have commands (reg : RegisterData) (rest : List Frame) :=
    service.inboundLoop_commands (F := F) (I := I) (M := M) (service.producerHandle reg uuid) rest
  rcases service.handleConnection_cases (F := F) (I := I) (M := M) ws answer uuid with
    ⟨frames, reg, rest, dims, same, admits, handled⟩ | ⟨refuses, handled⟩
  · -- the client is in
    have sends : (service.handleConnection ws answer uuid : List (WsAction F I M)).filterMap WsAction.sent? =
        (service.inboundLoop (service.producerHandle reg uuid) rest : List (WsAction F I M)).filterMap
          WsAction.sent? := by
      rcases handled with ⟨-, handled⟩ | ⟨id, -, handled⟩
      · rw [handled]
      · rw [handled, List.filterMap_cons_none rfl, List.filterMap_append, List.filterMap_cons_none rfl,
          List.filterMap_nil, List.append_nil]
    rw [sends, inboundLoop_sends]
    refine ⟨?_, fun frames' reg' rest' dims' same' admits' isProducer => ?_, fun others => ?_⟩
    · rcases handled with ⟨-, handled⟩ | ⟨id, known, handled⟩
      · rw [handled]
        exact Or.inl (commands reg rest)
      · rw [handled]
        refine Or.inr ⟨dims, Or.inr ⟨id, known, ?_, ?_⟩⟩
        · rw [List.filterMap_cons_some (f := WsAction.command?) rfl, List.filterMap_append, commands]
          rfl
        · rw [← List.cons_append, List.getLast?_concat]
    · cases same.symm.trans same'
      have first := (service.awaitRegister_iff frames reg rest).mpr admits.registers
      rw [(service.awaitRegister_iff frames reg' rest').mpr admits'.registers] at first
      cases first
      exact if_pos isProducer
    · rw [if_neg (others frames reg rest dims same admits)]
  · -- it is not: at most a command was sent in vain
    refine ⟨?_, fun frames reg rest dims same admits => absurd admits (refuses frames reg rest dims same), fun _ => ?_⟩
    · rcases handled with handled | ⟨dims, unknown, handled⟩
      · rw [handled]
        exact Or.inl rfl
      · rw [handled, unknown]
        exact Or.inr ⟨dims, Or.inl ⟨by simp, rfl⟩⟩
    · rcases handled with handled | ⟨dims, -, handled⟩ <;> rw [handled] <;> rfl

/-! ## A visit -/

/-- On the wire: a RegisterData named "probe", of both types, and an item with one byte. -/
def probeBytes : List UInt8 := [10, 5, 112, 114, 111, 98, 101, 18, 2, 0, 1]
def itemBytes : List UInt8 := [26, 1, 7]

def probe : WsService where
  display := Uuid.hyphenated
  fromStr _ := .error "expected value at line 1 column 1"
  decodeRegisterData b := if b = probeBytes then some ⟨"probe", [0, 1], ""⟩ else none
  decodeItem b := if b = itemBytes then some ⟨[], [], [7]⟩ else none

/-- It breaks off before the second item. -/
def visit : List Frame :=
  [.other, .binary probeBytes, .binary itemBytes, .binary [255], .error, .binary itemBytes]

theorem connection_leaves_nothing_visit :
    (probe.handleConnection (some visit) (.answered 3) .nil : List (WsAction ℚ Unit BaseMessage)).getLast? =
        some (.deregister 3) ∧
      (probe.handleConnection (some visit) (.answered 3) .nil : List (WsAction ℚ Unit BaseMessage)).filterMap
          WsAction.sent? =
        [(⟨"probe/00000000-0000-0000-0000-000000000000"⟩, .new (some .nil) (some []) (some [7]))] := by
  obtain ⟨commands, sends, -⟩ :=
    probe.connection_leaves_nothing (F := ℚ) (I := Unit) (M := BaseMessage) (some visit) (.answered 3) .nil _ rfl
  constructor
  · rcases commands with none | ⟨dims, ⟨unknown, -⟩ | ⟨id, known, -, last⟩⟩
    · cases none
    · exact absurd rfl (unknown 3)
    · cases known
      exact last
  · have admits : probe.Admits (F := ℚ) (I := Unit) (M := BaseMessage) visit (.answered 3) ⟨"probe", [0, 1], ""⟩
        [.binary itemBytes, .binary [255], .error, .binary itemBytes] [] :=
      ⟨⟨[.other], probeBytes, rfl, by simp, rfl⟩, rfl, fun _ => ⟨3, rfl⟩⟩
    exact (sends _ _ _ _ rfl admits (by decide)).trans (by decide +kernel)

end WsService

end Jackfield
