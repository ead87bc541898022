/-
# Jackfield.Endpoint.Welcome -- one RegisterData, two endpoints

The Register call of the gRPC endpoint and the first frame of a WebSocket connection carry
the same RegisterData.  `Grpc.Welcomes` reads off a step of the gRPC endpoint what the
call comes to: a refusal, or the dimensions of a consumer to register and the handle of a
producer.  On the other side this is `WsService.welcome`; `WsService.Acts` says what it
means for the actions of `handleConnection`, whatever frames come behind.

Both parse the roles and the dimensions alike (`registerStep_welcomes`), so they refuse
the same clients and register the same consumers.  They name producers differently: one
after its own name, the other after the name in the RegisterData (`same_meaning_iff`).
-/
import Jackfield.Endpoint.Silence
import Jackfield.Endpoint.Ws

namespace Jackfield

set_option autoImplicit false

variable {F I M L Addr : Type}

/-- What a RegisterData comes to: nothing, if it is refused, else the dimensions of a consumer
and the handle of a producer. -/
abbrev Welcome (F I M : Type) := Option (Option (List (DimSpec F I (Stamped M))) × Option ProducerId)

/-- Handles drawn with these identifiers have the same name in front of them. -/
def SameForm (display : Uuid → String) (uuid₁ uuid₂ : Uuid) (handle₁ handle₂ : Option ProducerId) : Prop :=
  ∃ name : Option String, handle₁ = name.map (fun name => ⟨name ++ "/" ++ display uuid₁⟩) ∧
    handle₂ = name.map (fun name => ⟨name ++ "/" ++ display uuid₂⟩)

/-- Both refuse `data`, or both accept it, register a consumer with the same dimensions if and only
if it lists CONSUMER, and send under origins of the same form. -/
def SameMeaning (display : Uuid → String) (data : RegisterData) (uuid₁ uuid₂ : Uuid) :
    Welcome F I M → Welcome F I M → Prop
  | none, none => True
  | some (consumer₁, handle₁), some (consumer₂, handle₂) =>
      consumer₁ = consumer₂ ∧ (consumer₁.isSome ↔ EndpointType.consumer ∈ data.type) ∧
        SameForm display uuid₁ uuid₂ handle₁ handle₂
  | _, _ => False

theorem sameForm_iff (display : Uuid → String) (uuid₁ uuid₂ : Uuid) (name₁ name₂ : String) (listed : Bool) :
    SameForm display uuid₁ uuid₂ (if listed then some ⟨name₁ ++ "/" ++ display uuid₁⟩ else none)
        (if listed then some ⟨name₂ ++ "/" ++ display uuid₂⟩ else none) ↔
      listed = false ∨ name₁ = name₂ := by
  cases listed with
  | false => exact ⟨fun _ => Or.inl rfl, fun _ => ⟨none, rfl, rfl⟩⟩
  | true =>
      constructor
      · rintro ⟨name, first, second⟩
        cases name with
        | none => cases first
        | some name =>
            have same₁ : name₁ ++ "/" ++ display uuid₁ = name ++ "/" ++ display uuid₁ := by simpa using first
            have same₂ : name₂ ++ "/" ++ display uuid₂ = name ++ "/" ++ display uuid₂ := by simpa using second
            rw [String.append_left_inj, String.append_left_inj] at same₁ same₂
            exact Or.inr (same₁.trans same₂.symm)
      · rintro (wrong | rfl)
        · cases wrong
        · exact ⟨some name₁, rfl, rfl⟩

/-! ## The Register call -/

namespace Grpc

variable [DecidableEq Addr] [F32 F] [Inhabited I] [BoxedMessage M]

/-- What the `n`-th call, a Register call that has led from `s` to `s'`, comes to. -/
def Welcomes (s s' : Grpc F I M L Addr) (n : Nat) (es : List (GrpcEvent M Addr)) : Welcome F I M → Prop
  | none => s'.relay = s.relay ∧ s'.handlers = s.handlers ∧ ∃ status, GrpcEvent.answered n (.error status) ∈ es
  | some (consumer, handle) =>
      (∀ status, GrpcEvent.answered n (.error status) ∉ es) ∧
        ∃ addr entry, entry.producerHandle = handle ∧
          match consumer with
          | none => s'.relay = s.relay ∧ s'.handlers n = some (.inserting addr entry)
          | some dims =>
              -- the call waits to send `Register` with a channel consumer and these dimensions
              s'.relay.desk.calls n = .sending .channel dims ∧ s'.handlers n = some (.registering addr entry)

/-- What both endpoints do, for a name. -/
def welcome (display : Uuid → String) (fromStr : String → Except String Json) (name : String)
    (data : RegisterData) (uuid : Uuid) : Welcome F I M :=
  match parseDimensions fromStr data.dimensionsJson with
  | .error _ => none
  | .ok dims =>
      some (if data.type.contains EndpointType.consumer then some dims else none,
        if data.type.contains EndpointType.producer then some ⟨name ++ "/" ++ display uuid⟩ else none)

/-- **A Register call** that gets a fresh number parses the roles and the dimensions, and names the
producer after the server. -/
theorem registerStep_welcomes (service : GrpcService) (s : Grpc F I M L Addr) {n : Nat}
    (fresh : s.unusedNumber n = true) (addr : Addr) (conn : Nat) (data : RegisterData) (uuid : Uuid) :
    ∃ s' es, s.registerStep service n addr conn data uuid = some (s', es) ∧
      Welcomes s s' n es (welcome service.display service.fromStr service.name data uuid) := by
  have unused := (unusedNumber_iff.mp fresh).2
  unfold registerStep welcome
  cases parsed : (parseDimensions service.fromStr data.dimensionsJson :
      Except Status (List (DimSpec F I (Stamped M)))) with
  | error status => exact ⟨_, _, rfl, rfl, rfl, status, by simp⟩
  | ok dims =>
      by_cases isConsumer : data.type.contains EndpointType.consumer = true
      · have plugged : s.relay.step (.plugIn n dims) =
            some ({ s.relay with desk := s.relay.desk.setCall n (.sending .channel dims) }.setPipe n .new, []) := by
          simp [Relay.step, Desk.step, unused]
        simp only [isConsumer, if_true, relayStep, plugged, Option.map_some]
        exact ⟨_, _, rfl, by simp, addr, newEntry service n conn data uuid, rfl, by simp, Function.update_self ..⟩
      · simp only [isConsumer]
        exact ⟨_, _, rfl, by simp, addr, newEntry service n conn data uuid, rfl, rfl, Function.update_self ..⟩

omit [DecidableEq Addr] [F32 F] [Inhabited I] [BoxedMessage M] in
/-- It comes to one thing only. -/
theorem Welcomes.unique {s s' : Grpc F I M L Addr} {n : Nat} {es : List (GrpcEvent M Addr)}
    {w w' : Welcome F I M} (first : Welcomes s s' n es w) (second : Welcomes s s' n es w') : w = w' := by
  rcases w with _ | ⟨consumer, handle⟩
  · obtain ⟨-, -, status, refused⟩ := first
    rcases w' with _ | ⟨consumer', handle'⟩
    · rfl
    · exact absurd refused (second.1 status)
  · obtain ⟨accepted, addr, entry, rfl, first⟩ := first
    rcases w' with _ | ⟨consumer', handle'⟩
    · obtain ⟨-, -, status, refused⟩ := second
      exact absurd refused (accepted status)
    · obtain ⟨-, addr', entry', rfl, second⟩ := second
      cases consumer with
      | none =>
          cases consumer' with
          | none =>
              cases first.2.symm.trans second.2
              rfl
          | some dims => cases first.2.symm.trans second.2
      | some dims =>
          cases consumer' with
          | none => cases first.2.symm.trans second.2
          | some dims' =>
              cases first.1.symm.trans second.1
              cases first.2.symm.trans second.2
              rfl

/-- The client's items go into the bus under the name of the server, and an identifier drawn for a
Register call. -/
theorem inbound_origin {service : GrpcService} {capacity cap : Nat} {router : Router}
    {ok : Grpc F I M L Addr → List (GrpcEvent M Addr) → GrpcAction F I M L Addr → Prop}
    {s s' : Grpc F I M L Addr} {t es : List (GrpcEvent M Addr)}
    (runs : Machine.Runs (step service) ok (init capacity router cap) s t) {m : Nat}
    (stepped : s.step service (.inbound m .send) = some (s', es)) {e : Parcel M}
    (accepted : GrpcEvent.relay (.bus (.accepted e)) ∈ es) : ∃ uuid, e.origin = service.producerId uuid := by
  rcases (move_of_step stepped).accepted_cases accepted with ⟨m', i, same, task, -, origin⟩ | ⟨message, wrong⟩
  · exact ⟨i.uuid, origin.trans ((provenance runs).inbound m' i task)⟩
  · cases wrong

end Grpc

/-! ## The first frame -/

namespace WsService

variable [F32 F] [Inhabited I] [BoxedMessage M]

/-- What a connection does to the bus whose client registers with `data`, if this comes to `w`:
nothing; or it registers a consumer with these dimensions, sends the items of the frames behind
under this handle, and deregisters the consumer it got the id of. -/
def Acts (service : WsService) (data : RegisterData) (uuid : Uuid) : Welcome F I M → Prop
  | none => ∀ frames rest answer, service.Registers frames data rest →
      (service.handleConnection (some frames) answer uuid : List (WsAction F I M)) = []
  | some (consumer, handle) => ∀ frames rest id, service.Registers frames data rest →
      (service.handleConnection (some frames) (.answered id) uuid : List (WsAction F I M)) =
        consumer.toList.map .register ++
          (handle.toList.flatMap fun origin => (service.items rest).map fun item => .send origin item.toMessage) ++
          consumer.toList.map fun _ => .deregister id

/-- **The first frame** decides what a connection does. -/
theorem welcome_acts (service : WsService) (data : RegisterData) (uuid : Uuid) :
    service.Acts data uuid (service.welcome data uuid : Welcome F I M) := by
  cases came : (service.welcome data uuid : Welcome F I M) with
  | none =>
      intro frames rest answer registers
      simp [handleConnection, (service.awaitRegister_iff frames data rest).mpr registers, came]
  | some taken =>
      obtain ⟨consumer, handle⟩ := taken
      intro frames rest id registers
      have first := (service.awaitRegister_iff frames data rest).mpr registers
      cases consumer <;> cases handle <;> simp [handleConnection, first, came, inboundLoop_eq]

end WsService

/-! ## Both -/

section Both

variable [DecidableEq Addr] [F32 F] [Inhabited I] [BoxedMessage M]

theorem welcome_iff (display : Uuid → String) (fromStr : String → Except String Json)
    (decodeRegisterData : List UInt8 → Option RegisterData) (decodeItem : List UInt8 → Option BusableItem)
    (name : String) (data : RegisterData) (uuid₁ uuid₂ : Uuid) :
    SameMeaning display data uuid₁ uuid₂ (Grpc.welcome display fromStr name data uuid₁ : Welcome F I M)
        ((⟨display, fromStr, decodeRegisterData, decodeItem⟩ : WsService).welcome data uuid₂) ↔
      EndpointType.producer ∉ data.type ∨
        (∃ status, (parseDimensions fromStr data.dimensionsJson : Except Status (List (DimSpec F I (Stamped M)))) =
          .error status) ∨
        name = data.name := by
  unfold Grpc.welcome WsService.welcome
  cases parsed : (parseDimensions fromStr data.dimensionsJson : Except Status (List (DimSpec F I (Stamped M)))) with
  | error status => exact ⟨fun _ => Or.inr (Or.inl ⟨status, rfl⟩), fun _ => trivial⟩
  | ok dims =>
      have forms := sameForm_iff display uuid₁ uuid₂ name data.name (data.type.contains EndpointType.producer)
      have meaning : SameMeaning (F := F) (I := I) (M := M) display data uuid₁ uuid₂
          (some (if data.type.contains EndpointType.consumer then some dims else none,
            if data.type.contains EndpointType.producer then some ⟨name ++ "/" ++ display uuid₁⟩ else none))
          (some (if data.type.contains EndpointType.consumer then some dims else none,
            if data.type.contains EndpointType.producer then some ⟨data.name ++ "/" ++ display uuid₂⟩ else none)) ↔
          EndpointType.producer ∉ data.type ∨ name = data.name := by
        rw [SameMeaning, forms]
        simp
      refine meaning.trans ⟨fun same => ?_, fun same => ?_⟩
      · exact same.imp id Or.inr
      · rcases same with notListed | ⟨status, wrong⟩ | sameName
        · exact Or.inl notListed
        · cases wrong
        · exact Or.inr sameName

/-- **What both endpoints make of a RegisterData**: a Register call comes to one thing, and so does the
first frame of a WebSocket connection, by which `handleConnection` acts.  They mean the same to the bus
if and only if no producer is to be named, or both refuse, or the RegisterData bears the server's
name. -/
theorem same_meaning_iff (display : Uuid → String) (fromStr : String → Except String Json)
    (decodeRegisterData : List UInt8 → Option RegisterData) (decodeItem : List UInt8 → Option BusableItem)
    (name : String) (data : RegisterData) (uuid₁ uuid₂ : Uuid) (s : Grpc F I M L Addr) {n : Nat}
    (fresh : s.unusedNumber n = true) (addr : Addr) (conn : Nat) :
    ∃ s' es w, s.registerStep ⟨name, display, fromStr⟩ n addr conn data uuid₁ = some (s', es) ∧
      (∀ w', Grpc.Welcomes s s' n es w' ↔ w' = w) ∧
      (⟨display, fromStr, decodeRegisterData, decodeItem⟩ : WsService).Acts data uuid₂
        ((⟨display, fromStr, decodeRegisterData, decodeItem⟩ : WsService).welcome data uuid₂ : Welcome F I M) ∧
      (SameMeaning display data uuid₁ uuid₂ w
          ((⟨display, fromStr, decodeRegisterData, decodeItem⟩ : WsService).welcome data uuid₂) ↔
        EndpointType.producer ∉ data.type ∨
          (∃ status, (parseDimensions fromStr data.dimensionsJson :
            Except Status (List (DimSpec F I (Stamped M)))) = .error status) ∨
          name = data.name) := by
  obtain ⟨s', es, stepped, welcomes⟩ :=
    Grpc.registerStep_welcomes ⟨name, display, fromStr⟩ s fresh addr conn data uuid₁
  refine ⟨s', es, _, stepped, fun w' => ⟨fun other => other.unique welcomes, fun same => ?_⟩,
    WsService.welcome_acts _ data uuid₂, welcome_iff display fromStr decodeRegisterData decodeItem name data uuid₁ uuid₂⟩
  rw [same]
  exact welcomes

end Both

/-! ## A sensor at a server -/

/-- A producer named "sensor". -/
def sensorData : RegisterData := ⟨"sensor", [EndpointType.producer], ""⟩

/-- **The two endpoints name it differently.** -/
theorem producers_named_apart :
    ∃ s' es w, (Grpc.init 4 .affinity 8 : Grpc ℚ Unit BaseMessage String String).registerStep
        ⟨"server", WsService.probe.display, WsService.probe.fromStr⟩ 0 "10.0.0.1:5000" 0 sensorData .nil =
          some (s', es) ∧
      Grpc.Welcomes (Grpc.init 4 .affinity 8) s' 0 es w ∧
      WsService.probe.Acts sensorData .nil (WsService.probe.welcome sensorData .nil : Welcome ℚ Unit BaseMessage) ∧
      ¬ SameMeaning WsService.probe.display sensorData .nil .nil w (WsService.probe.welcome sensorData .nil) := by
  obtain ⟨s', es, stepped, welcomes⟩ := Grpc.registerStep_welcomes
    ⟨"server", WsService.probe.display, WsService.probe.fromStr⟩
    (Grpc.init 4 .affinity 8 : Grpc ℚ Unit BaseMessage String String) (n := 0) rfl "10.0.0.1:5000" 0 sensorData .nil
  refine ⟨s', es, _, stepped, welcomes, WsService.welcome_acts _ _ _, fun same => ?_⟩
  rcases (welcome_iff _ _ _ _ _ _ _ _).mp same with notListed | ⟨status, refused⟩ | sameName
  · exact notListed (by decide)
  · cases refused
  · exact absurd sameName (by decide)

/-- At a server of its own name, all is well. -/
theorem same_meaning_iff_namesake :
    ∃ s' es w, (Grpc.init 4 .affinity 8 : Grpc ℚ Unit BaseMessage String String).registerStep
        ⟨"sensor", WsService.probe.display, WsService.probe.fromStr⟩ 0 "10.0.0.1:5000" 0 sensorData .nil =
          some (s', es) ∧
      Grpc.Welcomes (Grpc.init 4 .affinity 8) s' 0 es w ∧
      WsService.probe.Acts sensorData .nil (WsService.probe.welcome sensorData .nil : Welcome ℚ Unit BaseMessage) ∧
      SameMeaning WsService.probe.display sensorData .nil .nil w (WsService.probe.welcome sensorData .nil) := by
  obtain ⟨s', es, w, stepped, only, acts, meaning⟩ := same_meaning_iff WsService.probe.display WsService.probe.fromStr
    WsService.probe.decodeRegisterData WsService.probe.decodeItem "sensor" sensorData .nil .nil
    (Grpc.init 4 .affinity 8 : Grpc ℚ Unit BaseMessage String String) (n := 0) rfl "10.0.0.1:5000" 0
  exact ⟨s', es, w, stepped, (only w).mpr rfl, acts, meaning.mpr (Or.inr (Or.inr rfl))⟩

end Jackfield
