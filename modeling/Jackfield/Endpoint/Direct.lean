/-
# Jackfield.Endpoint.Direct -- endpoints in the same process

An `Endpoint` is a producer and a consumer in one.  As a producer it sends with the handle that
`register_producer` has attached, if it has the PRODUCER flag; as a consumer it passes on
to its handler what it is asked and handed.  The CONSUMER flag is not read anywhere.

`Locals` is a bus with its handles and such endpoints.  A future of `send_bus` borrows the
endpoint, so one is at work at a time, and registering an endpoint as a consumer moves it into
the bus.

Seen from the bus, an endpoint is its handler, or a consumer that is never available
(`endpoints_are_their_handlers`).
-/
import Jackfield.Bus.Renaming
import Jackfield.Endpoint.Admission
import Jackfield.Endpoint.Relay

namespace Jackfield

set_option autoImplicit false
set_option linter.unusedSectionVars false

variable {F I M C D : Type}

open Machine

/-- The flags `EndpointType`. -/
structure EndpointFlags where
  consumer : Bool
  producer : Bool
  deriving DecidableEq

structure Endpoint (C : Type) where
  name : String
  flags : EndpointFlags
  /-- The handle attached, by its number. -/
  handle : Option Nat
  consumerHandler : Option C

namespace Endpoint

def new (name : String) (flags : EndpointFlags) : Endpoint C := ⟨name, flags, none, none⟩

def setConsumer (e : Endpoint C) (consumer : C) : Endpoint C := { e with consumerHandler := some consumer }

def attach (e : Endpoint C) (handle : Nat) : Endpoint C := { e with handle := some handle }

/-- What `send_bus` sends with. -/
def sendOp (e : Endpoint C) : Option Nat := if e.flags.producer then e.handle else none

theorem handle_of_sendOp {e : Endpoint C} {h : Nat} (sends : e.sendOp = some h) : e.handle = some h := by
  unfold sendOp at sends
  split at sends
  · exact sends
  · cases sends

/-- `available` and `validate`. -/
def answers (consumer : Consumer M C) : Consumer M (Endpoint C) where
  available e := e.consumerHandler.any consumer.available
  validate e envelope := e.consumerHandler.any fun handler => consumer.validate handler envelope

end Endpoint

/-- A consumer the bus owns: an endpoint, or one of another kind. -/
inductive Resident (C : Type) where
  | endpoint (e : Endpoint C)
  | other (consumer : C)

/-- Whose `consume` is called. -/
def Resident.handler? : Resident C → Option C
  | .endpoint e => e.consumerHandler
  | .other consumer => some consumer

/-- Where an endpoint is. -/
inductive Place (C : Type) where
  | unused
  /-- With its owner, or borrowed by this future of `send_bus`. -/
  | here (e : Endpoint C) (sending : Option Nat)
  /-- In the bus. -/
  | moved

structure Locals (F I M C : Type) where
  producers : Producers F I M (Resident C)
  endpoints : Nat → Place C

inductive LocalAction (F I M C : Type) where
  | new (k : Nat) (name : String) (flags : EndpointFlags)
  | setConsumer (k : Nat) (consumer : C)
  | registerProducer (k : Nat)
  | registerProducerThrottled (k : Nat) (throttle : Throttle)
  | sendBus (k : Nat) (message : M)
  | registerConsumer (k : Nat) (dims : List (DimSpec F I (Stamped M)))
  /-- `BusCmdHandle::register`, as call `r`. -/
  | register (k r : Nat) (dims : List (DimSpec F I (Stamped M)))
  /-- The bus takes an envelope; `consumer` answers for the handlers and the other consumers. -/
  | takeEnvelope (consumer : Consumer (Stamped M) C)
  /-- Anything else that happens to the bus, the handles and the futures. -/
  | producers (a : ProducerAction F I M (Resident C))

inductive LocalEvent (M C : Type) where
  | producers (e : ProducerEvent M)
  /-- A handle was attached, with this bucket. -/
  | attached (k : Nat) (bucket : Option (Nat × Throttle))
  /-- `send_bus` makes the `n`-th future. -/
  | begun (k n : Nat) (message : M)
  /-- `send_bus` returns `Err(NotRegistered)`. -/
  | notRegistered (k : Nat)
  /-- `consume` of a handler is called. -/
  | consumed (consumer : C) (e : Parcel M)

/-- What endpoints have no part in. -/
def ProducerAction.aside : ProducerAction F I M (Resident C) → Bool
  | .desk (.call _ (.endpoint _) _) => false
  | .desk (.world (.registerConsumer ⟨_, .endpoint _⟩ _)) => false
  | .desk (.world (.takeEnvelope _)) => false
  | _ => true

namespace Locals

def init (capacity : Nat) (router : Router) (cap : Nat) : Locals F I M C where
  producers := .init capacity router cap
  endpoints _ := .unused

def setPlace (s : Locals F I M C) (k : Nat) (place : Place C) : Locals F I M C :=
  { s with endpoints := Function.update s.endpoints k place }

/-- An endpoint that no future borrows. -/
def free (s : Locals F I M C) (k : Nat) : Option (Endpoint C) :=
  match s.endpoints k with
  | .here e none => some e
  | .here e (some n) => if s.producers.sends[n]?.all fun send => send.phase == .ended then some e else none
  | _ => none

/-- What the consumers in the bus answer. -/
def answers (consumer : Consumer (Stamped M) C) : Consumer (Stamped M) (Boxed (Resident C)) where
  available b :=
    match b.consumer with
    | .endpoint e => (Endpoint.answers consumer).available e
    | .other c => consumer.available c
  validate b envelope :=
    match b.consumer with
    | .endpoint e => (Endpoint.answers consumer).validate e envelope
    | .other c => consumer.validate c envelope

/-- The handler that is handed the envelope, if there is one. -/
def handler? (recipient : Option (RegistrationEntry F I (Stamped M) (Boxed (Resident C)) × Parcel M)) :
    Option (C × Parcel M) :=
  recipient.bind fun (entry, e) => entry.consumer.consumer.handler?.map fun consumer => (consumer, e)

variable [F32 F] [Message M]

/-- A step of the bus or the handles, after which endpoint `k` is in its new place. -/
def producerStep (s : Locals F I M C) (a : ProducerAction F I M (Resident C)) (k : Nat) (place : Place C)
    (es : List (LocalEvent M C)) : Option (Locals F I M C × List (LocalEvent M C)) :=
  (s.producers.step a).map fun (producers, below) =>
    ({ s with producers := producers }.setPlace k place, below.map .producers ++ es)

def step (s : Locals F I M C) : LocalAction F I M C → Option (Locals F I M C × List (LocalEvent M C))
  | .new k name flags =>
      match s.endpoints k with
      | .unused => some (s.setPlace k (.here (.new name flags) none), [])
      | _ => none
  | .setConsumer k consumer =>
      (s.free k).map fun e => (s.setPlace k (.here (e.setConsumer consumer) none), [])
  | .registerProducer k =>
      match s.free k, s.producers.desk.world.control with
      | some e, .idle =>
          if s.producers.desk.closed then none
          else
            s.producerStep (.makeHandle e.name) k (.here (e.attach s.producers.handles.length) none)
              [.attached k none]
      | _, _ => none
  | .registerProducerThrottled k throttle =>
      (s.free k).bind fun e =>
        s.producerStep (.registerProducerThrottled e.name throttle) k
          (.here (e.attach s.producers.handles.length) none)
          [.attached k (some (s.producers.buckets.length, throttle))]
  | .sendBus k message =>
      (s.free k).bind fun e =>
        match e.sendOp with
        | none => some (s, [.notRegistered k])
        | some h =>
            s.producerStep (.makeSend h message) k (.here e (some s.producers.sends.length))
              [.begun k s.producers.sends.length message]
  | .registerConsumer k dims =>
      (s.free k).bind fun e =>
        s.producerStep (.desk (.world (.registerConsumer ⟨none, .endpoint e⟩ dims))) k .moved []
  | .register k r dims => (s.free k).bind fun e => s.producerStep (.desk (.call r (.endpoint e) dims)) k .moved []
  | .takeEnvelope consumer =>
      let taken := handler? (s.producers.desk.world.recipient (answers consumer))
      (s.producers.step (.desk (.world (.takeEnvelope (answers consumer))))).map fun (producers, es) =>
        ({ s with producers := producers }, es.map .producers ++ taken.toList.map fun call => .consumed call.1 call.2)
  | .producers a =>
      if a.aside then
        (s.producers.step a).map fun (producers, es) => ({ s with producers := producers }, es.map .producers)
      else none

end Locals

/-! ## Renaming consumers -/

def Producers.rename (f : C → D) (s : Producers F I M C) : Producers F I M D :=
  ⟨s.desk.rename f, s.now, s.buckets, s.handles, s.sends⟩

def ProducerAction.rename (f : C → D) (consumer : Consumer (Stamped M) (Boxed D)) :
    ProducerAction F I M C → ProducerAction F I M D
  | .makeHandle name => .makeHandle name
  | .registerProducerThrottled name throttle => .registerProducerThrottled name throttle
  | .clone h => .clone h
  | .tryMakeSend h message => .tryMakeSend h message
  | .makeSend h message => .makeSend h message
  | .makeSendWithOrigin h origin message => .makeSendWithOrigin h origin message
  | .poll n => .poll n
  | .cancel n => .cancel n
  | .wait duration => .wait duration
  | .desk a => .desk (a.rename f consumer)

def ProducerAction.Asks (f : C → D) (consumer : Consumer (Stamped M) (Boxed D)) (a : ProducerAction F I M C) : Prop :=
  ∀ own, a = .desk (.world (.takeEnvelope own)) → own = consumer.comap (Boxed.rename f)

namespace Producers

variable [F32 F] [Message M]

theorem trySend_rename (f : C → D) (s : Producers F I M C) (origin : ProducerId) (message : M) :
    (s.rename f).trySend origin message =
      (s.trySend origin message).map fun next => (next.1.rename f, next.2) := by
  have sent := Desk.step_rename f ⟨fun _ => false, fun _ _ => false⟩ (a := .world (.send origin message))
    (fun _ wrong => by cases wrong) s.desk
  simp only [trySend]
  rw [show (s.rename f).desk.step (.world (.send origin message)) = _ from sent,
    show (s.rename f).desk.closed = s.desk.closed from rfl]
  by_cases closed : s.desk.closed = true
  · rw [if_pos closed, if_pos closed]
    rfl
  · rw [if_neg closed, if_neg closed]
    cases s.desk.step (.world (.send origin message)) with
    | none => rfl
    | some next => rfl

theorem waitForToken_rename (f : C → D) (s : Producers F I M C) (n : Nat) (throttle : Option Nat) :
    ((s.rename f).waitForToken n throttle : Option (Producers F I M D × List (ProducerEvent M))) =
      (s.waitForToken n throttle).map fun next => (next.1.rename f, next.2) := by
  cases throttle with
  | none => rfl
  | some b =>
      simp only [waitForToken, Option.map_map]
      rw [show (s.rename f).buckets = s.buckets from rfl]
      congr 1
      funext bucket
      simp only [Function.comp_apply]
      rw [show (s.rename f).now = s.now from rfl]
      cases (bucket.tryAcquire s.now).2 <;> rfl

/-- **What a bus with its handles does, the renamed bus does.** -/
theorem step_rename (f : C → D) (consumer : Consumer (Stamped M) (Boxed D)) {a : ProducerAction F I M C}
    (asks : a.Asks f consumer) (s : Producers F I M C) :
    (s.rename f).step (a.rename f consumer) = (s.step a).map fun next => (next.1.rename f, next.2) := by
  cases a with
  | makeHandle name => rfl
  | registerProducerThrottled name throttle =>
      simp only [step, ProducerAction.rename]
      rw [show (s.rename f).desk.world.control = s.desk.world.control.rename (Boxed.rename f) from rfl]
      cases s.desk.world.control with
      | idle =>
          simp only [Control.rename]
          rw [apply_ite (Option.map _)]
          rfl
      | _ => rfl
  | clone h =>
      simp only [step, ProducerAction.rename, Option.map_map]
      rfl
  | tryMakeSend h message =>
      simp only [step, ProducerAction.rename, Option.map_map, trySend_rename]
      rw [show (s.rename f).handles = s.handles from rfl]
      congr 1
      funext handle
      simp only [Function.comp_apply]
      cases s.trySend handle.origin message <;> rfl
  | makeSend h message =>
      simp only [step, ProducerAction.rename, Option.map_map]
      rfl
  | makeSendWithOrigin h origin message =>
      simp only [step, ProducerAction.rename, Option.map_map]
      rfl
  | poll n =>
      simp only [step, ProducerAction.rename]
      rw [show (s.rename f).sends = s.sends from rfl]
      cases s.sends[n]? with
      | none => rfl
      | some send =>
          simp only
          cases send.phase with
          | waiting => exact s.waitForToken_rename f n send.throttle
          | sleeping deadline =>
              simp only
              rw [apply_ite (Option.map _)]
              rfl
          | sending =>
              simp only [trySend_rename]
              cases s.trySend send.origin send.message with
              | error e => cases e <;> rfl
              | ok next => rfl
          | ended => rfl
  | cancel n =>
      simp only [step, ProducerAction.rename, Option.map_map]
      rfl
  | wait duration =>
      simp only [step, ProducerAction.rename]
      rw [apply_ite (Option.map _)]
      rfl
  | desk a =>
      have worked := Desk.step_rename f consumer (a := a) (fun own isTake => asks own (by rw [isTake]))
        s.desk
      simp only [step, ProducerAction.rename, Option.map_map]
      rw [show (s.rename f).desk.step (a.rename f consumer) = _ from worked, Option.map_map]
      rfl

end Producers

/-! ## What is handed over -/

namespace Producers

variable [F32 F] [Message M]

theorem take_of_handed_desk {d d' : Desk F I M C} {a : DeskAction F I M C} {below : List (Event M)}
    (stepped : d.step a = some (d', below)) {id : Nat} {e : Parcel M} (handed : Event.handed id e ∈ below) :
    ∃ own, a = .world (.takeEnvelope own) := by
  cases Desk.move_of_step stepped with
  | worked live plain worked =>
      obtain ⟨own, bus, loop, rfl, -⟩ := (World.move_of_step worked).handed_cases handed
      exact ⟨own, rfl⟩
  | _ => cases handed

/-- Only the step that takes an envelope hands one over. -/
theorem take_of_handed {s s' : Producers F I M C} {a : ProducerAction F I M C} {es : List (ProducerEvent M)}
    (stepped : s.step a = some (s', es)) {id : Nat} {e : Parcel M} (handed : .bus (.handed id e) ∈ es) :
    ∃ own, a = .desk (.world (.takeEnvelope own)) := by
  have silent : ∀ {l : List (ProducerEvent M)}, (∀ told ∈ l, told.bus? = none) → .bus (.handed id e) ∉ l := by
    intro l quiet member
    cases quiet _ member
  cases move_of_step stepped with
  | aside sameDesk sameBuckets sameSends passes refused => exact absurd handed (silent (silent_refused refused))
  | ended found refused => exact absurd handed (silent (silent_refused refused))
  | tried found live below =>
      obtain ⟨own, wrong⟩ := take_of_handed_desk below (by simpa using handed)
      cases wrong
  | waited found waiting waits =>
      rcases (waitForToken_desk waits).2 _ handed with ⟨b, now, wrong⟩ | wrong <;> cases wrong
  | sent found below =>
      obtain ⟨own, wrong⟩ := take_of_handed_desk below (by simpa using handed)
      cases wrong
  | worked below =>
      obtain ⟨own, rfl⟩ := take_of_handed_desk below (by simpa using handed)
      exact ⟨own, rfl⟩
  | _ => simp at handed

end Producers

/-! ## What the bus sees -/

def LocalEvent.producers? : LocalEvent M C → Option (ProducerEvent M)
  | .producers e => some e
  | _ => none

theorem LocalEvent.filterMap_producers (below : List (ProducerEvent M)) :
    (below.map .producers : List (LocalEvent M C)).filterMap LocalEvent.producers? = below := by
  rw [List.filterMap_map]
  exact List.filterMap_some ..

theorem LocalEvent.filterMap_producers_append (below : List (ProducerEvent M)) {rest : List (LocalEvent M C)}
    (apart : rest.filterMap LocalEvent.producers? = []) :
    (below.map LocalEvent.producers ++ rest).filterMap LocalEvent.producers? = below := by
  rw [List.filterMap_append, filterMap_producers, apart, List.append_nil]

/-- Calls of `consume` are not told by the bus. -/
theorem LocalEvent.filterMap_producers_consumed (calls : List (C × Parcel M)) :
    (calls.map fun call => .consumed call.1 call.2 : List (LocalEvent M C)).filterMap LocalEvent.producers? = [] := by
  rw [List.filterMap_map]
  exact List.filterMap_eq_nil_iff.mpr fun _ _ => rfl

def LocalEvent.consumed? : LocalEvent M C → Option (C × Parcel M)
  | .consumed consumer e => some (consumer, e)
  | _ => none

/-- The calls of `consume` come behind what is told of the bus. -/
theorem LocalEvent.filterMap_consumed (below : List (ProducerEvent M)) (calls : List (C × Parcel M)) :
    (below.map .producers ++ calls.map fun call => .consumed call.1 call.2 : List (LocalEvent M C)).filterMap
      LocalEvent.consumed? = calls := by
  have quiet : (below.map LocalEvent.producers : List (LocalEvent M C)).filterMap LocalEvent.consumed? = [] := by
    rw [List.filterMap_map]
    exact List.filterMap_eq_nil_iff.mpr fun _ _ => rfl
  rw [List.filterMap_append, quiet, List.nil_append, List.filterMap_map]
  exact List.filterMap_some ..

theorem ProducerEvent.filterMap_bus (es : List (Event M)) :
    (es.map ProducerEvent.bus).filterMap ProducerEvent.bus? = es := by
  rw [List.filterMap_map]
  exact List.filterMap_some ..

namespace Locals

/-- What the trace tells of the bus. -/
def busTrace (t : List (LocalEvent M C)) : List (Event M) :=
  (t.filterMap LocalEvent.producers?).filterMap ProducerEvent.bus?

/-- The envelopes that the bus has handed to a consumer. -/
def handedOut (t : List (LocalEvent M C)) : List (Parcel M) := ((busTrace t).filterMap Event.handed?).map Prod.snd

/-- The envelopes with which `consume` of a handler was called. -/
def consumedOf (t : List (LocalEvent M C)) : List (Parcel M) := (t.filterMap LocalEvent.consumed?).map Prod.snd

/-- What handlers answer, where there are any. -/
def handlerAnswers (consumer : Consumer (Stamped M) C) : Consumer (Stamped M) (Boxed (Option C)) where
  available b := b.consumer.any consumer.available
  validate b envelope := b.consumer.any fun handler => consumer.validate handler envelope

/-- An endpoint answers what its handler does, and else it is not available. -/
theorem answers_eq (consumer : Consumer (Stamped M) C) :
    answers consumer = (handlerAnswers consumer).comap (Boxed.rename Resident.handler?) := by
  apply Consumer.eq_of_answers
  · rintro ⟨call, resident⟩
    cases resident <;> rfl
  · rintro ⟨call, resident⟩ envelope
    cases resident <;> rfl

/-- The handlers answer the bus. -/
def ByHandlers (a : ProducerAction F I M (Option C)) : Prop :=
  ∀ own, a = .desk (.world (.takeEnvelope own)) → ∃ consumer, own = handlerAnswers consumer

/-- In a renamed step the consumers answer what they are said to. -/
theorem byHandlers_rename (consumer : Consumer (Stamped M) C) (a : ProducerAction F I M (Resident C)) :
    ByHandlers (a.rename Resident.handler? (handlerAnswers consumer)) := by
  intro own isTake
  refine ⟨consumer, ?_⟩
  cases a with
  | desk b =>
      cases b with
      | world c =>
          cases c with
          | takeEnvelope answers =>
              cases isTake
              rfl
          | _ => cases isTake
      | _ => cases isTake
  | _ => cases isTake

/-- Nobody is available. -/
def nobody : Consumer (Stamped M) C := ⟨fun _ => false, fun _ _ => false⟩

theorem asks_of_aside {a : ProducerAction F I M (Resident C)} (apart : a.aside = true)
    (consumer : Consumer (Stamped M) (Boxed (Option C))) : a.Asks Resident.handler? consumer := by
  rintro own rfl
  cases apart

variable [F32 F] [Message M] {s s' : Locals F I M C} {a : LocalAction F I M C} {es : List (LocalEvent M C)}

/-- How an endpoint gets into the bus. -/
inductive Enters (e : Endpoint C) (k : Nat) : LocalAction F I M C → ProducerAction F I M (Resident C) → Prop
  | registered {dims : List (DimSpec F I (Stamped M))} :
      Enters e k (.registerConsumer k dims) (.desk (.world (.registerConsumer ⟨none, .endpoint e⟩ dims)))
  | asked {r : Nat} {dims : List (DimSpec F I (Stamped M))} :
      Enters e k (.register k r dims) (.desk (.call r (.endpoint e) dims))

inductive Move (s : Locals F I M C) : LocalAction F I M C → Locals F I M C → List (LocalEvent M C) → Prop
  | made {k : Nat} {name : String} {flags : EndpointFlags} (unused : s.endpoints k = .unused) :
      Move s (.new k name flags) (s.setPlace k (.here (.new name flags) none)) []
  | handlerSet {k : Nat} {consumer : C} {e : Endpoint C} (free : s.free k = some e) :
      Move s (.setConsumer k consumer) (s.setPlace k (.here (e.setConsumer consumer) none)) []
  | attached {k : Nat} {e : Endpoint C} {producers : Producers F I M (Resident C)} (free : s.free k = some e)
      (stepped : s.producers.step (.makeHandle e.name) = some (producers, []))
      (given : producers = { s.producers with handles := s.producers.handles ++ [⟨⟨e.name⟩, none⟩] }) :
      Move s (.registerProducer k)
        ({ s with producers := producers }.setPlace k (.here (e.attach s.producers.handles.length) none))
        [.attached k none]
  | throttled {k : Nat} {e : Endpoint C} {throttle : Throttle} {producers : Producers F I M (Resident C)}
      (free : s.free k = some e)
      (stepped : s.producers.step (.registerProducerThrottled e.name throttle) =
        some (producers, [.throttled s.producers.buckets.length throttle]))
      (given : producers = { s.producers with
        buckets := s.producers.buckets ++ [.new throttle.rate throttle.burst s.producers.now]
        handles := s.producers.handles ++ [⟨⟨e.name⟩, some s.producers.buckets.length⟩] }) :
      Move s (.registerProducerThrottled k throttle)
        ({ s with producers := producers }.setPlace k (.here (e.attach s.producers.handles.length) none))
        [.producers (.throttled s.producers.buckets.length throttle),
          .attached k (some (s.producers.buckets.length, throttle))]
  | refused {k : Nat} {e : Endpoint C} {message : M} (free : s.free k = some e) (noHandle : e.sendOp = none) :
      Move s (.sendBus k message) s [.notRegistered k]
  | begun {k h : Nat} {e : Endpoint C} {handle : ProducerHandle} {message : M} (free : s.free k = some e)
      (sends : e.sendOp = some h) (found : s.producers.handles[h]? = some handle)
      (stepped : s.producers.step (.makeSend h message) =
        some (s.producers.begin handle handle.origin message, [])) :
      Move s (.sendBus k message)
        ({ s with producers := s.producers.begin handle handle.origin message }.setPlace k
          (.here e (some s.producers.sends.length)))
        [.begun k s.producers.sends.length message]
  | entered {k : Nat} {e : Endpoint C} {a : LocalAction F I M C} {b : ProducerAction F I M (Resident C)}
      {producers : Producers F I M (Resident C)} {below : List (ProducerEvent M)} (free : s.free k = some e)
      (enters : Enters e k a b) (stepped : s.producers.step b = some (producers, below)) :
      Move s a ({ s with producers := producers }.setPlace k .moved) (below.map .producers)
  | taken {consumer : Consumer (Stamped M) C} {producers : Producers F I M (Resident C)}
      {below : List (ProducerEvent M)}
      (stepped : s.producers.step (.desk (.world (.takeEnvelope (answers consumer)))) = some (producers, below)) :
      Move s (.takeEnvelope consumer) { s with producers := producers }
        (below.map .producers ++
          (handler? (s.producers.desk.world.recipient (answers consumer))).toList.map fun call =>
            .consumed call.1 call.2)
  | others {b : ProducerAction F I M (Resident C)} {producers : Producers F I M (Resident C)}
      {below : List (ProducerEvent M)} (apart : b.aside = true)
      (stepped : s.producers.step b = some (producers, below)) :
      Move s (.producers b) { s with producers := producers } (below.map .producers)

theorem producerStep_eq_some {b : ProducerAction F I M (Resident C)} {k : Nat} {place : Place C}
    {rest : List (LocalEvent M C)} (stepped : s.producerStep b k place rest = some (s', es)) :
    ∃ producers below, s.producers.step b = some (producers, below) ∧
      s' = { s with producers := producers }.setPlace k place ∧ es = below.map .producers ++ rest := by
  obtain ⟨⟨producers, below⟩, stepped', same⟩ := Option.map_eq_some_iff.mp stepped
  cases same
  exact ⟨producers, below, stepped', rfl, rfl⟩

/-- **Every step is one of these moves.** -/
theorem move_of_step (stepped : s.step a = some (s', es)) : Move s a s' es := by
  cases a with
  | new k name flags =>
      simp only [step] at stepped
      split at stepped
      · rename_i unused
        cases stepped
        exact .made unused
      · cases stepped
  | setConsumer k consumer =>
      obtain ⟨e, free, same⟩ := Option.map_eq_some_iff.mp stepped
      cases same
      exact .handlerSet free
  | registerProducer k =>
      simp only [step] at stepped
      split at stepped
      · rename_i e free idle
        split at stepped
        · cases stepped
        · obtain ⟨producers, below, made, rfl, rfl⟩ := producerStep_eq_some stepped
          cases made
          exact .attached free rfl rfl
      · cases stepped
  | registerProducerThrottled k throttle =>
      obtain ⟨e, free, stepped⟩ := Option.bind_eq_some_iff.mp stepped
      obtain ⟨producers, below, made, rfl, rfl⟩ := producerStep_eq_some stepped
      have whole := made
      simp only [Producers.step] at made
      split at made
      · split at made
        · cases made
        · cases made
          exact .throttled free whole rfl
      · cases made
  | sendBus k message =>
      obtain ⟨e, free, stepped⟩ := Option.bind_eq_some_iff.mp stepped
      split at stepped
      · rename_i noHandle
        cases stepped
        exact .refused free noHandle
      · rename_i h sends
        obtain ⟨producers, below, made, rfl, rfl⟩ := producerStep_eq_some stepped
        have whole := made
        obtain ⟨handle, found, same⟩ := Option.map_eq_some_iff.mp made
        cases same
        exact .begun free sends found whole
  | registerConsumer k dims =>
      obtain ⟨e, free, stepped⟩ := Option.bind_eq_some_iff.mp stepped
      obtain ⟨producers, below, made, rfl, rfl⟩ := producerStep_eq_some stepped
      rw [List.append_nil]
      exact .entered free .registered made
  | register k r dims =>
      obtain ⟨e, free, stepped⟩ := Option.bind_eq_some_iff.mp stepped
      obtain ⟨producers, below, made, rfl, rfl⟩ := producerStep_eq_some stepped
      rw [List.append_nil]
      exact .entered free .asked made
  | takeEnvelope consumer =>
      obtain ⟨⟨producers, below⟩, took, same⟩ := Option.map_eq_some_iff.mp stepped
      cases same
      exact .taken took
  | producers b =>
      simp only [step] at stepped
      split at stepped
      · rename_i apart
        obtain ⟨⟨producers, below⟩, made, same⟩ := Option.map_eq_some_iff.mp stepped
        cases same
        exact .others apart made
      · cases stepped

/-- Whose bus is renamed does a step of it, in which the handlers answer. -/
theorem one_renamed {producers producers' : Producers F I M (Resident C)} {b : ProducerAction F I M (Resident C)}
    {below : List (ProducerEvent M)} (consumer : Consumer (Stamped M) C)
    (asks : b.Asks Resident.handler? (handlerAnswers consumer))
    (stepped : producers.step b = some (producers', below)) :
    ∃ schedule, (∀ c ∈ schedule, ByHandlers c) ∧
      exec Producers.step (producers.rename Resident.handler?) schedule =
        some (producers'.rename Resident.handler?, below) := by
  refine ⟨[b.rename Resident.handler? (handlerAnswers consumer)], ?_, ?_⟩
  · intro c member
    rw [List.mem_singleton.mp member]
    exact byHandlers_rename consumer b
  · rw [exec_singleton, Producers.step_rename Resident.handler? _ asks, stepped]
    rfl

/-- A step of the endpoints is one of the bus with their handlers, or none. -/
theorem Move.renamed (move : Move s a s' es) :
    ∃ schedule, (∀ b ∈ schedule, ByHandlers b) ∧
      exec Producers.step (s.producers.rename Resident.handler?) schedule =
        some (s'.producers.rename Resident.handler?, es.filterMap LocalEvent.producers?) := by
  have none : ∃ schedule : List (ProducerAction F I M (Option C)), (∀ b ∈ schedule, ByHandlers b) ∧
      exec Producers.step (s.producers.rename Resident.handler?) schedule =
        some (s.producers.rename Resident.handler?, []) := ⟨[], by simp, rfl⟩
  cases move with
  | made unused => exact none
  | handlerSet free => exact none
  | refused free noHandle => exact none
  | attached free stepped given => exact one_renamed nobody (fun _ wrong => by cases wrong) stepped
  | throttled free stepped given => exact one_renamed nobody (fun _ wrong => by cases wrong) stepped
  | begun free sends found stepped => exact one_renamed nobody (fun _ wrong => by cases wrong) stepped
  | entered free enters stepped =>
      rw [LocalEvent.filterMap_producers]
      refine one_renamed nobody ?_ stepped
      rintro own rfl
      cases enters
  | @taken consumer producers below stepped =>
      rw [LocalEvent.filterMap_producers_append]
      · refine one_renamed consumer ?_ stepped
        intro own isTake
        cases isTake
        exact answers_eq consumer
      · exact LocalEvent.filterMap_producers_consumed _
  | others apart stepped =>
      rw [LocalEvent.filterMap_producers]
      exact one_renamed nobody (asks_of_aside apart _) stepped

/-- A step of the endpoints is one of the bus with its handles, or none. -/
theorem Move.below (move : Move s a s' es) :
    (s'.producers = s.producers ∧ es.filterMap LocalEvent.producers? = []) ∨
      ∃ b, s.producers.step b = some (s'.producers, es.filterMap LocalEvent.producers?) := by
  cases move with
  | made unused => exact Or.inl ⟨rfl, rfl⟩
  | handlerSet free => exact Or.inl ⟨rfl, rfl⟩
  | refused free noHandle => exact Or.inl ⟨rfl, rfl⟩
  | attached free stepped given => exact Or.inr ⟨_, stepped⟩
  | throttled free stepped given => exact Or.inr ⟨_, stepped⟩
  | begun free sends found stepped => exact Or.inr ⟨_, stepped⟩
  | entered free enters stepped => exact Or.inr ⟨_, by rw [LocalEvent.filterMap_producers]; exact stepped⟩
  | @taken consumer producers below stepped =>
      refine Or.inr ⟨.desk (.world (.takeEnvelope (answers consumer))), ?_⟩
      rw [LocalEvent.filterMap_producers_append]
      · exact stepped
      · exact LocalEvent.filterMap_producers_consumed _
  | others apart stepped => exact Or.inr ⟨_, by rw [LocalEvent.filterMap_producers]; exact stepped⟩

/-- Who is available has a handler. -/
theorem handler_of_available {consumer : Consumer (Stamped M) C} {b : Boxed (Resident C)}
    (available : (answers consumer).available b = true) : ∃ handler, b.consumer.handler? = some handler := by
  obtain ⟨call, resident⟩ := b
  cases resident with
  | endpoint e =>
      obtain ⟨handler, has, -⟩ := (Option.any_eq_true ..).mp available
      exact ⟨handler, has⟩
  | other c => exact ⟨c, rfl⟩

/-- What is handed over is handed to a handler. -/
theorem Move.handed (move : Move s a s' es) : consumedOf es = handedOut es := by
  have apart : ∀ {b : ProducerAction F I M (Resident C)} {producers : Producers F I M (Resident C)}
      {below : List (ProducerEvent M)}, s.producers.step b = some (producers, below) →
      (∀ own, b ≠ .desk (.world (.takeEnvelope own))) → es = below.map .producers → consumedOf es = handedOut es := by
    rintro b producers below stepped untaken rfl
    have nothing : ((below.filterMap ProducerEvent.bus?).filterMap Event.handed?) = [] := by
      rw [List.filterMap_eq_nil_iff]
      intro told member
      obtain ⟨event, isIn, isBus⟩ := List.mem_filterMap.mp member
      cases event with
      | bus inner =>
          cases isBus
          cases told with
          | handed id e =>
              obtain ⟨own, isTake⟩ := Producers.take_of_handed stepped isIn
              exact absurd isTake (untaken own)
          | _ => rfl
      | _ => cases isBus
    have unheard := LocalEvent.filterMap_consumed (C := C) below []
    rw [List.map_nil, List.append_nil] at unheard
    rw [handedOut, busTrace, LocalEvent.filterMap_producers, nothing, consumedOf, unheard]
    rfl
  cases move with
  | made unused => rfl
  | handlerSet free => rfl
  | attached free stepped given => rfl
  | throttled free stepped given => rfl
  | refused free noHandle => rfl
  | begun free sends found stepped => rfl
  | entered free enters stepped =>
      apply apart stepped _ rfl
      rintro own rfl
      cases enters
  | @taken consumer producers below stepped =>
      obtain ⟨⟨desk, events⟩, deskStepped, same⟩ := Option.map_eq_some_iff.mp stepped
      obtain ⟨-, rfl⟩ := Prod.mk.inj same
      obtain ⟨-, took, -, -⟩ := Desk.world_step deskStepped
      rw [handedOut, busTrace, LocalEvent.filterMap_producers_append _ (LocalEvent.filterMap_producers_consumed _),
        ProducerEvent.filterMap_bus, consumedOf, LocalEvent.filterMap_consumed]
      rcases World.takeEnvelope_cases took with ⟨entry, e, bus, loop, resume, -, who, rfl, -⟩ | ⟨nobody, loop, goesOn⟩
      · obtain ⟨-, i, chosen⟩ := World.recipient_eq_some_iff.mp who
        obtain ⟨handler, has⟩ := handler_of_available chosen.eligible.available
        have passedOn : handler? (some (entry, e)) = some (handler, e) := by simp [handler?, has]
        rw [who, passedOn]
        rfl
      · rw [nobody, handler?, Option.bind_none]
        have unheard : events.filterMap Event.handed? = [] := by
          have moved := World.move_of_step took
          generalize desk.world = after at moved goesOn
          cases moved with
          | handed taken member eligible shape => cases goesOn
          | returned taken shape none => exact Event.filterMap_map_none (fun _ => rfl) _
          | handles => rfl
        rw [unheard]
        rfl
  | others isAside stepped =>
      apply apart stepped _ rfl
      rintro own rfl
      cases isAside

variable {ok : Locals F I M C → List (LocalEvent M C) → LocalAction F I M C → Prop} {capacity cap : Nat}
  {router : Router} {t : List (LocalEvent M C)}

/-- **An endpoint is to the bus what its handler is**, and without a handler a consumer that is never
available.  In every run of endpoints on a bus, whatever is attached, set, sent and moved into the bus: the bus
with every endpoint in it renamed to its handler goes through a run of its own, with the same
events, in which the handlers answer for themselves; and `consume` of a handler is called with just
the messages that the bus hands out, in their order. -/
theorem endpoints_are_their_handlers (runs : Runs step ok (init capacity router cap) s t) :
    Runs Producers.step (fun _ _ b => ByHandlers b) (.init capacity router cap)
        (s.producers.rename Resident.handler?) (t.filterMap LocalEvent.producers?) ∧
      consumedOf t = handedOut t := by
  constructor
  · exact runs.simulated_within (fun s => s.producers.rename Resident.handler?) LocalEvent.producers? ByHandlers
      fun _ _ _ _ stepped => (move_of_step stepped).renamed
  · apply runs.invariant (P := fun _ t => consumedOf t = handedOut t)
    · rfl
    · intro s t a s' es ih _ stepped
      have both := (move_of_step stepped).handed
      simp only [consumedOf, handedOut, busTrace, List.filterMap_append, List.map_append] at ih both ⊢
      rw [ih, both]

/-! ## Three endpoints -/

def said (n : UInt8) : BaseMessage := .new none none (some [n])

/-- One endpoint talks, one hears, and one is registered without a handler; the second call is dropped
while it waits for a token. -/
def conversation : List (LocalAction ℚ Unit BaseMessage String) :=
  let deliver : List (LocalAction ℚ Unit BaseMessage String) :=
    [.takeEnvelope World.obliging, .producers (.desk (.world (.resume 7)))]
  [.new 0 "talker" ⟨false, true⟩, .sendBus 0 (said 5), .registerProducerThrottled 0 ⟨1, 1⟩,
    .new 1 "hearer" ⟨true, true⟩, .setConsumer 1 "ear", .registerProducer 1, .sendBus 1 (said 6),
    .producers (.poll 0), .producers (.poll 0), .registerConsumer 1 [], .new 2 "deaf" ⟨true, false⟩,
    .registerConsumer 2 [], .sendBus 0 (said 7), .producers (.poll 1), .producers (.poll 1), .sendBus 0 (said 8),
    .producers (.poll 2), .producers (.cancel 2), .sendBus 0 (said 9), .producers (.poll 3), .producers (.wait 1),
    .producers (.poll 3), .producers (.poll 3), .producers (.poll 3), .producers (.desk (.world .dispatch))] ++
    deliver ++ deliver ++ deliver

def conversed : Locals ℚ Unit BaseMessage String × List (LocalEvent BaseMessage String) :=
  outcome step (init 8 .affinity 8) conversation

/-- The bus hands out three messages, and the one handler is called with them. -/
theorem endpoints_are_their_handlers_conversed :
    Runs Producers.step (fun _ _ b => ByHandlers b) (.init 8 .affinity 8)
        (conversed.1.producers.rename Resident.handler?) (conversed.2.filterMap LocalEvent.producers?) ∧
      (conversed.2.filterMap LocalEvent.consumed?).map (fun call => (call.1, call.2.message.body)) =
        [("ear", said 6), ("ear", said 7), ("ear", said 9)] ∧
      handedOut conversed.2 = consumedOf conversed.2 := by
  have runs : Runs step anyStep (init 8 .affinity 8) conversed.1 conversed.2 :=
    runs_outcome_any conversation (by decide +kernel)
  obtain ⟨below, same⟩ := endpoints_are_their_handlers runs
  exact ⟨below, by decide +kernel, same.symm⟩

end Locals

end Jackfield
