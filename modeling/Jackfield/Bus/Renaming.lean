/-
# Jackfield.Bus.Renaming -- the bus sees of its consumers only what they answer

A consumer is a box to the registry, the routers and the bus: they move it about and ask it.
So if `f` renames the consumers, and `Consumer.comap f` asks each what its new name
answers, then whatever a bus does, the bus with the consumers renamed does
(`World.step_rename`, `Desk.step_rename`), with the same events.
-/
import Jackfield.Registry.Registration
import Jackfield.Bus.Desk

namespace Jackfield

set_option autoImplicit false
set_option linter.unusedSectionVars false

variable {F I M C D : Type}

/-! ## The registry -/

def RegistrationEntry.rename (f : C → D) (e : RegistrationEntry F I M C) : RegistrationEntry F I M D :=
  ⟨e.id, f e.consumer, e.dims⟩

def Registry.rename (f : C → D) (r : Registry F I M C) : Registry F I M D :=
  ⟨r.entries.map (RegistrationEntry.rename f), r.nextId⟩

/-- Each is asked under its new name. -/
def Consumer.comap (f : C → D) (consumer : Consumer M D) : Consumer M C where
  available c := consumer.available (f c)
  validate c e := consumer.validate (f c) e

/-- Consumers that answer the same are the same. -/
theorem Consumer.eq_of_answers {a b : Consumer M C} (available : ∀ c, a.available c = b.available c)
    (validate : ∀ c e, a.validate c e = b.validate c e) : a = b := by
  obtain ⟨a₁, a₂⟩ := a
  obtain ⟨b₁, b₂⟩ := b
  cases (funext available : a₁ = b₁)
  cases (funext fun c => funext (validate c) : a₂ = b₂)
  rfl

@[simp] theorem Consumer.comap_available (f : C → D) (consumer : Consumer M D) (c : C) :
    (consumer.comap f).available c = consumer.available (f c) := rfl

@[simp] theorem Consumer.comap_validate (f : C → D) (consumer : Consumer M D) (c : C) (e : Envelope M) :
    (consumer.comap f).validate c e = consumer.validate (f c) e := rfl

@[simp] theorem RegistrationEntry.rename_consumer (f : C → D) (e : RegistrationEntry F I M C) :
    (e.rename f).consumer = f e.consumer := rfl

def Routing.rename (f : C → D) : Routing F I M C → Routing F I M D
  | .consuming idx entry resume => .consuming idx (entry.rename f) fun latency => (resume latency).rename f
  | .unhandled registry e => .unhandled (registry.rename f) e

namespace Registry

theorem registerWith_rename [F32 F] (f : C → D) (r : Registry F I M C) (c : C) (dims : List (DimSpec F I M)) :
    ((r.rename f).registerWith (f c) dims).registry = (r.registerWith c dims).registry.rename f ∧
      ((r.rename f).registerWith (f c) dims).id = (r.registerWith c dims).id := by
  rw [registerWith_eq, registerWith_eq]
  exact ⟨by simp [rename, RegistrationEntry.rename], rfl⟩

theorem deregister_rename (f : C → D) (r : Registry F I M C) (id : Nat) :
    (r.rename f).deregister id = ((r.deregister id).1.rename f, (r.deregister id).2) := by
  have kept : (r.rename f).entries.filter (fun e => decide (e.id ≠ id)) =
      (r.entries.filter fun e => decide (e.id ≠ id)).map (RegistrationEntry.rename f) :=
    List.filter_map
  rw [deregister_eq, deregister_eq, kept]
  simp [rename]

theorem deliver_rename (f : C → D) (r : Registry F I M C) (delivery : Nat × DispatchEvent) :
    (r.rename f).deliver delivery = (r.deliver delivery).rename f := by
  simp only [deliver, rename]
  congr 1
  apply List.ext_getElem?
  intro i
  simp only [List.getElem?_modify, List.getElem?_map]
  cases r.entries[i]? with
  | none => rfl
  | some e => by_cases hit : delivery.1 = i <;> simp [hit, observeEntry, RegistrationEntry.rename]

theorem observe_rename (f : C → D) (r : Registry F I M C) (plan : RoutePlan F) (winnerIdx : Option Nat)
    (preWinner : List (Nat × Bool)) :
    (r.rename f).observe plan winnerIdx preWinner = (r.observe plan winnerIdx preWinner).rename f := by
  unfold observe
  generalize events plan winnerIdx preWinner = deliveries
  induction deliveries generalizing r with
  | nil => rfl
  | cons delivery rest ih => rw [List.foldl_cons, List.foldl_cons, deliver_rename, ih]

variable [F32 F] [Message M]

theorem plan_rename (f : C → D) (r : Registry F I M C) (e : Envelope M) : (r.rename f).plan e = r.plan e := by
  simp only [plan, rename, List.zipIdx_map, List.filterMap_map]
  rfl

end Registry

/-! ## The routers -/

variable [F32 F] [Message M]

theorem AffinityRouter.scan_rename (f : C → D) (consumer : Consumer M D) (entries : List (RegistrationEntry F I M C))
    (e : Envelope M) (candidates : List (Candidate F)) (preWinner : List (Nat × Bool)) :
    scan consumer (entries.map (RegistrationEntry.rename f)) e candidates preWinner =
      ((scan (consumer.comap f) entries e candidates preWinner).1,
        (scan (consumer.comap f) entries e candidates preWinner).2.map fun w => (w.1, w.2.rename f)) := by
  induction candidates generalizing preWinner with
  | nil => rfl
  | cons c rest ih =>
      simp only [scan, List.getElem?_map]
      cases entries[c.idx]? with
      | none => exact ih preWinner
      | some entry =>
          simp only [Option.map_some, RegistrationEntry.rename_consumer, Consumer.comap_available,
            Consumer.comap_validate, ih]
          by_cases free : consumer.available (f entry.consumer) = true
          · by_cases agrees : consumer.validate (f entry.consumer) e = true <;> simp [free, agrees]
          · simp [free]

theorem BlindRouter.firstFit_rename (f : C → D) (consumer : Consumer M D) (e : Envelope M)
    (entries : List (RegistrationEntry F I M C)) (i : Nat) :
    firstFit consumer e (entries.map (RegistrationEntry.rename f)) i =
      (firstFit (consumer.comap f) e entries i).map fun w => (w.1, w.2.rename f) := by
  induction entries generalizing i with
  | nil => rfl
  | cons entry rest ih =>
      have same : hardRejected e (entry.rename f) = hardRejected e entry := rfl
      simp only [List.map_cons, firstFit, same, ih, RegistrationEntry.rename_consumer, Consumer.comap_available,
        Consumer.comap_validate]
      by_cases rejected : hardRejected e entry = true
      · simp [rejected]
      · by_cases free : consumer.available (f entry.consumer) = true
        · by_cases agrees : consumer.validate (f entry.consumer) e = true <;> simp [rejected, free, agrees]
        · simp [rejected, free]

/-- **A router chooses by what the consumers answer.** -/
theorem Router.route_rename (f : C → D) (router : Router) (consumer : Consumer M D) (r : Registry F I M C)
    (e : Envelope M) :
    router.route consumer (r.rename f) e = (router.route (consumer.comap f) r e).rename f := by
  cases router with
  | affinity =>
      have scanned := AffinityRouter.scan_rename f consumer r.entries e (r.plan e).qualified []
      simp only [route, AffinityRouter.route, Registry.plan_rename]
      rw [show (r.rename f).entries = r.entries.map (RegistrationEntry.rename f) from rfl, scanned]
      generalize AffinityRouter.scan (consumer.comap f) r.entries e (r.plan e).qualified [] = found
      obtain ⟨preWinner, winner⟩ := found
      cases winner with
      | none => simp only [Option.map_none, Routing.rename, Registry.observe_rename]
      | some w =>
          simp only [Option.map_some, Routing.rename, Registry.observe_rename, Registry.observeConsumed,
            Registry.deliver_rename]
  | blind =>
      simp only [route, BlindRouter.route]
      rw [Registry.rename, BlindRouter.firstFit_rename]
      cases BlindRouter.firstFit (consumer.comap f) e r.entries 0 with
      | none => rfl
      | some w => rfl

/-! ## The bus -/

def BusCmd.rename (f : C → D) : BusCmd F I M C → BusCmd F I M D
  | .register consumer dims reply => .register (f consumer) dims reply
  | .deregister id => .deregister id

def Bus.rename (f : C → D) (bus : Bus F I M C) : Bus F I M D :=
  ⟨bus.rx, bus.cmdRx.map (BusCmd.rename f), bus.router, bus.registry.rename f, bus.pending, bus.maxPending⟩

def Control.rename (f : C → D) : Control F I M C → Control F I M D
  | .idle => .idle
  | .running loop => .running loop
  | .consuming loop resume => .consuming loop fun latency => (resume latency).rename f

def World.rename (f : C → D) (w : World F I M C) : World F I M D := ⟨w.bus.rename f, w.control.rename f, w.sent⟩

/-- The same step of the renamed bus, where `consumer` answers. -/
def Action.rename (f : C → D) (consumer : Consumer (Stamped M) D) : Action F I M C → Action F I M D
  | .send origin message => .send origin message
  | .sendCmd cmd => .sendCmd (cmd.rename f)
  | .makeHandle => .makeHandle
  | .dropHandle => .dropHandle
  | .makeCmdHandle => .makeCmdHandle
  | .dropCmdHandle => .dropCmdHandle
  | .registerConsumer c dims => .registerConsumer (f c) dims
  | .deregisterConsumer id => .deregisterConsumer id
  | .drain => .drain
  | .dispatch => .dispatch
  | .takeCmd => .takeCmd
  | .takeEnvelope _ => .takeEnvelope consumer
  | .advance => .advance
  | .resume latency => .resume latency
  | .drop => .drop

/-- What is answered in a step is what `consumer` answers under the new names. -/
def Action.Asks (f : C → D) (consumer : Consumer (Stamped M) D) (a : Action F I M C) : Prop :=
  ∀ own, a = .takeEnvelope own → own = consumer.comap f

theorem Bus.applyCmd_rename (f : C → D) (bus : Bus F I M C) (cmd : BusCmd F I M C) :
    (bus.rename f).applyCmd (cmd.rename f) = ((bus.applyCmd cmd).1.rename f, (bus.applyCmd cmd).2) := by
  cases cmd with
  | register c dims reply =>
      obtain ⟨same, id⟩ := bus.registry.registerWith_rename f c dims
      simp only [BusCmd.rename, applyCmd]
      exact Prod.ext (congrArg (fun r => { bus.rename f with registry := r }) same)
        (congrArg (fun id => some (reply, id)) id)
  | deregister id =>
      simp only [BusCmd.rename, applyCmd, rename, Registry.deregister_rename]

namespace World

theorem next_rename (f : C → D) (w : World F I M C) :
    (w.rename f).next = w.next.map fun found => (found.1, found.2.1.rename f, found.2.2) := by
  obtain ⟨bus, control, sent⟩ := w
  cases control with
  | running loop =>
      cases loop with
      | drainPending rest => cases rest <;> rfl
      | drainChannel =>
          simp only [next, rename, Control.rename, Bus.rename, Option.map_map]
          rfl
      | dispatch =>
          simp only [next, rename, Control.rename, Bus.rename, Option.map_map]
          rfl
      | drainCmds => rfl
  | _ => rfl

theorem routeFrom_rename (f : C → D) (consumer : Consumer (Stamped M) D) (w : World F I M C) (e : Parcel M)
    (bus : Bus F I (Stamped M) C) (loop : Loop M) :
    (w.rename f).routeFrom consumer e (bus.rename f) loop =
      ((w.routeFrom (consumer.comap f) e bus loop).1.rename f, (w.routeFrom (consumer.comap f) e bus loop).2) := by
  have routed := bus.router.route_rename f consumer bus.registry e
  simp only [routeFrom]
  rw [show (bus.rename f).router.route consumer (bus.rename f).registry e = _ from routed]
  cases bus.router.route (consumer.comap f) bus.registry e with
  | consuming i entry resume => rfl
  | unhandled registry back => rfl

theorem takeCmd_rename (f : C → D) (w : World F I M C) :
    (w.rename f).takeCmd = w.takeCmd.map fun next => (next.1.rename f, next.2) := by
  simp only [takeCmd]
  rw [show (w.rename f).bus.cmdRx.tryRecv = _ from w.bus.cmdRx.tryRecv_map (BusCmd.rename f), Option.map_map,
    Option.map_map]
  congr 1
  funext front
  obtain ⟨cmd, cmdRx⟩ := front
  have applied := Bus.applyCmd_rename f { w.bus with cmdRx := cmdRx } cmd
  simp only [Function.comp_apply]
  rw [show ({ (w.rename f).bus with cmdRx := cmdRx.map (BusCmd.rename f) } : Bus F I (Stamped M) D) =
    Bus.rename f { w.bus with cmdRx := cmdRx } from rfl, applied]
  rfl

theorem advance_rename (f : C → D) (w : World F I M C) : (w.rename f).advance = w.advance.map (rename f) := by
  obtain ⟨bus, control, sent⟩ := w
  cases control with
  | running loop =>
      cases loop with
      | drainCmds =>
          simp only [advance, rename, Control.rename, Bus.rename, Channel.map, List.isEmpty_map]
          rw [apply_ite (Option.map (rename f))]
          rfl
      | drainPending rest => cases rest <;> rfl
      | drainChannel =>
          simp only [advance, rename, Control.rename, Bus.rename]
          rw [apply_ite (Option.map (rename f))]
          rfl
      | dispatch =>
          simp only [advance, rename, Control.rename, Bus.rename, Channel.closed_map]
          rw [apply_ite (Option.map (rename f))]
          rfl
  | _ => rfl

/-- **What a bus does, the renamed bus does.** -/
theorem step_rename (f : C → D) (consumer : Consumer (Stamped M) D) {a : Action F I M C} (asks : a.Asks f consumer)
    (w : World F I M C) :
    (w.rename f).step (a.rename f consumer) = (w.step a).map fun next => (next.1.rename f, next.2) := by
  cases a with
  | send origin message =>
      simp only [step, Action.rename, Option.map_map]
      rfl
  | sendCmd cmd =>
      simp only [step, Action.rename]
      rw [show (w.rename f).bus.cmdRx.send (cmd.rename f) = _ from w.bus.cmdRx.send_map (BusCmd.rename f) cmd,
        Option.map_map, Option.map_map]
      cases cmd <;> rfl
  | makeHandle => rfl
  | dropHandle =>
      simp only [step, Action.rename]
      rw [apply_ite (Option.map _)]
      rfl
  | makeCmdHandle => rfl
  | dropCmdHandle =>
      simp only [step, Action.rename]
      rw [apply_ite (Option.map _)]
      rfl
  | registerConsumer c dims =>
      obtain ⟨bus, control, sent⟩ := w
      cases control with
      | idle =>
          obtain ⟨same, id⟩ := bus.registry.registerWith_rename f c dims
          simp only [step, Action.rename, rename, Control.rename, Bus.registerConsumer, Option.map_some, Bus.rename,
            same, id]
      | _ => rfl
  | deregisterConsumer id =>
      obtain ⟨bus, control, sent⟩ := w
      cases control with
      | idle =>
          simp only [step, Action.rename, rename, Control.rename, Bus.deregisterConsumer, Option.map_some, Bus.rename,
            Registry.deregister_rename]
      | _ => rfl
  | drain =>
      obtain ⟨bus, control, sent⟩ := w
      cases control <;> rfl
  | dispatch =>
      obtain ⟨bus, control, sent⟩ := w
      cases control <;> rfl
  | takeCmd =>
      have taken := w.takeCmd_rename f
      obtain ⟨bus, control, sent⟩ := w
      cases control with
      | running loop =>
          cases loop with
          | drainCmds => exact taken
          | dispatch => exact taken
          | _ => rfl
      | _ => rfl
  | takeEnvelope own =>
      cases asks own rfl
      simp only [step, Action.rename, next_rename, Option.map_map]
      congr 1
      funext found
      obtain ⟨e, bus, loop⟩ := found
      exact w.routeFrom_rename f consumer e bus loop
  | advance =>
      simp only [step, Action.rename, advance_rename, Option.map_map]
      rfl
  | resume latency =>
      obtain ⟨bus, control, sent⟩ := w
      cases control <;> rfl
  | drop =>
      obtain ⟨bus, control, sent⟩ := w
      cases control with
      | running loop => cases loop <;> rfl
      | _ => rfl

end World

/-! ## The desk -/

def Boxed.rename (f : C → D) (b : Boxed C) : Boxed D := ⟨b.call, f b.consumer⟩

def Call.rename (f : C → D) : Call F I M C → Call F I M D
  | .unused => .unused
  | .sending consumer dims => .sending (f consumer) dims
  | .waiting => .waiting
  | .replied id => .replied id
  | .received id => .received id
  | .failed => .failed
  | .dropped => .dropped

def Desk.rename (f : C → D) (d : Desk F I M C) : Desk F I M D :=
  ⟨d.world.rename (Boxed.rename f), fun r => (d.calls r).rename f, d.closed⟩

def DeskAction.rename (f : C → D) (consumer : Consumer (Stamped M) (Boxed D)) :
    DeskAction F I M C → DeskAction F I M D
  | .call r c dims => .call r (f c) dims
  | .submit r => .submit r
  | .receive r => .receive r
  | .fail r => .fail r
  | .abandon r => .abandon r
  | .world a => .world (a.rename (Boxed.rename f) consumer)
  | .shutdown => .shutdown

def DeskAction.Asks (f : C → D) (consumer : Consumer (Stamped M) (Boxed D)) (a : DeskAction F I M C) : Prop :=
  ∀ own, a = .world (.takeEnvelope own) → own = consumer.comap (Boxed.rename f)

namespace Desk

theorem setCall_rename (f : C → D) (d : Desk F I M C) (r : Nat) (call : Call F I M C) :
    (d.setCall r call).rename f = (d.rename f).setCall r (call.rename f) := by
  have calls : (fun r' => (Function.update d.calls r call r').rename f) =
      Function.update (fun r' => (d.calls r').rename f) r (call.rename f) := by
    funext r'
    rw [Function.update_apply, Function.update_apply, apply_ite (Call.rename f)]
  simp only [rename, setCall, calls]

theorem answered_rename (f : C → D) (calls : Nat → Call F I M C) (es : List (Event M)) :
    answered (fun r => (calls r).rename f) es = fun r => (answered calls es r).rename f := by
  funext r
  simp only [answered]
  cases calls r <;> cases es.findSome? (Event.answer r) <;> rfl

theorem plain_rename (f : C → D) (consumer : Consumer (Stamped M) (Boxed D)) (a : Action F I M (Boxed C)) :
    (a.rename (Boxed.rename f) consumer).plain = a.plain := by
  cases a with
  | sendCmd cmd => cases cmd <;> rfl
  | _ => rfl

/-- A call goes on in the same way. -/
theorem setCall_step_rename (f : C → D) (d : Desk F I M C) (r : Nat) (call : Call F I M C) :
    (some ((d.rename f).setCall r (call.rename f), []) : Option (Desk F I M D × List (Event M))) =
      (some (d.setCall r call, [])).map fun next => (next.1.rename f, next.2) := by
  rw [Option.map_some, setCall_rename]

/-- **What happens to a desk, happens to the renamed desk.** -/
theorem step_rename (f : C → D) (consumer : Consumer (Stamped M) (Boxed D)) {a : DeskAction F I M C}
    (asks : a.Asks f consumer) (d : Desk F I M C) :
    (d.rename f).step (a.rename f consumer) = (d.step a).map fun next => (next.1.rename f, next.2) := by
  have calls : ∀ r, (d.rename f).calls r = (d.calls r).rename f := fun _ => rfl
  cases a with
  | call r c dims =>
      simp only [step, DeskAction.rename, calls]
      cases d.calls r with
      | unused => exact d.setCall_step_rename f r (.sending c dims)
      | _ => rfl
  | submit r =>
      simp only [step, DeskAction.rename, calls]
      cases d.calls r with
      | sending c dims =>
          have sent := World.step_rename (Boxed.rename f) consumer (a := .sendCmd (.register ⟨some r, c⟩ dims r))
            (fun _ wrong => by cases wrong) d.world
          simp only [Call.rename]
          rw [apply_ite (Option.map _), Option.map_map]
          rw [show (d.rename f).world.step (.sendCmd (.register ⟨some r, f c⟩ dims r)) = _ from sent, Option.map_map]
          congr 2
          funext next
          exact Prod.ext (setCall_rename f { d with world := next.1 } r .waiting).symm rfl
      | _ => rfl
  | receive r =>
      simp only [step, DeskAction.rename, calls]
      cases d.calls r with
      | replied id => exact d.setCall_step_rename f r (.received id)
      | _ => rfl
  | fail r =>
      have failed := d.setCall_step_rename f r .failed
      simp only [step, DeskAction.rename, calls]
      cases d.calls r with
      | sending c dims =>
          simp only [Call.rename]
          rw [apply_ite (Option.map _), ← failed]
          rfl
      | waiting =>
          simp only [Call.rename]
          rw [apply_ite (Option.map _), ← failed]
          rfl
      | _ => rfl
  | abandon r =>
      have dropped := d.setCall_step_rename f r .dropped
      simp only [step, DeskAction.rename, calls]
      cases d.calls r with
      | sending c dims => exact dropped
      | waiting => exact dropped
      | replied id => exact dropped
      | _ => rfl
  | world a =>
      have worked := World.step_rename (Boxed.rename f) consumer (a := a)
        (fun own isTake => asks own (by rw [isTake])) d.world
      simp only [step, DeskAction.rename, plain_rename]
      rw [apply_ite (Option.map _), Option.map_map]
      rw [show (d.rename f).world.step (a.rename (Boxed.rename f) consumer) = _ from worked, Option.map_map]
      congr 2
      funext next
      refine Prod.ext ?_ rfl
      simp only [Function.comp_apply, rename, answered_rename]
  | shutdown =>
      simp only [step, DeskAction.rename]
      rw [show (d.rename f).world.control = d.world.control.rename (Boxed.rename f) from rfl]
      cases d.world.control with
      | idle =>
          simp only [Control.rename]
          rw [apply_ite (Option.map _)]
          rfl
      | _ => rfl

end Desk

end Jackfield
