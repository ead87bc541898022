/-
# Jackfield.Bus.Drain -- what a whole `drain` does

A `drain` that runs to its end, while clients make and drop handles and send commands
but no envelopes, comes to one sweep: over the pending queue and then the channel, from
the registry that the waiting commands left (`drained`).  What came back is pushed, one
after another, on a queue that starts empty, so its end survives
(`drain_survivors`).

With built-in dimensions and answers that stay the same, the survivors have no taker,
and there are not more of them than the queue can hold: a second `drain` takes the queue
apart and puts it together again (`drain_again`).
-/
import Jackfield.Bus.Stranding
import Jackfield.Router.Sweep

namespace Jackfield

set_option autoImplicit false
set_option linter.unusedSectionVars false

variable {F I M C : Type}

open Machine

/-! ## Schedules of one `drain` -/

/-- A step of the bus in a `drain`, or of a client that sends no envelope. -/
def Action.Quiet : Action F I M C → Prop
  | .send _ _ => False
  | .registerConsumer _ _ => False
  | .deregisterConsumer _ => False
  | .drain => False
  | .dispatch => False
  | .drop => False
  | _ => True

def Action.command? : Action F I M C → Option (BusCmd F I (Stamped M) C)
  | .sendCmd cmd => some cmd
  | _ => none

def Action.latency? : Action F I M C → Option Nat
  | .resume latency => some latency
  | _ => none

/-- The latency of the `consume` that is suspended, as the schedule has it. -/
def latencyAhead (schedule : List (Action F I M C)) : Nat := (schedule.findSome? Action.latency?).getD 0

/-- What the routings of a schedule meet. -/
def turns : List (Action F I M C) → List (Turn (Stamped M) C)
  | [] => []
  | .takeEnvelope consumer :: rest => ⟨consumer, latencyAhead rest⟩ :: turns rest
  | _ :: rest => turns rest

section

variable [F32 F]

/-- The registry after commands, in order. -/
def Registry.applyAll (r : Registry F I (Stamped M) C) (cmds : List (BusCmd F I (Stamped M) C)) :
    Registry F I (Stamped M) C :=
  cmds.foldl (fun r cmd =>
    match cmd with
    | .register consumer dims _ => (r.registerWith consumer dims).registry
    | .deregister id => (r.deregister id).1) r

end

namespace World

variable [F32 F] [Message M]

/-- What a `drain` leaves and tells: it had still to route `ahead`, from `r` on, with what
came back before in `pending`. -/
structure Drained (router : Router) (cap : Nat) (ahead pending : List (Parcel M))
    (r : Registry F I (Stamped M) C) (turns : List (Turn (Stamped M) C)) (w : World F I M C)
    (t : List (Event M)) : Prop where
  sameRouter : w.bus.router = router
  sameCap : w.bus.maxPending = cap
  all : turns.length = ahead.length
  survivors : w.bus.pending = (router.sweep (ahead.zip turns) r).back.foldl (EvictingQueue.push cap) pending
  emptied : w.bus.rx.buf = []
  registry : w.bus.registry = (router.sweep (ahead.zip turns) r).registry
  handed : t.filterMap Event.handed? = (router.sweep (ahead.zip turns) r).handed

/-- Nothing a `drain` reads has changed, but the command channel. -/
structure Aside (w w' : World F I M C) (es : List (Event M)) : Prop where
  control : w'.control = w.control
  router : w'.bus.router = w.bus.router
  cap : w'.bus.maxPending = w.bus.maxPending
  pending : w'.bus.pending = w.bus.pending
  channel : w'.bus.rx.buf = w.bus.rx.buf
  registry : w'.bus.registry = w.bus.registry
  silent : es.filterMap Event.handed? = []

/-- A client that sends no envelope. -/
def Client : Action F I M C → Prop
  | .sendCmd _ => True
  | .makeHandle => True
  | .dropHandle => True
  | .makeCmdHandle => True
  | .dropCmdHandle => True
  | _ => False

theorem aside_of_client {w w' : World F I M C} {a : Action F I M C} {es : List (Event M)}
    (client : Client a) (stepped : w.step a = some (w', es)) : Aside w w' es := by
  cases a with
  | sendCmd cmd =>
      obtain ⟨cmdRx, sent, same⟩ := Option.map_eq_some_iff.mp stepped
      cases same
      refine ⟨rfl, rfl, rfl, rfl, rfl, rfl, ?_⟩
      cases cmd <;> rfl
  | makeHandle =>
      cases stepped
      exact ⟨rfl, rfl, rfl, rfl, rfl, rfl, rfl⟩
  | dropHandle =>
      simp only [World.step] at stepped
      split at stepped <;> cases stepped
      exact ⟨rfl, rfl, rfl, rfl, rfl, rfl, rfl⟩
  | makeCmdHandle =>
      cases stepped
      exact ⟨rfl, rfl, rfl, rfl, rfl, rfl, rfl⟩
  | dropCmdHandle =>
      simp only [World.step] at stepped
      split at stepped <;> cases stepped
      exact ⟨rfl, rfl, rfl, rfl, rfl, rfl, rfl⟩
  | _ => cases client

/-- Apart from the bus's own steps, a quiet schedule has those of clients. -/
theorem quiet_cases {a : Action F I M C} (quiet : a.Quiet) :
    (Client a ∧ a.latency? = none ∧ ∀ schedule, turns (a :: schedule) = turns schedule) ∨
      (∃ consumer, a = .takeEnvelope consumer) ∨ a = .takeCmd ∨ a = .advance ∨ ∃ latency, a = .resume latency := by
  cases a with
  | sendCmd cmd => exact Or.inl ⟨trivial, rfl, fun _ => rfl⟩
  | makeHandle => exact Or.inl ⟨trivial, rfl, fun _ => rfl⟩
  | dropHandle => exact Or.inl ⟨trivial, rfl, fun _ => rfl⟩
  | makeCmdHandle => exact Or.inl ⟨trivial, rfl, fun _ => rfl⟩
  | dropCmdHandle => exact Or.inl ⟨trivial, rfl, fun _ => rfl⟩
  | takeEnvelope consumer => exact Or.inr (Or.inl ⟨consumer, rfl⟩)
  | takeCmd => exact Or.inr (Or.inr (Or.inl rfl))
  | advance => exact Or.inr (Or.inr (Or.inr (Or.inl rfl)))
  | resume latency => exact Or.inr (Or.inr (Or.inr (Or.inr ⟨latency, rfl⟩)))
  | _ => cases quiet

/-- What the rest of a `drain` has to route, and the registry it starts with; the latency
of a suspended `consume` comes with the schedule. -/
inductive Ahead (w : World F I M C) (schedule : List (Action F I M C)) :
    List (Parcel M) → Registry F I (Stamped M) C → Prop
  | done (idle : w.control = .idle) (empty : w.bus.rx.buf = []) : Ahead w schedule [] w.bus.registry
  | running {loop : Loop M} (sweeping : (∃ rest, loop = .drainPending rest) ∨ loop = .drainChannel)
      (control : w.control = .running loop) : Ahead w schedule (loop.rest ++ w.bus.rx.buf) w.bus.registry
  | consuming {loop : Loop M} {resume : Nat → Registry F I (Stamped M) C}
      (sweeping : (∃ rest, loop = .drainPending rest) ∨ loop = .drainChannel)
      (control : w.control = .consuming loop resume) :
      Ahead w schedule (loop.rest ++ w.bus.rx.buf) (resume (latencyAhead schedule))

theorem Ahead.aside {w w' : World F I M C} {a : Action F I M C} {schedule : List (Action F I M C)}
    {es : List (Event M)} {ahead : List (Parcel M)} {r : Registry F I (Stamped M) C}
    (before : Ahead w (a :: schedule) ahead r) (aside : Aside w w' es) (noResume : a.latency? = none) :
    Ahead w' schedule ahead r := by
  have sameLatency : latencyAhead (a :: schedule) = latencyAhead schedule := by
    rw [latencyAhead, List.findSome?_cons, noResume]
    rfl
  cases before with
  | done idle empty =>
      rw [← aside.registry]
      exact .done (aside.control.trans idle) (aside.channel.trans empty)
  | running sweeping control =>
      rw [← aside.registry, ← aside.channel]
      exact .running sweeping (aside.control.trans control)
  | consuming sweeping control =>
      rw [sameLatency, ← aside.channel]
      exact .consuming sweeping (aside.control.trans control)

theorem Drained.silently {router : Router} {cap : Nat} {ahead pending : List (Parcel M)}
    {r : Registry F I (Stamped M) C} {turns : List (Turn (Stamped M) C)} {v : World F I M C}
    {es t : List (Event M)} (drained : Drained router cap ahead pending r turns v t)
    (silent : es.filterMap Event.handed? = []) : Drained router cap ahead pending r turns v (es ++ t) := by
  obtain ⟨router, cap, all, queue, channel, registry, handed⟩ := drained
  refine ⟨router, cap, all, queue, channel, registry, ?_⟩
  rw [List.filterMap_append, silent, List.nil_append, handed]

/-- Commands are taken before the queue is, and not again. -/
theorem Ahead.no_command {w : World F I M C} {schedule : List (Action F I M C)} {ahead : List (Parcel M)}
    {r : Registry F I (Stamped M) C} (before : Ahead w schedule ahead r) : w.step .takeCmd = none := by
  cases before with
  | done control empty => simp only [World.step, control]
  | running sweeping control => rcases sweeping with ⟨rest, rfl⟩ | rfl <;> simp only [World.step, control]
  | consuming sweeping control => simp only [World.step, control]

/-- Where a loop ends, what is ahead stays. -/
theorem Ahead.advance {w w' : World F I M C} {schedule : List (Action F I M C)} {ahead : List (Parcel M)}
    {r : Registry F I (Stamped M) C} (before : Ahead w (.advance :: schedule) ahead r)
    (advanced : w.advance = some w') :
    Ahead w' schedule ahead r ∧ w'.bus = w.bus := by
  cases before with
  | done control empty =>
      simp only [World.advance, control] at advanced
      cases advanced
  | consuming sweeping control =>
      simp only [World.advance, control] at advanced
      cases advanced
  | running sweeping control =>
      rcases sweeping with ⟨rest, rfl⟩ | rfl
      · cases rest with
        | cons e rest =>
            simp only [World.advance, control] at advanced
            cases advanced
        | nil =>
            simp only [World.advance, control] at advanced
            cases advanced
            have next : Ahead { w with control := .running .drainChannel } schedule w.bus.rx.buf w.bus.registry :=
              .running (Or.inr rfl) rfl
            exact ⟨next, rfl⟩
      · simp only [World.advance, control] at advanced
        split at advanced
        · rename_i empty
          cases advanced
          have empty : w.bus.rx.buf = [] := List.isEmpty_iff.mp empty
          rw [empty]
          exact ⟨.done rfl empty, rfl⟩
        · cases advanced

/-- `consume` returns after the latency that was ahead. -/
theorem Ahead.resume {w w' : World F I M C} {schedule : List (Action F I M C)} {latency : Nat}
    {ahead : List (Parcel M)} {r : Registry F I (Stamped M) C} {es : List (Event M)}
    (before : Ahead w (.resume latency :: schedule) ahead r) (stepped : w.step (.resume latency) = some (w', es)) :
    Ahead w' schedule ahead r ∧ es = [] ∧ w'.bus.router = w.bus.router ∧ w'.bus.maxPending = w.bus.maxPending ∧
      w'.bus.pending = w.bus.pending := by
  cases before with
  | done control empty =>
      simp only [World.step, control] at stepped
      cases stepped
  | running sweeping control =>
      simp only [World.step, control] at stepped
      cases stepped
  | consuming sweeping control =>
      simp only [World.step, control] at stepped
      cases stepped
      exact ⟨.running sweeping rfl, rfl, rfl, rfl, rfl⟩

/-- One envelope is taken: it was the first ahead. -/
theorem Ahead.take {w : World F I M C} {schedule : List (Action F I M C)} {e : Parcel M}
    {bus : Bus F I (Stamped M) C} {loop : Loop M} {ahead : List (Parcel M)} {r : Registry F I (Stamped M) C}
    (before : Ahead w schedule ahead r) (taken : w.next = some (e, bus, loop)) :
    ((∃ rest, loop = .drainPending rest) ∨ loop = .drainChannel) ∧ r = w.bus.registry ∧
      ahead = e :: (loop.rest ++ bus.rx.buf) := by
  rcases next_cases taken with ⟨rest, control, rfl, rfl⟩ | ⟨rx, control, isLoop, front, rfl⟩
  · cases before with
    | done idle empty => cases idle.symm.trans control
    | running sweeping control' =>
        cases control'.symm.trans control
        exact ⟨Or.inl ⟨rest, rfl⟩, rfl, rfl⟩
    | consuming sweeping control' => cases control'.symm.trans control
  · cases before with
    | done idle empty => cases idle.symm.trans control
    | running sweeping control' =>
        cases control'.symm.trans control
        rcases sweeping with ⟨rest, rfl⟩ | rfl
        · rcases isLoop with clash | clash <;> cases clash
        · exact ⟨Or.inr rfl, rfl, front⟩
    | consuming sweeping control' => cases control'.symm.trans control

/-- The envelope ahead is routed, and then the rest. -/
theorem Drained.take {w w' v : World F I M C} {consumer : Consumer (Stamped M) C} {schedule : List (Action F I M C)}
    {e : Parcel M} {bus : Bus F I (Stamped M) C} {loop : Loop M} {es t : List (Event M)}
    (taken : w.next = some (e, bus, loop))
    (sweeping : (∃ rest, loop = .drainPending rest) ∨ loop = .drainChannel)
    (routed : w.routeFrom consumer e bus loop = (w', es))
    (rest : ∀ {ahead r}, Ahead w' schedule ahead r →
      Drained w'.bus.router w'.bus.maxPending ahead w'.bus.pending r (turns schedule) v t) :
    Drained w.bus.router w.bus.maxPending (e :: (loop.rest ++ bus.rx.buf)) w.bus.pending w.bus.registry
      (turns (.takeEnvelope consumer :: schedule)) v (es ++ t) := by
  obtain ⟨-, sameRouter, sameRegistry, samePending, sameCap⟩ := next_frame taken
  have more : turns (.takeEnvelope consumer :: schedule) =
      ⟨consumer, latencyAhead schedule⟩ :: turns schedule := rfl
  rw [more, ← sameRouter, ← sameCap, ← samePending, ← sameRegistry]
  cases result : bus.router.route consumer bus.registry e with
  | consuming i entry resume =>
      rw [routeFrom, result] at routed
      cases routed
      obtain ⟨router, cap, all, queue, channel, registry, handed⟩ := rest (.consuming sweeping rfl)
      refine ⟨router, cap, congrArg (· + 1) all, ?_, channel, ?_, ?_⟩
      · rw [List.zip_cons_cons, Router.sweep_consuming result]
        exact queue
      · rw [List.zip_cons_cons, Router.sweep_consuming result]
        exact registry
      · rw [List.zip_cons_cons, Router.sweep_consuming result]
        exact congrArg (List.cons (entry.id, e)) handed
  | unhandled registry back =>
      rw [routeFrom, result] at routed
      cases routed
      obtain ⟨router, cap, all, queue, channel, registry', handed⟩ := rest (.running sweeping rfl)
      refine ⟨router, cap, congrArg (· + 1) all, ?_, channel, ?_, ?_⟩
      · rw [List.zip_cons_cons, Router.sweep_unhandled result]
        exact queue
      · rw [List.zip_cons_cons, Router.sweep_unhandled result]
        exact registry'
      · rw [List.zip_cons_cons, Router.sweep_unhandled result, List.filterMap_append]
        have silent : (Event.routed e :: (EvictingQueue.evicted bus.maxPending bus.pending).map
            Event.evicted).filterMap Event.handed? = [] :=
          Event.filterMap_map_none (fun _ => rfl) _
        rw [silent]
        exact handed

/-- **A `drain` in progress comes to the sweep ahead of it.** -/
theorem drained_of_exec {schedule : List (Action F I M C)} {w v : World F I M C} {t : List (Event M)}
    {ahead : List (Parcel M)} {r : Registry F I (Stamped M) C} (quiet : ∀ a ∈ schedule, a.Quiet)
    (before : Ahead w schedule ahead r) (ran : exec step w schedule = some (v, t))
    (idle : v.control = .idle) :
    Drained w.bus.router w.bus.maxPending ahead w.bus.pending r (turns schedule) v t := by
  induction schedule generalizing w t ahead r with
  | nil =>
      cases ran
      cases before with
      | done _ empty => exact ⟨rfl, rfl, rfl, rfl, empty, rfl, rfl⟩
      | running sweeping control => cases idle.symm.trans control
      | consuming sweeping control => cases idle.symm.trans control
  | cons a schedule ih =>
      have later : ∀ b ∈ schedule, b.Quiet := fun b member => quiet b (List.mem_cons_of_mem _ member)
      obtain ⟨w', es, u, stepped, tail, rfl⟩ := exec_cons ran
      rcases quiet_cases (quiet a (List.mem_cons_self ..)) with
        ⟨client, noResume, sameTurns⟩ | ⟨consumer, rfl⟩ | rfl | rfl | ⟨latency, rfl⟩
      · have aside := aside_of_client client stepped
        have rest := ih later (before.aside aside noResume) tail
        rw [aside.router, aside.cap, aside.pending] at rest
        rw [sameTurns]
        exact rest.silently aside.silent
      · obtain ⟨⟨e, bus, loop⟩, taken, routed⟩ := Option.map_eq_some_iff.mp stepped
        obtain ⟨sweeping, rfl, rfl⟩ := before.take taken
        exact .take taken sweeping routed fun before' => ih later before' tail
      · cases before.no_command.symm.trans stepped
      · obtain ⟨w₁, advanced, same⟩ := Option.map_eq_some_iff.mp stepped
        cases same
        obtain ⟨next, sameBus⟩ := before.advance advanced
        have rest := ih later next tail
        rw [sameBus] at rest
        exact rest
      · obtain ⟨next, rfl, sameRouter, sameCap, samePending⟩ := before.resume stepped
        have rest := ih later next tail
        rw [sameRouter, sameCap, samePending] at rest
        exact rest

/-! ## The whole call -/

/-- A client's step queues at most its own command. -/
theorem commands_of_client {w w' : World F I M C} {a : Action F I M C} {es : List (Event M)}
    (client : Client a) (stepped : w.step a = some (w', es)) :
    w'.bus.cmdRx.buf = w.bus.cmdRx.buf ++ a.command?.toList := by
  cases a with
  | sendCmd cmd =>
      obtain ⟨cmdRx, sent, same⟩ := Option.map_eq_some_iff.mp stepped
      cases same
      exact Channel.send_buf sent
  | dropHandle =>
      simp only [World.step] at stepped
      split at stepped <;> cases stepped
      exact (List.append_nil _).symm
  | dropCmdHandle =>
      simp only [World.step] at stepped
      split at stepped <;> cases stepped
      exact (List.append_nil _).symm
  | makeHandle =>
      cases stepped
      exact (List.append_nil _).symm
  | makeCmdHandle =>
      cases stepped
      exact (List.append_nil _).symm
  | _ => cases client

theorem applied_of_takeCmd {w w' : World F I M C} {es : List (Event M)} (taken : w.takeCmd = some (w', es)) :
    ∃ cmd, w.bus.cmdRx.buf = cmd :: w'.bus.cmdRx.buf ∧ w'.control = w.control ∧
      w'.bus.registry = w.bus.registry.applyAll [cmd] ∧ w'.bus.router = w.bus.router ∧
      w'.bus.maxPending = w.bus.maxPending ∧ w'.bus.pending = w.bus.pending ∧
      w'.bus.rx = w.bus.rx ∧ es.filterMap Event.handed? = [] := by
  obtain ⟨⟨cmd, cmdRx⟩, received, same⟩ := Option.map_eq_some_iff.mp taken
  have front := Channel.tryRecv_buf received
  refine ⟨cmd, ?_⟩
  cases cmd <;> cases same <;> exact ⟨front, rfl, rfl, rfl, rfl, rfl, rfl, rfl⟩

/-- From the command loop on: the commands that waited and some that came in time, and
then the sweep. -/
theorem drained_from_commands {schedule : List (Action F I M C)} {w v : World F I M C} {t : List (Event M)}
    (quiet : ∀ a ∈ schedule, a.Quiet) (control : w.control = .running .drainCmds)
    (ran : exec step w schedule = some (v, t)) (idle : v.control = .idle) :
    ∃ late, late <+: schedule.filterMap Action.command? ∧
      Drained w.bus.router w.bus.maxPending (w.bus.pending ++ w.bus.rx.buf) []
        (w.bus.registry.applyAll (w.bus.cmdRx.buf ++ late)) (turns schedule) v t := by
  induction schedule generalizing w t with
  | nil =>
      cases ran
      cases idle.symm.trans control
  | cons a schedule ih =>
      have later : ∀ b ∈ schedule, b.Quiet := fun b member => quiet b (List.mem_cons_of_mem _ member)
      obtain ⟨w', es, u, stepped, tail, rfl⟩ := exec_cons ran
      rcases quiet_cases (quiet a (List.mem_cons_self ..)) with
        ⟨client, -, sameTurns⟩ | ⟨consumer, rfl⟩ | rfl | rfl | ⟨latency, rfl⟩
      · have aside := aside_of_client client stepped
        obtain ⟨late, isPrefix, rest⟩ := ih later (aside.control.trans control) tail
        rw [aside.router, aside.cap, aside.pending, aside.channel, aside.registry,
          commands_of_client client stepped, List.append_assoc] at rest
        rw [sameTurns]
        refine ⟨a.command?.toList ++ late, ?_, rest.silently aside.silent⟩
        rw [List.filterMap_cons]
        cases a.command? with
        | none => exact isPrefix
        | some cmd => exact List.cons_prefix_cons.mpr ⟨rfl, isPrefix⟩
      · obtain ⟨⟨e, bus, loop⟩, taken, routed⟩ := Option.map_eq_some_iff.mp stepped
        simp only [World.next, control] at taken
        cases taken
      · simp only [World.step, control] at stepped
        obtain ⟨cmd, front, sameControl, applied, sameRouter, sameCap, samePending, sameChannel, silent⟩ :=
          applied_of_takeCmd stepped
        obtain ⟨late, isPrefix, rest⟩ := ih later (sameControl.trans control) tail
        rw [sameRouter, sameCap, samePending, sameChannel, applied] at rest
        rw [front]
        exact ⟨late, isPrefix, rest.silently silent⟩
      · obtain ⟨w₁, advanced, same⟩ := Option.map_eq_some_iff.mp stepped
        cases same
        simp only [World.advance, control] at advanced
        split at advanced
        · rename_i empty
          have empty : w.bus.cmdRx.buf = [] := List.isEmpty_iff.mp empty
          cases advanced
          have next : Ahead { w with
                bus := { w.bus with pending := [] }, control := .running (.drainPending w.bus.pending) }
              schedule (w.bus.pending ++ w.bus.rx.buf) w.bus.registry :=
            .running (Or.inl ⟨_, rfl⟩) rfl
          have rest := drained_of_exec later next tail idle
          rw [empty]
          exact ⟨[], List.nil_prefix, rest⟩
        · cases advanced
      · simp only [World.step, control] at stepped
        cases stepped

/-- A completed `drain`, from whatever state it was called in. -/
theorem drained {schedule : List (Action F I M C)} {w v : World F I M C} {t : List (Event M)}
    (quiet : ∀ a ∈ schedule, a.Quiet) (ran : exec step w (.drain :: schedule) = some (v, t))
    (idle : v.control = .idle) :
    ∃ late, late <+: schedule.filterMap Action.command? ∧
      Drained w.bus.router w.bus.maxPending (w.bus.pending ++ w.bus.rx.buf) []
        (w.bus.registry.applyAll (w.bus.cmdRx.buf ++ late)) (turns schedule) v t := by
  obtain ⟨w', es, u, stepped, tail, rfl⟩ := exec_cons ran
  cases control : w.control with
  | idle =>
      simp only [World.step, control] at stepped
      cases stepped
      exact drained_from_commands (w := { w with control := .running .drainCmds }) quiet rfl tail idle
  | running loop =>
      simp only [World.step, control] at stepped
      cases stepped
  | consuming loop resume =>
      simp only [World.step, control] at stepped
      cases stepped

/-- **What survives a `drain`.**  From every state of a bus with either router and a
positive cap: when a `drain` completes with no envelope sent meanwhile, the pending queue is
the end, as long as the cap allows, of the list `u` of what the router handed back; `u` is
part of the old queue followed by the content of the channel, and comes of routing these
one after another from the registry the commands left; and the channel is empty. -/
theorem drain_survivors {schedule : List (Action F I M C)} {w v : World F I M C} {t : List (Event M)}
    (quiet : ∀ a ∈ schedule, a.Quiet) (ran : exec step w (.drain :: schedule) = some (v, t))
    (idle : v.control = .idle) (positive : 1 ≤ w.bus.maxPending) :
    ∃ late, late <+: schedule.filterMap Action.command? ∧
      (turns schedule).length = (w.bus.pending ++ w.bus.rx.buf).length ∧
      let swept := w.bus.router.sweep ((w.bus.pending ++ w.bus.rx.buf).zip (turns schedule))
        (w.bus.registry.applyAll (w.bus.cmdRx.buf ++ late))
      let u := swept.back
      List.Sublist u (w.bus.pending ++ w.bus.rx.buf) ∧
        v.bus.pending = u.drop (u.length - min w.bus.maxPending u.length) ∧
        v.bus.rx.buf = [] ∧ v.bus.registry = swept.registry := by
  obtain ⟨late, isPrefix, done⟩ := drained quiet ran idle
  refine ⟨late, isPrefix, done.all, ?_, ?_, done.emptied, done.registry⟩
  · have part := w.bus.router.sweep_back_sublist
      ((w.bus.pending ++ w.bus.rx.buf).zip (turns schedule))
      (w.bus.registry.applyAll (w.bus.cmdRx.buf ++ late))
    rw [List.map_fst_zip (by rw [done.all])] at part
    exact part
  · rw [done.survivors, EvictingQueue.foldl_push, Nat.max_eq_left positive, List.rtake]
    congr 1
    omega

/-- Three envelopes wait in the channel, the second of them for the alarm. -/
def overnight : World ℚ Unit BaseMessage String :=
  (outcome step (init 4 .affinity 1) [alarm, .send ⟨"radio"⟩ ping, .send ⟨"sensor"⟩ ping,
    .send ⟨"radio"⟩ ping]).1

def routine : List (Action ℚ Unit BaseMessage String) :=
  [.advance, .advance, .takeEnvelope obliging, .takeEnvelope obliging, .resume 7, .takeEnvelope obliging,
    .advance]

def drainedOnce : World ℚ Unit BaseMessage String × List (Event BaseMessage) :=
  outcome step overnight (.drain :: routine)

theorem routine_quiet : ∀ a ∈ routine, a.Quiet := by
  intro a member
  simp only [routine, List.mem_cons, List.not_mem_nil, or_false] at member
  rcases member with rfl | rfl | rfl | rfl | rfl | rfl | rfl <;> trivial

theorem routine_runs : exec step overnight (.drain :: routine) = some drainedOnce :=
  exec_eq_outcome (by decide +kernel)

theorem drain_survivors_routine : ∃ late,
    let u := (overnight.bus.router.sweep ((overnight.bus.pending ++ overnight.bus.rx.buf).zip (turns routine))
      (overnight.bus.registry.applyAll (overnight.bus.cmdRx.buf ++ late))).back
    drainedOnce.1.bus.pending = u.drop (u.length - min overnight.bus.maxPending u.length) := by
  obtain ⟨late, -, -, -, survivors, -⟩ := drain_survivors routine_quiet routine_runs rfl (by decide)
  exact ⟨late, survivors⟩

/-- From here the call can run to its end by steps of its own, the consumers answering as
`consumer`. -/
def CanEnd (consumer : Consumer (Stamped M) C) (w : World F I M C) : Prop :=
  ∃ schedule v t, (∀ a ∈ schedule, a = .takeCmd ∨ a = .advance ∨ a = .takeEnvelope consumer ∨ a = .resume 0) ∧
    exec step w schedule = some (v, t) ∧ v.control = .idle

variable {consumer : Consumer (Stamped M) C}

theorem CanEnd.step {w w' : World F I M C} {a : Action F I M C} {es : List (Event M)}
    (own : a = .takeCmd ∨ a = .advance ∨ a = .takeEnvelope consumer ∨ a = .resume 0)
    (stepped : w.step a = some (w', es)) (canEnd : CanEnd consumer w') : CanEnd consumer w := by
  obtain ⟨schedule, v, t, each, ran, idle⟩ := canEnd
  refine ⟨a :: schedule, v, es ++ t, ?_, ?_, idle⟩
  · intro b member
    rcases List.mem_cons.mp member with rfl | inRest
    · exact own
    · exact each b inRest
  · simp only [exec, stepped, ran, Option.map_some]

/-- Routing an envelope comes back to the loop. -/
theorem CanEnd.take {w : World F I M C} {e : Parcel M} {bus : Bus F I (Stamped M) C} {loop : Loop M}
    (taken : w.next = some (e, bus, loop))
    (goesOn : ∀ w' : World F I M C, w'.control = .running loop → w'.bus.rx = bus.rx → CanEnd consumer w') :
    CanEnd consumer w := by
  cases result : bus.router.route consumer bus.registry e with
  | consuming i entry resume =>
      have stepped : w.step (.takeEnvelope consumer) =
          some ({ w with bus := bus, control := .consuming loop resume }, [.routed e, .handed entry.id e]) := by
        simp only [World.step, taken, Option.map_some, routeFrom, result]
      exact .step (Or.inr (Or.inr (Or.inl rfl))) stepped
        (.step (Or.inr (Or.inr (Or.inr rfl))) rfl (goesOn _ rfl rfl))
  | unhandled registry back =>
      have stepped : w.step (.takeEnvelope consumer) =
          some ({ w with bus := { bus with registry := registry }.pushPending back, control := .running loop },
            .routed e :: (EvictingQueue.evicted bus.maxPending bus.pending).map .evicted) := by
        simp only [World.step, taken, Option.map_some, routeFrom, result]
      exact .step (Or.inr (Or.inr (Or.inl rfl))) stepped (goesOn _ rfl rfl)

theorem canEnd_channel {w : World F I M C} (control : w.control = .running .drainChannel) :
    CanEnd consumer w := by
  generalize waiting : w.bus.rx.buf = l
  induction l generalizing w with
  | nil =>
      have stepped : w.step .advance = some ({ w with control := .idle }, []) := by
        simp only [World.step, World.advance, control, waiting]
        rfl
      exact .step (Or.inr (Or.inl rfl)) stepped ⟨[], _, [], by simp, rfl, rfl⟩
  | cons e rest ih =>
      cases received : w.bus.rx.tryRecv with
      | none =>
          rw [Channel.tryRecv_eq_none_iff, waiting] at received
          cases received
      | some next =>
          obtain ⟨e', rx⟩ := next
          have front := Channel.tryRecv_buf received
          have taken : w.next = some (e', { w.bus with rx := rx }, .drainChannel) := by
            simp only [next, control, received, Option.map_some]
          refine .take taken ?_
          intro w' control' sameRx
          rw [waiting] at front
          exact ih control' (by rw [sameRx]; exact (List.cons.inj front).2.symm)

theorem canEnd_pending {w : World F I M C} {rest : List (Parcel M)}
    (control : w.control = .running (.drainPending rest)) : CanEnd consumer w := by
  induction rest generalizing w with
  | nil =>
      have stepped : w.step .advance = some ({ w with control := .running .drainChannel }, []) := by
        simp only [World.step, World.advance, control]
        rfl
      exact .step (Or.inr (Or.inl rfl)) stepped (canEnd_channel rfl)
  | cons e rest ih =>
      have taken : w.next = some (e, w.bus, .drainPending rest) := by
        simp only [next, control]
      exact .take taken fun w' control' _ => ih control'

theorem canEnd_commands {w : World F I M C} (control : w.control = .running .drainCmds) : CanEnd consumer w := by
  generalize waiting : w.bus.cmdRx.buf = l
  induction l generalizing w with
  | nil =>
      have stepped : w.step .advance = some ({ w with
          bus := { w.bus with pending := [] }, control := .running (.drainPending w.bus.pending) }, []) := by
        simp only [World.step, World.advance, control, waiting]
        rfl
      exact .step (Or.inr (Or.inl rfl)) stepped (canEnd_pending rfl)
  | cons cmd rest ih =>
      cases taken : w.takeCmd with
      | none =>
          have received : w.bus.cmdRx.tryRecv = none := Option.map_eq_none_iff.mp taken
          rw [Channel.tryRecv_eq_none_iff, waiting] at received
          cases received
      | some next =>
          obtain ⟨w', es⟩ := next
          obtain ⟨cmd', front, sameControl, -⟩ := applied_of_takeCmd taken
          have stepped : w.step .takeCmd = some (w', es) := by
            simp only [World.step, control, taken]
          rw [waiting] at front
          exact .step (Or.inl rfl) stepped (ih (sameControl.trans control) (List.cons.inj front).2.symm)

/-- A `drain` can always run to its end, whatever the consumers answer. -/
theorem drain_completes (consumer : Consumer (Stamped M) C) {w : World F I M C} (idle : w.control = .idle) :
    ∃ schedule v t, (∀ a ∈ schedule, a.Quiet ∧ a.command? = none) ∧
      exec step w (.drain :: schedule) = some (v, t) ∧ v.control = .idle := by
  have canEnd : CanEnd consumer { w with control := .running .drainCmds } := canEnd_commands rfl
  obtain ⟨schedule, v, t, each, ran, done⟩ := canEnd
  refine ⟨schedule, v, t, ?_, ?_, done⟩
  · intro a member
    rcases each a member with rfl | rfl | rfl | rfl <;> exact ⟨trivial, rfl⟩
  · simp only [exec, World.step, idle, ran]
    rfl

/-! ## Twice -/

variable [Inhabited I]

theorem applyAll_builtIn {r : Registry F I (Stamped M) C} {cmds : List (BusCmd F I (Stamped M) C)}
    (entries : ∀ entry ∈ r.entries, entry.BuiltIn)
    (listed : ∀ c dims reply, BusCmd.register c dims reply ∈ cmds → ∀ d ∈ dims, d.1.BuiltIn) :
    ∀ entry ∈ (r.applyAll cmds).entries, entry.BuiltIn := by
  induction cmds generalizing r with
  | nil => exact entries
  | cons cmd rest ih =>
      have later : ∀ c dims reply, BusCmd.register c dims reply ∈ rest → ∀ d ∈ dims, d.1.BuiltIn :=
        fun c dims reply member => listed c dims reply (List.mem_cons_of_mem _ member)
      cases cmd with
      | register c dims reply =>
          exact ih (registerWith_builtIn entries (listed c dims reply (List.mem_cons_self ..)) c) later
      | deregister id =>
          exact ih (fun entry member => entries entry ((r.deregister_sublist id).subset member)) later

/-- With answers that stay the same, every routing meets them. -/
theorem turns_consumer {schedule : List (Action F I M C)} (setting : ∀ a ∈ schedule, Setting consumer a) :
    ∀ turn ∈ turns schedule, turn.consumer = consumer := by
  induction schedule with
  | nil =>
      intro turn member
      cases member
  | cons a rest ih =>
      have later := ih fun b member => setting b (List.mem_cons_of_mem _ member)
      cases a with
      | takeEnvelope answers =>
          intro turn member
          rcases List.mem_cons.mp member with rfl | inRest
          · exact setting (.takeEnvelope answers) (List.mem_cons_self ..)
          · exact later turn inRest
      | _ => exact later

/-- **Draining again changes nothing.**  From every state with built-in dimensions and for
every cap: when a `drain` has completed, with the consumers answering alike throughout,
and no envelope and no command is left for a second one, that hands no message to any
consumer and leaves the pending queue as it was. -/
theorem drain_again {schedule schedule' : List (Action F I M C)} {w w' w'' : World F I M C}
    {t t' : List (Event M)} (builtIn : AllBuiltIn w)
    (quiet : ∀ a ∈ schedule, a.Quiet ∧ Setting consumer a)
    (ran : exec step w (.drain :: schedule) = some (w', t)) (idle : w'.control = .idle)
    (noneLeft : w'.bus.cmdRx.buf = [])
    (quiet' : ∀ a ∈ schedule', a.Quiet ∧ Setting consumer a ∧ a.command? = none)
    (ran' : exec step w' (.drain :: schedule') = some (w'', t')) (idle' : w''.control = .idle) :
    (∀ id e, Event.handed id e ∉ t') ∧ w''.bus.pending = w'.bus.pending := by
  obtain ⟨late, isPrefix, first⟩ := drained (fun a member => (quiet a member).1) ran idle
  obtain ⟨late', isPrefix', second⟩ := drained (fun a member => (quiet' a member).1) ran' idle'
  have noCommand : schedule'.filterMap Action.command? = [] := by
    rw [List.filterMap_eq_nil_iff]
    intro a member
    exact (quiet' a member).2.2
  rw [noCommand] at isPrefix'
  rw [List.prefix_nil.mp isPrefix', noneLeft, first.emptied, List.append_nil] at second
  -- the registry the first sweep starts with
  have entries : ∀ entry ∈ (w.bus.registry.applyAll (w.bus.cmdRx.buf ++ late)).entries, entry.BuiltIn := by
    apply applyAll_builtIn builtIn.entries
    intro c dims reply member
    rcases List.mem_append.mp member with waiting | new
    · exact builtIn.queued c dims reply waiting
    · obtain ⟨a, inSchedule, isCommand⟩ := List.mem_filterMap.mp (isPrefix.subset new)
      have own := (quiet a inSchedule).2
      cases a <;> cases isCommand
      exact own
  have answers : ∀ p ∈ (w.bus.pending ++ w.bus.rx.buf).zip (turns schedule), p.2.consumer = consumer := by
    intro p member
    exact turns_consumer (fun a inSchedule => (quiet a inSchedule).2) p.2 (List.of_mem_zip member).2
  have answers' : ∀ p ∈ w'.bus.pending.zip (turns schedule'), p.2.consumer = consumer := by
    intro p member
    exact turns_consumer (fun a inSchedule => (quiet' a inSchedule).2.1) p.2 (List.of_mem_zip member).2
  have kept : w'.bus.pending =
      (w.bus.router.sweep ((w.bus.pending ++ w.bus.rx.buf).zip (turns schedule))
        (w.bus.registry.applyAll (w.bus.cmdRx.buf ++ late))).back.rtake (max w.bus.maxPending 1) := by
    rw [← EvictingQueue.foldl_push]
    exact first.survivors
  have nobody : ∀ p ∈ w'.bus.pending.zip (turns schedule'), ∀ entry ∈ w'.bus.registry.entries,
      ¬ Eligible consumer p.1 entry := by
    intro p member
    have survives := (List.of_mem_zip member).1
    rw [first.registry]
    rw [kept] at survives
    exact Router.sweep_back_ineligible answers entries p.1 (List.mem_of_mem_drop survives)
  have entries' : ∀ entry ∈ w'.bus.registry.entries, entry.BuiltIn := by
    rw [first.registry]
    exact builtIn_sameShape entries (w.bus.router.sweep_sameShape _ _)
  obtain ⟨none, all⟩ := w'.bus.router.sweep_of_ineligible answers' entries' nobody
  constructor
  · intro id e member
    have read : (id, e) ∈ t'.filterMap Event.handed? := Event.mem_filterMap_handed.mpr member
    have read : (id, e) ∈ (w'.bus.router.sweep (w'.bus.pending.zip (turns schedule'))
        w'.bus.registry).handed := second.handed ▸ read
    rw [none] at read
    cases read
  · have back : (w'.bus.router.sweep (w'.bus.pending.zip (turns schedule')) w'.bus.registry).back =
        w'.bus.pending := by
      rw [all, List.map_fst_zip (by rw [second.all])]
    have fits : w'.bus.pending.length ≤ max w'.bus.maxPending 1 := by
      rw [kept, EvictingQueue.length_rtake, first.sameCap]
      exact Nat.min_le_left _ _
    have survivors : w''.bus.pending =
        (w'.bus.router.sweep (w'.bus.pending.zip (turns schedule')) w'.bus.registry).back.foldl
          (EvictingQueue.push w'.bus.maxPending) [] := second.survivors
    rw [survivors, back, EvictingQueue.foldl_push, EvictingQueue.rtake_of_length_le fits]

/-- The last of them is still there, and is looked at again. -/
def again : List (Action ℚ Unit BaseMessage String) :=
  [.advance, .takeEnvelope obliging, .advance, .advance]

def drainedTwice : World ℚ Unit BaseMessage String × List (Event BaseMessage) :=
  outcome step drainedOnce.1 (.drain :: again)

theorem again_runs : exec step drainedOnce.1 (.drain :: again) = some drainedTwice :=
  exec_eq_outcome (by decide +kernel)

theorem overnight_builtIn : AllBuiltIn overnight := by
  constructor
  · have listed : overnight.bus.registry.entries =
        [⟨0, "alarm", [DimSpec.entry ((ProducerDim.only "sensor").toDimension, true, 1)]⟩] := rfl
    rw [listed]
    intro entry member
    rw [List.mem_singleton.mp member]
    intro de inDims
    rw [List.mem_singleton.mp inDims]
    exact .producer _
  · intro c dims reply member
    cases member

theorem routine_setting : ∀ a ∈ routine, a.Quiet ∧ Setting obliging a := by
  intro a member
  refine ⟨routine_quiet a member, ?_⟩
  simp only [routine, List.mem_cons, List.not_mem_nil, or_false] at member
  rcases member with rfl | rfl | rfl | rfl | rfl | rfl | rfl <;> first | rfl | trivial

theorem again_setting : ∀ a ∈ again, a.Quiet ∧ Setting obliging a ∧ a.command? = none := by
  intro a member
  simp only [again, List.mem_cons, List.not_mem_nil, or_false] at member
  rcases member with rfl | rfl | rfl | rfl <;> refine ⟨trivial, ?_, rfl⟩ <;> first | rfl | trivial

theorem drain_again_routine : drainedTwice.1.bus.pending = drainedOnce.1.bus.pending :=
  (drain_again overnight_builtIn routine_setting routine_runs rfl rfl again_setting again_runs rfl).2

end World

end Jackfield
