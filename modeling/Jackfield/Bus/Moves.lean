/-
# Jackfield.Bus.Moves -- everything one step of a world can do

`Move` lists the steps of a world, each with its guard and all that it changes;
`move_of_step` reads it off `World.step` once, so that no invariant below unfolds
the step function.  `Move.handed_cases` and `Move.accepted_cases` go back from an
event to the step it tells of.
-/
import Jackfield.Bus.Task

namespace Jackfield

set_option autoImplicit false

variable {F I M C : Type} [F32 F] [Message M]

namespace World

omit [F32 F] [Message M] in
/-- Everything `next` does: the head of the iterator, or the head of the channel. -/
theorem next_cases {w : World F I M C} {e : Parcel M} {bus : Bus F I (Stamped M) C} {loop : Loop M}
    (taken : w.next = some (e, bus, loop)) :
    (∃ rest, w.control = .running (.drainPending (e :: rest)) ∧ loop = .drainPending rest ∧
        bus = w.bus) ∨
      (∃ rx, w.control = .running loop ∧ (loop = .drainChannel ∨ loop = .dispatch) ∧
        w.bus.rx.buf = e :: rx.buf ∧ bus = { w.bus with rx := rx }) := by
  unfold next at taken
  split at taken
  · rename_i e' rest running
    cases taken
    exact Or.inl ⟨rest, running, rfl, rfl⟩
  · rename_i running
    obtain ⟨⟨e', rx⟩, received, same⟩ := Option.map_eq_some_iff.mp taken
    cases same
    exact Or.inr ⟨rx, running, Or.inl rfl, Channel.tryRecv_buf received, rfl⟩
  · rename_i running
    obtain ⟨⟨e', rx⟩, received, same⟩ := Option.map_eq_some_iff.mp taken
    cases same
    exact Or.inr ⟨rx, running, Or.inr rfl, Channel.tryRecv_buf received, rfl⟩
  · cases taken

inductive Move : World F I M C → Action F I M C → World F I M C → List (Event M) → Prop
  | sent {w : World F I M C} {origin : ProducerId} {message : M} {rx : Channel (Parcel M)}
      (queued : rx.buf = w.bus.rx.buf ++ [⟨origin, ⟨w.sent, message⟩⟩]) :
      Move w (.send origin message) { w with bus := { w.bus with rx := rx }, sent := w.sent + 1 }
        [.accepted ⟨origin, ⟨w.sent, message⟩⟩]
  | commanded {w : World F I M C} {cmd : BusCmd F I (Stamped M) C}
      {cmdRx : Channel (BusCmd F I (Stamped M) C)} (queued : cmdRx.buf = w.bus.cmdRx.buf ++ [cmd]) :
      Move w (.sendCmd cmd) { w with bus := { w.bus with cmdRx := cmdRx } } cmd.returned
  | handles {w : World F I M C} {a : Action F I M C} {rx : Channel (Parcel M)}
      {cmdRx : Channel (BusCmd F I (Stamped M) C)} (same : rx.buf = w.bus.rx.buf)
      (sameCmds : cmdRx.buf = w.bus.cmdRx.buf)
      (handle : a = .makeHandle ∨ a = .dropHandle ∨ a = .makeCmdHandle ∨ a = .dropCmdHandle) :
      Move w a { w with bus := { w.bus with rx := rx, cmdRx := cmdRx } } []
  | registered {w : World F I M C} {consumer : C} {dims : List (DimSpec F I (Stamped M))}
      (idle : w.control = .idle) :
      Move w (.registerConsumer consumer dims)
        { w with bus := { w.bus with registry := (w.bus.registry.registerWith consumer dims).registry } }
        [.registered w.bus.registry.nextId]
  | deregistered {w : World F I M C} {id : Nat} (idle : w.control = .idle) :
      Move w (.deregisterConsumer id)
        { w with bus := { w.bus with registry := (w.bus.registry.deregister id).1 } } []
  | drain {w : World F I M C} (idle : w.control = .idle) :
      Move w .drain { w with control := .running .drainCmds } []
  | dispatch {w : World F I M C} (idle : w.control = .idle) :
      Move w .dispatch { w with control := .running .dispatch } []
  | appliedRegister {w : World F I M C} {loop : Loop M} {consumer : C}
      {dims : List (DimSpec F I (Stamped M))} {reply : Nat} {cmdRx : Channel (BusCmd F I (Stamped M) C)}
      (running : w.control = .running loop) (commands : loop = .drainCmds ∨ loop = .dispatch)
      (front : w.bus.cmdRx.buf = .register consumer dims reply :: cmdRx.buf) :
      Move w .takeCmd
        { w with bus := { w.bus with
          cmdRx := cmdRx, registry := (w.bus.registry.registerWith consumer dims).registry } }
        [.registered w.bus.registry.nextId, .replied reply w.bus.registry.nextId]
  | appliedDeregister {w : World F I M C} {loop : Loop M} {id : Nat}
      {cmdRx : Channel (BusCmd F I (Stamped M) C)}
      (running : w.control = .running loop) (commands : loop = .drainCmds ∨ loop = .dispatch)
      (front : w.bus.cmdRx.buf = .deregister id :: cmdRx.buf) :
      Move w .takeCmd
        { w with bus := { w.bus with cmdRx := cmdRx, registry := (w.bus.registry.deregister id).1 } } []
  | handed {w : World F I M C} {consumer : Consumer (Stamped M) C} {e : Parcel M}
      {bus : Bus F I (Stamped M) C} {loop : Loop M} {entry : RegistrationEntry F I (Stamped M) C}
      {resume : Nat → Registry F I (Stamped M) C} (taken : w.next = some (e, bus, loop))
      (member : entry ∈ w.bus.registry.entries) (eligible : Eligible consumer e entry)
      (shape : ∀ latency, w.bus.registry.SameShape (resume latency)) :
      Move w (.takeEnvelope consumer) { w with bus := bus, control := .consuming loop resume }
        [.routed e, .handed entry.id e]
  | returned {w : World F I M C} {consumer : Consumer (Stamped M) C} {e : Parcel M}
      {bus : Bus F I (Stamped M) C} {loop : Loop M} {registry : Registry F I (Stamped M) C}
      (taken : w.next = some (e, bus, loop)) (shape : w.bus.registry.SameShape registry)
      (nobody : ∀ entry ∈ w.bus.registry.entries, ¬ Eligible consumer e entry) :
      Move w (.takeEnvelope consumer)
        { w with bus := { bus with registry := registry }.pushPending e, control := .running loop }
        (.routed e :: (EvictingQueue.evicted w.bus.maxPending w.bus.pending).map .evicted)
  | tookPending {w : World F I M C} (running : w.control = .running .drainCmds)
      (empty : w.bus.cmdRx.buf = []) :
      Move w .advance
        { w with bus := { w.bus with pending := [] }, control := .running (.drainPending w.bus.pending) } []
  | pendingDone {w : World F I M C} (running : w.control = .running (.drainPending [])) :
      Move w .advance { w with control := .running .drainChannel } []
  | finished {w : World F I M C} {loop : Loop M} (running : w.control = .running loop)
      (done : loop = .drainChannel ∧ w.bus.rx.buf = [] ∨
        loop = .dispatch ∧ w.bus.rx.closed = true ∧ w.bus.cmdRx.closed = true) :
      Move w .advance { w with control := .idle } []
  | resumed {w : World F I M C} {loop : Loop M} {resume : Nat → Registry F I (Stamped M) C} {latency : Nat}
      (consuming : w.control = .consuming loop resume) :
      Move w (.resume latency)
        { w with bus := { w.bus with registry := resume latency }, control := .running loop } []
  | dropped {w : World F I M C} {loop : Loop M}
      (suspended : (∃ resume, w.control = .consuming loop resume) ∨
        w.control = .running .dispatch ∧ loop = .dispatch) :
      Move w .drop { w with control := .idle } (loop.rest.map .lost)

omit [F32 F] [Message M] in
/-- Taking an envelope leaves the rest of the bus as it was. -/
theorem next_frame {w : World F I M C} {e : Parcel M} {bus : Bus F I (Stamped M) C} {loop : Loop M}
    (taken : w.next = some (e, bus, loop)) :
    bus.cmdRx = w.bus.cmdRx ∧ bus.router = w.bus.router ∧ bus.registry = w.bus.registry ∧
      bus.pending = w.bus.pending ∧ bus.maxPending = w.bus.maxPending := by
  rcases next_cases taken with ⟨rest, -, -, rfl⟩ | ⟨rx, -, -, -, rfl⟩ <;> exact ⟨rfl, rfl, rfl, rfl, rfl⟩

omit [F32 F] [Message M] in
theorem next_senders {w : World F I M C} {e : Parcel M} {bus : Bus F I (Stamped M) C} {loop : Loop M}
    (taken : w.next = some (e, bus, loop)) : bus.rx.senders = w.bus.rx.senders := by
  unfold next at taken
  split at taken
  · cases taken
    rfl
  · obtain ⟨⟨e', rx⟩, received, same⟩ := Option.map_eq_some_iff.mp taken
    cases same
    exact Channel.tryRecv_senders received
  · obtain ⟨⟨e', rx⟩, received, same⟩ := Option.map_eq_some_iff.mp taken
    cases same
    exact Channel.tryRecv_senders received
  · cases taken

omit [F32 F] [Message M] in
/-- What the iterator holds once an envelope is taken, it held before. -/
theorem mem_rest_of_next {w : World F I M C} {e x : Parcel M} {bus : Bus F I (Stamped M) C} {loop : Loop M}
    (taken : w.next = some (e, bus, loop)) (inRest : x ∈ loop.rest) : x ∈ w.control.rest := by
  rcases next_cases taken with ⟨rest, running, rfl, -⟩ | ⟨rx, running, -, -, -⟩
  · rw [running]
    exact List.mem_cons_of_mem _ inRest
  · rw [running]
    exact inRest

omit [F32 F] [Message M] in
theorem next_of_waiting {w : World F I M C} {e : Parcel M} {rest : List (Parcel M)}
    (waiting : w.control = .running .dispatch) (front : w.bus.rx.buf = e :: rest) :
    ∃ bus, w.next = some (e, bus, .dispatch) := by
  cases received : w.bus.rx.tryRecv with
  | none =>
      rw [Channel.tryRecv_eq_none_iff.mp received] at front
      cases front
  | some taken =>
      obtain ⟨e', rx⟩ := taken
      have same := Channel.tryRecv_buf received
      rw [front] at same
      cases same
      refine ⟨{ w.bus with rx := rx }, ?_⟩
      simp [next, waiting, received]

omit [F32 F] [Message M] in
theorem running_of_next_dispatch {w : World F I M C} {e : Parcel M} {bus : Bus F I (Stamped M) C}
    (taken : w.next = some (e, bus, .dispatch)) : w.control = .running .dispatch := by
  rcases next_cases taken with ⟨rest, -, same, -⟩ | ⟨rx, running, -, -, -⟩
  · cases same
  · exact running

theorem move_takeEnvelope {w : World F I M C} (consumer : Consumer (Stamped M) C) {e : Parcel M}
    {bus : Bus F I (Stamped M) C} {loop : Loop M} (taken : w.next = some (e, bus, loop)) :
    Move w (.takeEnvelope consumer) (w.routeFrom consumer e bus loop).1
      (w.routeFrom consumer e bus loop).2 := by
  obtain ⟨-, -, sameRegistry, samePending, sameMax⟩ := next_frame taken
  rcases bus.router.route_cases consumer bus.registry e with
    ⟨i, entry, resume, routed, found, eligible, shape⟩ | ⟨registry, routed, shape, nobody⟩
  · rw [sameRegistry] at found shape
    simp only [routeFrom, routed]
    exact .handed taken (List.mem_of_getElem? found) eligible shape
  · rw [sameRegistry] at shape nobody
    have move := Move.returned taken shape nobody
    rw [← samePending, ← sameMax] at move
    simp only [routeFrom, routed]
    exact move

omit [Message M] in
theorem move_takeCmd {w w' : World F I M C} {loop : Loop M} {es : List (Event M)}
    (running : w.control = .running loop) (commands : loop = .drainCmds ∨ loop = .dispatch)
    (stepped : w.takeCmd = some (w', es)) : Move w .takeCmd w' es := by
  obtain ⟨⟨cmd, cmdRx⟩, received, same⟩ := Option.map_eq_some_iff.mp stepped
  have front := Channel.tryRecv_buf received
  cases cmd with
  | register consumer dims reply =>
      obtain ⟨rfl, rfl⟩ := Prod.mk.inj same
      have move := Move.appliedRegister running commands front
      rw [← Registry.registerWith_id w.bus.registry consumer dims] at move
      exact move
  | deregister id =>
      obtain ⟨rfl, rfl⟩ := Prod.mk.inj same
      exact .appliedDeregister running commands front

omit [Message M] in
theorem move_advance {w w' : World F I M C} (stepped : w.advance = some w') : Move w .advance w' [] := by
  unfold advance at stepped
  split at stepped
  · rename_i running
    split at stepped
    · rename_i empty
      cases stepped
      exact .tookPending running (List.isEmpty_iff.mp empty)
    · cases stepped
  · rename_i running
    cases stepped
    exact .pendingDone running
  · rename_i running
    split at stepped
    · rename_i empty
      cases stepped
      exact .finished running (Or.inl ⟨rfl, List.isEmpty_iff.mp empty⟩)
    · cases stepped
  · rename_i running
    split at stepped
    · rename_i closed
      cases stepped
      obtain ⟨rxClosed, cmdClosed⟩ := Bool.and_eq_true_iff.mp closed
      exact .finished running (Or.inr ⟨rfl, rxClosed, cmdClosed⟩)
    · cases stepped
  · cases stepped

/-- **Every step is one of these moves.** -/
theorem move_of_step {w w' : World F I M C} {a : Action F I M C} {es : List (Event M)}
    (stepped : w.step a = some (w', es)) : Move w a w' es := by
  cases a with
  | send origin message =>
      obtain ⟨rx, queued, same⟩ := Option.map_eq_some_iff.mp stepped
      cases same
      exact .sent (Channel.send_buf queued)
  | sendCmd cmd =>
      obtain ⟨cmdRx, queued, same⟩ := Option.map_eq_some_iff.mp stepped
      cases same
      exact .commanded (Channel.send_buf queued)
  | makeHandle =>
      cases stepped
      exact .handles rfl rfl (by simp)
  | dropHandle =>
      simp only [step] at stepped
      split at stepped
      · cases stepped
        exact .handles rfl rfl (by simp)
      · cases stepped
  | makeCmdHandle =>
      cases stepped
      exact .handles rfl rfl (by simp)
  | dropCmdHandle =>
      simp only [step] at stepped
      split at stepped
      · cases stepped
        exact .handles rfl rfl (by simp)
      · cases stepped
  | registerConsumer consumer dims =>
      simp only [step] at stepped
      split at stepped
      · rename_i idle
        cases stepped
        simp only [Bus.registerConsumer, Registry.registerWith_id]
        exact .registered idle
      · cases stepped
  | deregisterConsumer id =>
      simp only [step] at stepped
      split at stepped
      · rename_i idle
        cases stepped
        exact .deregistered idle
      · cases stepped
  | drain =>
      simp only [step] at stepped
      split at stepped
      · rename_i idle
        cases stepped
        exact .drain idle
      · cases stepped
  | dispatch =>
      simp only [step] at stepped
      split at stepped
      · rename_i idle
        cases stepped
        exact .dispatch idle
      · cases stepped
  | takeCmd =>
      simp only [step] at stepped
      split at stepped
      · rename_i running
        exact move_takeCmd running (Or.inl rfl) stepped
      · rename_i running
        exact move_takeCmd running (Or.inr rfl) stepped
      · cases stepped
  | takeEnvelope consumer =>
      obtain ⟨⟨e, bus, loop⟩, taken, same⟩ := Option.map_eq_some_iff.mp stepped
      have move := move_takeEnvelope consumer taken
      rw [show w.routeFrom consumer e bus loop = (w', es) from same] at move
      exact move
  | advance =>
      obtain ⟨next, advanced, same⟩ := Option.map_eq_some_iff.mp stepped
      cases same
      exact move_advance advanced
  | resume latency =>
      simp only [step] at stepped
      split at stepped
      · rename_i loop resume consuming
        cases stepped
        exact .resumed consuming
      · cases stepped
  | drop =>
      simp only [step] at stepped
      split at stepped
      · rename_i loop resume consuming
        cases stepped
        exact .dropped (Or.inl ⟨resume, consuming⟩)
      · rename_i waiting
        cases stepped
        have move : Move w .drop { w with control := .idle } (Loop.dispatch.rest.map .lost) :=
          .dropped (Or.inr ⟨waiting, rfl⟩)
        exact move
      · cases stepped

/-! ## The command queue -/

omit [Message M] in
/-- **What a step does to the command queue**: nothing, or a command goes in at the
back, or the front one is taken out and applied. -/
theorem Move.command_cases {w w' : World F I M C} {a : Action F I M C} {es : List (Event M)}
    (move : Move w a w' es) :
    (w'.bus.cmdRx.buf = w.bus.cmdRx.buf ∧ ∀ r id, Event.replied r id ∉ es) ∨
      (∃ cmd, a = .sendCmd cmd ∧ w'.bus.cmdRx.buf = w.bus.cmdRx.buf ++ [cmd] ∧ es = cmd.returned ∧
        w'.bus.registry = w.bus.registry) ∨
      (∃ consumer dims r, w.bus.cmdRx.buf = .register consumer dims r :: w'.bus.cmdRx.buf ∧
        es = [.registered w.bus.registry.nextId, .replied r w.bus.registry.nextId] ∧
        w'.bus.registry = (w.bus.registry.registerWith consumer dims).registry) ∨
      (∃ id, w.bus.cmdRx.buf = .deregister id :: w'.bus.cmdRx.buf ∧ es = [] ∧
        w'.bus.registry = (w.bus.registry.deregister id).1) := by
  cases move with
  | @commanded cmd cmdRx queued => exact Or.inr (Or.inl ⟨cmd, rfl, queued, rfl, rfl⟩)
  | @appliedRegister loop consumer dims r cmdRx running commands front =>
      exact Or.inr (Or.inr (Or.inl ⟨consumer, dims, r, front, rfl, rfl⟩))
  | @appliedDeregister loop id cmdRx running commands front =>
      exact Or.inr (Or.inr (Or.inr ⟨id, front, rfl, rfl⟩))
  | handles same sameCmds handle => exact Or.inl ⟨sameCmds, by simp⟩
  | handed taken member eligible shape =>
      exact Or.inl ⟨congrArg Channel.buf (next_frame taken).1, by simp⟩
  | returned taken shape nobody =>
      exact Or.inl ⟨congrArg Channel.buf (next_frame taken).1, by simp⟩
  | dropped suspended => exact Or.inl ⟨rfl, by simp⟩
  | _ => exact Or.inl ⟨rfl, by simp⟩

/-- A command that is sent goes in at the back. -/
theorem sendCmd_queues {w w' : World F I M C} {cmd : BusCmd F I (Stamped M) C} {es : List (Event M)}
    (stepped : w.step (.sendCmd cmd) = some (w', es)) : w'.bus.cmdRx.buf = w.bus.cmdRx.buf ++ [cmd] := by
  obtain ⟨cmdRx, queued, same⟩ := Option.map_eq_some_iff.mp stepped
  cases same
  exact Channel.send_buf queued

/-! ## Which step an event tells of -/

omit [Message M] in
/-- A message is handed over by the step that routes it, to a consumer eligible for it. -/
theorem Move.handed_cases {w w' : World F I M C} {a : Action F I M C} {es : List (Event M)}
    (move : Move w a w' es) {id : Nat} {e : Parcel M} (handed : Event.handed id e ∈ es) :
    ∃ consumer bus loop, a = .takeEnvelope consumer ∧ w.next = some (e, bus, loop) ∧
      es = [.routed e, .handed id e] ∧
      ∃ entry ∈ w.bus.registry.entries, entry.id = id ∧ Eligible consumer e entry := by
  cases move with
  | @handed consumer e' bus loop entry resume taken member eligible shape =>
      have same : id = entry.id ∧ e = e' := by simpa using handed
      obtain ⟨rfl, rfl⟩ := same
      exact ⟨consumer, bus, loop, rfl, taken, rfl, entry, member, rfl, eligible⟩
  | @commanded cmd cmdRx queued => cases cmd <;> simp [BusCmd.returned] at handed
  | returned taken shape nobody => simp at handed
  | dropped suspended => simp at handed
  | _ => simp at handed

omit [Message M] in
/-- An envelope is accepted by a send, which does nothing else, and goes into the channel. -/
theorem Move.accepted_cases {w w' : World F I M C} {a : Action F I M C} {es : List (Event M)}
    (move : Move w a w' es) {e : Parcel M} (accepted : Event.accepted e ∈ es) :
    es = [.accepted e] ∧ e ∈ w'.bus.rx.buf := by
  cases move with
  | sent queued =>
      cases List.mem_singleton.mp accepted
      refine ⟨rfl, ?_⟩
      rw [queued]
      simp
  | @commanded cmd cmdRx queued => cases cmd <;> simp [BusCmd.returned] at accepted
  | returned taken shape nobody => simp at accepted
  | dropped suspended => simp at accepted
  | _ => simp at accepted

omit [Message M] in
/-- It bears the name it was sent under. -/
theorem Move.send_of_accepted {w w' : World F I M C} {a : Action F I M C} {es : List (Event M)}
    (move : Move w a w' es) {e : Parcel M} (accepted : Event.accepted e ∈ es) :
    ∃ message, a = .send e.origin message := by
  cases move with
  | @sent origin message rx queued =>
      cases List.mem_singleton.mp accepted
      exact ⟨message, rfl⟩
  | @commanded cmd cmdRx queued => cases cmd <;> simp [BusCmd.returned] at accepted
  | returned taken shape nobody => simp at accepted
  | dropped suspended => simp at accepted
  | _ => simp at accepted

end World

end Jackfield
