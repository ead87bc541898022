/-
# Jackfield.Endpoint.Isolation -- clients at different addresses

Every step that touches the entries or sends a `Deregister` command is on behalf of one
remote address, and changes no entry but the one there (`Move.entry_frame`).  The ids it
deregisters are the caller's own: entries, handlers and tasks hold only what the bus gave
to a call from their address (`Provenance`), whenever and however often the command is
sent.

Ids are `u64`, so this keeps clients apart only until the bus has given out all of them
(`clients_apart`).  After that a client may be given an id that another one still holds,
and the other's Deregister takes both consumers away (`wrapped_id_removed`).
-/
import Jackfield.Endpoint.Cleanup
import Jackfield.Endpoint.Provenance

namespace Jackfield

set_option autoImplicit false
set_option linter.unusedSectionVars false

variable {F I M L Addr : Type}

open Machine

def Handler.addr : Handler Addr → Addr
  | .registering addr _ => addr
  | .inserting addr _ => addr
  | .deregistering addr _ _ => addr

namespace Grpc

/-- The client a step is due to: its call, or its stream. -/
def client (s : Grpc F I M L Addr) : GrpcAction F I M L Addr → Option Addr
  | .register _ addr _ _ => some addr
  | .stream _ addr => some addr
  | .deregister _ addr _ => some addr
  | .handler n _ => (s.handlers n).map Handler.addr
  | .forward m _ => (s.forwards m).map fun f => f.addr
  | .inbound m _ => (s.inbounds m).map fun i => i.addr
  | _ => none

/-- What has happened to the bus. -/
def busTrace (t : List (GrpcEvent M Addr)) : List (Event M) :=
  (t.filterMap GrpcEvent.relay?).filterMap RelayEvent.bus?

theorem mem_busTrace {t : List (GrpcEvent M Addr)} {e : Event M} :
    e ∈ busTrace t ↔ GrpcEvent.relay (.bus e) ∈ t := by
  unfold busTrace
  rw [List.mem_filterMap]
  constructor
  · rintro ⟨below, member, isBus⟩
    obtain ⟨above, inTrace, isRelay⟩ := List.mem_filterMap.mp member
    cases below with
    | bus e' =>
        cases above with
        | relay e'' =>
            cases isRelay
            cases isBus
            exact inTrace
        | _ => cases isRelay
    | _ => cases isBus
  · intro inTrace
    exact ⟨.bus e, List.mem_filterMap.mpr ⟨_, inTrace, rfl⟩, rfl⟩

variable [DecidableEq Addr] [F32 F] [Inhabited I] [BoxedMessage M] {service : GrpcService}
  {s s' : Grpc F I M L Addr} {a : GrpcAction F I M L Addr} {t es : List (GrpcEvent M Addr)}

/-- A step leaves the entries of other clients as they are. -/
theorem Move.entry_frame (move : Move service s a s' es) {addr : Addr} (other : s.client a ≠ some addr) :
    s'.endpoints addr = s.endpoints addr := by
  have kept : ∀ addr' value, s.client a = some addr' →
      Function.update s.endpoints addr' value addr = s.endpoints addr := by
    intro addr' value due
    apply Function.update_of_ne
    rintro rfl
    exact other due
  cases move with
  | opened connected free occupied => exact kept _ _ rfl
  | deregistered unused occupied right producer => exact kept _ _ rfl
  | deregistering unused occupied right consumer => exact kept _ _ rfl
  | inserted serving => exact kept _ _ (congrArg (Option.map Handler.addr) serving)
  | forwardRemoved task phase => exact kept _ _ (congrArg (Option.map _) task)
  | inboundRemoved task phase => exact kept _ _ (congrArg (Option.map _) task)
  | _ => rfl

/-- A Deregister that fails does nothing. -/
theorem Move.frame_of_failed {n : Nat} {addr : Addr} {bytes : List UInt8} {status : Status}
    (move : Move service s (.deregister n addr bytes) s' es)
    (failed : GrpcEvent.answered n (.error status) ∈ es) :
    s'.endpoints = s.endpoints ∧ s'.relay = s.relay ∧ s'.handlers = s.handlers := by
  cases move with
  | rejected unused wrong => exact ⟨rfl, rfl, rfl⟩
  | deregistered unused occupied right producer => simp at failed
  | deregistering unused occupied right consumer => simp at failed

/-- Who sends a command, and which id it names. -/
theorem Move.commanded_cases (move : Move service s a s' es) {addr : Addr} {id : Nat}
    (commanded : GrpcEvent.commanded addr id ∈ es) :
    (∃ n uuid, s.handlers n = some (.deregistering addr uuid id)) ∨
      ∃ m f, s.forwards m = some f ∧ f.addr = addr ∧ f.phase = .deregistering id := by
  have own : ∀ {addr' : Addr} {id' : Nat} {relay : Relay F I M L} {below : List (GrpcEvent M Addr)},
      Commanded s addr' id' relay below → GrpcEvent.commanded addr id ∈ below → addr = addr' ∧ id = id' := by
    intro addr' id' relay below sent member
    cases sent with
    | gone closed => cases member
    | sent live stepped => simpa using member
  cases move with
  | @commanded n id' addr' uuid relay es serving sent =>
      obtain ⟨rfl, rfl⟩ := own sent (by simpa using commanded)
      exact Or.inl ⟨n, uuid, serving⟩
  | @forwardCommanded m id' f relay es task phase sent =>
      obtain ⟨rfl, rfl⟩ := own sent commanded
      exact Or.inr ⟨m, f, task, rfl, phase⟩
  | _ => simp at commanded

/-! ## Runs -/

variable {ok : Grpc F I M L Addr → List (GrpcEvent M Addr) → GrpcAction F I M L Addr → Prop}
  {capacity cap : Nat} {router : Router}

/-- A command names an id that the bus gave to a call of the same client. -/
theorem givenTo_of_commanded (runs : Runs (step service) ok (init capacity router cap) s t) {addr : Addr}
    {id : Nat} : GrpcEvent.commanded addr id ∈ t → s.GivenTo addr id := by
  apply runs.invariant_reached (P := fun s t => GrpcEvent.commanded addr id ∈ t → s.GivenTo addr id)
  · intro none
    cases none
  · intro s t a s' es before ih _ stepped commanded
    have known := provenance before
    rcases List.mem_append.mp commanded with old | new
    · exact (ih old).step stepped
    · rcases (move_of_step stepped).commanded_cases new with ⟨n, uuid, serving⟩ | ⟨m, f, task, rfl, phase⟩
      · exact (known.deregistering n addr uuid id serving).2.step stepped
      · obtain ⟨made, id', has, returned⟩ := known.forward m f task
        cases has.symm.trans (known.leaving m f id task phase)
        exact GivenTo.step ⟨f.rx, made, returned⟩ stepped

/-- Ids apart, an answer with the id went to that client's own call. -/
theorem caller_of_replied (runs : Runs (step service) ok (init capacity router cap) s t)
    (few : ((busTrace t).filterMap Event.registered?).length ≤ 2 ^ 64) {addr : Addr} {id r : Nat}
    (given : s.GivenTo addr id) (replied : GrpcEvent.relay (.bus (.replied r id)) ∈ t) :
    s.callers r = some addr := by
  obtain ⟨r', made, returned⟩ := given
  have below := Relay.desk_runs (relay_runs runs)
  have own : Event.replied r' id ∈ busTrace t := Desk.replied_of_answer below r' id (Or.inr returned)
  have same : r = r' := World.answers_apart (Desk.world_runs below) few (mem_busTrace.mpr replied) own
  rw [same, made]

/-- **Clients at different addresses do not interfere**, as long as the bus has made no
more than `2 ^ 64` registrations.  In every interleaving: a step due to one client, or to
none, changes no entry of another; a Deregister that fails changes neither the entries
nor the bus, and leaves nothing to be done; and an id that a `Deregister` command due to
one client names has been given by the bus to calls of this client only. -/
theorem clients_apart (runs : Runs (step service) anyStep (init capacity router cap) s t) :
    (∀ a s' es, s.step service a = some (s', es) →
      (∀ addr, s.client a ≠ some addr → s'.endpoints addr = s.endpoints addr) ∧
      ∀ n addr bytes status, a = .deregister n addr bytes → GrpcEvent.answered n (.error status) ∈ es →
        s'.endpoints = s.endpoints ∧ s'.relay = s.relay ∧ s'.handlers = s.handlers) ∧
    (((busTrace t).filterMap Event.registered?).length ≤ 2 ^ 64 →
      ∀ addr id r, GrpcEvent.commanded addr id ∈ t → GrpcEvent.relay (.bus (.replied r id)) ∈ t →
        s.callers r = some addr) := by
  constructor
  · intro a s' es stepped
    have move := move_of_step stepped
    refine ⟨fun addr => move.entry_frame, ?_⟩
    rintro n addr bytes status rfl failed
    exact move.frame_of_failed failed
  · intro few addr id r commanded replied
    exact caller_of_replied runs few (givenTo_of_commanded runs commanded) replied

/-! ## When the ids start again -/

/-- The same, with the next id `k`. -/
def withNextId (s : Grpc F I M L Addr) (k : Nat) : Grpc F I M L Addr :=
  let world := s.relay.desk.world
  let bus := { world.bus with registry := { world.bus.registry with nextId := k } }
  { s with relay := { s.relay with desk := { s.relay.desk with world := { world with bus := bus } } } }

/-- While the bus is idle, its owner registers a consumer and deregisters it. -/
def turn (k : Nat) : List (GrpcAction ℚ Unit BaseMessage String Nat) :=
  [.relay (.desk (.world (.registerConsumer ⟨none, .other "meter"⟩ []))),
    .relay (.desk (.world (.deregisterConsumer k)))]

theorem exec_turn {s : Grpc ℚ Unit BaseMessage String Nat} {k : Nat}
    (idle : s.relay.desk.world.control = .idle) (live : s.relay.desk.closed = false)
    (nothing : s.relay.inFlight = none)
    (fresh : ∀ entry ∈ s.relay.desk.world.bus.registry.entries, entry.id ≠ k) :
    exec (step .plain) (s.withNextId k) (turn k) =
      some (s.withNextId ((k + 1) % 2 ^ 64), [.relay (.bus (.registered k))]) := by
  have silent : ∀ es : List (Event BaseMessage), (∀ r id, Event.replied r id ∉ es) →
      Desk.answered s.relay.desk.calls es = s.relay.desk.calls :=
    fun es => Desk.answered_of_silent _
  -- the new entry is behind the others, and the only one with its id
  simpa [turn, exec, step, RelayAction.number?, relayStep, Relay.step, Relay.after, DeskAction.aside, Desk.step,
    Action.plain, World.step, Bus.registerConsumer, Bus.deregisterConsumer, Registry.deregister,
    Registry.registerWith_entries, Registry.registerWith_nextId, List.filter_append, withNextId, idle, live,
    nothing, silent] using fresh

/-- However often, until the counter is back at zero. -/
theorem runs_turns {s : Grpc ℚ Unit BaseMessage String Nat} (idle : s.relay.desk.world.control = .idle)
    (live : s.relay.desk.closed = false) (nothing : s.relay.inFlight = none)
    (first : ∀ entry ∈ s.relay.desk.world.bus.registry.entries, entry.id = 0) (n : Nat) (few : n < 2 ^ 64) :
    ∃ t, Runs (step .plain) anyStep (s.withNextId 1) (s.withNextId ((n + 1) % 2 ^ 64)) t := by
  induction n with
  | zero => exact ⟨[], .start⟩
  | succ n ih =>
      obtain ⟨t, runs⟩ := ih (by omega)
      rw [Nat.mod_eq_of_lt few] at runs
      have fresh : ∀ entry ∈ s.relay.desk.world.bus.registry.entries, entry.id ≠ n + 1 := by
        intro entry member
        rw [first entry member]
        omega
      exact ⟨_, runs.exec (turn (n + 1)) (fun _ _ => trivial) (exec_turn idle live nothing fresh)⟩

/-- A client registers a consumer while `drain` runs. -/
def drainCall (n addr : Nat) (uuid : Uuid) : List (GrpcAction ℚ Unit BaseMessage String Nat) :=
  [.connect addr, .register n addr ⟨"listener", [EndpointType.consumer], ""⟩ uuid, .handler n .submit,
    .relay (.desk (.world .drain)), .relay (.desk (.world .takeCmd)), .relay (.desk (.world .advance)),
    .relay (.desk (.world .advance)), .relay (.desk (.world .advance)), .handler n .answered, .handler n .insert]

def firstClient : Grpc ℚ Unit BaseMessage String Nat × List (GrpcEvent BaseMessage Nat) :=
  outcome (step .plain) (init 4 .affinity 8) (drainCall 0 7 (drawn 1))

/-- A second one registers, and the first calls Deregister. -/
def secondCall : List (GrpcAction ℚ Unit BaseMessage String Nat) :=
  drainCall 1 8 (drawn 2) ++ [.deregister 2 7 (drawn 1).bytes, .handler 2 .deregister,
    .relay (.desk (.world .drain)), .relay (.desk (.world .takeCmd))]

def secondClient : Grpc ℚ Unit BaseMessage String Nat × List (GrpcEvent BaseMessage Nat) :=
  outcome (step .plain) (firstClient.1.withNextId 0) secondCall

/-- The Deregister of the client at address 7 names the id that the bus gave to the one at
address 8, whose consumer is gone with it. -/
theorem wrapped_id_removed :
    ∃ (s : Grpc ℚ Unit BaseMessage String Nat) (t : List (GrpcEvent BaseMessage Nat)),
      Runs (step .plain) anyStep (init 4 .affinity 8) s t ∧ GrpcEvent.commanded 7 0 ∈ t ∧
        GrpcEvent.relay (.bus (.replied 1 0)) ∈ t ∧ s.callers 1 = some 8 ∧
        (s.endpoints 8).bind (fun entry => entry.consumerRegId) = some 0 ∧
        s.relay.desk.world.bus.registry.entries = [] := by
  have before : Runs (step .plain) anyStep (init 4 .affinity 8) firstClient.1 firstClient.2 :=
    runs_outcome_any _ rfl
  have first : ∀ entry ∈ firstClient.1.relay.desk.world.bus.registry.entries, entry.id = 0 := by
    intro entry member
    cases List.mem_singleton.mp member
    rfl
  obtain ⟨t, turns⟩ := runs_turns rfl rfl rfl first (2 ^ 64 - 1) (by omega)
  have back : Runs (step .plain) anyStep firstClient.1 (firstClient.1.withNextId 0) t := turns
  have after : Runs (step .plain) anyStep (firstClient.1.withNextId 0) secondClient.1 secondClient.2 :=
    runs_outcome_any _ rfl
  have all := (before.append (fun _ _ _ _ => trivial) back).append (fun _ _ _ _ => trivial) after
  have sent : GrpcEvent.commanded 7 0 ∈ secondClient.2 := by decide +kernel
  have answer : GrpcEvent.relay (.bus (.replied 1 0)) ∈ secondClient.2 := by decide +kernel
  exact ⟨_, _, all, List.mem_append_right _ sent, List.mem_append_right _ answer, rfl, rfl, rfl⟩

/-- The same without the turns in between. -/
def neighbours : Grpc ℚ Unit BaseMessage String Nat × List (GrpcEvent BaseMessage Nat) :=
  outcome (step .plain) (init 4 .affinity 8) (drainCall 0 7 (drawn 1) ++ secondCall)

/-- Whoever named id 0 had been given it. -/
theorem clients_apart_neighbours : neighbours.1.callers 0 = some 7 := by
  have runs : Runs (step .plain) anyStep (init 4 .affinity 8) neighbours.1 neighbours.2 :=
    runs_outcome_any _ rfl
  have commanded : GrpcEvent.commanded 7 0 ∈ neighbours.2 := by decide +kernel
  have replied : GrpcEvent.relay (.bus (.replied 0 0)) ∈ neighbours.2 := by decide +kernel
  exact (clients_apart runs).2 (by decide +kernel) 7 0 0 commanded replied

end Grpc

end Jackfield
