/-
# Jackfield.Integrations.PyDelivery -- what the callbacks get

What the bus hands to the wrapper of a consumer goes to its callback in that order, each
message once: the messages the callback has accepted, those taken out for it in the
running `drain` and those pending are together what was handed over (`Balanced`).  A
batch whose callback raises is put back from the message on that raised, and nothing
was appended in the meantime: the bus does not run then.
`Move` lists what a step can do, and by `Move.simulates` the bus goes through a run of its
own meanwhile.
-/
import Jackfield.Integrations.Python

namespace Jackfield

set_option autoImplicit false

variable {F I Err : Type}

open Machine

/-! ## Reading a trace -/

namespace PyEvent

def bus? : PyEvent Err → Option (Event BaseMessage)
  | .bus e => some e
  | _ => none

def pushed? : PyEvent Err → Option (Nat × Parcel BaseMessage)
  | .pushed i e => some (i, e)
  | _ => none

/-- What the wrapper of the `i`-th consumer was handed. -/
def pushedTo (i : Nat) : PyEvent Err → Option (Parcel BaseMessage)
  | .pushed j e => if j = i then some e else none
  | _ => none

/-- What the callback of the `i`-th consumer accepted. -/
def acceptedBy (i : Nat) : PyEvent Err → Option (Stamped BaseMessage)
  | .called j m none => if j = i then some m else none
  | _ => none

/-- The calls of the `i`-th consumer's callback. -/
def callOf (i : Nat) : PyEvent Err → Option (Stamped BaseMessage × Option Err)
  | .called j m error => if j = i then some (m, error) else none
  | _ => none

def takenFrom (i : Nat) : PyEvent Err → Option (List (Stamped Parts))
  | .taken j msgs => if j = i then some msgs else none
  | _ => none

/-- Does a `drain` serve a consumer by this? -/
def serves : PyEvent Err → Bool
  | .taken _ _ => true
  | .called _ _ _ => true
  | _ => false

/-- One more event, for the record of the latest `drain`. -/
def record (seen : List (PyEvent Err)) : PyEvent Err → List (PyEvent Err)
  | .started => []
  | e => if e.serves then seen ++ [e] else seen

/-- How the latest `drain` has served the consumers so far. -/
def latest (t : List (PyEvent Err)) : List (PyEvent Err) := t.foldl record []

theorem latest_append (t es : List (PyEvent Err)) : latest (t ++ es) = es.foldl record (latest t) := by
  rw [latest, List.foldl_append, latest]

theorem record_bus (es : List (Event BaseMessage)) (seen : List (PyEvent Err)) :
    (es.map PyEvent.bus).foldl record seen = seen := by
  induction es with
  | nil => rfl
  | cons e rest ih => exact ih

theorem filterMap_map_bus {α : Type} {f : PyEvent Err → Option α} (misses : ∀ e, f (.bus e) = none)
    (es : List (Event BaseMessage)) : (es.map PyEvent.bus).filterMap f = [] := by
  rw [List.filterMap_map, List.filterMap_eq_nil_iff]
  intro e _
  exact misses e

theorem filterMap_bus (es : List (Event BaseMessage)) :
    List.filterMap (bus? : PyEvent Err → Option (Event BaseMessage)) (es.map .bus) = es := by
  rw [List.filterMap_map]
  exact List.filterMap_some

/-- Of the calls, the ones that did not raise. -/
theorem filterMap_acceptedBy (i : Nat) (l : List (PyEvent Err)) :
    l.filterMap (acceptedBy i) =
      (l.filterMap (callOf i)).filterMap fun c => if c.2.isNone then some c.1 else none := by
  rw [List.filterMap_filterMap]
  congr 1
  funext e
  cases e with
  | called j m error =>
      by_cases his : j = i
      · cases error <;> simp [acceptedBy, callOf, his]
      · cases error <;> simp [acceptedBy, callOf, his]
  | _ => rfl

/-- What the latest `drain` had accepted was accepted last. -/
theorem accepted_latest (i : Nat) (t : List (PyEvent Err)) :
    ∃ before, t.filterMap (acceptedBy i) = before ++ (latest t).filterMap (acceptedBy i) := by
  induction t using List.reverseRecOn with
  | nil => exact ⟨[], rfl⟩
  | append_singleton t e ih =>
      obtain ⟨before, cut⟩ := ih
      rw [latest_append, List.filterMap_append, cut]
      cases e with
      | started => exact ⟨before ++ (latest t).filterMap (acceptedBy i), by simp [record, acceptedBy]⟩
      | taken j msgs => exact ⟨before, by simp [record, serves]⟩
      | called j m error => exact ⟨before, by simp [record, serves]⟩
      | _ =>
          refine ⟨before, ?_⟩
          rw [List.filterMap_cons_none rfl, List.filterMap_nil, List.append_nil]
          rfl

theorem mem_callOf {l : List (PyEvent Err)} {i : Nat} {m : Stamped BaseMessage} {error : Option Err} :
    (m, error) ∈ l.filterMap (callOf i) ↔ called i m error ∈ l := by
  rw [List.mem_filterMap]
  constructor
  · rintro ⟨e, member, found⟩
    cases e with
    | called j m' error' =>
        simp only [callOf, Option.ite_none_right_eq_some, Option.some.injEq, Prod.mk.injEq] at found
        obtain ⟨rfl, rfl, rfl⟩ := found
        exact member
    | _ => cases found
  · intro member
    exact ⟨_, member, if_pos rfl⟩

end PyEvent

namespace PyMessageBus

variable [F32 F] [Inhabited I]

/-! ## Moves -/

inductive Move (s : PyMessageBus F I Err) :
    PyAction F Err → PyMessageBus F I Err → List (PyEvent Err) → Prop
  | registered {requireFrom : Option String} {require : Option (List PyDim)}
      {prefer : Option (List (PyDim × F))} {world : World F I BaseMessage Nat} {es : List (Event BaseMessage)}
      (idle : s.call = .idle)
      (stepped : s.world.step (.registerConsumer s.consumers (PyDim.listed requireFrom require prefer)) =
        some (world, es)) :
      Move s (.registerConsumer requireFrom require prefer)
        { s with
          world := world
          consumers := s.consumers + 1
          queues := Function.update s.queues s.consumers [] } (es.map .bus)
  | sent {producerName : String} {msg : BaseMessage} {world : World F I BaseMessage Nat}
      {handles : List String} {es : List (Event BaseMessage)} {refusal : List (PyEvent Err)}
      {schedule : List (Action F I BaseMessage Nat)}
      (only : ∀ a ∈ schedule, a = .makeHandle ∨ ∃ origin message, a = .send origin message)
      (ran : exec World.step s.world schedule = some (world, es))
      (isRefusal : refusal = [] ∨ refusal = [.refused producerName]) :
      Move s (.send producerName msg) { s with world := world, handles := handles } (es.map .bus ++ refusal)
  | started {world : World F I BaseMessage Nat} {es : List (Event BaseMessage)} (idle : s.call = .idle)
      (stepped : s.world.step .drain = some (world, es)) :
      Move s .drain { s with world := world, call := .draining } (.started :: es.map .bus)
  | returned {world : World F I BaseMessage Nat} {es : List (Event BaseMessage)} (draining : s.call = .draining)
      (stepped : s.world.step (.takeEnvelope wrappers) = some (world, es))
      (nobody : s.world.recipient wrappers = none) :
      Move s .route { s with world := world } (es.map .bus)
  | pushed {world : World F I BaseMessage Nat} {es : List (Event BaseMessage)}
      {entry : RegistrationEntry F I (Stamped BaseMessage) Nat} {e : Parcel BaseMessage}
      (draining : s.call = .draining)
      (stepped : s.world.step (.takeEnvelope wrappers) = some (world, es))
      (chosen : s.world.recipient wrappers = some (entry, e)) :
      Move s .route
        { s with
          world := world
          queues := Function.update s.queues entry.consumer
            (s.queues entry.consumer ++ [e.message.parts]) }
        (es.map .bus ++ [.pushed entry.consumer e])
  | resumed {latency : Nat} {world : World F I BaseMessage Nat} {es : List (Event BaseMessage)}
      (draining : s.call = .draining) (stepped : s.world.step (.resume latency) = some (world, es)) :
      Move s (.resume latency) { s with world := world } (es.map .bus)
  | advanced {world : World F I BaseMessage Nat} {es : List (Event BaseMessage)} (draining : s.call = .draining)
      (stepped : s.world.step .advance = some (world, es)) (goesOn : world.control ≠ .idle) :
      Move s .advance { s with world := world, call := .draining } (es.map .bus)
  | drained {world : World F I BaseMessage Nat} {es : List (Event BaseMessage)} (draining : s.call = .draining)
      (stepped : s.world.step .advance = some (world, es)) (ended : world.control = .idle) :
      Move s .advance { s with world := world, call := .between 0 none } (es.map .bus)
  | taken {i : Nat} {firstErr : Option Err} (between : s.call = .between i firstErr) (more : i < s.consumers) :
      Move s .take
        { s with queues := Function.update s.queues i [], call := .calling i (s.queues i) firstErr }
        [.taken i (s.queues i)]
  | accepted {i : Nat} {m : Stamped Parts} {rest : List (Stamped Parts)} {firstErr : Option Err}
      (calling : s.call = .calling i (m :: rest) firstErr) :
      Move s (.callback none) { s with call := .calling i rest firstErr } [.called i m.whole none]
  | failed {i : Nat} {m : Stamped Parts} {rest : List (Stamped Parts)} {firstErr : Option Err} {e : Err}
      (calling : s.call = .calling i (m :: rest) firstErr) :
      Move s (.callback (some e))
        { s with
          queues := Function.update s.queues i (s.queues i ++ m :: rest)
          call := .between (i + 1) (firstErr.or (some e)) } [.called i m.whole (some e)]
  | usedUp {i : Nat} {firstErr : Option Err} (calling : s.call = .calling i [] firstErr) :
      Move s .next { s with call := .between (i + 1) firstErr } []
  | finished {i : Nat} {firstErr : Option Err} (between : s.call = .between i firstErr)
      (last : ¬ i < s.consumers) : Move s .finish { s with call := .idle } [.returned firstErr]

omit [Inhabited I] in
theorem handle_cases {s s' : PyMessageBus F I Err} {producerName : String}
    (got : s.handle producerName = some s') :
    ∃ world handles schedule, s' = { s with world := world, handles := handles } ∧
      (∀ a ∈ schedule, a = .makeHandle) ∧ exec World.step s.world schedule = some (world, []) := by
  unfold handle at got
  split at got
  · cases got
    exact ⟨s.world, s.handles, [], rfl, by simp, rfl⟩
  · split at got
    · cases got
    · obtain ⟨⟨world, es⟩, made, same⟩ := Option.map_eq_some_iff.mp got
      cases same
      cases made
      exact ⟨_, _, [.makeHandle], rfl, by simp, rfl⟩

theorem move_of_step {s s' : PyMessageBus F I Err} {a : PyAction F Err} {es : List (PyEvent Err)}
    (stepped : s.step a = some (s', es)) : Move s a s' es := by
  cases a with
  | registerConsumer requireFrom require prefer =>
      simp only [step] at stepped
      split at stepped
      · rename_i idle
        obtain ⟨⟨world, es'⟩, below, same⟩ := Option.map_eq_some_iff.mp stepped
        cases same
        exact .registered idle below
      · cases stepped
  | send producerName msg =>
      obtain ⟨s₁, got, same⟩ := Option.map_eq_some_iff.mp stepped
      obtain ⟨world, handles, schedule, rfl, only, ran⟩ := handle_cases got
      cases sent : world.step (.send ⟨producerName⟩ (Parts.of msg).toMessage) with
      | none =>
          simp only [sent] at same
          cases same
          have move : Move s (.send producerName msg) { s with world := world, handles := handles }
              (([] : List (Event BaseMessage)).map .bus ++ [.refused producerName]) :=
            .sent (fun a member => Or.inl (only a member)) ran (Or.inr rfl)
          exact move
      | some next =>
          obtain ⟨world', es'⟩ := next
          simp only [sent] at same
          cases same
          have both := exec_append ran ((exec_singleton World.step world _).trans sent)
          rw [← List.append_nil (es'.map PyEvent.bus)]
          refine .sent (fun a member => ?_) both (Or.inl rfl)
          rcases List.mem_append.mp member with early | late
          · exact Or.inl (only a early)
          · exact Or.inr ⟨_, _, List.mem_singleton.mp late⟩
  | drain =>
      simp only [step] at stepped
      split at stepped
      · rename_i idle
        obtain ⟨⟨world, es'⟩, below, same⟩ := Option.map_eq_some_iff.mp stepped
        cases same
        exact .started idle below
      · cases stepped
  | route =>
      simp only [step] at stepped
      split at stepped
      · rename_i draining
        obtain ⟨⟨world, es'⟩, below, same⟩ := Option.map_eq_some_iff.mp stepped
        split at same
        · rename_i nobody
          cases same
          exact .returned draining below nobody
        · rename_i entry e chosen
          cases same
          exact .pushed draining below chosen
      · cases stepped
  | resume latency =>
      simp only [step] at stepped
      split at stepped
      · rename_i draining
        obtain ⟨⟨world, es'⟩, below, same⟩ := Option.map_eq_some_iff.mp stepped
        cases same
        exact .resumed draining below
      · cases stepped
  | advance =>
      simp only [step] at stepped
      split at stepped
      · rename_i draining
        obtain ⟨⟨world, es'⟩, below, same⟩ := Option.map_eq_some_iff.mp stepped
        cases same
        split
        · rename_i ended
          exact .drained draining below ended
        · rename_i goesOn
          exact .advanced draining below goesOn
      · cases stepped
  | take =>
      simp only [step] at stepped
      split at stepped
      · rename_i i firstErr between
        split at stepped
        · rename_i more
          cases stepped
          exact .taken between more
        · cases stepped
      · cases stepped
  | callback error =>
      simp only [step] at stepped
      split at stepped
      · rename_i i m rest firstErr calling
        split at stepped
        · cases stepped
          exact .accepted calling
        · cases stepped
          exact .failed calling
      · cases stepped
  | next =>
      simp only [step] at stepped
      split at stepped
      · rename_i i firstErr calling
        cases stepped
        exact .usedUp calling
      · cases stepped
  | finish =>
      simp only [step] at stepped
      split at stepped
      · rename_i i firstErr between
        split at stepped
        · cases stepped
        · rename_i last
          cases stepped
          exact .finished between last
      · cases stepped

/-! ## The bus underneath -/

omit [Inhabited I] in
/-- A send, with the handle made for it, leaves the registry and the running call alone. -/
theorem sends_frame {schedule : List (Action F I BaseMessage Nat)} {w w' : World F I BaseMessage Nat}
    {es : List (Event BaseMessage)}
    (only : ∀ a ∈ schedule, a = .makeHandle ∨ ∃ origin message, a = .send origin message)
    (ran : exec World.step w schedule = some (w', es)) :
    w'.bus.registry = w.bus.registry ∧ w'.control = w.control ∧ es.filterMap Event.handed? = [] := by
  induction schedule generalizing w es with
  | nil =>
      cases ran
      exact ⟨rfl, rfl, rfl⟩
  | cons a rest ih =>
      simp only [exec] at ran
      split at ran
      · cases ran
      · rename_i w₁ es₁ stepped
        obtain ⟨⟨w₂, es₂⟩, later, same⟩ := Option.map_eq_some_iff.mp ran
        cases same
        obtain ⟨sameRegistry, sameControl, none⟩ := ih (fun b member => only b (List.mem_cons_of_mem _ member)) later
        have first : w₁.bus.registry = w.bus.registry ∧ w₁.control = w.control ∧
            es₁.filterMap Event.handed? = [] := by
          rcases only a (List.mem_cons_self ..) with rfl | ⟨origin, message, rfl⟩
          · cases stepped
            exact ⟨rfl, rfl, rfl⟩
          · obtain ⟨rx, sent, same⟩ := Option.map_eq_some_iff.mp stepped
            cases same
            exact ⟨rfl, rfl, rfl⟩
        refine ⟨sameRegistry.trans first.1, sameControl.trans first.2.1, ?_⟩
        rw [List.filterMap_append, first.2.2, none]
        rfl

omit [Inhabited I] in
/-- The step that finds nobody hands nothing over. -/
theorem none_handed {w w' : World F I BaseMessage Nat} {es : List (Event BaseMessage)}
    (stepped : w.step (.takeEnvelope wrappers) = some (w', es)) (nobody : w.recipient wrappers = none) :
    es.filterMap Event.handed? = [] := by
  obtain ⟨⟨e, bus, loop⟩, taken, same⟩ := Option.map_eq_some_iff.mp stepped
  simp only [World.recipient, taken] at nobody
  simp only [World.routeFrom] at same
  split at same
  · rename_i i entry resume routed
    rw [routed] at nobody
    cases nobody
  · cases same
    exact Event.filterMap_map_none (fun _ => rfl) _

/-- **Each step takes steps of the bus**, none of which drops a future or calls `dispatch`. -/
theorem Move.simulates {s s' : PyMessageBus F I Err} {a : PyAction F Err} {es : List (PyEvent Err)}
    (move : Move s a s' es) :
    ∃ schedule, (∀ b ∈ schedule, b ≠ .drop ∧ b ≠ .dispatch) ∧
      exec World.step s.world schedule = some (s'.world, es.filterMap PyEvent.bus?) := by
  have one : ∀ {b : Action F I BaseMessage Nat} {world : World F I BaseMessage Nat}
      {below : List (Event BaseMessage)} (_ : b ≠ .drop ∧ b ≠ .dispatch) (_ : s.world.step b = some (world, below)),
      ∃ schedule, (∀ b ∈ schedule, b ≠ .drop ∧ b ≠ .dispatch) ∧ exec World.step s.world schedule = some (world, below) := by
    intro b world below plain stepped
    exact ⟨[b], by simpa using plain, (exec_singleton World.step s.world b).trans stepped⟩
  have aside : ∃ schedule : List (Action F I BaseMessage Nat),
      (∀ b ∈ schedule, b ≠ .drop ∧ b ≠ .dispatch) ∧
      exec World.step s.world schedule = some (s.world, []) := ⟨[], by simp, rfl⟩
  cases move with
  | registered idle stepped =>
      rw [PyEvent.filterMap_bus]
      exact one (by simp) stepped
  | @sent producerName msg world handles es refusal schedule only ran isRefusal =>
      have refused : refusal.filterMap PyEvent.bus? = [] := by rcases isRefusal with rfl | rfl <;> rfl
      rw [List.filterMap_append, PyEvent.filterMap_bus, refused, List.append_nil]
      refine ⟨schedule, fun b member => ?_, ran⟩
      rcases only b member with rfl | ⟨origin, message, rfl⟩ <;> simp
  | started idle stepped =>
      rw [List.filterMap_cons_none rfl, PyEvent.filterMap_bus]
      exact one (by simp) stepped
  | returned draining stepped nobody =>
      rw [PyEvent.filterMap_bus]
      exact one (by simp) stepped
  | pushed draining stepped chosen =>
      rw [List.filterMap_append, PyEvent.filterMap_bus, List.filterMap_cons_none rfl, List.filterMap_nil,
        List.append_nil]
      exact one (by simp) stepped
  | resumed draining stepped =>
      rw [PyEvent.filterMap_bus]
      exact one (by simp) stepped
  | advanced draining stepped goesOn =>
      rw [PyEvent.filterMap_bus]
      exact one (by simp) stepped
  | drained draining stepped ended =>
      rw [PyEvent.filterMap_bus]
      exact one (by simp) stepped
  | taken between more => exact aside
  | accepted calling => exact aside
  | failed calling => exact aside
  | usedUp calling => exact aside
  | finished between last => exact aside

variable {ok : PyMessageBus F I Err → List (PyEvent Err) → PyAction F Err → Prop}
  {s : PyMessageBus F I Err} {t : List (PyEvent Err)}

/-- The bus goes through a run of its own, of `drain` calls that complete. -/
theorem world_drained (runs : Runs step ok (new : PyMessageBus F I Err) s t) :
    Runs World.step (fun _ _ a => a ≠ .drop ∧ a ≠ .dispatch) (.init 256 .affinity 1024) s.world
      (t.filterMap PyEvent.bus?) :=
  runs.simulated_within (fun s => s.world) PyEvent.bus?
    (fun a : Action F I BaseMessage Nat => a ≠ .drop ∧ a ≠ .dispatch) fun _ _ _ _ stepped =>
      (move_of_step stepped).simulates

theorem world_runs (runs : Runs step ok (new : PyMessageBus F I Err) s t) :
    Runs World.step (fun _ _ a => a ≠ .drop) (.init 256 .affinity 1024) s.world (t.filterMap PyEvent.bus?) :=
  (world_drained runs).mono_reached fun _ _ _ _ plain => plain.1

/-! ## Where the messages are -/

/-- The bus is at rest whenever a callback runs, knows the registered consumers only, and
the list of the consumer being served is empty. -/
structure Orderly (s : PyMessageBus F I Err) : Prop where
  resting : s.call ≠ .draining → s.world.control = .idle
  known : ∀ entry ∈ s.world.bus.registry.entries, entry.consumer < s.consumers
  unused : ∀ i, s.consumers ≤ i → s.queues i = []
  serving : ∀ i msgs firstErr, s.call = .calling i msgs firstErr → i < s.consumers ∧ s.queues i = []

omit [Inhabited I] in
theorem known_of_step {s : PyMessageBus F I Err} (sound : s.world.ResumeSound) (orderly : Orderly s)
    {a : Action F I BaseMessage Nat} {world : World F I BaseMessage Nat} {es : List (Event BaseMessage)}
    (stepped : s.world.step a = some (world, es)) (takesNone : a ≠ .takeCmd)
    (registersNone : ∀ i dims, a ≠ .registerConsumer i dims) :
    ∀ entry ∈ world.bus.registry.entries, entry.consumer < s.consumers := by
  intro entry member
  rcases (World.move_of_step stepped).entry_cases sound member with
    ⟨old, inEntries, -, same⟩ | ⟨dims, isRegister⟩ | ⟨dims, r, rest, isTake, -, -⟩
  · rw [same]
    exact orderly.known old inEntries
  · exact absurd isRegister (registersNone _ _)
  · exact absurd isTake takesNone

omit [F32 F] [Inhabited I] in
theorem Orderly.unused_update {s : PyMessageBus F I Err} (orderly : Orderly s) {i : Nat}
    (registered : i < s.consumers) (msgs : List (Stamped Parts)) :
    ∀ j, s.consumers ≤ j → Function.update s.queues i msgs j = [] := by
  intro j unregistered
  have other : j ≠ i := by omega
  exact (Function.update_of_ne other ..).trans (orderly.unused j unregistered)

theorem Orderly.step {s s' : PyMessageBus F I Err} {a : PyAction F Err} {es : List (PyEvent Err)}
    (orderly : Orderly s) (sound : s.world.ResumeSound) (move : Move s a s' es) : Orderly s' := by
  cases move with
  | @registered requireFrom require prefer world es idle stepped =>
      refine ⟨fun _ => ?_, ?_, ?_, ?_⟩
      · have resting := orderly.resting (by rw [idle]; simp)
        have move := World.move_of_step stepped
        cases move with
        | registered => exact resting
        | handles _ _ handle => simp at handle
      · intro entry member
        rcases (World.move_of_step stepped).entry_cases sound member with
          ⟨old, inEntries, -, same⟩ | ⟨dims, isRegister⟩ | ⟨dims, r, rest, isTake, -, -⟩
        · rw [same]
          exact Nat.lt_succ_of_lt (orderly.known old inEntries)
        · have same : s.consumers = entry.consumer := by
            injection isRegister
          show entry.consumer < s.consumers + 1
          omega
        · cases isTake
      · intro i unregistered
        have above : s.consumers + 1 ≤ i := unregistered
        have other : i ≠ s.consumers := by omega
        exact (Function.update_of_ne other ..).trans (orderly.unused i (by omega))
      · intro i msgs firstErr calling
        cases idle.symm.trans calling
  | @sent producerName msg world handles es refusal schedule only ran isRefusal =>
      obtain ⟨sameRegistry, sameControl, -⟩ := sends_frame only ran
      refine ⟨fun running => ?_, ?_, orderly.unused, orderly.serving⟩
      · exact sameControl.trans (orderly.resting running)
      · show ∀ entry ∈ world.bus.registry.entries, _
        rw [sameRegistry]
        exact orderly.known
  | started idle stepped =>
      refine ⟨fun running => absurd rfl running, known_of_step sound orderly stepped (by simp) (by simp),
        orderly.unused, ?_⟩
      intro i msgs firstErr calling
      cases calling
  | returned draining stepped nobody =>
      refine ⟨fun running => absurd draining running, known_of_step sound orderly stepped (by simp) (by simp),
        orderly.unused, orderly.serving⟩
  | @pushed world es entry e draining stepped chosen =>
      refine ⟨fun running => absurd draining running, known_of_step sound orderly stepped (by simp) (by simp),
        ?_, ?_⟩
      · obtain ⟨-, position, member, -⟩ := World.recipient_eq_some_iff.mp chosen
        exact orderly.unused_update (orderly.known entry (List.mem_of_getElem? member)) _
      · intro i msgs firstErr calling
        cases draining.symm.trans calling
  | resumed draining stepped =>
      exact ⟨fun running => absurd draining running, known_of_step sound orderly stepped (by simp) (by simp),
        orderly.unused, orderly.serving⟩
  | advanced draining stepped goesOn =>
      refine ⟨fun running => absurd rfl running, known_of_step sound orderly stepped (by simp) (by simp),
        orderly.unused, ?_⟩
      intro i msgs firstErr calling
      cases calling
  | drained draining stepped ended =>
      refine ⟨fun _ => ended, known_of_step sound orderly stepped (by simp) (by simp), orderly.unused, ?_⟩
      intro i msgs firstErr calling
      cases calling
  | @taken i firstErr between more =>
      refine ⟨fun _ => orderly.resting (by rw [between]; simp), orderly.known, orderly.unused_update more _, ?_⟩
      intro j msgs firstErr calling
      cases calling
      exact ⟨more, Function.update_self ..⟩
  | @accepted i m rest firstErr calling =>
      refine ⟨fun _ => orderly.resting (by rw [calling]; simp), orderly.known, orderly.unused, ?_⟩
      intro j msgs firstErr calling'
      cases calling'
      exact orderly.serving i _ _ calling
  | @failed i m rest firstErr e calling =>
      have registered := (orderly.serving i _ _ calling).1
      refine ⟨fun _ => orderly.resting (by rw [calling]; simp), orderly.known,
        orderly.unused_update registered _, ?_⟩
      intro j msgs firstErr calling'
      cases calling'
  | usedUp calling =>
      refine ⟨fun _ => orderly.resting (by rw [calling]; simp), orderly.known, orderly.unused, ?_⟩
      intro j msgs firstErr calling'
      cases calling'
  | finished between last =>
      refine ⟨fun _ => orderly.resting (by rw [between]; simp), orderly.known, orderly.unused, ?_⟩
      intro j msgs firstErr calling'
      cases calling'

/-- What was taken for the `i`-th consumer and has not gone to its callback yet. -/
def inHand (s : PyMessageBus F I Err) (i : Nat) : List (Stamped Parts) :=
  match s.call with
  | .calling j msgs _ => if j = i then msgs else []
  | _ => []

/-- The messages that wait for the callback of the `i`-th consumer. -/
def waiting (s : PyMessageBus F I Err) (i : Nat) : List (Stamped BaseMessage) :=
  (s.inHand i ++ s.queues i).map Stamped.whole

omit [F32 F] [Inhabited I] in
theorem waiting_of_idle {s : PyMessageBus F I Err} (idle : s.call = .idle) (i : Nat) :
    s.waiting i = (s.queues i).map Stamped.whole := by
  simp [waiting, inHand, idle]

/-- **What a step does to the messages that wait**: the callback takes the front one, the
wrapper appends one, and a batch goes back to where it came from. -/
theorem Move.balanced {s s' : PyMessageBus F I Err} {a : PyAction F Err} {es : List (PyEvent Err)}
    (move : Move s a s' es) (orderly : Orderly s) (i : Nat) :
    es.filterMap (PyEvent.acceptedBy i) ++ s'.waiting i =
      s.waiting i ++ (es.filterMap (PyEvent.pushedTo i)).map fun e => e.message := by
  have busAccepts (es : List (Event BaseMessage)) :
      (es.map (PyEvent.bus : _ → PyEvent Err)).filterMap (PyEvent.acceptedBy i) = [] :=
    PyEvent.filterMap_map_bus (fun _ => rfl) es
  have busPushes (es : List (Event BaseMessage)) :
      (es.map (PyEvent.bus : _ → PyEvent Err)).filterMap (PyEvent.pushedTo i) = [] :=
    PyEvent.filterMap_map_bus (fun _ => rfl) es
  cases move with
  | registered idle stepped =>
      rw [busAccepts, busPushes]
      have empty := orderly.unused s.consumers (Nat.le_refl _)
      by_cases new : i = s.consumers
      · subst new
        simp [waiting, inHand, idle, empty]
      · simp [waiting, inHand, idle, Function.update_of_ne new]
  | @sent producerName msg world handles es refusal schedule only ran isRefusal =>
      have none : refusal.filterMap (PyEvent.acceptedBy i) = [] ∧ refusal.filterMap (PyEvent.pushedTo i) = [] := by
        rcases isRefusal with rfl | rfl <;> exact ⟨rfl, rfl⟩
      rw [List.filterMap_append, List.filterMap_append, busAccepts, busPushes, none.1, none.2]
      simp [waiting, inHand]
  | started idle stepped =>
      rw [List.filterMap_cons_none rfl, List.filterMap_cons_none rfl, busAccepts, busPushes]
      simp [waiting, inHand, idle]
  | returned draining stepped nobody =>
      rw [busAccepts, busPushes]
      simp [waiting, inHand]
  | @pushed world es entry e draining stepped chosen =>
      rw [List.filterMap_append, List.filterMap_append, busAccepts, busPushes]
      by_cases his : entry.consumer = i
      · subst his
        simp [waiting, inHand, draining, PyEvent.acceptedBy, PyEvent.pushedTo]
      · simp [waiting, inHand, draining, PyEvent.acceptedBy, PyEvent.pushedTo, his,
          Function.update_of_ne (Ne.symm his)]
  | resumed draining stepped =>
      rw [busAccepts, busPushes]
      simp [waiting, inHand]
  | advanced draining stepped goesOn =>
      rw [busAccepts, busPushes]
      simp [waiting, inHand, draining]
  | drained draining stepped ended =>
      rw [busAccepts, busPushes]
      simp [waiting, inHand, draining]
  | @taken j firstErr between more =>
      rw [List.filterMap_cons_none rfl, List.filterMap_cons_none rfl]
      by_cases his : j = i
      · subst his
        simp [waiting, inHand, between]
      · simp [waiting, inHand, between, his, Function.update_of_ne (Ne.symm his)]
  | @accepted j m rest firstErr calling =>
      rw [List.filterMap_cons_none (f := PyEvent.pushedTo i) rfl]
      by_cases his : j = i
      · simp [waiting, inHand, calling, PyEvent.acceptedBy, his]
      · simp [waiting, inHand, calling, PyEvent.acceptedBy, his]
  | @failed j m rest firstErr e calling =>
      -- nothing was appended while the batch was out
      have emptied := (orderly.serving j _ _ calling).2
      rw [List.filterMap_cons_none rfl, List.filterMap_cons_none rfl]
      by_cases his : j = i
      · subst his
        simp [waiting, inHand, calling, emptied]
      · simp [waiting, inHand, calling, his, Function.update_of_ne (Ne.symm his)]
  | usedUp calling => simp [waiting, inHand, calling]
  | finished between last =>
      rw [List.filterMap_cons_none rfl, List.filterMap_cons_none rfl]
      simp [waiting, inHand, between]

/-! ## Whole runs -/

theorem orderly (runs : Runs step ok (new : PyMessageBus F I Err) s t) : Orderly s := by
  apply runs.invariant_reached (P := fun s _ => Orderly s)
  · exact ⟨fun _ => rfl, by simp [new, World.init, Bus.withRouter, Bus.capPending, Registry.new], fun _ _ => rfl,
      by simp [new]⟩
  · intro s t a s' es reached ih allowed stepped
    exact ih.step (World.resumeSound (world_runs reached)) (move_of_step stepped)

/-- **What a callback has accepted and what waits for it is what the wrapper was handed.** -/
theorem balanced (runs : Runs step ok (new : PyMessageBus F I Err) s t) (i : Nat) :
    t.filterMap (PyEvent.acceptedBy i) ++ s.waiting i =
      (t.filterMap (PyEvent.pushedTo i)).map fun e => e.message := by
  apply runs.invariant_reached (P := fun s t => t.filterMap (PyEvent.acceptedBy i) ++ s.waiting i =
    (t.filterMap (PyEvent.pushedTo i)).map fun e => e.message)
  · rfl
  · intro s t a s' es reached ih allowed stepped
    have move := move_of_step stepped
    rw [List.filterMap_append, List.filterMap_append, List.map_append, List.append_assoc,
      move.balanced (orderly reached) i, ← List.append_assoc, ih]

end PyMessageBus

end Jackfield
