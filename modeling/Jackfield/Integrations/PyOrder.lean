/-
# Jackfield.Integrations.PyOrder -- which messages come to a callback, and in which order

Nobody deregisters from a bus of the Python package, and a wrapper takes whatever is handed to
it, so a step of the bus either registers the next wrapper or leaves the entries alone but for
their weights (`Move.registry_cases`).

So a callback is given its messages in the order they were sent in, however often it or another
one raises (`callbacks_in_send_order`), and only what it requires
(`callbacks_get_what_they_require`); and once a `drain` is over, whatever some callback requires
has been evicted or is with a callback that requires it (`drain_serves_the_requirements`).
-/
import Jackfield.Bus.Turns
import Jackfield.Endpoint.Filter
import Jackfield.Integrations.PyEmptiness

namespace Jackfield

set_option autoImplicit false
set_option linter.unusedSectionVars false

open Machine Stamps

/-! ## What a registration requires -/

namespace PyDim

/-- The message is as the dimension wants it. -/
def Holds : PyDim → EventMeta → Prop
  | .producer ⟨.anyOf names⟩, m => m.origin.name ∈ names
  | .producer ⟨.noneOf names⟩, m => m.origin.name ∉ names
  | .label ⟨.anyOf labels⟩, m => ∃ l ∈ labels, l ∈ m.labels
  | .label ⟨.allOf labels⟩, m => ∀ l ∈ labels, l ∈ m.labels
  | .label ⟨.noneOf labels⟩, m => ∀ l ∈ labels, l ∉ m.labels
  | .size d, m => (∀ n, d.min = some n → n ≤ m.size) ∧ ∀ n, d.max = some n → m.size ≤ n

variable {F I M C : Type} [F32 F] [Inhabited I] [Message M]

/-- The dimension rejects the others. -/
theorem isReject_iff (d : PyDim) (envelope : Envelope M) (state : DimState F I) :
    (d.intoDimension.evaluate envelope state).isReject = false ↔ d.Holds (.fromEnvelope envelope) := by
  cases d with
  | producer d =>
      refine (d.isReject_iff envelope state).trans ?_
      obtain ⟨matcher⟩ := d
      cases matcher with
      | anyOf names => simp [Matcher.matches, Holds, EventMeta.fromEnvelope]
      | noneOf names =>
          simp only [Matcher.matches, Holds, EventMeta.fromEnvelope, Bool.not_eq_true', List.any_eq_false, beq_iff_eq]
          exact ⟨fun apart member => apart _ member rfl, fun apart x member same => apart (same ▸ member)⟩
  | label d =>
      obtain ⟨matcher⟩ := d
      cases matcher <;>
        simp [intoDimension, LabelDim.toDimension, LabelDim.evaluate, Verdict.score_iff, Holds, EventMeta.fromEnvelope]
  | size d =>
      obtain ⟨min, max⟩ := d
      simp only [intoDimension, SizeDim.toDimension, SizeDim.evaluate, Verdict.reject_iff, Holds, EventMeta.fromEnvelope]
      cases min <;> cases max <;> simp

theorem intoDimension_builtIn (d : PyDim) : (d.intoDimension : Dimension F I M).BuiltIn := by
  cases d with
  | producer d => exact .producer d
  | label d => exact .label d
  | size d => exact .size d

/-- Required dimensions reject what one of them rejects. -/
theorem required_iff (dims : List PyDim) (envelope : Envelope M) (state : DimState F I) :
    ((dims.map fun d => ((d.intoDimension : Dimension F I M), true, (F32.lit 1 : F))).any fun d =>
        d.2.1 && (d.1.evaluate envelope state).isReject) = false ↔
      ∀ d ∈ dims, d.Holds (.fromEnvelope envelope) := by
  rw [List.any_map, List.any_eq_false]
  apply forall₂_congr
  intro d _
  rw [← d.isReject_iff envelope state]
  simp

theorem listed_builtIn (requireFrom : Option String) (require : Option (List PyDim))
    (prefer : Option (List (PyDim × F))) :
    ∀ d ∈ (listed requireFrom require prefer : List (DimSpec F I M)), d.1.BuiltIn := by
  intro d member
  rcases List.mem_append.mp member with first | preferred
  · rcases List.mem_append.mp first with named | required
    · obtain ⟨name, -, rfl⟩ := List.mem_map.mp named
      exact .producer _
    · obtain ⟨dim, -, rfl⟩ := List.mem_map.mp required
      exact dim.intoDimension_builtIn
  · obtain ⟨dim, -, rfl⟩ := List.mem_map.mp preferred
    exact dim.1.intoDimension_builtIn

end PyDim

/-- What a `register_consumer` call requires of a message. -/
structure PyRequirement where
  requireFrom : Option String
  require : Option (List PyDim)
  deriving DecidableEq

def PyRequirement.Holds (r : PyRequirement) (m : EventMeta) : Prop :=
  (∀ name, r.requireFrom = some name → m.origin.name = name) ∧
    ∀ dims, r.require = some dims → ∀ d ∈ dims, d.Holds m

section

variable {F I M C : Type} [F32 F] [Inhabited I] [Message M]

/-- The entry of the consumer rejects the others, whatever is preferred. -/
theorem PyRequirement.hardRejected_iff (r : PyRequirement) {prefer : Option (List (PyDim × F))}
    {entry : RegistrationEntry F I M C} (registered : entry.RegisteredWith (PyDim.listed r.requireFrom r.require prefer))
    (envelope : Envelope M) :
    BlindRouter.hardRejected envelope entry = false ↔ r.Holds (.fromEnvelope envelope) := by
  have required : BlindRouter.hardRejected envelope entry =
      ((PyDim.listed r.requireFrom r.require prefer : List (DimSpec F I M)).any fun d =>
        d.2.1 && (d.1.evaluate envelope ⟨F32.lit 0, default⟩).isReject) := by
    rw [hardRejected_eq envelope (registered.builtIn fun d => PyDim.listed_builtIn _ _ _ d)]
    rw [RegistrationEntry.skeleton, registered, List.any_map]
    rfl
  have preferred : (((prefer.getD []).map fun d => ((d.1.intoDimension : Dimension F I M), false, d.2)).any fun d =>
      d.2.1 && (d.1.evaluate envelope ⟨F32.lit 0, default⟩).isReject) = false := by
    simp
  -- the name is required like a dimension of its own
  have named : r.requireFrom.toList.map (fun name =>
      (((ProducerDim.only name).toDimension : Dimension F I M), true, (F32.lit 1 : F))) =
        (r.requireFrom.toList.map fun name => PyDim.producer (.only name)).map
          fun d => (d.intoDimension, true, F32.lit 1) := by
    rw [List.map_map]
    rfl
  rw [required, PyDim.listed, List.any_append, List.any_append, Bool.or_eq_false_iff, Bool.or_eq_false_iff, named,
    PyDim.required_iff, PyDim.required_iff, and_iff_left preferred]
  apply and_congr
  · simp [PyDim.Holds, ProducerDim.only]
  · cases r.require <;> simp

/-- Steps of the bus that register and deregister nobody leave the entries, up to their weights. -/
theorem World.Move.sameShape {w w' : World F I M C} {a : Action F I M C} {es : List (Event M)} (move : Move w a w' es)
    (sound : ResumeSound w) (takesNone : a ≠ .takeCmd) (registersNone : ∀ c dims, a ≠ .registerConsumer c dims)
    (deregistersNone : ∀ id, a ≠ .deregisterConsumer id) : w.bus.registry.SameShape w'.bus.registry := by
  cases move with
  | registered idle => exact absurd rfl (registersNone _ _)
  | deregistered idle => exact absurd rfl (deregistersNone _)
  | appliedRegister running commands front => exact absurd rfl takesNone
  | appliedDeregister running commands front => exact absurd rfl takesNone
  | handed taken member eligible shape =>
      obtain ⟨-, -, sameRegistry, -, -⟩ := next_frame taken
      show Registry.SameShape _ (Bus.registry _)
      rw [sameRegistry]
      exact .refl _
  | returned taken shape nobody => exact shape
  | resumed consuming => exact sound _ _ consuming _
  | _ => exact .refl _

end

namespace PyMessageBus

variable {F I Err : Type} [F32 F] [Inhabited I] {s s' : PyMessageBus F I Err} {a : PyAction F Err}
  {t es : List (PyEvent Err)}

/-! ## The registry -/

/-- **What a step does to the registry**: it registers the next wrapper, or leaves the entries
as they are, up to their weights. -/
theorem Move.registry_cases (move : Move s a s' es) (sound : s.world.ResumeSound) :
    (∃ requireFrom require prefer, a = .registerConsumer requireFrom require prefer ∧
        s'.consumers = s.consumers + 1 ∧ s'.world.bus.registry =
          (s.world.bus.registry.registerWith s.consumers (PyDim.listed requireFrom require prefer)).registry) ∨
      s'.consumers = s.consumers ∧ s.world.bus.registry.SameShape s'.world.bus.registry := by
  have aside : ∀ {b : Action F I BaseMessage Nat} {world : World F I BaseMessage Nat} {below : List (Event BaseMessage)},
      s.world.step b = some (world, below) → b ≠ .takeCmd → (∀ c dims, b ≠ .registerConsumer c dims) →
        (∀ id, b ≠ .deregisterConsumer id) → s.world.bus.registry.SameShape world.bus.registry :=
    fun stepped => (World.move_of_step stepped).sameShape sound
  cases move with
  | registered idle stepped =>
      refine Or.inl ⟨_, _, _, rfl, rfl, ?_⟩
      have move := World.move_of_step stepped
      cases move with
      | registered idle' => rfl
      | handles same sameCmds handle => simp at handle
  | sent only ran isRefusal =>
      refine Or.inr ⟨rfl, ?_⟩
      show Registry.SameShape _ (Bus.registry _)
      rw [(sends_frame only ran).1]
      exact .refl _
  | started idle stepped => exact Or.inr ⟨rfl, aside stepped (by simp) (by simp) (by simp)⟩
  | returned draining stepped nobody => exact Or.inr ⟨rfl, aside stepped (by simp) (by simp) (by simp)⟩
  | pushed draining stepped chosen => exact Or.inr ⟨rfl, aside stepped (by simp) (by simp) (by simp)⟩
  | resumed draining stepped => exact Or.inr ⟨rfl, aside stepped (by simp) (by simp) (by simp)⟩
  | advanced draining stepped goesOn => exact Or.inr ⟨rfl, aside stepped (by simp) (by simp) (by simp)⟩
  | drained draining stepped ended => exact Or.inr ⟨rfl, aside stepped (by simp) (by simp) (by simp)⟩
  | _ => exact Or.inr ⟨rfl, .refl _⟩

variable {ok : PyMessageBus F I Err → List (PyEvent Err) → PyAction F Err → Prop}

/-- What is required and preferred when the next consumer is registered, is such. -/
def Registers (such : Nat → List (DimSpec F I (Stamped BaseMessage)) → Prop) (s : PyMessageBus F I Err)
    (a : PyAction F Err) : Prop :=
  ∀ requireFrom require prefer, a = .registerConsumer requireFrom require prefer →
    such s.consumers (PyDim.listed requireFrom require prefer)

theorem entries_such {such : Nat → List (DimSpec F I (Stamped BaseMessage)) → Prop}
    (runs : Runs step (fun s _ a => Registers such s a) (new : PyMessageBus F I Err) s t) :
    ∀ entry ∈ s.world.bus.registry.entries, ∃ dims, such entry.consumer dims ∧ entry.RegisteredWith dims := by
  apply runs.invariant_reached (P := fun s _ => ∀ entry ∈ s.world.bus.registry.entries,
    ∃ dims, such entry.consumer dims ∧ entry.RegisteredWith dims)
  · intro entry member
    cases member
  · intro s t a s' es before ih registers stepped entry member
    have sound := World.resumeSound (world_runs before)
    rcases (move_of_step stepped).registry_cases sound with ⟨f, r, p, isRegister, -, same⟩ | ⟨-, shape⟩
    · rw [same, Registry.registerWith_entries] at member
      rcases List.mem_append.mp member with old | new
      · exact ih entry old
      · rw [List.mem_singleton.mp new]
        exact ⟨_, registers f r p isRegister, registeredWith_new ..⟩
    · obtain ⟨old, inEntries, same⟩ := shape.mem member
      obtain ⟨dims, suits, registered⟩ := ih old inEntries
      have sameConsumer : entry.consumer = old.consumer := congrArg (fun s => s.2.1) same
      have sameDims : entry.dims.map (fun de => (de.dim, de.rejectOnMiss)) =
          old.dims.map fun de => (de.dim, de.rejectOnMiss) := congrArg (fun s => s.2.2) same
      exact ⟨dims, sameConsumer ▸ suits, sameDims.trans registered⟩

/-- Nobody leaves. -/
theorem entry_of_consumer (runs : Runs step ok (new : PyMessageBus F I Err) s t) :
    ∀ i < s.consumers, ∃ entry ∈ s.world.bus.registry.entries, entry.consumer = i := by
  apply runs.invariant_reached (P := fun s _ => ∀ i < s.consumers,
    ∃ entry ∈ s.world.bus.registry.entries, entry.consumer = i)
  · intro i none
    cases none
  · intro s t a s' es before ih _ stepped i registered
    have sound := World.resumeSound (world_runs before)
    rcases (move_of_step stepped).registry_cases sound with ⟨f, r, p, -, more, same⟩ | ⟨sameNumber, shape⟩
    · rw [same, Registry.registerWith_entries]
      by_cases new : i = s.consumers
      · exact ⟨_, List.mem_append_right _ (List.mem_singleton.mpr rfl), new.symm⟩
      · obtain ⟨entry, member, own⟩ := ih i (by omega)
        exact ⟨entry, List.mem_append_left _ member, own⟩
    · obtain ⟨old, inEntries, own⟩ := ih i (by omega)
      have back : Registry.SameShape s'.world.bus.registry s.world.bus.registry := ⟨shape.1.symm, shape.2.symm⟩
      obtain ⟨entry, member, same⟩ := back.mem inEntries
      exact ⟨entry, member, (congrArg (fun s => s.2.1) same).symm.trans own⟩

theorem entries_builtIn (runs : Runs step ok (new : PyMessageBus F I Err) s t) :
    ∀ entry ∈ s.world.bus.registry.entries, entry.BuiltIn := by
  have shipped : Runs step (fun s _ a => Registers (fun _ dims => ∀ d ∈ dims, d.1.BuiltIn) s a)
      (new : PyMessageBus F I Err) s t :=
    runs.mono_reached fun _ _ _ _ _ requireFrom require prefer _ => PyDim.listed_builtIn requireFrom require prefer
  intro entry member
  obtain ⟨dims, builtIn, registered⟩ := entries_such shipped entry member
  exact registered.builtIn builtIn

/-! ## The order of the sends -/

/-- What is pushed was handed to the wrapper it is pushed by. -/
theorem Move.pushed_cases (move : Move s a s' es) {i : Nat} {e : Parcel BaseMessage}
    (pushed : PyEvent.pushed i e ∈ es) :
    ∃ entry, s.world.recipient wrappers = some (entry, e) ∧ entry.consumer = i := by
  cases move with
  | sent only ran isRefusal => rcases isRefusal with rfl | rfl <;> simp at pushed
  | @pushed world es entry e' draining stepped chosen =>
      have same : i = entry.consumer ∧ e = e' := by simpa using pushed
      obtain ⟨rfl, rfl⟩ := same
      exact ⟨entry, chosen, rfl⟩
  | _ => simp at pushed

/-- A wrapper that has been handed a message is registered. -/
theorem registered_of_pushed (runs : Runs step ok (new : PyMessageBus F I Err) s t) {i : Nat}
    {e : Parcel BaseMessage} (pushed : PyEvent.pushed i e ∈ t) : i < s.consumers := by
  revert pushed
  apply runs.invariant_reached (P := fun s t => PyEvent.pushed i e ∈ t → i < s.consumers)
  · intro pushed
    cases pushed
  · intro s t a s' es before ih _ stepped pushed
    have move := move_of_step stepped
    have was : i < s.consumers := by
      rcases List.mem_append.mp pushed with earlier | now
      · exact ih earlier
      · obtain ⟨entry, chosen, rfl⟩ := move.pushed_cases now
        obtain ⟨-, position, member, -⟩ := World.recipient_eq_some_iff.mp chosen
        exact (orderly before).known entry (List.mem_of_getElem? member)
    rcases move.registry_cases (World.resumeSound (world_runs before)) with ⟨-, -, -, -, more, -⟩ | ⟨same, -⟩
    · omega
    · omega

/-- The wrapper of the `i`-th consumer. -/
def Wraps (i : Nat) (_ : Nat) (consumer : Nat) : Prop := consumer = i

section

variable {w w' : World F I BaseMessage Nat} {below seen : List (Event BaseMessage)} {got more : List (Parcel BaseMessage)}
  {i : Nat}

/-- A step of the bus that is no `dispatch` and applies no command. -/
theorem turn_step {b : Action F I BaseMessage Nat} (before : Runs World.step anyStep (.init 256 .affinity 1024) w seen)
    (turn : World.InTurn wrappers (Wraps i) w got) (out : ∀ e ∈ got, ∃ id, Event.handed id e ∈ seen)
    (builtIn : ∀ entry ∈ w.bus.registry.entries, entry.BuiltIn) (stepped : w.step b = some (w', below))
    (undispatched : b ≠ .dispatch) (takesNone : b ≠ .takeCmd)
    (answers : ∀ consumer, b = .takeEnvelope consumer → consumer = wrappers)
    (registersOther : ∀ dims, b = .registerConsumer i dims → got ++ more = [])
    (hands : World.HandsOver wrappers (Wraps i) w below more) : World.InTurn wrappers (Wraps i) w' (got ++ more) := by
  have sound := World.resumeSound before
  have move := World.move_of_step stepped
  refine turn.step before out (fun entry member _ => builtIn entry member) ⟨?_, ?_, ?_⟩ move ?_ hands
  · rintro consumer rfl entry member own e
    rw [answers consumer rfl]
  · exact fun isDispatch => absurd isDispatch undispatched
  · exact fun isTake => absurd isTake takesNone
  · intro entry member own something
    rcases move.entry_origin sound member with old | ⟨dims, -, isRegister | ⟨-, -, isTake, -⟩⟩
    · exact old
    · rw [show entry.consumer = i from own] at isRegister
      exact absurd (registersOther dims isRegister) something
    · exact absurd isTake takesNone

theorem turn_sends {schedule : List (Action F I BaseMessage Nat)}
    (before : Runs World.step anyStep (.init 256 .affinity 1024) w seen)
    (turn : World.InTurn wrappers (Wraps i) w got) (out : ∀ e ∈ got, ∃ id, Event.handed id e ∈ seen)
    (builtIn : ∀ entry ∈ w.bus.registry.entries, entry.BuiltIn)
    (only : ∀ b ∈ schedule, b = .makeHandle ∨ ∃ origin message, b = .send origin message)
    (ran : exec World.step w schedule = some (w', below)) : World.InTurn wrappers (Wraps i) w' got := by
  induction schedule generalizing w seen below with
  | nil =>
      cases ran
      exact turn
  | cons b rest ih =>
      obtain ⟨w₁, es₁, es₂, stepped, later, rfl⟩ := exec_cons ran
      have isSend := only b (List.mem_cons_self ..)
      have first : World.InTurn wrappers (Wraps i) w₁ (got ++ []) := by
        apply turn_step before turn out builtIn stepped _ _ _ _ (Or.inl rfl) <;>
          rcases isSend with rfl | ⟨origin, message, rfl⟩ <;> simp
      rw [List.append_nil] at first
      have one : exec World.step w [b] = some (w₁, es₁) := (exec_singleton ..).trans stepped
      have sameRegistry := (sends_frame (fun c member => (List.mem_singleton.mp member) ▸ isSend) one).1
      apply ih (before.step trivial stepped) first _ _ (fun c member => only c (List.mem_cons_of_mem _ member)) later
      · intro e handed
        obtain ⟨id, wasHanded⟩ := out e handed
        exact ⟨id, List.mem_append_left _ wasHanded⟩
      · rw [sameRegistry]
        exact builtIn

end

/-- What a step pushes to a wrapper is its turn. -/
theorem Move.turn (move : Move s a s' es) (reached : Runs step ok (new : PyMessageBus F I Err) s t) {i : Nat}
    (turn : World.InTurn wrappers (Wraps i) s.world (t.filterMap (PyEvent.pushedTo i))) :
    World.InTurn wrappers (Wraps i) s'.world ((t ++ es).filterMap (PyEvent.pushedTo i)) := by
  have before : Runs World.step anyStep (.init 256 .affinity 1024) s.world (t.filterMap PyEvent.bus?) :=
    (world_runs reached).mono_reached fun _ _ _ _ _ => trivial
  have builtIn := entries_builtIn reached
  have out : ∀ e ∈ t.filterMap (PyEvent.pushedTo i), ∃ id, Event.handed id e ∈ t.filterMap PyEvent.bus? := by
    intro e pushed
    have inBus : e ∈ ((t.filterMap PyEvent.bus?).filterMap Event.handed?).map Prod.snd := by
      rw [← PyMessageBus.hands reached]
      exact (PyEvent.pushedTo_sublist i t).subset pushed
    obtain ⟨⟨id, e'⟩, member, rfl⟩ := List.mem_map.mp inBus
    exact ⟨id, Event.mem_filterMap_handed.mp member⟩
  have busPushes (below : List (Event BaseMessage)) :
      (below.map (PyEvent.bus : _ → PyEvent Err)).filterMap (PyEvent.pushedTo i) = [] :=
    PyEvent.filterMap_map_bus (fun _ => rfl) below
  -- a step that hands nothing over
  have aside : ∀ {b : Action F I BaseMessage Nat} {world : World F I BaseMessage Nat}
      {below : List (Event BaseMessage)}, s.world.step b = some (world, below) → b ≠ .dispatch → b ≠ .takeCmd →
        (∀ consumer, b = .takeEnvelope consumer → consumer = wrappers) →
          (∀ dims, b = .registerConsumer i dims → t.filterMap (PyEvent.pushedTo i) = []) →
            World.InTurn wrappers (Wraps i) world (t.filterMap (PyEvent.pushedTo i) ++ []) := by
    intro b world below stepped undispatched takesNone answers registersOther
    apply turn_step before turn out builtIn stepped undispatched takesNone answers _ (Or.inl rfl)
    rw [List.append_nil]
    exact registersOther
  rw [List.filterMap_append]
  cases move with
  | registered idle stepped =>
      rw [busPushes]
      refine aside stepped (by simp) (by simp) (by simp) ?_
      intro dims isRegister
      have own : s.consumers = i := by
        injection isRegister
      apply List.eq_nil_iff_forall_not_mem.mpr
      intro e pushed
      have registered := registered_of_pushed reached (PyEvent.mem_pushedTo.mp pushed)
      omega
  | @sent producerName msg world handles below refusal schedule only ran isRefusal =>
      have none : refusal.filterMap (PyEvent.pushedTo i) = [] := by rcases isRefusal with rfl | rfl <;> rfl
      rw [List.filterMap_append, busPushes, none, List.append_nil, List.append_nil]
      exact turn_sends before turn out builtIn only ran
  | started idle stepped =>
      rw [List.filterMap_cons_none rfl, busPushes]
      exact aside stepped (by simp) (by simp) (by simp) (by simp)
  | returned draining stepped nobody =>
      rw [busPushes]
      exact aside stepped (by simp) (by simp) (by simp) (by simp)
  | @pushed world below entry e draining stepped chosen =>
      rw [List.filterMap_append, busPushes, List.nil_append]
      apply turn_step before turn out builtIn stepped (by simp) (by simp) (by simp) (by simp)
      rcases World.takeEnvelope_cases stepped with ⟨entry', e', -, -, -, -, who, rfl, -⟩ | ⟨nobody, -⟩
      · cases chosen.symm.trans who
        obtain ⟨-, position, chosen⟩ := World.recipient_eq_some_iff.mp chosen
        by_cases own : entry.consumer = i
        · refine Or.inr ⟨entry, List.mem_of_getElem? chosen.found, own, e, ?_, by simp, chosen.eligible⟩
          simp [PyEvent.pushedTo, own]
        · exact Or.inl (by simp [PyEvent.pushedTo, own])
      · cases chosen.symm.trans nobody
  | resumed draining stepped =>
      rw [busPushes]
      exact aside stepped (by simp) (by simp) (by simp) (by simp)
  | advanced draining stepped goesOn =>
      rw [busPushes]
      exact aside stepped (by simp) (by simp) (by simp) (by simp)
  | drained draining stepped ended =>
      rw [busPushes]
      exact aside stepped (by simp) (by simp) (by simp) (by simp)
  | _ =>
      show World.InTurn wrappers (Wraps i) s.world (t.filterMap (PyEvent.pushedTo i) ++ [])
      rw [List.append_nil]
      exact turn

/-- Each wrapper has been handed its messages in order, and nothing older is for it. -/
theorem turns (runs : Runs step ok (new : PyMessageBus F I Err) s t) (i : Nat) :
    World.InTurn wrappers (Wraps i) s.world (t.filterMap (PyEvent.pushedTo i)) := by
  apply runs.invariant_reached (P := fun s t =>
    World.InTurn wrappers (Wraps i) s.world (t.filterMap (PyEvent.pushedTo i)))
  · refine ⟨?_, ?_, .nil⟩
    · intro routing
      cases routing
    · intro entry member
      cases member
  · intro s t a s' es before turn _ stepped
    exact (move_of_step stepped).turn before turn

/-- What is pushed was accepted. -/
theorem accepted_of_pushed (runs : Runs step ok (new : PyMessageBus F I Err) s t) {i : Nat} {e : Parcel BaseMessage}
    (pushed : PyEvent.pushed i e ∈ t) : e ∈ (t.filterMap PyEvent.bus?).filterMap Event.accepted? := by
  have inBus : e ∈ ((t.filterMap PyEvent.bus?).filterMap Event.handed?).map Prod.snd := by
    rw [← hands runs]
    exact List.mem_map.mpr ⟨_, PyEvent.mem_pushed.mpr pushed, rfl⟩
  obtain ⟨⟨id, e'⟩, member, rfl⟩ := List.mem_map.mp inBus
  exact World.accepted_of_handed (world_runs runs) (Event.mem_filterMap_handed.mp member)

/-- What a callback has accepted or is kept for it was pushed by its wrapper. -/
theorem pushed_of_kept (runs : Runs step ok (new : PyMessageBus F I Err) s t) {i : Nat} {m : Stamped BaseMessage}
    (kept : m ∈ t.filterMap (PyEvent.acceptedBy i) ++ s.waiting i) :
    ∃ e, PyEvent.pushed i e ∈ t ∧ e.message = m := by
  rw [balanced runs i] at kept
  obtain ⟨e, pushed, rfl⟩ := List.mem_map.mp kept
  exact ⟨e, PyEvent.mem_pushedTo.mp pushed, rfl⟩

/-- **Callbacks get their messages in the order of the sends.**  In every run of a bus of the Python
package in which no `drain` begins while another one is under way, whatever callbacks raise: the messages a callback has accepted, followed by those kept
for it, are messages sent, in the order of the `send` calls; and what one callback has accepted
or is kept for it is not with another. -/
theorem callbacks_in_send_order (runs : Runs step anyStep (new : PyMessageBus F I Err) s t) :
    (∀ i, List.Sublist (t.filterMap (PyEvent.acceptedBy i) ++ s.waiting i)
        (((t.filterMap PyEvent.bus?).filterMap Event.accepted?).map fun e => e.message)) ∧
      ∀ i j, i ≠ j → ∀ m ∈ t.filterMap (PyEvent.acceptedBy i) ++ s.waiting i,
        ∀ m' ∈ t.filterMap (PyEvent.acceptedBy j) ++ s.waiting j, m.serial ≠ m'.serial := by
  constructor
  · intro i
    rw [balanced runs i]
    apply List.Sublist.map
    apply sublist_of_increasing (turns runs i).increasing (World.accepted_increasing (world_runs runs))
    exact fun e pushed => accepted_of_pushed runs (PyEvent.mem_pushedTo.mp pushed)
  · intro i j apart m kept m' kept' same
    have once : ((t.filterMap PyEvent.pushed?).map fun h => h.2.serial).Nodup := by
      have serials := congrArg (List.map Envelope.serial) (hands runs)
      rw [List.map_map, List.map_map] at serials
      exact serials ▸ World.handed_nodup (world_runs runs)
    obtain ⟨e, pushed, rfl⟩ := pushed_of_kept runs kept
    obtain ⟨e', pushed', rfl⟩ := pushed_of_kept runs kept'
    have one := List.inj_on_of_nodup_map once (PyEvent.mem_pushed.mpr pushed) (PyEvent.mem_pushed.mpr pushed') same
    exact apart (congrArg Prod.fst one)

/-- Of two consumers the first requires a label and the second a producer; four messages are sent,
one of which neither requires, and the bus drains up to its last step. -/
def demanding : List (PyAction ℚ String) :=
  let numbered (labels : List String) (n : UInt8) : BaseMessage := .new none (some labels) (some [n])
  [.registerConsumer none (some [.label (.anyOf ["telemetry"])]) none, .registerConsumer (some "sensor") none none,
    .send "radio" (numbered ["telemetry"] 1), .send "radio" (numbered ["gossip"] 2),
    .send "sensor" (numbered [] 3), .send "radio" (numbered ["telemetry"] 4), .drain, .advance, .advance,
    .route, .resume 7, .route, .route, .resume 7, .route, .resume 7]

/-- Then the callbacks are called, and the first one raises for its second message. -/
def answering : List (PyAction ℚ String) :=
  demanding ++ [.advance, .take, .callback none, .callback (some "ValueError"), .take, .callback none, .next, .finish]

def demanded : PyMessageBus ℚ Unit String × List (PyEvent String) := outcome step new demanding

def raised : PyMessageBus ℚ Unit String × List (PyEvent String) := outcome step new answering

theorem callbacks_in_send_order_raised :
    ((raised.2.filterMap (PyEvent.acceptedBy 0) ++ raised.1.waiting 0).map fun m => m.body.data) = [[1], [4]] ∧
      raised.1.waiting 0 ≠ [] ∧ List.Sublist (raised.2.filterMap (PyEvent.acceptedBy 0) ++ raised.1.waiting 0)
        (((raised.2.filterMap PyEvent.bus?).filterMap Event.accepted?).map fun e => e.message) := by
  have runs : Runs step anyStep (new : PyMessageBus ℚ Unit String) raised.1 raised.2 :=
    runs_outcome_any answering (by decide +kernel)
  exact ⟨by decide +kernel, by decide +kernel, (callbacks_in_send_order runs).1 0⟩

/-! ## The requirements -/

/-- The consumer registered next requires what `asks` says. -/
def Asks (asks : Nat → PyRequirement) (s : PyMessageBus F I Err) (_ : List (PyEvent Err)) (a : PyAction F Err) : Prop :=
  ∀ requireFrom require prefer, a = .registerConsumer requireFrom require prefer →
    asks s.consumers = ⟨requireFrom, require⟩

variable {asks : Nat → PyRequirement}

/-- An entry rejects what its consumer does not require. -/
theorem hardRejected_iff (runs : Runs step (Asks asks) (new : PyMessageBus F I Err) s t)
    {entry : RegistrationEntry F I (Stamped BaseMessage) Nat} (member : entry ∈ s.world.bus.registry.entries)
    (e : Parcel BaseMessage) :
    BlindRouter.hardRejected e entry = false ↔ (asks entry.consumer).Holds (.fromEnvelope e) := by
  have listed : Runs step (fun s _ a => Registers (fun i dims =>
      ∃ prefer, dims = PyDim.listed (asks i).requireFrom (asks i).require prefer) s a)
      (new : PyMessageBus F I Err) s t := by
    apply runs.mono_reached
    intro s t a _ asked requireFrom require prefer isRegister
    rw [asked requireFrom require prefer isRegister]
    exact ⟨prefer, rfl⟩
  obtain ⟨dims, ⟨prefer, rfl⟩, registered⟩ := entries_such listed entry member
  exact (asks entry.consumer).hardRejected_iff registered e

/-- A wrapper is handed what its consumer requires. -/
theorem required_of_pushed (runs : Runs step (Asks asks) (new : PyMessageBus F I Err) s t) {i : Nat}
    {e : Parcel BaseMessage} (pushed : PyEvent.pushed i e ∈ t) : (asks i).Holds (.fromEnvelope e) := by
  revert pushed
  apply runs.invariant_reached (P := fun _ t => PyEvent.pushed i e ∈ t → (asks i).Holds (.fromEnvelope e))
  · intro pushed
    cases pushed
  · intro s t a s' es before ih _ stepped pushed
    rcases List.mem_append.mp pushed with earlier | now
    · exact ih earlier
    · obtain ⟨entry, who, rfl⟩ := (move_of_step stepped).pushed_cases now
      obtain ⟨-, position, chosen⟩ := World.recipient_eq_some_iff.mp who
      exact (hardRejected_iff before (List.mem_of_getElem? chosen.found) e).mp chosen.eligible.qualified

/-- **A callback gets what it requires.**  In every run in which the `i`-th consumer is registered with
the requirements `asks i`: a message that its callback has accepted, or that is kept for it, was sent by
the producer its `require_from` names, if it names one, and is as each dimension in `require` wants it. -/
theorem callbacks_get_what_they_require (runs : Runs step (Asks asks) (new : PyMessageBus F I Err) s t) (i : Nat) :
    ∀ m ∈ t.filterMap (PyEvent.acceptedBy i) ++ s.waiting i,
      ∃ e, PyEvent.bus (.accepted e) ∈ t ∧ e.message = m ∧ (asks i).Holds (.fromEnvelope e) := by
  intro m kept
  obtain ⟨e, pushed, same⟩ := pushed_of_kept runs kept
  have accepted := Event.mem_filterMap_accepted.mp (accepted_of_pushed runs pushed)
  exact ⟨e, PyEvent.mem_bus.mp accepted, same, required_of_pushed runs pushed⟩

/-- What they require in `demanding`. -/
def demands (i : Nat) : PyRequirement :=
  if i = 0 then ⟨none, some [.label (.anyOf ["telemetry"])]⟩ else ⟨some "sensor", none⟩

def asked (s : PyMessageBus ℚ Unit String) (_ : List (PyEvent String)) : PyAction ℚ String → Bool
  | .registerConsumer requireFrom require _ => demands s.consumers = ⟨requireFrom, require⟩
  | _ => true

theorem asks_of_asked (s : PyMessageBus ℚ Unit String) (t : List (PyEvent String)) (a : PyAction ℚ String)
    (isAsked : asked s t a = true) : Asks demands s t a := by
  rintro requireFrom require prefer rfl
  simpa [asked] using isAsked

theorem callbacks_get_what_they_require_raised :
    ∃ m ∈ raised.1.waiting 0, m.body.data = [4] ∧
      ∃ e, PyEvent.bus (.accepted e) ∈ raised.2 ∧ e.message = m ∧ (demands 0).Holds (.fromEnvelope e) := by
  have runs : Runs step (Asks demands) (new : PyMessageBus ℚ Unit String) raised.1 raised.2 :=
    runs_outcome answering asked asks_of_asked (by decide +kernel) (by decide +kernel)
  obtain ⟨m, member, isLast⟩ : ∃ m ∈ raised.1.waiting 0, m.body.data = [4] := by decide +kernel
  exact ⟨m, member, isLast, callbacks_get_what_they_require runs 0 m (List.mem_append_right _ member)⟩

/-- Once a `drain` of the bus is over, its channel is empty, and what is pending nobody takes. -/
theorem Move.unwanted (move : Move s .advance s' es) (runs : Runs step ok (new : PyMessageBus F I Err) s t)
    (ended : s'.call ≠ .draining) :
    s'.world.bus.rx.buf = [] ∧ ∀ e ∈ s'.world.bus.pending, ∀ entry ∈ s'.world.bus.registry.entries,
      BlindRouter.hardRejected e entry = true := by
  cases move with
  | advanced draining stepped goesOn => exact absurd rfl ended
  | drained draining stepped idle =>
      have below := World.move_of_step stepped
      cases below with
      | handles same sameCmds handle => simp at handle
      | finished running done =>
          rcases done with ⟨rfl, empty⟩ | ⟨rfl, closed, -⟩
          · refine ⟨empty, ?_⟩
            intro e inPending entry member
            by_contra kept
            rw [Bool.not_eq_true] at kept
            have routing : s.world.control.routing = true := by
              rw [running]
              rfl
            exact (turns runs entry.consumer).swept routing e inPending entry member rfl ⟨kept, rfl, rfl⟩
          · have undispatched := World.undispatched_not_inDispatch (world_drained runs) fun _ _ _ plain => plain.2
            exact absurd (Or.inl running) undispatched
      | _ => simp at idle

/-- **A `drain` serves what is required.**  In every run in which the consumers are registered with
the requirements `asks`: once the bus is drained, a message accepted from any `send` so far that meets the
requirements of some registered consumer is neither in the channel nor pending.  It has been evicted, or is
with a consumer whose requirements it meets -- its callback has accepted it, or it is kept for it. -/
theorem drain_serves_the_requirements (runs : Runs step (Asks asks) (new : PyMessageBus F I Err) s t)
    (stepped : s.step .advance = some (s', es)) (ended : s'.call ≠ .draining) {e : Parcel BaseMessage}
    (accepted : PyEvent.bus (.accepted e) ∈ t ++ es) {i : Nat} (registered : i < s'.consumers)
    (required : (asks i).Holds (.fromEnvelope e)) :
    (e ∉ s'.world.bus.rx.buf ∧ e ∉ s'.world.bus.pending) ∧
      (PyEvent.bus (.evicted e) ∈ t ++ es ∨ ∃ j, (asks j).Holds (.fromEnvelope e) ∧
        e.message ∈ (t ++ es).filterMap (PyEvent.acceptedBy j) ++ s'.waiting j) := by
  have after : Runs step (Asks asks) (new : PyMessageBus F I Err) s' (t ++ es) :=
    runs.step (by simp [Asks]) stepped
  obtain ⟨noChannel, unwanted⟩ := (move_of_step stepped).unwanted runs ended
  have notPending : e ∉ s'.world.bus.pending := by
    -- its consumer would have been there to take it
    intro inPending
    obtain ⟨entry, member, rfl⟩ := entry_of_consumer after i registered
    have kept := (hardRejected_iff after member e).mpr required
    exact absurd (unwanted e inPending entry member) (by simp [kept])
  refine ⟨⟨by simp [noChannel], notPending⟩, ?_⟩
  have settled := (settled_at_rest after ended).symm.subset
    (Event.mem_filterMap_accepted.mpr (PyEvent.mem_bus.mpr accepted))
  rw [noChannel, List.nil_append, List.mem_append, List.mem_append] at settled
  rcases settled with (inPending | handed) | evicted
  · exact absurd inPending notPending
  · obtain ⟨⟨j, e'⟩, pushed, rfl⟩ := List.mem_map.mp handed
    have isPushed := PyEvent.mem_pushed.mp pushed
    refine Or.inr ⟨j, required_of_pushed after isPushed, ?_⟩
    rw [balanced after j]
    exact List.mem_map_of_mem (PyEvent.mem_pushedTo.mpr isPushed)
  · exact Or.inl (PyEvent.mem_bus.mp (Event.mem_filterMap_evicted.mp evicted))

/-- The bus of `demanding`, drained. -/
def settled : PyMessageBus ℚ Unit String × List (PyEvent String) := outcome step demanded.1 [.advance]

theorem drain_serves_the_requirements_demanded :
    ∃ e, PyEvent.bus (.accepted e) ∈ demanded.2 ++ settled.2 ∧ e.message.body.data = [3] ∧
      ∃ j, (demands j).Holds (.fromEnvelope e) ∧
        e.message ∈ (demanded.2 ++ settled.2).filterMap (PyEvent.acceptedBy j) ++ settled.1.waiting j := by
  have runs : Runs step (Asks demands) (new : PyMessageBus ℚ Unit String) demanded.1 demanded.2 :=
    runs_outcome demanding asked asks_of_asked (by decide +kernel) (by decide +kernel)
  have accepted : ∃ e ∈ ((demanded.2 ++ settled.2).filterMap PyEvent.bus?).filterMap Event.accepted?,
      e.message.body.data = [3] ∧ e.origin = ⟨"sensor"⟩ := by decide +kernel
  obtain ⟨e, accepted, isThird, origin⟩ := accepted
  have isAccepted := PyEvent.mem_bus.mp (Event.mem_filterMap_accepted.mp accepted)
  have noneEvicted : ((demanded.2 ++ settled.2).filterMap PyEvent.bus?).filterMap Event.evicted? = [] := by
    decide +kernel
  have stepped : demanded.1.step .advance = some (settled.1, settled.2) := rfl
  obtain ⟨-, whereabouts⟩ := drain_serves_the_requirements runs stepped (by decide +kernel) isAccepted
    (show 1 < settled.1.consumers by decide +kernel) ⟨by simp [demands, EventMeta.fromEnvelope, origin], by simp [demands]⟩
  rcases whereabouts with evicted | served
  · have member := Event.mem_filterMap_evicted.mpr (PyEvent.mem_bus.mpr evicted)
    rw [noneEvicted] at member
    cases member
  · exact ⟨e, isAccepted, isThird, served⟩

end PyMessageBus

end Jackfield
