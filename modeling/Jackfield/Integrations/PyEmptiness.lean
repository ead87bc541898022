/-
# Jackfield.Integrations.PyEmptiness -- what is_empty says of the messages

`is_empty` asks the bus, and the bus knows of its channel and its pending queue.  When
both are empty, each message accepted by a `send` has been evicted, or it was handed to
a wrapper (`settled_of_isEmpty`), and then it has been accepted by the callback or waits
for it.  The messages that wait after a `drain` are those put back because a callback
raised, and of these `is_empty` says nothing.

So `is_empty` tells the truth exactly when no callback raised in the latest `drain`
(`is_empty_truthful_iff`).  The serial numbers keep the messages apart: a message that
waits for one callback has not been accepted by another.
-/
import Jackfield.Integrations.PyRounds

namespace Jackfield

set_option autoImplicit false

variable {F I Err : Type}

open Machine

namespace PyEvent

theorem mem_bus {t : List (PyEvent Err)} {e : Event BaseMessage} : e ∈ t.filterMap bus? ↔ bus e ∈ t := by
  rw [List.mem_filterMap]
  constructor
  · rintro ⟨event, member, found⟩
    cases event with
    | bus e' =>
        cases found
        exact member
    | _ => cases found
  · intro member
    exact ⟨_, member, rfl⟩

theorem mem_acceptedBy {t : List (PyEvent Err)} {i : Nat} {m : Stamped BaseMessage} :
    m ∈ t.filterMap (acceptedBy i) ↔ called i m none ∈ t := by
  rw [filterMap_acceptedBy, List.mem_filterMap, ← mem_callOf]
  constructor
  · rintro ⟨⟨m', error⟩, member, found⟩
    cases error with
    | none =>
        cases found
        exact member
    | some e => cases found
  · intro member
    exact ⟨_, member, rfl⟩

theorem mem_pushedTo {t : List (PyEvent Err)} {i : Nat} {e : Parcel BaseMessage} :
    e ∈ t.filterMap (pushedTo i) ↔ pushed i e ∈ t := by
  rw [List.mem_filterMap]
  constructor
  · rintro ⟨event, member, found⟩
    cases event with
    | pushed j e' =>
        simp only [pushedTo, Option.ite_none_right_eq_some, Option.some.injEq] at found
        obtain ⟨rfl, rfl⟩ := found
        exact member
    | _ => cases found
  · intro member
    exact ⟨_, member, if_pos rfl⟩

theorem mem_pushed {t : List (PyEvent Err)} {i : Nat} {e : Parcel BaseMessage} :
    (i, e) ∈ t.filterMap pushed? ↔ pushed i e ∈ t := by
  rw [List.mem_filterMap]
  constructor
  · rintro ⟨event, member, found⟩
    cases event with
    | pushed j e' =>
        cases found
        exact member
    | _ => cases found
  · intro member
    exact ⟨_, member, rfl⟩

/-- What one wrapper was handed is part of what all were handed. -/
theorem pushedTo_sublist (i : Nat) (t : List (PyEvent Err)) :
    List.Sublist (t.filterMap (pushedTo i)) ((t.filterMap pushed?).map Prod.snd) := by
  induction t with
  | nil => exact .slnil
  | cons e rest ih =>
      cases e with
      | pushed j e =>
          rw [List.filterMap_cons_some (f := pushed?) rfl, List.map_cons]
          by_cases his : j = i
          · have found : pushedTo i (PyEvent.pushed j e : PyEvent Err) = some e := if_pos his
            rw [List.filterMap_cons_some found]
            exact ih.cons_cons e
          · have missed : pushedTo i (PyEvent.pushed j e : PyEvent Err) = none := if_neg his
            rw [List.filterMap_cons_none missed]
            exact ih.cons e
      | _ => exact ih

end PyEvent

namespace PyMessageBus

variable [F32 F] [Inhabited I]

omit [Inhabited I] in
theorem none_handed_aside {w w' : World F I BaseMessage Nat} {a : Action F I BaseMessage Nat}
    {es : List (Event BaseMessage)} (stepped : w.step a = some (w', es))
    (aside : ∀ consumer, a ≠ .takeEnvelope consumer) : es.filterMap Event.handed? = [] := by
  rw [List.filterMap_eq_nil_iff]
  intro event member
  cases event with
  | handed id e =>
      obtain ⟨consumer, -, -, isTake, -⟩ := (World.move_of_step stepped).handed_cases member
      exact absurd isTake (aside consumer)
  | _ => rfl

/-- The wrappers are handed what the bus hands over. -/
theorem Move.hands {s s' : PyMessageBus F I Err} {a : PyAction F Err} {es : List (PyEvent Err)}
    (move : Move s a s' es) :
    (es.filterMap PyEvent.pushed?).map Prod.snd =
      ((es.filterMap PyEvent.bus?).filterMap Event.handed?).map Prod.snd := by
  have busPushes (es : List (Event BaseMessage)) :
      (es.map (PyEvent.bus : _ → PyEvent Err)).filterMap PyEvent.pushed? = [] :=
    PyEvent.filterMap_map_bus (fun _ => rfl) es
  cases move with
  | registered idle stepped =>
      rw [busPushes, PyEvent.filterMap_bus, none_handed_aside stepped (by simp)]
  | @sent producerName msg world handles es refusal schedule only ran isRefusal =>
      have refused : refusal.filterMap PyEvent.bus? = [] ∧ refusal.filterMap PyEvent.pushed? = [] := by
        rcases isRefusal with rfl | rfl <;> exact ⟨rfl, rfl⟩
      rw [List.filterMap_append, List.filterMap_append, busPushes, PyEvent.filterMap_bus, refused.1, refused.2,
        List.append_nil, List.append_nil, (sends_frame only ran).2.2]
  | started idle stepped =>
      rw [List.filterMap_cons_none rfl, List.filterMap_cons_none rfl, busPushes, PyEvent.filterMap_bus,
        none_handed_aside stepped (by simp)]
  | returned draining stepped nobody =>
      rw [busPushes, PyEvent.filterMap_bus, none_handed stepped nobody]
  | pushed draining stepped chosen =>
      rcases World.takeEnvelope_cases stepped with ⟨entry, e, -, -, -, -, who, rfl, -⟩ | ⟨nobody, -⟩
      · cases chosen.symm.trans who
        rfl
      · cases chosen.symm.trans nobody
  | resumed draining stepped =>
      rw [busPushes, PyEvent.filterMap_bus, none_handed_aside stepped (by simp)]
  | advanced draining stepped goesOn =>
      rw [busPushes, PyEvent.filterMap_bus, none_handed_aside stepped (by simp)]
  | drained draining stepped ended =>
      rw [busPushes, PyEvent.filterMap_bus, none_handed_aside stepped (by simp)]
  | taken between more => rfl
  | accepted calling => rfl
  | failed calling => rfl
  | usedUp calling => rfl
  | finished between last => rfl

variable {ok : PyMessageBus F I Err → List (PyEvent Err) → PyAction F Err → Prop}
  {s : PyMessageBus F I Err} {t : List (PyEvent Err)}

theorem hands (runs : Runs step ok (new : PyMessageBus F I Err) s t) :
    (t.filterMap PyEvent.pushed?).map Prod.snd =
      ((t.filterMap PyEvent.bus?).filterMap Event.handed?).map Prod.snd := by
  apply runs.invariant (P := fun _ t => (t.filterMap PyEvent.pushed?).map Prod.snd =
    ((t.filterMap PyEvent.bus?).filterMap Event.handed?).map Prod.snd)
  · rfl
  · intro s t a s' es ih allowed stepped
    rw [List.filterMap_append, List.filterMap_append, List.filterMap_append, List.map_append, List.map_append, ih,
      (move_of_step stepped).hands]

/-- While the bus is at rest, a message accepted is in its channel, pending, handed over or evicted. -/
theorem settled_at_rest (runs : Runs step ok (new : PyMessageBus F I Err) s t) (free : s.call ≠ .draining) :
    (s.world.bus.rx.buf ++ s.world.bus.pending ++ (t.filterMap PyEvent.pushed?).map Prod.snd ++
      (t.filterMap PyEvent.bus?).filterMap Event.evicted?).Perm
        ((t.filterMap PyEvent.bus?).filterMap Event.accepted?) := by
  have completes : Runs World.step World.Completes (.init 256 .affinity 1024) s.world
      (t.filterMap PyEvent.bus?) :=
    (world_runs runs).mono_reached fun _ _ _ _ notDrop isDrop => absurd isDrop notDrop
  have noIterator : s.world.control.rest = [] := by
    rw [(orderly runs).resting free]
    rfl
  rw [← Multiset.coe_eq_coe, ← (World.conserved completes).1, hands runs, World.held, World.settled, noIterator,
    World.nothing_lost completes]
  simp only [Multiset.coe_add, List.append_nil, List.append_assoc]

/-- **An empty bus has passed on all it accepted**: what was handed over and what was evicted
are the messages accepted, each of them once. -/
theorem settled_of_isEmpty (runs : Runs step ok (new : PyMessageBus F I Err) s t) (free : s.call ≠ .draining)
    (empty : s.isEmpty = true) :
    ((t.filterMap PyEvent.pushed?).map Prod.snd ++ (t.filterMap PyEvent.bus?).filterMap Event.evicted?).Perm
        ((t.filterMap PyEvent.bus?).filterMap Event.accepted?) ∧
      (((t.filterMap PyEvent.pushed?).map Prod.snd ++
        (t.filterMap PyEvent.bus?).filterMap Event.evicted?).map Envelope.serial).Nodup := by
  obtain ⟨noChannel, noPending⟩ : s.world.bus.rx.buf = [] ∧ s.world.bus.pending = [] := by
    simpa [isEmpty, Bus.isEmpty] using empty
  have whole := settled_at_rest runs free
  rw [noChannel, noPending, List.nil_append, List.nil_append] at whole
  refine ⟨whole, ?_⟩
  rw [(whole.map Envelope.serial).nodup_iff, (World.conserved (world_runs runs)).2]
  exact List.nodup_range

/-- Every message accepted by `send` was passed to a callback that returned, or evicted. -/
def Truthful (t : List (PyEvent Err)) : Prop :=
  ∀ e, PyEvent.bus (.accepted e) ∈ t → (∃ i, PyEvent.called i e.message none ∈ t) ∨ PyEvent.bus (.evicted e) ∈ t

/-- With an empty bus, what is left waits for a callback. -/
theorem truthful_iff_none_waiting (runs : Runs step ok (new : PyMessageBus F I Err) s t)
    (free : s.call ≠ .draining) (empty : s.isEmpty = true) : Truthful t ↔ ∀ i, s.waiting i = [] := by
  obtain ⟨whole, distinct⟩ := settled_of_isEmpty runs free empty
  rw [List.map_append, List.nodup_append] at distinct
  obtain ⟨pushedOnce, -, apart⟩ := distinct
  constructor
  · intro truthful i
    by_contra some
    obtain ⟨m, waits⟩ := List.exists_mem_of_ne_nil _ some
    have toHim : m ∈ (t.filterMap (PyEvent.pushedTo i)).map fun e => e.message := by
      rw [← balanced runs i]
      exact List.mem_append_right _ waits
    obtain ⟨e, handed, rfl⟩ := List.mem_map.mp toHim
    have pushed : (i, e) ∈ t.filterMap PyEvent.pushed? := PyEvent.mem_pushed.mpr (PyEvent.mem_pushedTo.mp handed)
    have inPushed : e ∈ (t.filterMap PyEvent.pushed?).map Prod.snd := List.mem_map.mpr ⟨_, pushed, rfl⟩
    have accepted : PyEvent.bus (.accepted e) ∈ t := by
      rw [← PyEvent.mem_bus, ← Event.mem_filterMap_accepted]
      exact whole.subset (List.mem_append_left _ inPushed)
    rcases truthful e accepted with ⟨j, called⟩ | evicted
    · -- the message was accepted by a callback: by the same one, as serial numbers are unique
      have taken := PyEvent.mem_acceptedBy.mpr called
      have toOther : e.message ∈ (t.filterMap (PyEvent.pushedTo j)).map fun e => e.message := by
        rw [← balanced runs j]
        exact List.mem_append_left _ taken
      obtain ⟨e', handed', sameMessage⟩ := List.mem_map.mp toOther
      have pushed' := PyEvent.mem_pushed.mpr (PyEvent.mem_pushedTo.mp handed')
      have same : (i, e) = (j, e') := by
        rw [List.map_map] at pushedOnce
        exact List.inj_on_of_nodup_map pushedOnce pushed pushed' (congrArg Stamped.serial sameMessage.symm)
      cases same
      have once : ((t.filterMap (PyEvent.pushedTo i)).map fun e => e.message).Nodup := by
        apply List.Nodup.of_map Stamped.serial
        rw [List.map_map]
        exact ((PyEvent.pushedTo_sublist i t).map Envelope.serial).nodup pushedOnce
      rw [← balanced runs i, List.nodup_append] at once
      exact once.2.2 _ taken _ waits rfl
    · have inEvicted := Event.mem_filterMap_evicted.mpr (PyEvent.mem_bus.mpr evicted)
      exact apart _ (List.mem_map_of_mem inPushed) _ (List.mem_map_of_mem inEvicted) rfl
  · intro noneWaiting e accepted
    have settled := whole.symm.subset (Event.mem_filterMap_accepted.mpr (PyEvent.mem_bus.mpr accepted))
    rcases List.mem_append.mp settled with handed | evicted
    · obtain ⟨⟨i, e'⟩, pushed, rfl⟩ := List.mem_map.mp handed
      have passed := balanced runs i
      rw [noneWaiting i, List.append_nil] at passed
      have taken : e'.message ∈ t.filterMap (PyEvent.acceptedBy i) := by
        rw [passed]
        exact List.mem_map_of_mem (PyEvent.mem_pushedTo.mpr (PyEvent.mem_pushed.mp pushed))
      exact Or.inl ⟨i, PyEvent.mem_acceptedBy.mp taken⟩
    · exact Or.inr (PyEvent.mem_bus.mp (Event.mem_filterMap_evicted.mp evicted))

/-- **When `is_empty` tells the truth**: where it can be called, the bus not draining, and
returns true, the accepted messages have all been passed on or evicted if and only if none
waits for a callback; between two calls, if and only if no callback raised in the latest `drain`. -/
theorem is_empty_truthful_iff (runs : Runs step anyStep (new : PyMessageBus F I Err) s t)
    (free : s.call ≠ .draining) (empty : s.isEmpty = true) :
    (Truthful t ↔ ∀ i, s.waiting i = []) ∧
      (s.call = .idle → (Truthful t ↔ ∀ i m e, PyEvent.called i m (some e) ∉ PyEvent.latest t)) := by
  have truthful := truthful_iff_none_waiting runs free empty
  refine ⟨truthful, fun idle => truthful.trans (forall_congr' fun i => ?_)⟩
  have now := round runs
  rw [idle] at now
  rw [waiting_of_idle idle, List.map_eq_nil_iff, now i, failureOf_eq_none_iff]

/-- A listener that raises. -/
def raising : List (PyAction ℚ String) :=
  [.registerConsumer none none none, .send "radio" World.ping, .drain, .advance, .advance, .route, .resume 1,
    .advance, .take, .callback (some "no"), .finish]

/-- **`is_empty` forgets what was put back**: the callback raised, and the message is in its list. -/
theorem is_empty_with_message_left :
    ¬ ∀ (s : PyMessageBus ℚ Unit String) (t : List (PyEvent String)), Runs step anyStep new s t →
      s.call = .idle → s.isEmpty = true → Truthful t := by
  intro always
  have truthful := always _ _ (runs_outcome_any raising rfl) rfl rfl ⟨⟨"radio"⟩, ⟨0, World.ping⟩⟩ (by decide +kernel)
  rcases truthful with ⟨i, called⟩ | evicted
  · have served : (outcome step (new : PyMessageBus ℚ Unit String) raising).2.filter PyEvent.serves =
        [.taken 0 [⟨0, .of World.ping⟩], .called 0 ⟨0, World.ping⟩ (some "no")] := by decide +kernel
    have inServed := List.mem_filter.mpr ⟨called, show PyEvent.serves _ = true from rfl⟩
    rw [served] at inServed
    simp at inServed
  · exact absurd evicted (by decide +kernel)

/-- The same listener, which does not raise the second time. -/
def recovering : List (PyAction ℚ String) :=
  raising ++ [.drain, .advance, .advance, .advance, .take, .callback none, .next, .finish]

def recovered : PyMessageBus ℚ Unit String × List (PyEvent String) := outcome step new recovering

theorem is_empty_truthful_iff_recovered : Truthful recovered.2 := by
  have runs : Runs step anyStep (new : PyMessageBus ℚ Unit String) recovered.1 recovered.2 :=
    runs_outcome_any recovering rfl
  apply ((is_empty_truthful_iff runs (by decide +kernel) rfl).2 rfl).mpr
  intro i m e raised
  have served : PyEvent.latest recovered.2 =
      [.taken 0 [⟨0, .of World.ping⟩], .called 0 ⟨0, World.ping⟩ none] := by decide +kernel
  rw [served] at raised
  simp at raised

end PyMessageBus

end Jackfield
