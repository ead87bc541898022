/-
# Jackfield.Router.Feedback -- which way adaptive routing moves the scores

With the built-in dimensions, in exact arithmetic.  A routing ought to reward the
consumer that took the message and to penalise those found busy or vetoing, and
to leave the rest alone: `FeedbackRight`, read off the scores before and after.

It does so between the floor and the cap.  `adjustWeight` multiplies and then
clamps, and a weight outside `[0.001, 100]` is clamped the wrong way: above the
cap a reward lowers it, below the floor a penalty raises it.  `prefer` takes any
weight, so `feedback_right_iff`: the feedback goes the right way on every registry
that can be built from a set of preference weights exactly when all of these lie
in that interval.
-/
import Mathlib.Tactic.NormNum
import Mathlib.Tactic.Linarith
import Jackfield.Router.Outcome

namespace Jackfield

set_option autoImplicit false

variable {I M C : Type}

/-! ## One weight -/

/-- Between the floor of the penalties and the cap of the reward. -/
def InBounds (w : ℚ) : Prop := 1 / 1000 ≤ w ∧ w ≤ 100

theorem InBounds.nonneg {w : ℚ} (bounds : InBounds w) : 0 ≤ w := by
  obtain ⟨floor, -⟩ := bounds
  linarith

/-- A reward does not lower a weight below the cap. -/
theorem le_min_mul {w factor : ℚ} (nonneg : 0 ≤ w) (cap : w ≤ 100) (grows : 1 ≤ factor) :
    w ≤ min (w * factor) 100 :=
  le_min (le_mul_of_one_le_right nonneg grows) cap

/-- A penalty does not raise a weight above the floor. -/
theorem max_mul_le {w factor : ℚ} (bounds : InBounds w) (shrinks : factor ≤ 1) :
    max (w * factor) (1 / 1000) ≤ w := by
  exact max_le (mul_le_of_le_one_right bounds.nonneg shrinks) bounds.1

theorem le_adjustWeight_consumed (eventMeta : EventMeta) (latency : Nat) (state : DimState ℚ I)
    (nonneg : 0 ≤ state.weight) (cap : state.weight ≤ 100) :
    state.weight ≤ (adjustWeight (.consumed eventMeta latency) state).weight := by
  show state.weight ≤ min (state.weight * (11 / 10)) 100
  exact le_min_mul nonneg cap (by norm_num)

theorem adjustWeight_busy_le (eventMeta : EventMeta) (state : DimState ℚ I)
    (bounds : InBounds state.weight) :
    (adjustWeight (.busy eventMeta) state).weight ≤ state.weight := by
  show max (state.weight * (8 / 10)) (1 / 1000) ≤ state.weight
  exact max_mul_le bounds (by norm_num)

theorem adjustWeight_vetoed_le (eventMeta : EventMeta) (state : DimState ℚ I)
    (bounds : InBounds state.weight) :
    (adjustWeight (.vetoed eventMeta) state).weight ≤ state.weight := by
  show max (state.weight * (9 / 10)) (1 / 1000) ≤ state.weight
  exact max_mul_le bounds (by norm_num)

theorem adjustWeight_inBounds (event : DispatchEvent) (state : DimState ℚ I)
    (bounds : InBounds state.weight) : InBounds (adjustWeight event state).weight := by
  cases event with
  | consumed eventMeta latency =>
      have raised := le_adjustWeight_consumed eventMeta latency state bounds.nonneg bounds.2
      exact ⟨bounds.1.trans raised, min_le_right _ _⟩
  | busy eventMeta =>
      exact ⟨le_max_right _ _, (adjustWeight_busy_le eventMeta state bounds).trans bounds.2⟩
  | vetoed eventMeta =>
      exact ⟨le_max_right _ _, (adjustWeight_vetoed_le eventMeta state bounds).trans bounds.2⟩
  | skipped eventMeta => exact bounds

section

variable [Inhabited I] [Message M]

/-! ## One score -/

/-- With built-in dimensions that weigh no less, the sum is no less. -/
theorem sumScores_le (probe : Envelope M) {dims dims' : List (DimEntry ℚ I M)}
    (heavier : List.Forall₂ (fun de de' => de.dim = de'.dim ∧ de.dim.BuiltIn ∧
      de.state.weight ≤ de'.state.weight) dims dims') {total total' : ℚ} (start : total ≤ total') :
    sumScores probe dims total ≤ sumScores probe dims' total' := by
  induction heavier generalizing total total' with
  | nil => exact start
  | @cons de de' rest rest' one _ ih =>
      obtain ⟨same, builtIn, weighs⟩ := one
      rw [sumScores, sumScores, List.foldl_cons, List.foldl_cons]
      apply ih
      rcases builtIn.evaluate_cases probe with rejects | scores
      · rw [rejects, ← same, rejects]
        exact start
      · rw [scores, ← same, scores]
        show total + de.state.weight * 1 ≤ total' + de'.state.weight * 1
        linarith

/-- All the dimensions of an entry are built-in, with weights in bounds. -/
def RegistrationEntry.InBounds (entry : RegistrationEntry ℚ I M C) : Prop :=
  ∀ de ∈ entry.dims, de.dim.BuiltIn ∧ Jackfield.InBounds de.state.weight

theorem observeEntry_inBounds (event : DispatchEvent) {entry : RegistrationEntry ℚ I M C}
    (bounds : entry.InBounds) : (Registry.observeEntry event entry).InBounds := by
  intro de member
  obtain ⟨de', inEntry, rfl⟩ := List.mem_map.mp member
  obtain ⟨builtIn, weighs⟩ := bounds de' inEntry
  refine ⟨builtIn, ?_⟩
  show Jackfield.InBounds (de'.dim.observe event de'.state).weight
  rw [builtIn.observe_eq]
  exact adjustWeight_inBounds event de'.state weighs

/-- An event that lowers no weight of the entry lowers no score of it. -/
theorem affinity_le_observeEntry (probe : Envelope M) (event : DispatchEvent)
    {entry : RegistrationEntry ℚ I M C}
    (raises : ∀ de ∈ entry.dims, de.dim.BuiltIn ∧
      de.state.weight ≤ (adjustWeight event de.state).weight) :
    affinity probe entry ≤ affinity probe (Registry.observeEntry event entry) := by
  refine sumScores_le probe ?_ le_rfl
  rw [Registry.observeEntry, List.forall₂_map_right_iff, List.forall₂_same]
  intro de member
  obtain ⟨builtIn, weighs⟩ := raises de member
  refine ⟨rfl, builtIn, ?_⟩
  show de.state.weight ≤ (de.dim.observe event de.state).weight
  rw [builtIn.observe_eq]
  exact weighs

theorem affinity_observeEntry_le (probe : Envelope M) (event : DispatchEvent)
    {entry : RegistrationEntry ℚ I M C}
    (lowers : ∀ de ∈ entry.dims, de.dim.BuiltIn ∧
      (adjustWeight event de.state).weight ≤ de.state.weight) :
    affinity probe (Registry.observeEntry event entry) ≤ affinity probe entry := by
  refine sumScores_le probe ?_ le_rfl
  rw [Registry.observeEntry, List.forall₂_map_left_iff, List.forall₂_same]
  intro de member
  obtain ⟨builtIn, weighs⟩ := lowers de member
  refine ⟨rfl, builtIn, ?_⟩
  show (de.dim.observe event de.state).weight ≤ de.state.weight
  rw [builtIn.observe_eq]
  exact weighs

/-! ## One routing -/

/-- The scores of one consumer, before and after, by what became of it. -/
def ScoresRight (event : Option DispatchEvent) (before after : ℚ) : Prop :=
  match event with
  | some (.consumed _ _) => before ≤ after
  | some (.busy _) => after ≤ before
  | some (.vetoed _) => after ≤ before
  | some (.skipped _) => after = before
  | none => after = before

/-- For every consumer and every fixed envelope to score: the one that took the
message scores no lower than before, one found busy or vetoing no higher, and any
other one the same. -/
def FeedbackRight (consumer : Consumer M C) (r : Registry ℚ I M C) (envelope : Envelope M)
    (latency : Nat) (winner : Option (Nat × RegistrationEntry ℚ I M C))
    (after : Registry ℚ I M C) : Prop :=
  ∀ i entry entry', r.entries[i]? = some entry → after.entries[i]? = some entry' → ∀ probe,
    ScoresRight (dueEvent consumer envelope winner latency i entry)
      (affinity probe entry) (affinity probe entry')

/-- **A routing over weights in bounds gives feedback the right way.** -/
theorem feedbackRight_of_inBounds {consumer : Consumer M C} {r after : Registry ℚ I M C}
    {envelope : Envelope M} {latency : Nat} {winner : Option (Nat × RegistrationEntry ℚ I M C)}
    (bounds : ∀ entry ∈ r.entries, entry.InBounds)
    (routed : AffinityRouter.Routed consumer r envelope latency winner after) :
    FeedbackRight consumer r envelope latency winner after := by
  intro i entry entry' at_i at_i' probe
  rw [routed.entries, List.getElem?_mapIdx, at_i, Option.map_some, Option.some.injEq] at at_i'
  subst at_i'
  have own := bounds entry (List.mem_of_getElem? at_i)
  cases dueEvent consumer envelope winner latency i entry with
  | none => rfl
  | some event =>
      cases event with
      | consumed eventMeta latency =>
          apply affinity_le_observeEntry
          intro de member
          have weighs := (own de member).2
          exact ⟨(own de member).1, le_adjustWeight_consumed _ _ _ weighs.nonneg weighs.2⟩
      | busy eventMeta =>
          apply affinity_observeEntry_le
          intro de member
          exact ⟨(own de member).1, adjustWeight_busy_le _ _ (own de member).2⟩
      | vetoed eventMeta =>
          apply affinity_observeEntry_le
          intro de member
          exact ⟨(own de member).1, adjustWeight_vetoed_le _ _ (own de member).2⟩
      | skipped eventMeta =>
          -- `Skipped` changes no weight
          apply le_antisymm
          · apply affinity_observeEntry_le
            intro de member
            exact ⟨(own de member).1, le_rfl⟩
          · apply affinity_le_observeEntry
            intro de member
            exact ⟨(own de member).1, le_rfl⟩

/-! ## Reachable registries -/

/-- Only built-in dimensions are listed, and every preference weight meets `W`. -/
def BuiltInDims (W : ℚ → Prop) (dims : List (DimSpec ℚ I M)) : Prop :=
  ∀ d ∈ dims, d.1.BuiltIn ∧ (d.2.1 = false → W d.2.2)

theorem registered_inBounds {W : ℚ → Prop} (narrow : ∀ w, W w → InBounds w)
    {dims : List (DimSpec ℚ I M)} (listed : BuiltInDims W dims) (id : Nat) (consumer : C) :
    RegistrationEntry.InBounds ⟨id, consumer, dims.map DimSpec.entry⟩ := by
  intro de member
  obtain ⟨d, inDims, rfl⟩ := List.mem_map.mp member
  obtain ⟨builtIn, weighs⟩ := listed d inDims
  unfold DimSpec.entry
  cases required : d.2.1 with
  | true =>
      refine ⟨builtIn, ?_⟩
      show InBounds (d.1.newState (F32.lit 1)).weight
      rw [builtIn.newState_weight]
      constructor <;> norm_num
  | false =>
      refine ⟨builtIn, ?_⟩
      show InBounds (d.1.newState d.2.2).weight
      rw [builtIn.newState_weight]
      exact narrow _ (weighs required)

theorem observeAll_inBounds (events : List DispatchEvent) {entry : RegistrationEntry ℚ I M C}
    (bounds : entry.InBounds) :
    (events.foldl (fun e event => Registry.observeEntry event e) entry).InBounds := by
  induction events generalizing entry with
  | nil => exact bounds
  | cons event rest ih => exact ih (observeEntry_inBounds event bounds)

theorem deliverAll_inBounds (deliveries : List (Nat × DispatchEvent)) {r : Registry ℚ I M C}
    (bounds : ∀ entry ∈ r.entries, entry.InBounds) :
    ∀ entry ∈ (deliveries.foldl Registry.deliver r).entries, entry.InBounds := by
  intro entry member
  obtain ⟨i, at_i⟩ := List.getElem?_of_mem member
  rw [Registry.deliverAll_getElem?, Option.map_eq_some_iff] at at_i
  obtain ⟨start, found, rfl⟩ := at_i
  exact observeAll_inBounds _ (bounds start (List.mem_of_getElem? found))

omit [Inhabited I] in
/-- Either router, consuming, has delivered a list of events to the registry. -/
theorem Router.consuming_delivered {router : Router} {consumer : Consumer M C} {r : Registry ℚ I M C}
    {envelope : Envelope M} {i : Nat} {entry : RegistrationEntry ℚ I M C}
    {resume : Nat → Registry ℚ I M C}
    (routed : router.route consumer r envelope = .consuming i entry resume) (latency : Nat) :
    ∃ delivered, resume latency = List.foldl Registry.deliver r delivered := by
  cases router with
  | affinity =>
      have whole : AffinityRouter.Routed consumer r envelope latency (some (i, entry))
          (resume latency) := ⟨resume, routed, rfl⟩
      exact ⟨_, (AffinityRouter.Routed.delivered whole).1⟩
  | blind =>
      have same := BlindRouter.route_registry consumer r envelope
      have routed : BlindRouter.route consumer r envelope = .consuming i entry resume := routed
      rw [routed] at same
      exact ⟨[], same latency⟩

omit [Inhabited I] in
theorem Router.unhandled_delivered {router : Router} {consumer : Consumer M C} {r r' : Registry ℚ I M C}
    {envelope back : Envelope M}
    (routed : router.route consumer r envelope = .unhandled r' back) :
    ∃ delivered, r' = List.foldl Registry.deliver r delivered := by
  cases router with
  | affinity =>
      have handedBack := ((AffinityRouter.route_unhandled_iff consumer r envelope back).mp
        ⟨r', routed⟩).1
      subst handedBack
      have whole : AffinityRouter.Routed consumer r back 0 none r' := routed
      exact ⟨_, (AffinityRouter.Routed.delivered whole).1⟩
  | blind =>
      have same := BlindRouter.route_registry consumer r envelope
      have routed : BlindRouter.route consumer r envelope = .unhandled r' back := routed
      rw [routed] at same
      exact ⟨[], same⟩

/-- Weights that start in bounds stay there, whatever is registered, removed or routed. -/
theorem Registry.Reachable.inBounds {W : ℚ → Prop} (narrow : ∀ w, W w → InBounds w)
    {r : Registry ℚ I M C} (reached : r.Reachable (BuiltInDims W)) :
    ∀ entry ∈ r.entries, entry.InBounds := by
  obtain ⟨n, reached⟩ := reached
  induction reached with
  | new =>
      intro entry member
      cases member
  | @register n r consumer dims _ listed ih =>
      intro entry member
      rw [registerWith_entries] at member
      rcases List.mem_append.mp member with old | new
      · exact ih entry old
      · rw [List.mem_singleton.mp new]
        exact registered_inBounds narrow listed _ _
  | @deregister n r id _ ih =>
      intro entry member
      exact ih entry ((r.deregister_sublist id).subset member)
  | consumed latency _ routed ih =>
      obtain ⟨delivered, same⟩ := Router.consuming_delivered routed latency
      rw [same]
      exact deliverAll_inBounds delivered ih
  | unhandled _ routed ih =>
      obtain ⟨delivered, same⟩ := Router.unhandled_delivered routed
      rw [same]
      exact deliverAll_inBounds delivered ih

end

/-! ## Outside the bounds -/

/-- A registry of one consumer that prefers, with weight `w`, messages from anybody. -/
def lone (w : ℚ) : Registry ℚ Unit BaseMessage Unit :=
  (Registry.new.registerWith () [((ProducerDim.noneOf []).toDimension, false, w)]).registry

def loneEntry (w : ℚ) : RegistrationEntry ℚ Unit BaseMessage Unit :=
  ⟨0, (), [⟨(ProducerDim.noneOf []).toDimension, ⟨w, ()⟩, false⟩]⟩

def greeting : Envelope BaseMessage := ⟨⟨"sensor"⟩, .new none none none⟩

/-- A consumer that is `available` or not, and vetoes nothing. -/
def answering (available : Bool) : Consumer BaseMessage Unit := ⟨fun _ => available, fun _ _ => true⟩

theorem lone_entries (w : ℚ) : (lone w).entries = [loneEntry w] := by
  rw [lone, Registry.registerWith_entries]
  rfl

theorem lone_reachable {W : ℚ → Prop} {w : ℚ} (weighs : W w) :
    (lone w).Reachable (BuiltInDims W) := by
  refine ⟨1, .register () _ .new ?_⟩
  intro d member
  rw [List.mem_singleton.mp member]
  exact ⟨.producer _, fun _ => weighs⟩

theorem affinity_lone (w : ℚ) : affinity greeting (loneEntry w) = w := by
  show (0 : ℚ) + w * 1 = w
  linarith

/-- Taking the message moves the weight to `min (1.1 w) 100`. -/
theorem lone_consumed (w : ℚ) :
    AffinityRouter.Routed (answering true) (lone w) greeting 0 (some (0, loneEntry w))
      ⟨[loneEntry (min (w * (11 / 10)) 100)], 1⟩ :=
  ⟨_, rfl, rfl⟩

/-- Being found busy moves it to `max (0.8 w) 0.001`. -/
theorem lone_busy (w : ℚ) :
    AffinityRouter.Routed (answering false) (lone w) greeting 0 none
      ⟨[loneEntry (max (w * (8 / 10)) (1 / 1000))], 1⟩ :=
  rfl

/-- Rewarding a weight above the cap lowers it to the cap. -/
theorem not_feedbackRight_of_cap_lt {w : ℚ} (above : 100 < w) :
    ¬ FeedbackRight (answering true) (lone w) greeting 0 (some (0, loneEntry w))
      ⟨[loneEntry (min (w * (11 / 10)) 100)], 1⟩ := by
  intro right
  have rewarded : affinity greeting (loneEntry w) ≤
      affinity greeting (loneEntry (min (w * (11 / 10)) 100)) := right 0 _ _ rfl rfl greeting
  rw [affinity_lone, affinity_lone] at rewarded
  have := min_le_right (w * (11 / 10)) 100
  linarith

/-- Penalising a weight below the floor raises it to the floor. -/
theorem not_feedbackRight_of_lt_floor {w : ℚ} (below : w < 1 / 1000) :
    ¬ FeedbackRight (answering false) (lone w) greeting 0 none
      ⟨[loneEntry (max (w * (8 / 10)) (1 / 1000))], 1⟩ := by
  intro right
  have penalised : affinity greeting (loneEntry (max (w * (8 / 10)) (1 / 1000))) ≤
      affinity greeting (loneEntry w) := right 0 _ _ rfl rfl greeting
  rw [affinity_lone, affinity_lone] at penalised
  have := le_max_right (w * (8 / 10)) (1 / 1000)
  linarith

/-- A consumer preferring with weight `200` takes a message, and its score falls to `100`. -/
theorem reward_can_lower_score :
    (lone 200).Reachable (BuiltInDims fun _ => True) ∧
      ∃ after, AffinityRouter.Routed (answering true) (lone 200) greeting 0 (some (0, loneEntry 200)) after ∧
        (lone 200).entries.map (affinity greeting) = [200] ∧
        after.entries.map (affinity greeting) = [100] ∧
        ¬ FeedbackRight (answering true) (lone 200) greeting 0 (some (0, loneEntry 200)) after := by
  refine ⟨lone_reachable trivial, _, lone_consumed 200, ?_, ?_, not_feedbackRight_of_cap_lt (by norm_num)⟩
  · rw [lone_entries, List.map_singleton, affinity_lone]
  · rw [List.map_singleton, affinity_lone]
    norm_num

/-- **Feedback goes the right way exactly for weights in bounds.**  Let `W` be the
weights that `prefer` is given.  Every routing of every registry built with the
built-in dimensions and such weights moves every score the right way if and only
if all of them lie between the floor and the cap. -/
theorem feedback_right_iff (W : ℚ → Prop) :
    (∀ w, W w → InBounds w) ↔
      ∀ (I M C : Type) [Inhabited I] [Message M] (r : Registry ℚ I M C),
        r.Reachable (BuiltInDims W) → ∀ consumer envelope latency winner after,
          AffinityRouter.Routed consumer r envelope latency winner after →
          FeedbackRight consumer r envelope latency winner after := by
  constructor
  · intro narrow I M C _ _ r reached consumer envelope latency winner after routed
    exact feedbackRight_of_inBounds (reached.inBounds narrow) routed
  · intro right w weighs
    have reached := lone_reachable weighs
    constructor
    · by_contra low
      exact not_feedbackRight_of_lt_floor (not_le.mp low)
        (right Unit BaseMessage Unit (lone w) reached _ _ _ _ _ (lone_busy w))
    · by_contra high
      exact not_feedbackRight_of_cap_lt (not_le.mp high)
        (right Unit BaseMessage Unit (lone w) reached _ _ _ _ _ (lone_consumed w))

end Jackfield
