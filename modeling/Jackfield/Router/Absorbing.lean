/-
# Jackfield.Router.Absorbing -- weights that enter the range stay in it

A registry under registrations, deregistrations and affinity routings, as a machine
whose trace is the ids it was asked to deregister.  With the built-in dimensions, in
exact arithmetic, each entry of a later registry is an entry of the earlier one that
was not deregistered in between, or was registered in between (`Evolved`); and a
dimension of the former whose weight was between the floor of the penalties and the
cap of the reward has one there still (`RegistrationEntry.Later`).

`weights_absorbing` adds where the range is entered -- a required dimension starts in
it -- and what it means for the scores.
-/
import Mathlib.Algebra.Order.BigOperators.Group.List
import Jackfield.Lib.Machine
import Jackfield.Router.Stability

namespace Jackfield

set_option autoImplicit false

variable {I M C : Type}

/-! ## The registry as a machine -/

/-- What is done to a registry; `consumer` answers for all the consumers of a routing. -/
inductive RegistryAction (F I M C : Type) where
  | register (consumer : C) (dims : List (DimSpec F I M))
  | deregister (id : Nat)
  | route (consumer : Consumer M C) (envelope : Envelope M) (latency : Nat)

namespace Registry

/-- The next registry, and the ids it was asked to deregister. -/
def act {F : Type} [F32 F] [Message M] (r : Registry F I M C) :
    RegistryAction F I M C → Option (Registry F I M C × List Nat)
  | .register consumer dims => some ((r.registerWith consumer dims).registry, [])
  | .deregister id => some ((r.deregister id).1, [id])
  | .route consumer envelope latency =>
      match AffinityRouter.route consumer r envelope with
      | .consuming _ _ resume => some (resume latency, [])
      | .unhandled r' _ => some (r', [])

end Registry

variable [Inhabited I] [Message M]

/-- Only built-in dimensions are registered, with any weights. -/
def Shipped {F : Type} [F32 F] (_ : Registry F I M C) (_ : List Nat) (a : RegistryAction F I M C) : Prop :=
  ∀ consumer dims, a = .register consumer dims → ∀ d ∈ dims, d.1.BuiltIn

/-! ## One entry, later -/

/-- A dimension entry later on: its weight has not left the range. -/
structure DimEntry.Later (de de' : DimEntry ℚ I M) : Prop where
  dim : de'.dim = de.dim
  rejectOnMiss : de'.rejectOnMiss = de.rejectOnMiss
  inBounds : InBounds de.state.weight → InBounds de'.state.weight

/-- The same registration later on, dimension by dimension. -/
structure RegistrationEntry.Later (e e' : RegistrationEntry ℚ I M C) : Prop where
  id : e'.id = e.id
  consumer : e'.consumer = e.consumer
  dims : List.Forall₂ DimEntry.Later e.dims e'.dims

omit [Inhabited I] [Message M] in
theorem RegistrationEntry.Later.refl (e : RegistrationEntry ℚ I M C) : e.Later e :=
  ⟨rfl, rfl, List.forall₂_same.mpr fun _ _ => ⟨rfl, rfl, fun inside => inside⟩⟩

/-- One more event keeps it so. -/
theorem RegistrationEntry.Later.afterEvent {e e' : RegistrationEntry ℚ I M C} (later : e.Later e')
    (builtIn : e.BuiltIn) (event : Option DispatchEvent) : e.Later (afterEvent event e') := by
  cases event with
  | none => exact later
  | some event =>
      refine ⟨later.id, later.consumer, ?_⟩
      show List.Forall₂ DimEntry.Later e.dims
        (e'.dims.map fun de => { de with state := de.dim.observe event de.state })
      rw [List.forall₂_map_right_iff]
      have own : List.Forall₂ (fun de de' => de.dim.BuiltIn ∧ DimEntry.Later de de') e.dims e'.dims :=
        (List.forall₂_and_left _ _).mpr ⟨builtIn, later.dims⟩
      apply own.imp
      rintro de de' ⟨shipped, same, required, stays⟩
      refine ⟨same, required, ?_⟩
      intro inside
      show Jackfield.InBounds (de'.dim.observe event de'.state).weight
      rw [same, shipped.observe_eq]
      exact adjustWeight_inBounds event de'.state (stays inside)

/-! ## One registry, later -/

/-- `r'` comes from `r` with the ids `gone` deregistered in between: what is left of the
entries of `r`, in their order, and then entries registered since. -/
def Evolved (r : Registry ℚ I M C) (gone : List Nat) (r' : Registry ℚ I M C) : Prop :=
  ∃ kept fresh, r'.entries = kept ++ fresh ∧
    List.Forall₂ RegistrationEntry.Later (r.entries.filter fun e => decide (e.id ∉ gone)) kept

omit [Inhabited I] [Message M] in
theorem Evolved.refl (r : Registry ℚ I M C) : Evolved r [] r := by
  refine ⟨r.entries, [], (List.append_nil _).symm, ?_⟩
  have whole : r.entries.filter (fun e => decide (e.id ∉ [])) = r.entries := by simp
  rw [whole]
  exact List.forall₂_same.mpr fun e _ => .refl e

omit [Inhabited I] [Message M] in
theorem Evolved.registerWith {r r' : Registry ℚ I M C} {gone : List Nat} (evolved : Evolved r gone r')
    (consumer : C) (dims : List (DimSpec ℚ I M)) :
    Evolved r gone (r'.registerWith consumer dims).registry := by
  obtain ⟨kept, fresh, cut, later⟩ := evolved
  refine ⟨kept, fresh ++ [⟨r'.nextId, consumer, dims.map DimSpec.entry⟩], ?_, later⟩
  rw [Registry.registerWith_entries, cut, List.append_assoc]

omit [Inhabited I] [Message M] in
theorem Evolved.deregister {r r' : Registry ℚ I M C} {gone : List Nat} (evolved : Evolved r gone r')
    (id : Nat) : Evolved r (gone ++ [id]) (r'.deregister id).1 := by
  obtain ⟨kept, fresh, cut, later⟩ := evolved
  refine ⟨kept.filter fun e => decide (e.id ≠ id), fresh.filter fun e => decide (e.id ≠ id), ?_, ?_⟩
  · rw [Registry.deregister_eq, cut, List.filter_append]
  · have narrowed : r.entries.filter (fun e => decide (e.id ∉ gone ++ [id])) =
        (r.entries.filter fun e => decide (e.id ∉ gone)).filter fun e => decide (e.id ≠ id) := by
      rw [List.filter_filter]
      apply List.filter_congr
      intro e _
      by_cases named : e.id = id <;> simp [named]
    rw [narrowed]
    apply List.rel_filter _ later
    intro e e' both
    show decide (e.id ≠ id) = true ↔ decide (e'.id ≠ id) = true
    rw [both.id]

omit [Inhabited I] [Message M] in
theorem forall₂_mapIdx {α β : Type} {R : α → β → Prop} {f : Nat → β → β} {l : List α} {l' : List β}
    (closed : ∀ a ∈ l, ∀ i b, R a b → R a (f i b)) (related : List.Forall₂ R l l') :
    List.Forall₂ R l (l'.mapIdx f) := by
  induction related generalizing f with
  | nil => exact .nil
  | @cons a b rest rest' one _ ih =>
      rw [List.mapIdx_cons]
      refine .cons (closed a (by simp) 0 b one) (ih ?_)
      intro a' member i b'
      exact closed a' (by simp [member]) (i + 1) b'

theorem Evolved.routed {r r' after : Registry ℚ I M C} {gone : List Nat} (evolved : Evolved r gone r')
    (builtIn : ∀ e ∈ r.entries, e.BuiltIn) {consumer : Consumer M C} {envelope : Envelope M}
    {latency : Nat} {winner : Option (Nat × RegistrationEntry ℚ I M C)}
    (routed : AffinityRouter.Routed consumer r' envelope latency winner after) : Evolved r gone after := by
  obtain ⟨kept, fresh, cut, later⟩ := evolved
  rw [Evolved, routed.entries, cut, List.mapIdx_append]
  refine ⟨_, _, rfl, forall₂_mapIdx ?_ later⟩
  intro e member i e' both
  exact both.afterEvent (builtIn e (List.mem_filter.mp member).1) _

namespace Registry

omit [Inhabited I] in
/-- A routing of the machine is a whole routing. -/
theorem act_route {r r' : Registry ℚ I M C} {consumer : Consumer M C} {envelope : Envelope M}
    {latency : Nat} {ids : List Nat} (acted : r.act (.route consumer envelope latency) = some (r', ids)) :
    ids = [] ∧ ∃ winner, AffinityRouter.Routed consumer r envelope latency winner r' := by
  obtain ⟨winner, after, routed⟩ := AffinityRouter.exists_routed consumer r envelope latency
  rcases winner with _ | ⟨w, won⟩
  · have routed' : AffinityRouter.route consumer r envelope = .unhandled after envelope := routed
    rw [act, routed'] at acted
    cases acted
    exact ⟨rfl, none, routed⟩
  · obtain ⟨resume, routed', rfl⟩ := routed
    rw [act, routed'] at acted
    cases acted
    exact ⟨rfl, some (w, won), resume, routed', rfl⟩

/-- The dimensions of every entry are built-in, and the required ones weigh within the range. -/
def Sound (r : Registry ℚ I M C) : Prop :=
  ∀ e ∈ r.entries, e.BuiltIn ∧ ∀ de ∈ e.dims, de.rejectOnMiss = true → InBounds de.state.weight

/-- A required dimension starts at one. -/
theorem entry_sound {d : DimSpec ℚ I M} (builtIn : d.1.BuiltIn) :
    d.entry.dim.BuiltIn ∧ (d.entry.rejectOnMiss = true → InBounds d.entry.state.weight) := by
  unfold DimSpec.entry
  cases d.2.1 with
  | false => exact ⟨builtIn, fun required => by cases required⟩
  | true =>
      refine ⟨builtIn, fun _ => ?_⟩
      show InBounds (d.1.newState (F32.lit 1)).weight
      rw [builtIn.newState_weight]
      constructor <;> norm_num

theorem sound_afterEvent {e : RegistrationEntry ℚ I M C} (builtIn : e.BuiltIn)
    (required : ∀ de ∈ e.dims, de.rejectOnMiss = true → InBounds de.state.weight)
    (event : Option DispatchEvent) :
    (afterEvent event e).BuiltIn ∧
      ∀ de ∈ (afterEvent event e).dims, de.rejectOnMiss = true → InBounds de.state.weight := by
  have later := (RegistrationEntry.Later.refl e).afterEvent builtIn event
  refine ⟨builtIn_congr (afterEvent_skeleton event e) builtIn, ?_⟩
  intro de' member isRequired
  obtain ⟨i, at_i⟩ := List.getElem_of_mem member
  obtain ⟨inRange', same⟩ := at_i
  have inRange : i < e.dims.length := by
    rw [later.dims.length_eq]
    exact inRange'
  have both := later.dims.get inRange inRange'
  rw [← same] at isRequired ⊢
  apply both.inBounds
  apply required _ (List.get_mem e.dims ⟨i, inRange⟩)
  rw [← both.rejectOnMiss]
  exact isRequired

theorem Sound.act {r r' : Registry ℚ I M C} {a : RegistryAction ℚ I M C} {t ids : List Nat}
    (sound : r.Sound) (shipped : Shipped r t a) (acted : r.act a = some (r', ids)) : r'.Sound := by
  cases a with
  | register consumer dims =>
      cases acted
      intro e member
      rw [registerWith_entries] at member
      rcases List.mem_append.mp member with old | new
      · exact sound e old
      · rw [List.mem_singleton.mp new]
        have listed := shipped consumer dims rfl
        constructor
        · intro de inDims
          obtain ⟨d, inList, rfl⟩ := List.mem_map.mp inDims
          exact (entry_sound (listed d inList)).1
        · intro de inDims
          obtain ⟨d, inList, rfl⟩ := List.mem_map.mp inDims
          exact (entry_sound (listed d inList)).2
  | deregister id =>
      cases acted
      intro e member
      exact sound e ((r.deregister_sublist id).subset member)
  | route consumer envelope latency =>
      obtain ⟨-, winner, routed⟩ := act_route acted
      intro e member
      rw [routed.entries] at member
      obtain ⟨i, inRange, rfl⟩ := List.mem_mapIdx.mp member
      obtain ⟨builtIn, required⟩ := sound _ (List.getElem_mem inRange)
      exact sound_afterEvent builtIn required _

theorem Evolved.act {r r' r'' : Registry ℚ I M C} {a : RegistryAction ℚ I M C} {gone ids : List Nat}
    (evolved : Evolved r gone r') (builtIn : ∀ e ∈ r.entries, e.BuiltIn)
    (acted : r'.act a = some (r'', ids)) : Evolved r (gone ++ ids) r'' := by
  cases a with
  | register consumer dims =>
      cases acted
      rw [List.append_nil]
      exact evolved.registerWith consumer dims
  | deregister id =>
      cases acted
      exact evolved.deregister id
  | route consumer envelope latency =>
      obtain ⟨rfl, winner, routed⟩ := act_route acted
      rw [List.append_nil]
      exact evolved.routed builtIn routed

end Registry

/-! ## Scores -/

/-- The dimensions of an entry that do not reject the envelope. -/
def RegistrationEntry.matching (envelope : Envelope M) (e : RegistrationEntry ℚ I M C) :
    List (DimEntry ℚ I M) :=
  e.dims.filter fun de => !(de.dim.evaluate envelope de.state).isReject

/-- Each matching dimension adds its weight. -/
theorem sumScores_builtIn (envelope : Envelope M) {dims : List (DimEntry ℚ I M)}
    (builtIn : ∀ de ∈ dims, de.dim.BuiltIn) (total : ℚ) :
    sumScores envelope dims total = total +
      ((dims.filter fun de => !(de.dim.evaluate envelope de.state).isReject).map
        fun de => de.state.weight).sum := by
  induction dims generalizing total with
  | nil => simp [sumScores]
  | cons de rest ih =>
      have tail := ih fun de' member => builtIn de' (by simp [member])
      rw [sumScores, List.foldl_cons]
      rcases (builtIn de (by simp)).evaluate_cases envelope with rejects | scores
      · rw [List.filter_cons_of_neg (by simp [rejects, Verdict.isReject]), ← tail, rejects]
        rfl
      · rw [List.filter_cons_of_pos (by simp [scores, Verdict.isReject]), List.map_cons, List.sum_cons,
          ← add_assoc, scores]
        have one : total + de.state.weight * F32.lit 1 = total + de.state.weight := by
          rw [F32.lit_exact, mul_one]
        rw [← one]
        exact tail _

theorem affinity_inBounds {e : RegistrationEntry ℚ I M C} (builtIn : e.BuiltIn) (envelope : Envelope M)
    (inBounds : ∀ de ∈ e.matching envelope, InBounds de.state.weight) :
    1 / 1000 * ((e.matching envelope).length : ℚ) ≤ affinity envelope e ∧
      affinity envelope e ≤ 100 * ((e.matching envelope).length : ℚ) := by
  have total : affinity envelope e = ((e.matching envelope).map fun de => de.state.weight).sum := by
    show sumScores envelope e.dims 0 = _
    rw [sumScores_builtIn envelope builtIn, zero_add]
    rfl
  have lower := List.card_nsmul_le_sum ((e.matching envelope).map fun de => de.state.weight) (1 / 1000) (by
    intro w member
    obtain ⟨de, inMatching, rfl⟩ := List.mem_map.mp member
    exact (inBounds de inMatching).1)
  have upper := List.sum_le_card_nsmul ((e.matching envelope).map fun de => de.state.weight) 100 (by
    intro w member
    obtain ⟨de, inMatching, rfl⟩ := List.mem_map.mp member
    exact (inBounds de inMatching).2)
  rw [List.length_map, nsmul_eq_mul, mul_comm] at lower upper
  rw [total]
  exact ⟨lower, upper⟩

/-! ## Whole runs -/

open Machine

variable {r r' : Registry ℚ I M C} {t t' : List Nat}

theorem Registry.sound (reached : Runs Registry.act Shipped Registry.new r t) : r.Sound := by
  apply reached.invariant (P := fun r _ => r.Sound)
  · intro e member
    cases member
  · intro r t a r' ids ih shipped acted
    exact ih.act shipped acted

theorem Registry.evolved (builtIn : ∀ e ∈ r.entries, e.BuiltIn)
    (later : Runs Registry.act Shipped r r' t') : Evolved r t' r' := by
  apply later.invariant (P := fun r' t' => Evolved r t' r')
  · exact .refl r
  · intro r' t' a r'' ids ih _ acted
    exact Registry.Evolved.act ih builtIn acted

/-- **The weight range is absorbing.**  From every reachable registry `r`, in every later
one: of the entries of `r` exactly those not deregistered in between are left, each with
its id, its consumer and its dimensions, and no weight that was in the range has left it;
in `r` itself every required dimension weighs within the range; and an eligible consumer
whose matching dimensions, `n` of them, weigh within it scores within `n` times its bounds. -/
theorem weights_absorbing (reached : Runs Registry.act Shipped Registry.new r t)
    (later : Runs Registry.act Shipped r r' t') :
    Evolved r t' r' ∧
      (∀ e ∈ r.entries, ∀ de ∈ e.dims, de.rejectOnMiss = true → InBounds de.state.weight) ∧
      ∀ (consumer : Consumer M C) (envelope : Envelope M), ∀ e ∈ r.entries, Eligible consumer envelope e →
        (∀ de ∈ e.matching envelope, InBounds de.state.weight) →
          1 / 1000 * ((e.matching envelope).length : ℚ) ≤ affinity envelope e ∧
            affinity envelope e ≤ 100 * ((e.matching envelope).length : ℚ) := by
  have sound := Registry.sound reached
  refine ⟨Registry.evolved (fun e member => (sound e member).1) later, ?_, ?_⟩
  · intro e member
    exact (sound e member).2
  · intro consumer envelope e member _ inBounds
    exact affinity_inBounds (sound e member).1 envelope inBounds

/-- The sensor's own consumer and the one that would take anything, registered. -/
theorem duo_runs : Runs Registry.act Shipped Registry.new duo [] := by
  have first : Runs Registry.act Shipped (Registry.new : Registry ℚ Unit BaseMessage String)
      ⟨[fallback], 1⟩ [] := by
    refine Runs.start.act (.register "fallback" [((ProducerDim.noneOf []).toDimension, false, 1)]) ?_ rfl
    rintro _ _ ⟨⟩ d member
    rw [List.mem_singleton.mp member]
    exact .producer _
  refine first.act (.register "primary" [((ProducerDim.only "sensor").toDimension, true, 1),
    ((SizeDim.atMost 16).toDimension, false, 2)]) ?_ rfl
  rintro _ _ ⟨⟩ d member
  rcases List.mem_cons.mp member with rfl | member
  · exact .producer _
  · rw [List.mem_singleton.mp member]
    exact .size _

/-- A reading is routed, then the fallback is deregistered. -/
def closing : List (RegistryAction ℚ Unit BaseMessage String) := [.route willing reading 0, .deregister 0]

def closed : Registry ℚ Unit BaseMessage String × List Nat := outcome Registry.act duo closing

def RegistryAction.registersNone : RegistryAction ℚ Unit BaseMessage String → Bool
  | .register _ _ => false
  | _ => true

theorem closed_runs : Runs Registry.act Shipped duo closed.1 closed.2 :=
  runs_outcome closing (fun _ _ a => a.registersNone)
    (by
      rintro r t a passes consumer dims rfl
      cases passes)
    (by decide +kernel) (by decide +kernel)

theorem weights_absorbing_closed : closed.2 = [0] ∧ Evolved duo closed.2 closed.1 :=
  ⟨by decide +kernel, (weights_absorbing duo_runs closed_runs).1⟩

end Jackfield
