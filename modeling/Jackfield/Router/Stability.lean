/-
# Jackfield.Router.Stability -- a stable topology keeps its winner

Every routing changes weights, and so may change the next ranking.  While the
registrations and the answers stay as they are, it cannot change the winner of one
kind of envelope: an entry that is passed over -- rejected, busy or vetoing -- will
be passed over again whatever its weights become; an eligible entry ranked behind
the winner hears `Skipped`, which leaves its weights alone; and the winner hears
`Consumed`, which in exact arithmetic lowers no weight in `[0, 100]`.  So the winner
leads afterwards too (`Leads.after`), and `topology_stable` follows by induction.
-/
import Jackfield.Router.BuiltIn
import Jackfield.Router.Feedback

namespace Jackfield

set_option autoImplicit false

variable {I M C : Type} [Inhabited I] [Message M]

/-- The dimensions of an entry are built-in, with weights in `[0, 100]`. -/
def RegistrationEntry.Moderate (entry : RegistrationEntry ℚ I M C) : Prop :=
  ∀ de ∈ entry.dims, de.dim.BuiltIn ∧ 0 ≤ de.state.weight ∧ de.state.weight ≤ 100

theorem RegistrationEntry.Moderate.builtIn {entry : RegistrationEntry ℚ I M C}
    (moderate : entry.Moderate) : entry.BuiltIn :=
  fun de member => (moderate de member).1

omit [Inhabited I] [Message M] in
theorem adjustWeight_moderate (event : DispatchEvent) (state : DimState ℚ I)
    (bounds : 0 ≤ state.weight ∧ state.weight ≤ 100) :
    0 ≤ (adjustWeight event state).weight ∧ (adjustWeight event state).weight ≤ 100 := by
  obtain ⟨nonneg, cap⟩ := bounds
  cases event with
  | consumed eventMeta latency =>
      have raised := le_adjustWeight_consumed eventMeta latency state nonneg cap
      exact ⟨nonneg.trans raised, min_le_right _ _⟩
  | busy eventMeta =>
      constructor
      · show (0 : ℚ) ≤ max (state.weight * (8 / 10)) (1 / 1000)
        exact le_max_of_le_right (by norm_num)
      · show max (state.weight * (8 / 10)) (1 / 1000) ≤ 100
        exact max_le (by linarith) (by norm_num)
  | vetoed eventMeta =>
      constructor
      · show (0 : ℚ) ≤ max (state.weight * (9 / 10)) (1 / 1000)
        exact le_max_of_le_right (by norm_num)
      · show max (state.weight * (9 / 10)) (1 / 1000) ≤ 100
        exact max_le (by linarith) (by norm_num)
  | skipped eventMeta => exact ⟨nonneg, cap⟩

theorem afterEvent_moderate (event : Option DispatchEvent) {entry : RegistrationEntry ℚ I M C}
    (moderate : entry.Moderate) : (afterEvent event entry).Moderate := by
  cases event with
  | none => exact moderate
  | some event =>
      intro de member
      obtain ⟨de', inEntry, rfl⟩ := List.mem_map.mp member
      obtain ⟨builtIn, bounds⟩ := moderate de' inEntry
      refine ⟨builtIn, ?_⟩
      show 0 ≤ (de'.dim.observe event de'.state).weight ∧ (de'.dim.observe event de'.state).weight ≤ 100
      rw [builtIn.observe_eq]
      exact adjustWeight_moderate event de'.state bounds

omit [Inhabited I] [Message M] in
@[simp] theorem afterEvent_skeleton (event : Option DispatchEvent) (entry : RegistrationEntry ℚ I M C) :
    (afterEvent event entry).skeleton = entry.skeleton := by
  cases event with
  | none => rfl
  | some event => exact Registry.observeEntry_skeleton event entry

/-- `Skipped` changes nothing. -/
theorem afterEvent_skipped (eventMeta : EventMeta) {entry : RegistrationEntry ℚ I M C}
    (builtIn : entry.BuiltIn) : afterEvent (some (.skipped eventMeta)) entry = entry := by
  have same : entry.dims.map (fun de => { de with state := de.dim.observe (.skipped eventMeta) de.state }) =
      entry.dims.map id := by
    apply List.map_congr_left
    intro de member
    rw [(builtIn de member).observe_eq]
    rfl
  rw [afterEvent, same, List.map_id]

/-! ## The winner leads -/

/-- The entry at index `i` is eligible and outranks every other eligible one. -/
def Leads (consumer : Consumer M C) (r : Registry ℚ I M C) (envelope : Envelope M) (i : Nat)
    (entry : RegistrationEntry ℚ I M C) : Prop :=
  r.entries[i]? = some entry ∧ Eligible consumer envelope entry ∧
    ∀ j other, r.entries[j]? = some other → Eligible consumer envelope other → j ≠ i →
      Outranks envelope (i, entry) (j, other)

omit [Inhabited I] [Message M] in
/-- An entry that gains affinity outranks whom it outranked before. -/
theorem Outranks.of_le {envelope : Envelope M} {i j : Nat} {entry entry' other : RegistrationEntry ℚ I M C}
    (ranked : Outranks envelope (i, entry) (j, other)) (sameId : entry'.id = entry.id)
    (gains : affinity envelope entry ≤ affinity envelope entry') :
    Outranks envelope (i, entry') (j, other) := by
  rcases ranked with better | ⟨tie, first⟩
  · exact Or.inl (lt_of_lt_of_le better gains)
  · rcases lt_or_eq_of_le gains with more | same
    · left
      show affinity envelope other < affinity envelope entry'
      rw [show affinity envelope other = affinity envelope entry from tie]
      exact more
    · right
      show affinity envelope other = affinity envelope entry' ∧
        (entry'.id < other.id ∨ (entry'.id = other.id ∧ i < j))
      rw [sameId]
      exact ⟨Eq.trans tie same, first⟩

/-- **After a routing the winner still leads**, with every weight still in `[0, 100]`. -/
theorem Leads.after {consumer : Consumer M C} {r after : Registry ℚ I M C} {envelope : Envelope M}
    {i latency : Nat} {entry : RegistrationEntry ℚ I M C}
    (moderate : ∀ entry ∈ r.entries, entry.Moderate) (leads : Leads consumer r envelope i entry)
    (routed : AffinityRouter.Routed consumer r envelope latency (some (i, entry)) after) :
    (∀ entry ∈ after.entries, entry.Moderate) ∧
      ∃ entry', Leads consumer after envelope i entry' ∧ entry'.skeleton = entry.skeleton := by
  obtain ⟨at_i, eligible, best⟩ := leads
  have own := moderate entry (List.mem_of_getElem? at_i)
  -- every entry afterwards is one from before, after the event due to it
  have origin : ∀ j other', after.entries[j]? = some other' → ∃ other, r.entries[j]? = some other ∧
      other' = afterEvent (dueEvent consumer envelope (some (i, entry)) latency j other) other := by
    intro j other' at_j
    rw [routed.entries, List.getElem?_mapIdx, Option.map_eq_some_iff] at at_j
    obtain ⟨other, found, same⟩ := at_j
    exact ⟨other, found, same.symm⟩
  have winnerHears : dueEvent consumer envelope (some (i, entry)) latency i entry =
      some (.consumed (.fromEnvelope envelope) latency) := by
    simp [dueEvent, eligible.qualified]
  have at_i' : after.entries[i]? =
      some (Registry.observeEntry (.consumed (.fromEnvelope envelope) latency) entry) := by
    rw [routed.entries, List.getElem?_mapIdx, at_i, Option.map_some, winnerHears]
    rfl
  have gains : affinity envelope entry ≤
      affinity envelope (Registry.observeEntry (.consumed (.fromEnvelope envelope) latency) entry) := by
    apply affinity_le_observeEntry
    intro de member
    obtain ⟨builtIn, nonneg, cap⟩ := own de member
    exact ⟨builtIn, le_adjustWeight_consumed _ _ _ nonneg cap⟩
  refine ⟨?_, _, ⟨at_i', ?_, ?_⟩, Registry.observeEntry_skeleton _ _⟩
  · intro other' member
    obtain ⟨j, at_j⟩ := List.getElem?_of_mem member
    obtain ⟨other, found, rfl⟩ := origin j other' at_j
    exact afterEvent_moderate _ (moderate other (List.mem_of_getElem? found))
  · exact (eligible_congr consumer envelope (Registry.observeEntry_skeleton _ _) own.builtIn).mpr eligible
  · intro j other' at_j eligible' apart
    obtain ⟨other, found, rfl⟩ := origin j other' at_j
    have builtIn := (moderate other (List.mem_of_getElem? found)).builtIn
    have wasEligible := (eligible_congr consumer envelope (afterEvent_skeleton _ _) builtIn).mp eligible'
    have ranked := best j other found wasEligible apart
    -- ranked behind the winner: it is skipped
    have hears : dueEvent consumer envelope (some (i, entry)) latency j other =
        some (.skipped (.fromEnvelope envelope)) := by
      simp [dueEvent, wasEligible.qualified, apart, ranked.asymm]
    rw [hears, afterEvent_skipped _ builtIn]
    exact ranked.of_le rfl gains

/-! ## Whole runs -/

/-- A routing: what the consumers answer meanwhile, the envelope, and the measured latency. -/
structure Request (M C : Type) where
  consumer : Consumer M C
  envelope : Envelope M
  latency : Nat

/-- Routings one after the other, and who took each envelope: the index, the id and the consumer. -/
def AffinityRouter.routeAll (r : Registry ℚ I M C) : List (Request M C) → List (Option (Nat × Nat × C))
  | [] => []
  | q :: rest =>
      match route q.consumer r q.envelope with
      | .consuming i entry resume => some (i, entry.id, entry.consumer) :: routeAll (resume q.latency) rest
      | .unhandled r' _ => none :: routeAll r' rest

/-- An envelope of the same origin, labels and size, and the same answers. -/
def Alike (consumer : Consumer M C) (r : Registry ℚ I M C) (envelope : Envelope M) (q : Request M C) : Prop :=
  EventMeta.fromEnvelope q.envelope = EventMeta.fromEnvelope envelope ∧
    ∀ entry ∈ r.entries, q.consumer.available entry.consumer = consumer.available entry.consumer ∧
      q.consumer.validate entry.consumer q.envelope = consumer.validate entry.consumer envelope

omit [Inhabited I] in
theorem Alike.sameShape {consumer : Consumer M C} {r r' : Registry ℚ I M C} {envelope : Envelope M}
    {q : Request M C} (alike : Alike consumer r envelope q) (shape : r.SameShape r') :
    Alike consumer r' envelope q := by
  refine ⟨alike.1, ?_⟩
  intro entry' member
  obtain ⟨entry, inEntries, same⟩ := shape.mem member
  have sameConsumer : entry'.consumer = entry.consumer := congrArg (fun s => s.2.1) same
  rw [sameConsumer]
  exact alike.2 entry inEntries

omit [Inhabited I] in
theorem Alike.other {consumer : Consumer M C} {r : Registry ℚ I M C} {envelope : Envelope M}
    {q q' : Request M C} (alike : Alike consumer r envelope q) (alike' : Alike consumer r envelope q') :
    Alike q.consumer r q.envelope q' := by
  refine ⟨alike'.1.trans alike.1.symm, ?_⟩
  intro entry member
  obtain ⟨available, valid⟩ := alike.2 entry member
  rw [available, valid]
  exact alike'.2 entry member

/-- Who leads for one envelope leads for those alike. -/
theorem Leads.alike {consumer : Consumer M C} {r : Registry ℚ I M C} {envelope : Envelope M} {i : Nat}
    {entry : RegistrationEntry ℚ I M C} {q : Request M C}
    (moderate : ∀ entry ∈ r.entries, entry.Moderate) (leads : Leads consumer r envelope i entry)
    (alike : Alike consumer r envelope q) : Leads q.consumer r q.envelope i entry := by
  have sameEligible : ∀ other ∈ r.entries,
      (Eligible q.consumer q.envelope other ↔ Eligible consumer envelope other) := by
    intro other member
    obtain ⟨available, valid⟩ := alike.2 other member
    exact eligible_alike (moderate other member).builtIn alike.1 available valid
  have sameAffinity : ∀ other ∈ r.entries, affinity q.envelope other = affinity envelope other := by
    intro other member
    exact affinity_alike (moderate other member).builtIn alike.1
  obtain ⟨at_i, eligible, best⟩ := leads
  have inEntries := List.mem_of_getElem? at_i
  refine ⟨at_i, (sameEligible entry inEntries).mpr eligible, ?_⟩
  intro j other at_j eligible' apart
  have otherIn := List.mem_of_getElem? at_j
  have ranked := best j other at_j ((sameEligible other otherIn).mp eligible') apart
  unfold Outranks at ranked ⊢
  rw [sameAffinity entry inEntries, sameAffinity other otherIn]
  exact ranked

theorem Leads.routeAll {consumer : Consumer M C} {r : Registry ℚ I M C} {envelope : Envelope M} {i : Nat}
    {entry : RegistrationEntry ℚ I M C} (moderate : ∀ entry ∈ r.entries, entry.Moderate)
    (leads : Leads consumer r envelope i entry) (later : List (Request M C))
    (alike : ∀ q ∈ later, Alike consumer r envelope q) :
    AffinityRouter.routeAll r later = List.replicate later.length (some (i, entry.id, entry.consumer)) := by
  induction later generalizing consumer envelope r entry with
  | nil => rfl
  | cons q rest ih =>
      have now := alike q (List.mem_cons_self ..)
      obtain ⟨resume, routed⟩ := (AffinityRouter.route_consuming_iff q.consumer r q.envelope i entry).mpr
        (leads.alike moderate now)
      have whole : AffinityRouter.Routed q.consumer r q.envelope q.latency (some (i, entry))
          (resume q.latency) := ⟨resume, routed, rfl⟩
      obtain ⟨stillModerate, entry', stillLeads, same⟩ := (leads.alike moderate now).after moderate whole
      have tail := ih stillModerate stillLeads (by
        intro q' member
        exact (now.other (alike q' (List.mem_cons_of_mem _ member))).sameShape whole.sameShape)
      have sameId : entry'.id = entry.id := Registry.id_of_skeleton same
      have sameConsumer : entry'.consumer = entry.consumer := congrArg (fun s => s.2.1) same
      rw [AffinityRouter.routeAll, routed]
      simp only [List.length_cons, List.replicate_succ]
      rw [tail, sameId, sameConsumer]

/-- **A stable topology keeps its winner.**  For every registry of built-in dimensions
with weights in `[0, 100]`: whoever takes an envelope takes every envelope of the
same origin, labels and size routed after it, however many, as long as the answers
stay the same and nobody registers or leaves. -/
theorem topology_stable {r : Registry ℚ I M C} (moderate : ∀ entry ∈ r.entries, entry.Moderate)
    {consumer : Consumer M C} {envelope : Envelope M} {i : Nat} {entry : RegistrationEntry ℚ I M C}
    {resume : Nat → Registry ℚ I M C}
    (delivered : AffinityRouter.route consumer r envelope = .consuming i entry resume) (latency : Nat)
    (later : List (Request M C)) (alike : ∀ q ∈ later, Alike consumer r envelope q) :
    AffinityRouter.routeAll (resume latency) later =
      List.replicate later.length (some (i, entry.id, entry.consumer)) := by
  have leads : Leads consumer r envelope i entry :=
    (AffinityRouter.route_consuming_iff consumer r envelope i entry).mp ⟨resume, delivered⟩
  have whole : AffinityRouter.Routed consumer r envelope latency (some (i, entry)) (resume latency) :=
    ⟨resume, delivered, rfl⟩
  obtain ⟨stillModerate, entry', stillLeads, same⟩ := leads.after moderate whole
  have tail := stillLeads.routeAll stillModerate later (by
    intro q member
    exact (alike q member).sameShape whole.sameShape)
  have sameId : entry'.id = entry.id := Registry.id_of_skeleton same
  have sameConsumer : entry'.consumer = entry.consumer := congrArg (fun s => s.2.1) same
  rw [tail, sameId, sameConsumer]

theorem duo_moderate : ∀ entry ∈ duo.entries, entry.Moderate := by
  intro entry member de inDims
  have cases : entry = fallback ∨ entry = primary := by simpa [duo] using member
  rcases cases with rfl | rfl
  · cases List.mem_singleton.mp inDims
    exact ⟨.producer _, by norm_num, by norm_num⟩
  · rcases List.mem_cons.mp inDims with rfl | second
    · exact ⟨.producer _, by norm_num, by norm_num⟩
    · cases List.mem_singleton.mp second
      exact ⟨.size _, by norm_num, by norm_num⟩

/-- Two more readings go to the consumer that took the first. -/
theorem topology_stable_duo :
    ∃ resume, AffinityRouter.route willing duo reading = .consuming 1 primary resume ∧
      AffinityRouter.routeAll (resume 0) [⟨willing, reading, 3⟩, ⟨willing, reading, 5⟩] =
        [some (1, 1, "primary"), some (1, 1, "primary")] := by
  obtain ⟨resume, delivered⟩ :=
    (AffinityRouter.route_consuming_iff willing duo reading 1 primary).mpr primary_best
  refine ⟨resume, delivered, ?_⟩
  apply topology_stable duo_moderate delivered
  intro q member
  have cases : q = ⟨willing, reading, 3⟩ ∨ q = ⟨willing, reading, 5⟩ := by simpa using member
  rcases cases with rfl | rfl <;> exact ⟨rfl, fun _ _ => ⟨rfl, rfl⟩⟩

end Jackfield
