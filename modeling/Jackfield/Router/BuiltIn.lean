/-
# Jackfield.Router.BuiltIn -- built-in dimensions judge by the envelope

A built-in dimension reads the origin, the labels and the size of the envelope,
and never its own state.  So hard rejection, and with the same answers of its
consumer also eligibility, is the same for entries that differ in weights
(`eligible_congr`) and for envelopes that agree in those three
(`eligible_alike`), and so are the scores (`affinity_alike`).
-/
import Jackfield.Router.Selection

namespace Jackfield

set_option autoImplicit false

variable {F I M C : Type} [F32 F] [Inhabited I] [Message M]

/-! ## Whatever the state -/

def RegistrationEntry.BuiltIn (entry : RegistrationEntry F I M C) : Prop :=
  ∀ de ∈ entry.dims, de.dim.BuiltIn

/-- Hard rejection is the same in every dimension state. -/
theorem hardRejected_eq (envelope : Envelope M) {entry : RegistrationEntry F I M C}
    (builtIn : entry.BuiltIn) :
    BlindRouter.hardRejected envelope entry =
      entry.skeleton.2.2.any fun d =>
        d.2 && (d.1.evaluate envelope ⟨F32.lit 0, default⟩).isReject := by
  rw [BlindRouter.hardRejected, List.any_filter, RegistrationEntry.skeleton, List.any_map]
  rw [Bool.eq_iff_iff, List.any_eq_true, List.any_eq_true]
  apply exists_congr
  intro de
  apply and_congr_right
  intro member
  rcases (builtIn de member).evaluate_cases envelope with rejects | scores
  · simp only [Function.comp_apply, rejects]
  · simp only [Function.comp_apply, scores]

theorem builtIn_congr {entry entry' : RegistrationEntry F I M C}
    (same : entry'.skeleton = entry.skeleton) (builtIn : entry.BuiltIn) : entry'.BuiltIn := by
  intro de member
  have listed : (de.dim, de.rejectOnMiss) ∈ entry'.skeleton.2.2 :=
    List.mem_map_of_mem (f := fun de : DimEntry F I M => (de.dim, de.rejectOnMiss)) member
  rw [same] at listed
  obtain ⟨de', member', sameDim⟩ := List.mem_map.mp listed
  rw [← (Prod.mk.inj sameDim).1]
  exact builtIn de' member'

/-- So eligibility depends on an entry up to dimension states. -/
theorem eligible_congr (consumer : Consumer M C) (envelope : Envelope M)
    {entry entry' : RegistrationEntry F I M C} (same : entry'.skeleton = entry.skeleton)
    (builtIn : entry.BuiltIn) :
    Eligible consumer envelope entry' ↔ Eligible consumer envelope entry := by
  have sameConsumer : entry'.consumer = entry.consumer := congrArg (fun s => s.2.1) same
  have sameVerdict : BlindRouter.hardRejected envelope entry' = BlindRouter.hardRejected envelope entry := by
    rw [hardRejected_eq envelope builtIn, hardRejected_eq envelope (builtIn_congr same builtIn), same]
  constructor
  · rintro ⟨qualified, available, valid⟩
    exact ⟨sameVerdict ▸ qualified, sameConsumer ▸ available, sameConsumer ▸ valid⟩
  · rintro ⟨qualified, available, valid⟩
    exact ⟨sameVerdict.symm ▸ qualified, sameConsumer.symm ▸ available, sameConsumer.symm ▸ valid⟩

/-! ## Registries of the same shape -/

theorem builtIn_sameShape {r r' : Registry F I M C} (builtIn : ∀ entry ∈ r.entries, entry.BuiltIn)
    (shape : r.SameShape r') : ∀ entry ∈ r'.entries, entry.BuiltIn := by
  intro entry' member
  obtain ⟨entry, inEntries, same⟩ := shape.mem member
  exact builtIn_congr same (builtIn entry inEntries)

/-- An envelope nobody is eligible for has no taker in any registry of the same shape. -/
theorem ineligible_sameShape {consumer : Consumer M C} {e : Envelope M} {r r' : Registry F I M C}
    (builtIn : ∀ entry ∈ r.entries, entry.BuiltIn) (shape : r.SameShape r')
    (nobody : ∀ entry ∈ r.entries, ¬ Eligible consumer e entry) :
    ∀ entry ∈ r'.entries, ¬ Eligible consumer e entry := by
  intro entry' member eligible
  obtain ⟨entry, inEntries, same⟩ := shape.mem member
  exact nobody entry inEntries ((eligible_congr consumer e same (builtIn entry inEntries)).mp eligible)

/-! ## Envelopes that agree in origin, labels and size -/

theorem Dimension.BuiltIn.evaluate_alike {d : Dimension F I M} (builtIn : d.BuiltIn)
    {envelope envelope' : Envelope M}
    (alike : EventMeta.fromEnvelope envelope' = EventMeta.fromEnvelope envelope) (state : DimState F I) :
    d.evaluate envelope' state = d.evaluate envelope state := by
  obtain ⟨origin, labels, size⟩ := EventMeta.mk.inj alike
  cases builtIn with
  | producer d => simp only [ProducerDim.toDimension, ProducerDim.evaluate, origin]
  | label d => simp only [LabelDim.toDimension, LabelDim.evaluate, labels]
  | size d => simp only [SizeDim.toDimension, SizeDim.evaluate, size]

theorem affinity_alike {entry : RegistrationEntry F I M C} (builtIn : entry.BuiltIn)
    {envelope envelope' : Envelope M}
    (alike : EventMeta.fromEnvelope envelope' = EventMeta.fromEnvelope envelope) :
    affinity envelope' entry = affinity envelope entry := by
  have total : sumScores envelope' entry.dims (F32.lit 0) = sumScores envelope entry.dims (F32.lit 0) := by
    unfold sumScores
    apply List.foldl_ext
    intro total de member
    rw [(builtIn de member).evaluate_alike alike]
  unfold affinity
  rw [total]

theorem hardRejected_alike {entry : RegistrationEntry F I M C} (builtIn : entry.BuiltIn)
    {envelope envelope' : Envelope M}
    (alike : EventMeta.fromEnvelope envelope' = EventMeta.fromEnvelope envelope) :
    BlindRouter.hardRejected envelope' entry = BlindRouter.hardRejected envelope entry := by
  unfold BlindRouter.hardRejected
  rw [Bool.eq_iff_iff, List.any_eq_true, List.any_eq_true]
  apply exists_congr
  intro de
  apply and_congr_right
  intro member
  rw [(builtIn de (List.mem_filter.mp member).1).evaluate_alike alike]

theorem eligible_alike {entry : RegistrationEntry F I M C} (builtIn : entry.BuiltIn)
    {consumer consumer' : Consumer M C} {envelope envelope' : Envelope M}
    (alike : EventMeta.fromEnvelope envelope' = EventMeta.fromEnvelope envelope)
    (available : consumer'.available entry.consumer = consumer.available entry.consumer)
    (valid : consumer'.validate entry.consumer envelope' = consumer.validate entry.consumer envelope) :
    Eligible consumer' envelope' entry ↔ Eligible consumer envelope entry := by
  have rejected := hardRejected_alike builtIn alike
  constructor
  · intro eligible
    exact ⟨rejected ▸ eligible.qualified, available ▸ eligible.available, valid ▸ eligible.valid⟩
  · intro eligible
    exact ⟨rejected.symm ▸ eligible.qualified, available.symm ▸ eligible.available,
      valid.symm ▸ eligible.valid⟩

end Jackfield
