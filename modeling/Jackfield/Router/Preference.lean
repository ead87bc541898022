/-
# Jackfield.Router.Preference -- what a stronger preference does to the ranking

A candidate stands in the plan behind those that outrank it, so a score that rises,
while everything else stays, moves its entry no further back (`position_le`).  A
preferred dimension that scores adds its weight, times the score, to a sum; so with a
larger weight the sum is larger -- in exact arithmetic.

In floating point the sum may leave the range, and `clamp` then puts `0.0` in its
place: two weights that are finite each can add up to nothing, and a preference that
grows can send its consumer to the back of the plan (`stronger_preference_ranks_lower`).
As long as it does not change whether the sum is finite, it moves the consumer no
further back: `stronger_preference`.
-/
import Jackfield.Lib.Overflow
import Jackfield.Router.Outcome

namespace Jackfield

set_option autoImplicit false

variable {F I M C : Type}

/-- The entry with another weight on its `k`-th dimension. -/
def RegistrationEntry.reweigh (entry : RegistrationEntry F I M C) (k : Nat) (weight : F) :
    RegistrationEntry F I M C :=
  { entry with dims := entry.dims.modify k fun de => { de with state := { de.state with weight := weight } } }

/-- The registry with another weight on the `k`-th dimension of the `i`-th entry. -/
def Registry.reweigh (r : Registry F I M C) (i k : Nat) (weight : F) : Registry F I M C :=
  { r with entries := r.entries.modify i fun entry => entry.reweigh k weight }

/-- Only the `k`-th dimension changes. -/
theorem reweigh_dims {entry : RegistrationEntry F I M C} {k : Nat} {de : DimEntry F I M}
    (at_k : entry.dims[k]? = some de) (weight : F) :
    ∃ before after, entry.dims = before ++ de :: after ∧
      (entry.reweigh k weight).dims =
        before ++ { de with state := { de.state with weight := weight } } :: after := by
  obtain ⟨inRange, same⟩ := List.getElem?_eq_some_iff.mp at_k
  refine ⟨entry.dims.take k, entry.dims.drop (k + 1), ?_, ?_⟩
  · rw [← same, List.getElem_cons_drop, List.take_append_drop]
  · rw [RegistrationEntry.reweigh, List.modify_eq_take_cons_drop inRange, same]

namespace Registry

variable [F32 F] [Message M]

/-- Where the `i`-th entry stands in the order of the plan. -/
def position (r : Registry F I M C) (envelope : Envelope M) (i : Nat) : Option Nat :=
  (r.plan envelope).qualified.findIdx? fun c => c.idx == i

theorem position_cut {r : Registry F I M C} {envelope : Envelope M} {before after : List (Candidate F)}
    {c : Candidate F} (cut : (r.plan envelope).qualified = before ++ c :: after) :
    r.position envelope c.idx = some before.length := by
  have distinct := r.plan_idx_ne envelope
  rw [cut] at distinct
  rw [position, cut]
  exact findIdx?_idx distinct

/-- With that weight on its `k`-th dimension, the `i`-th entry stands no further back. -/
def RanksNoLower (r : Registry F I M C) (envelope : Envelope M) (i k : Nat) (weight : F) : Prop :=
  ∀ p, r.position envelope i = some p →
    ∃ p', (r.reweigh i k weight).position envelope i = some p' ∧ p' ≤ p

/-- The plan is cut where an entry stands. -/
theorem cut_of_position {r : Registry F I M C} {envelope : Envelope M} {i p : Nat}
    (stands : r.position envelope i = some p) :
    ∃ before c after, (r.plan envelope).qualified = before ++ c :: after ∧ c.idx = i ∧
      before.length = p := by
  obtain ⟨inRange, found, -⟩ := List.findIdx?_eq_some_iff_getElem.mp stands
  obtain ⟨before, after, cut⟩ := List.append_of_mem (List.getElem_mem inRange)
  have same : ((r.plan envelope).qualified[p]).idx = i := by simpa using found
  have again := position_cut cut
  rw [same, stands] at again
  exact ⟨before, _, after, cut, same, (Option.some.inj again).symm⟩

omit [Message M] in
/-- Who outranks a candidate also outranks it at a lower score. -/
theorem outranks_of_le {a b b' : Candidate F} (ranked : a.Outranks b') (lower : b.score ≤ b'.score)
    (sameId : b'.id = b.id) (sameIdx : b'.idx = b.idx) : a.Outranks b := by
  rcases ranked with better | ⟨tie, first⟩
  · exact Or.inl (lt_of_le_of_lt lower better)
  · rcases lt_or_eq_of_le lower with less | same
    · exact Or.inl (tie ▸ less)
    · right
      rw [sameId, sameIdx] at first
      exact ⟨same.trans tie, first⟩

/-- **An entry that scores no lower stands no further back.** -/
theorem position_le {r r' : Registry F I M C} {envelope : Envelope M} {i p : Nat}
    {entry entry' : RegistrationEntry F I M C} (at_i : r.entries[i]? = some entry)
    (changed : r'.entries = r.entries.set i entry') (sameId : entry'.id = entry.id)
    (sameVerdict : BlindRouter.hardRejected envelope entry' = BlindRouter.hardRejected envelope entry)
    (gains : affinity envelope entry ≤ affinity envelope entry')
    (stands : r.position envelope i = some p) : ∃ p', r'.position envelope i = some p' ∧ p' ≤ p := by
  obtain ⟨before, c, after, cut, rfl, rfl⟩ := cut_of_position stands
  have listed : c ∈ (r.plan envelope).qualified := by
    rw [cut]
    simp
  obtain ⟨kept, isC⟩ := of_mem_qualified listed at_i
  have inRange : c.idx < r.entries.length := (List.getElem?_eq_some_iff.mp at_i).1
  have at_i' : r'.entries[c.idx]? = some entry' := by
    rw [changed, List.getElem?_set_self inRange]
  have listed' : Candidate.of envelope c.idx entry' ∈ (r'.plan envelope).qualified :=
    (r'.mem_qualified envelope _).mpr ⟨entry', at_i', sameVerdict.trans kept, rfl⟩
  obtain ⟨before', after', cut'⟩ := List.append_of_mem listed'
  have stands' : r'.position envelope (Candidate.of envelope c.idx entry').idx = some before'.length :=
    position_cut cut'
  refine ⟨before'.length, stands', ?_⟩
  have sorted := r.plan_pairwise envelope
  have sorted' := r'.plan_pairwise envelope
  rw [cut] at sorted
  rw [cut'] at sorted'
  -- whoever stands before it now stood before it then
  have subset : before' ⊆ before := by
    intro b inBefore'
    obtain ⟨inList', ahead'⟩ := (Ranking.mem_before_iff (fun _ _ h => h.asymm) sorted').mp inBefore'
    have apart : b.idx ≠ c.idx := by
      have distinct := r'.plan_idx_ne envelope
      rw [cut'] at distinct
      exact (List.pairwise_append.mp distinct).2.2 b inBefore' (Candidate.of envelope c.idx entry') (by simp)
    rw [← cut'] at inList'
    obtain ⟨other, at_b, keptB, isB⟩ := (r'.mem_qualified envelope b).mp inList'
    rw [changed, List.getElem?_set_ne (Ne.symm apart)] at at_b
    have inList : b ∈ (r.plan envelope).qualified :=
      (r.mem_qualified envelope b).mpr ⟨other, at_b, keptB, isB⟩
    rw [cut] at inList
    refine (Ranking.mem_before_iff (fun _ _ h => h.asymm) sorted).mpr ⟨inList, ?_⟩
    rw [isC]
    exact outranks_of_le ahead' gains sameId rfl
  have nodup : before'.Nodup := by
    apply (List.pairwise_append.mp sorted').1.imp
    rintro a b ranked rfl
    exact ranked.asymm ranked
  exact (List.subperm_of_subset nodup subset).length_le

end Registry

/-! ## Sums that overflow -/

section Sums

theorem isFinite_of_sumScores {envelope : Envelope M} (dims : List (DimEntry Overflowing I M))
    {total : Overflowing} (isFin : (sumScores envelope dims total).isFinite = true) :
    total.isFinite = true := by
  induction dims generalizing total with
  | nil => exact isFin
  | cons de rest ih =>
      rw [sumScores, List.foldl_cons] at isFin
      have next := ih isFin
      split at next
      · exact next
      · exact (Overflowing.isFinite_of_add next).1

/-- A sum started higher ends no lower, while nothing overflows. -/
theorem sumScores_mono {envelope : Envelope M} (dims : List (DimEntry Overflowing I M))
    {total total' : Overflowing} (le : total ≤ total')
    (isFin : (sumScores envelope dims total).isFinite = true)
    (isFin' : (sumScores envelope dims total').isFinite = true) :
    sumScores envelope dims total ≤ sumScores envelope dims total' := by
  induction dims generalizing total total' with
  | nil => exact le
  | cons de rest ih =>
      rw [sumScores, List.foldl_cons] at isFin isFin' ⊢
      rw [sumScores, List.foldl_cons]
      have next := isFinite_of_sumScores _ isFin
      have next' := isFinite_of_sumScores _ isFin'
      refine ih ?_ isFin isFin'
      split
      · exact le
      · rename_i s scores
        rw [scores] at next next'
        exact Overflowing.add_le_add le next next'

/-- A larger weight on a dimension that scores gives no smaller a sum, while nothing overflows. -/
theorem sumScores_reweigh {envelope : Envelope M} {entry : RegistrationEntry Overflowing I M C} {k : Nat}
    {de : DimEntry Overflowing I M} {s weight : Overflowing} (at_k : entry.dims[k]? = some de)
    (scores : de.dim.evaluate envelope de.state = .score s)
    (scores' : de.dim.evaluate envelope { de.state with weight := weight } = .score s)
    (nonneg : F32.lit 0 ≤ s) (larger : de.state.weight ≤ weight) {total : Overflowing}
    (isFin : (sumScores envelope entry.dims total).isFinite = true)
    (isFin' : (sumScores envelope (entry.reweigh k weight).dims total).isFinite = true) :
    sumScores envelope entry.dims total ≤ sumScores envelope (entry.reweigh k weight).dims total := by
  obtain ⟨before, after, cut, cut'⟩ := reweigh_dims at_k weight
  rw [cut] at isFin ⊢
  rw [cut'] at isFin' ⊢
  simp only [sumScores, List.foldl_append, List.foldl_cons, scores, scores'] at isFin isFin' ⊢
  have next := isFinite_of_sumScores after isFin
  have next' := isFinite_of_sumScores after isFin'
  refine sumScores_mono after ?_ isFin isFin'
  rw [Overflowing.add_comm _ (_ * s), Overflowing.add_comm _ (weight * s)]
  rw [Overflowing.add_comm] at next next'
  exact Overflowing.add_le_add
    (Overflowing.mul_le_mul larger nonneg (Overflowing.isFinite_of_add next).1
      (Overflowing.isFinite_of_add next').1) next next'

variable [Message M]

omit [Message M] in
/-- Preferences do not count for hard rejection. -/
theorem hardRejected_reweigh (envelope : Envelope M) {entry : RegistrationEntry Overflowing I M C} {k : Nat}
    {de : DimEntry Overflowing I M} (at_k : entry.dims[k]? = some de) (preferred : de.rejectOnMiss = false)
    (weight : Overflowing) :
    BlindRouter.hardRejected envelope (entry.reweigh k weight) = BlindRouter.hardRejected envelope entry := by
  obtain ⟨before, after, cut, cut'⟩ := reweigh_dims at_k weight
  rw [BlindRouter.hardRejected, BlindRouter.hardRejected, cut', cut, List.filter_append, List.filter_append,
    List.filter_cons_of_neg (by simp [preferred]), List.filter_cons_of_neg (by simp [preferred])]

/-- **A stronger preference ranks no lower, while the sum stays finite or stays not.**  In
every registry, for every envelope: when the preferred dimension `k` of the entry `i`
scores `s`, not negative, a larger finite weight on it that does not change whether
the entry's sum is finite moves the entry to no later position in the plan. -/
theorem stronger_preference (r : Registry Overflowing I M C) (envelope : Envelope M) (i k : Nat)
    {entry : RegistrationEntry Overflowing I M C} {de : DimEntry Overflowing I M} {s weight : Overflowing}
    (at_i : r.entries[i]? = some entry) (at_k : entry.dims[k]? = some de)
    (preferred : de.rejectOnMiss = false) (scores : de.dim.evaluate envelope de.state = .score s)
    (scores' : de.dim.evaluate envelope { de.state with weight := weight } = .score s)
    (nonneg : F32.lit 0 ≤ s) (larger : de.state.weight < weight)
    (steady : (sumScores envelope (entry.reweigh k weight).dims (F32.lit 0)).isFinite =
      (sumScores envelope entry.dims (F32.lit 0)).isFinite) :
    r.RanksNoLower envelope i k weight := by
  intro p stands
  have changed : (r.reweigh i k weight).entries = r.entries.set i (entry.reweigh k weight) := by
    obtain ⟨inRange, same⟩ := List.getElem?_eq_some_iff.mp at_i
    rw [Registry.reweigh, List.modify_eq_set_getElem?, at_i]
    rfl
  apply Registry.position_le at_i changed rfl (hardRejected_reweigh envelope at_k preferred weight) _ stands
  show Registry.clamp _ ≤ Registry.clamp _
  unfold Registry.clamp
  cases isFin : (sumScores envelope entry.dims (F32.lit 0)).isFinite with
  | false =>
      rw [isFin] at steady
      have clamped : F32.isFinite (sumScores envelope entry.dims (F32.lit 0)) = false := isFin
      have clamped' : F32.isFinite (sumScores envelope (entry.reweigh k weight).dims (F32.lit 0)) = false :=
        steady
      rw [clamped, clamped']
      exact le_refl _
  | true =>
      rw [isFin] at steady
      have kept : F32.isFinite (sumScores envelope entry.dims (F32.lit 0)) = true := isFin
      have kept' : F32.isFinite (sumScores envelope (entry.reweigh k weight).dims (F32.lit 0)) = true := steady
      rw [kept, kept']
      exact sumScores_reweigh at_k scores scores' nonneg larger.le isFin steady

end Sums

/-! ## Beyond the range -/

/-- A consumer with two preferences, of weights `v` and `w`, and one with a single
preference of weight one; all of them match anything. -/
def heavy (v w : ℚ) : RegistrationEntry Overflowing Unit BaseMessage String :=
  ⟨0, "heavy", [⟨(ProducerDim.noneOf []).toDimension, ⟨.ofRat v, ()⟩, false⟩,
    ⟨(SizeDim.atMost 16).toDimension, ⟨.ofRat w, ()⟩, false⟩]⟩

def light : RegistrationEntry Overflowing Unit BaseMessage String :=
  ⟨1, "light", [⟨(ProducerDim.noneOf []).toDimension, ⟨.ofRat 1, ()⟩, false⟩]⟩

def scales (v w : ℚ) : Registry Overflowing Unit BaseMessage String := ⟨[heavy v w, light], 2⟩

/-- A preference raised from `0.0` to `f32::MAX`, next to another of that weight, sends its
consumer from the front of the plan to its end: the sum is not finite and counts as `0.0`. -/
theorem stronger_preference_ranks_lower :
    ¬ ∀ (r : Registry Overflowing Unit BaseMessage String) (envelope : Envelope BaseMessage) (i k : Nat)
        (entry : RegistrationEntry Overflowing Unit BaseMessage String)
        (de : DimEntry Overflowing Unit BaseMessage) (s weight : Overflowing),
      r.entries[i]? = some entry → entry.dims[k]? = some de → de.rejectOnMiss = false →
      de.dim.evaluate envelope de.state = .score s →
      de.dim.evaluate envelope { de.state with weight := weight } = .score s →
      F32.lit 0 ≤ s → de.state.weight.isFinite = true → weight.isFinite = true →
      de.state.weight < weight → r.RanksNoLower envelope i k weight := by
  intro law
  have lower := law (scales maxFinite 0) reading 0 1 _ _ (.ofRat 1) (.ofRat maxFinite) rfl rfl rfl rfl rfl
    (by decide +kernel) (by decide +kernel) (by decide +kernel) (by decide +kernel)
  have front : (scales maxFinite 0).position reading 0 = some 0 := by decide +kernel
  have back : ((scales maxFinite 0).reweigh 0 1 (.ofRat maxFinite)).position reading 0 = some 1 := by
    decide +kernel
  obtain ⟨p', stands, le⟩ := lower 0 front
  rw [back] at stands
  cases stands
  omega

/-- Raised from one to two, it keeps its consumer in front. -/
theorem stronger_preference_scales : (scales 1 1).RanksNoLower reading 0 1 (.ofRat 2) :=
  stronger_preference (scales 1 1) reading 0 1 (s := .ofRat 1) rfl rfl rfl rfl rfl (by decide +kernel)
    (by decide +kernel) (by decide +kernel)

end Jackfield
