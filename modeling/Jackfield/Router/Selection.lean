/-
# Jackfield.Router.Selection -- which consumer a router picks

The specification first, in terms of the registry alone.  An entry is `Eligible`
for an envelope when no required dimension rejects it and its consumer answers
yes twice; its `affinity` is the sum of weight times score, or zero where that is
not finite; entries are compared by `Outranks`: higher affinity, then lower id, then -- for ids that
wrapped round and met again -- the earlier entry.

Then the code.  `plan_pairwise` says the plan lists the qualified entries in that
order, `AffinityRouter.route_cases` says everything one affinity routing can do,
and from these

* `AffinityRouter.route_consuming_iff`: the winner is the eligible entry that
  outranks every other eligible entry, and
* `BlindRouter.route_consuming_iff`: the blind router takes the first one.
-/
import Jackfield.Lib.Ranking
import Jackfield.Registry.Registration
import Jackfield.Router.Router

namespace Jackfield

set_option autoImplicit false

variable {F I M C : Type} [F32 F]

/-! ## The specification -/

/-- The dimensions that score, each adding weight times score, in order. -/
def sumScores (envelope : Envelope M) (dims : List (DimEntry F I M)) (total : F) : F :=
  dims.foldl (fun total de =>
    match de.dim.evaluate envelope de.state with
    | .reject => total
    | .score s => total + de.state.weight * s) total

/-- The score of a consumer for an envelope: the sum where it is finite, and zero
where it is not. -/
def affinity (envelope : Envelope M) (entry : RegistrationEntry F I M C) : F :=
  let total := sumScores envelope entry.dims (F32.lit 0)
  if F32.isFinite total then total else F32.lit 0

/-- No required dimension rejects, and the consumer answers yes twice. -/
structure Eligible (consumer : Consumer M C) (envelope : Envelope M)
    (entry : RegistrationEntry F I M C) : Prop where
  qualified : BlindRouter.hardRejected envelope entry = false
  available : consumer.available entry.consumer = true
  valid : consumer.validate entry.consumer envelope = true

/-- The order of the plan, on entries with their indices. -/
def Outranks (envelope : Envelope M) (a b : Nat × RegistrationEntry F I M C) : Prop :=
  affinity envelope b.2 < affinity envelope a.2 ∨
    (affinity envelope b.2 = affinity envelope a.2 ∧
      (a.2.id < b.2.id ∨ (a.2.id = b.2.id ∧ a.1 < b.1)))

/-! ## The plan -/

/-- The candidate an entry at an index stands as. -/
def Candidate.of (envelope : Envelope M) (i : Nat) (entry : RegistrationEntry F I M C) :
    Candidate F :=
  ⟨affinity envelope entry, entry.id, i⟩

/-- `Outranks`, read off the candidates. -/
def Candidate.Outranks (a b : Candidate F) : Prop :=
  b.score < a.score ∨ (b.score = a.score ∧ (a.id < b.id ∨ (a.id = b.id ∧ a.idx < b.idx)))

theorem Candidate.Outranks.asymm {a b : Candidate F} (h : a.Outranks b) : ¬ b.Outranks a := by
  rintro (worse | ⟨same, rest⟩) <;> rcases h with better | ⟨same', rest'⟩
  · exact lt_asymm better worse
  · exact worse.ne' same'
  · exact better.ne' same
  · omega

theorem Candidate.of_outranks_iff (envelope : Envelope M) (i j : Nat)
    (a b : RegistrationEntry F I M C) :
    (Candidate.of envelope i a).Outranks (Candidate.of envelope j b) ↔
      Jackfield.Outranks envelope (i, a) (j, b) := Iff.rfl

theorem Outranks.asymm {envelope : Envelope M} {a b : Nat × RegistrationEntry F I M C}
    (h : Outranks envelope a b) : ¬ Outranks envelope b a := by
  intro back
  have ahead := (Candidate.of_outranks_iff envelope a.1 b.1 a.2 b.2).mpr h
  exact ahead.asymm ((Candidate.of_outranks_iff envelope b.1 a.1 b.2 a.2).mpr back)

namespace Registry

theorem before_total (a b : Candidate F) : a.before b ∨ b.before a := by
  unfold Candidate.before
  rcases lt_trichotomy a.score b.score with less | same | more
  · exact Or.inr (Or.inl less)
  · rw [same]
    have : a.id ≤ b.id ∨ b.id ≤ a.id := by omega
    rcases this with le | ge
    · exact Or.inl (Or.inr ⟨rfl, le⟩)
    · exact Or.inr (Or.inr ⟨rfl, ge⟩)
  · exact Or.inl (Or.inl more)

theorem before_trans (a b c : Candidate F) (ab : a.before b) (bc : b.before c) : a.before c := by
  unfold Candidate.before at *
  rcases ab with ab | ⟨ab, idab⟩ <;> rcases bc with bc | ⟨bc, idbc⟩
  · exact Or.inl (bc.trans ab)
  · exact Or.inl (bc ▸ ab)
  · exact Or.inl (ab ▸ bc)
  · exact Or.inr ⟨bc.trans ab, by omega⟩

/-- The early break loses nothing: the loop gives the whole sum, or stops at a rejection. -/
theorem scoreDims_eq (envelope : Envelope M) (dims : List (DimEntry F I M)) (total : F) :
    scoreDims envelope dims total =
      if (dims.filter fun de => de.rejectOnMiss).any
          fun de => (de.dim.evaluate envelope de.state).isReject
      then none else some (sumScores envelope dims total) := by
  induction dims generalizing total with
  | nil => rfl
  | cons de rest ih =>
      rw [scoreDims, sumScores, List.foldl_cons]
      cases verdict : de.dim.evaluate envelope de.state with
      | reject =>
          cases required : de.rejectOnMiss with
          | true => simp [required, verdict, Verdict.isReject]
          | false => simpa [required, sumScores] using ih total
      | score s =>
          have tail := ih (total + de.state.weight * s)
          cases required : de.rejectOnMiss with
          | true => simpa [required, verdict, Verdict.isReject, sumScores] using tail
          | false => simpa [required, sumScores] using tail

theorem candidate_eq (envelope : Envelope M) (entry : RegistrationEntry F I M C) (i : Nat) :
    candidate envelope entry i =
      if BlindRouter.hardRejected envelope entry then none
      else some (Candidate.of envelope i entry) := by
  rw [candidate, scoreDims_eq, BlindRouter.hardRejected]
  split
  · rfl
  · rfl

variable [Message M]

/-- The plan lists exactly the entries no required dimension rejects. -/
theorem mem_qualified (r : Registry F I M C) (envelope : Envelope M) (c : Candidate F) :
    c ∈ (r.plan envelope).qualified ↔
      ∃ entry, r.entries[c.idx]? = some entry ∧ BlindRouter.hardRejected envelope entry = false ∧
        c = Candidate.of envelope c.idx entry := by
  simp only [plan, List.mem_insertionSort, List.mem_filterMap, List.mem_zipIdx_iff_getElem?]
  constructor
  · rintro ⟨⟨entry, i⟩, at_i, found⟩
    rw [candidate_eq] at found
    split at found
    · cases found
    · rename_i kept
      cases found
      exact ⟨entry, at_i, by simpa using kept, rfl⟩
  · rintro ⟨entry, at_i, kept, same⟩
    refine ⟨(entry, c.idx), at_i, ?_⟩
    rw [candidate_eq, kept]
    exact congrArg some same.symm

/-- A candidate of the plan stands for the entry at its index. -/
theorem of_mem_qualified {r : Registry F I M C} {envelope : Envelope M} {c : Candidate F}
    {entry : RegistrationEntry F I M C} (member : c ∈ (r.plan envelope).qualified)
    (found : r.entries[c.idx]? = some entry) :
    BlindRouter.hardRejected envelope entry = false ∧ c = Candidate.of envelope c.idx entry := by
  obtain ⟨entry', found', kept, same⟩ := (r.mem_qualified envelope c).mp member
  rw [found] at found'
  cases found'
  exact ⟨kept, same⟩

/-- **The plan is in ranking order.** -/
theorem plan_pairwise (r : Registry F I M C) (envelope : Envelope M) :
    (r.plan envelope).qualified.Pairwise Candidate.Outranks := by
  have inOrder : (r.entries.zipIdx.filterMap fun e => candidate envelope e.1 e.2).Pairwise
      fun a b => a.idx < b.idx := by
    apply (Ranking.pairwise_zipIdx r.entries).filterMap
    intro a b less x fromA y fromB
    rw [candidate_eq] at fromA fromB
    split at fromA <;> split at fromB <;> cases fromA <;> cases fromB
    exact less
  apply (Ranking.pairwise_insertionSort_stable _ _ before_total before_trans _ inOrder).imp
  rintro a b ⟨ahead, tie⟩
  rcases ahead with better | ⟨same, idLe⟩
  · exact Or.inl better
  · right
    refine ⟨same, ?_⟩
    by_cases eq : a.id = b.id
    · -- equal score and id: the sort keeps the order of the vector
      exact Or.inr ⟨eq, tie (Or.inr ⟨same.symm, by omega⟩)⟩
    · exact Or.inl (by omega)

end Registry

/-! ## The affinity router -/

namespace AffinityRouter

/-- A candidate the scan passes over: its consumer is busy or vetoes. -/
def PassedOver (consumer : Consumer M C) (entries : List (RegistrationEntry F I M C))
    (envelope : Envelope M) (c : Candidate F) : Prop :=
  ∃ entry, entries[c.idx]? = some entry ∧
    ¬ (consumer.available entry.consumer = true ∧ consumer.validate entry.consumer envelope = true)

/-- What the scan notes of a candidate it passes over: `true` for busy. -/
def noted (consumer : Consumer M C) (entries : List (RegistrationEntry F I M C))
    (c : Candidate F) : Nat × Bool :=
  (c.idx, (entries[c.idx]?).any fun entry => !consumer.available entry.consumer)

omit [F32 F] in
theorem scan_cases (consumer : Consumer M C) (entries : List (RegistrationEntry F I M C))
    (envelope : Envelope M) (l : List (Candidate F))
    (inRange : ∀ c ∈ l, ∃ entry, entries[c.idx]? = some entry) (pre : List (Nat × Bool)) :
    (∃ before c after entry, l = before ++ c :: after ∧ entries[c.idx]? = some entry ∧
        consumer.available entry.consumer = true ∧
        consumer.validate entry.consumer envelope = true ∧
        (∀ b ∈ before, PassedOver consumer entries envelope b) ∧
        scan consumer entries envelope l pre =
          (pre ++ before.map (noted consumer entries), some (c.idx, entry))) ∨
      ((∀ b ∈ l, PassedOver consumer entries envelope b) ∧
        scan consumer entries envelope l pre = (pre ++ l.map (noted consumer entries), none)) := by
  induction l generalizing pre with
  | nil => exact Or.inr ⟨by simp, by simp [scan]⟩
  | cons c rest ih =>
      obtain ⟨entry, found⟩ := inRange c (by simp)
      have restInRange : ∀ b ∈ rest, ∃ entry, entries[b.idx]? = some entry := by
        intro b member
        exact inRange b (by simp [member])
      by_cases takes : consumer.available entry.consumer = true ∧
          consumer.validate entry.consumer envelope = true
      · refine Or.inl ⟨[], c, rest, entry, rfl, found, takes.1, takes.2, by simp, ?_⟩
        simp [scan, found, takes.1, takes.2]
      · -- busy or vetoing: noted, and the scan goes on
        have goesOn : scan consumer entries envelope (c :: rest) pre =
            scan consumer entries envelope rest (pre ++ [noted consumer entries c]) := by
          rw [not_and_or] at takes
          by_cases busy : consumer.available entry.consumer = true
          · have vetoes := takes.resolve_left (by simpa using busy)
            simp [scan, found, busy, vetoes, noted]
          · simp [scan, found, busy, noted]
        rw [goesOn]
        have here : PassedOver consumer entries envelope c := ⟨entry, found, takes⟩
        rcases ih restInRange (pre ++ [noted consumer entries c]) with
          ⟨before, w, after, won, cut, at_w, avail, valid, passed, result⟩ | ⟨passed, result⟩
        · refine Or.inl ⟨c :: before, w, after, won, by rw [cut]; rfl, at_w, avail, valid, ?_, ?_⟩
          · simpa using ⟨here, passed⟩
          · rw [result]; simp
        · refine Or.inr ⟨by simpa using ⟨here, passed⟩, ?_⟩
          rw [result]; simp

variable [Message M]

theorem qualified_inRange (r : Registry F I M C) (envelope : Envelope M) :
    ∀ c ∈ (r.plan envelope).qualified, ∃ entry, r.entries[c.idx]? = some entry := by
  intro c member
  obtain ⟨entry, found, -⟩ := (r.mem_qualified envelope c).mp member
  exact ⟨entry, found⟩

/-- **Everything one affinity routing does**: it stops at the first candidate of
the plan whose consumer takes the message, or at none. -/
theorem route_cases (consumer : Consumer M C) (r : Registry F I M C) (envelope : Envelope M) :
    (∃ before c after entry, (r.plan envelope).qualified = before ++ c :: after ∧
        r.entries[c.idx]? = some entry ∧ Eligible consumer envelope entry ∧
        (∀ b ∈ before, PassedOver consumer r.entries envelope b) ∧
        route consumer r envelope =
          .consuming c.idx entry fun latency =>
            (r.observe (r.plan envelope) (some c.idx)
              (before.map (noted consumer r.entries))).observeConsumed c.idx
                (r.plan envelope).eventMeta latency) ∨
      ((∀ b ∈ (r.plan envelope).qualified, PassedOver consumer r.entries envelope b) ∧
        route consumer r envelope =
          .unhandled (r.observe (r.plan envelope) none
            ((r.plan envelope).qualified.map (noted consumer r.entries))) envelope) := by
  rcases scan_cases consumer r.entries envelope _ (qualified_inRange r envelope) [] with
    ⟨before, c, after, entry, cut, found, avail, valid, passed, result⟩ | ⟨passed, result⟩
  · refine Or.inl ⟨before, c, after, entry, cut, found, ?_, passed, ?_⟩
    · have listed : c ∈ (r.plan envelope).qualified := by
        rw [cut]
        simp
      exact ⟨(Registry.of_mem_qualified listed found).1, avail, valid⟩
    · simp only [route, result, List.nil_append]
  · refine Or.inr ⟨passed, ?_⟩
    simp only [route, result, List.nil_append]

/-- An eligible entry is in the plan and is not passed over. -/
theorem not_passedOver_of_eligible {consumer : Consumer M C} {r : Registry F I M C}
    {envelope : Envelope M} {i : Nat} {entry : RegistrationEntry F I M C}
    (found : r.entries[i]? = some entry) (eligible : Eligible consumer envelope entry) :
    Candidate.of envelope i entry ∈ (r.plan envelope).qualified ∧
      ¬ PassedOver consumer r.entries envelope (Candidate.of envelope i entry) := by
  refine ⟨(r.mem_qualified envelope _).mpr ⟨entry, found, eligible.qualified, rfl⟩, ?_⟩
  rintro ⟨entry', found', refuses⟩
  have same : some entry = some entry' := found.symm.trans found'
  cases same
  exact refuses ⟨eligible.available, eligible.valid⟩

/-- **The winner is the eligible entry that outranks every other eligible one.** -/
theorem route_consuming_iff (consumer : Consumer M C) (r : Registry F I M C)
    (envelope : Envelope M) (i : Nat) (entry : RegistrationEntry F I M C) :
    (∃ resume, route consumer r envelope = .consuming i entry resume) ↔
      r.entries[i]? = some entry ∧ Eligible consumer envelope entry ∧
        ∀ j other, r.entries[j]? = some other → Eligible consumer envelope other → j ≠ i →
          Outranks envelope (i, entry) (j, other) := by
  have sorted := r.plan_pairwise envelope
  rcases route_cases consumer r envelope with
    ⟨before, c, after, won, cut, found, eligible, passed, result⟩ | ⟨passed, result⟩
  · -- the candidate the scan stopped at outranks whatever else is eligible
    rw [cut] at sorted
    have isWon : c = Candidate.of envelope c.idx won :=
      (Registry.of_mem_qualified (by rw [cut]; simp) found).2
    have best : ∀ j other, r.entries[j]? = some other → Eligible consumer envelope other →
        j ≠ c.idx → Outranks envelope (c.idx, won) (j, other) := by
      intro j other at_j otherEligible apart
      obtain ⟨listed, notPassed⟩ := not_passedOver_of_eligible at_j otherEligible
      rw [cut] at listed
      have behind : Candidate.of envelope j other ∈ after := by
        rcases List.mem_append.mp listed with inBefore | inTail
        · exact absurd (passed _ inBefore) notPassed
        · rcases List.mem_cons.mp inTail with same | inAfter
          · exact absurd (congrArg Candidate.idx same) apart
          · exact inAfter
      have ranked := (List.pairwise_cons.mp (List.pairwise_append.mp sorted).2.1).1 _ behind
      rw [isWon] at ranked
      exact ranked
    rw [result]
    constructor
    · rintro ⟨resume, same⟩
      cases same
      exact ⟨found, eligible, best⟩
    · rintro ⟨at_i, iEligible, iBest⟩
      by_cases same : i = c.idx
      · subst same
        rw [found] at at_i
        cases at_i
        exact ⟨_, rfl⟩
      · exact absurd (iBest c.idx won found eligible (Ne.symm same))
          (best i entry at_i iEligible same).asymm
  · rw [result]
    constructor
    · rintro ⟨resume, same⟩
      cases same
    · rintro ⟨at_i, iEligible, -⟩
      obtain ⟨listed, notPassed⟩ := not_passedOver_of_eligible at_i iEligible
      exact absurd (passed _ listed) notPassed

/-- The envelope comes back, unconsumed and the same, exactly when no entry is eligible. -/
theorem route_unhandled_iff (consumer : Consumer M C) (r : Registry F I M C)
    (envelope back : Envelope M) :
    (∃ r', route consumer r envelope = .unhandled r' back) ↔
      back = envelope ∧ ∀ entry ∈ r.entries, ¬ Eligible consumer envelope entry := by
  rcases route_cases consumer r envelope with
    ⟨before, c, after, won, cut, found, eligible, passed, result⟩ | ⟨passed, result⟩
  · rw [result]
    constructor
    · rintro ⟨r', same⟩
      cases same
    · rintro ⟨-, none⟩
      exact absurd eligible (none won (List.mem_of_getElem? found))
  · rw [result]
    constructor
    · rintro ⟨r', same⟩
      cases same
      refine ⟨rfl, ?_⟩
      intro entry member eligible
      obtain ⟨i, at_i⟩ := List.getElem?_of_mem member
      obtain ⟨listed, notPassed⟩ := not_passedOver_of_eligible at_i eligible
      exact notPassed (passed _ listed)
    · rintro ⟨rfl, -⟩
      exact ⟨_, rfl⟩

theorem route_sameShape (consumer : Consumer M C) (r : Registry F I M C) (envelope : Envelope M) :
    match route consumer r envelope with
    | .consuming _ _ resume => ∀ latency, r.SameShape (resume latency)
    | .unhandled r' _ => r.SameShape r' := by
  rcases route_cases consumer r envelope with
    ⟨before, c, after, entry, -, -, -, -, result⟩ | ⟨-, result⟩
  · rw [result]
    intro latency
    exact (r.observe_sameShape _ _ _).trans (Registry.deliver_sameShape _ _)
  · rw [result]
    exact r.observe_sameShape _ _ _

end AffinityRouter

/-! ## The blind router -/

namespace BlindRouter

instance (consumer : Consumer M C) (envelope : Envelope M) (entry : RegistrationEntry F I M C) :
    Decidable (Eligible consumer envelope entry) :=
  decidable_of_iff
    (hardRejected envelope entry = false ∧ consumer.available entry.consumer = true ∧
      consumer.validate entry.consumer envelope = true)
    ⟨fun h => ⟨h.1, h.2.1, h.2.2⟩, fun h => ⟨h.1, h.2, h.3⟩⟩

omit [F32 F] in
/-- The loop is a search for the first eligible entry. -/
theorem firstFit_eq (consumer : Consumer M C) (envelope : Envelope M)
    (l : List (RegistrationEntry F I M C)) (i : Nat) :
    firstFit consumer envelope l i =
      ((l.zipIdx i).find? fun e => decide (Eligible consumer envelope e.1)).map Prod.swap := by
  induction l generalizing i with
  | nil => rfl
  | cons entry rest ih =>
      rw [firstFit, List.zipIdx_cons, ih (i + 1)]
      by_cases eligible : Eligible consumer envelope entry
      · rw [List.find?_cons_of_pos (by simpa using eligible)]
        simp [eligible.qualified, eligible.available, eligible.valid]
      · rw [List.find?_cons_of_neg (by simpa using eligible)]
        by_cases qualified : hardRejected envelope entry = false
        · by_cases available : consumer.available entry.consumer = true
          · have vetoes : consumer.validate entry.consumer envelope ≠ true := by
              intro valid
              exact eligible ⟨qualified, available, valid⟩
            simp [qualified, available, vetoes]
          · simp [qualified, available]
        · simp [qualified]

omit [F32 F] in
/-- **The blind router takes the first eligible entry**, and leaves the registry alone. -/
theorem route_consuming_iff (consumer : Consumer M C) (r : Registry F I M C)
    (envelope : Envelope M) (i : Nat) (entry : RegistrationEntry F I M C) :
    (∃ resume, route consumer r envelope = .consuming i entry resume) ↔
      r.entries[i]? = some entry ∧ Eligible consumer envelope entry ∧
        ∀ j other, r.entries[j]? = some other → Eligible consumer envelope other → j ≠ i → i < j := by
  have found : firstFit consumer envelope r.entries 0 = some (i, entry) ↔
      (r.entries.zipIdx).find? (fun e => decide (Eligible consumer envelope e.1)) =
        some (entry, i) := by
    rw [firstFit_eq, Option.map_eq_some_iff]
    constructor
    · rintro ⟨⟨e, j⟩, same, swapped⟩
      cases swapped
      exact same
    · intro same
      exact ⟨(entry, i), same, rfl⟩
  have routed : (∃ resume, route consumer r envelope = .consuming i entry resume) ↔
      firstFit consumer envelope r.entries 0 = some (i, entry) := by
    unfold route
    cases firstFit consumer envelope r.entries 0 with
    | none => simp
    | some e => simp [Prod.ext_iff]
  have earlierAsymm : ∀ a b : RegistrationEntry F I M C × Nat, a.2 < b.2 → ¬ b.2 < a.2 := by
    intro a b less
    omega
  rw [routed, found,
    Ranking.find?_eq_some_iff_first earlierAsymm (Ranking.pairwise_zipIdx r.entries)]
  simp only [List.mem_zipIdx_iff_getElem?, decide_eq_true_eq]
  apply and_congr_right
  intro at_i
  apply and_congr_right
  intro _
  constructor
  · intro first j other at_j eligible apart
    rcases first (other, j) at_j eligible with same | earlier
    · exact absurd (congrArg Prod.snd same) apart
    · exact earlier
  · rintro first ⟨other, j⟩ at_j eligible
    by_cases same : j = i
    · subst same
      have : some other = some entry := at_j.symm.trans at_i
      cases this
      exact Or.inl rfl
    · exact Or.inr (first j other at_j eligible same)

omit [F32 F] in
theorem route_unhandled_iff (consumer : Consumer M C) (r : Registry F I M C)
    (envelope back : Envelope M) :
    (∃ r', route consumer r envelope = .unhandled r' back) ↔
      back = envelope ∧ ∀ entry ∈ r.entries, ¬ Eligible consumer envelope entry := by
  have none_iff : firstFit consumer envelope r.entries 0 = none ↔
      ∀ entry ∈ r.entries, ¬ Eligible consumer envelope entry := by
    rw [firstFit_eq, Option.map_eq_none_iff, List.find?_eq_none]
    constructor
    · intro none entry member
      obtain ⟨i, at_i⟩ := List.getElem?_of_mem member
      simpa using none (entry, i) (List.mem_zipIdx_iff_getElem?.mpr at_i)
    · intro none e member
      simpa using none e.1 (List.fst_mem_of_mem_zipIdx member)
  unfold route
  cases fit : firstFit consumer envelope r.entries 0 with
  | none =>
      constructor
      · rintro ⟨r', same⟩
        cases same
        exact ⟨rfl, none_iff.mp fit⟩
      · rintro ⟨rfl, -⟩
        exact ⟨_, rfl⟩
  | some e =>
      have notNone : ¬ ∀ entry ∈ r.entries, ¬ Eligible consumer envelope entry :=
        fun h => by rw [none_iff.mpr h] at fit; cases fit
      simp [notNone]

omit [F32 F] in
/-- The registry, dimension states included, is as it was. -/
theorem route_registry (consumer : Consumer M C) (r : Registry F I M C) (envelope : Envelope M) :
    match route consumer r envelope with
    | .consuming _ _ resume => ∀ latency, resume latency = r
    | .unhandled r' _ => r' = r := by
  unfold route
  cases firstFit consumer envelope r.entries 0 with
  | none => rfl
  | some e => exact fun _ => rfl

end BlindRouter

/-! ## Either router -/

/-- **Everything a `route` call does**, as far as the bus can see: it hands the
message to one eligible consumer and will leave the registry in shape, or nobody
is eligible and the same envelope comes back. -/
theorem Router.route_cases [Message M] (router : Router) (consumer : Consumer M C)
    (r : Registry F I M C) (envelope : Envelope M) :
    (∃ i entry resume, router.route consumer r envelope = .consuming i entry resume ∧
        r.entries[i]? = some entry ∧ Eligible consumer envelope entry ∧
        ∀ latency, r.SameShape (resume latency)) ∨
      (∃ r', router.route consumer r envelope = .unhandled r' envelope ∧ r.SameShape r' ∧
        ∀ entry ∈ r.entries, ¬ Eligible consumer envelope entry) := by
  cases router with
  | affinity =>
      have shape := AffinityRouter.route_sameShape consumer r envelope
      cases routed : AffinityRouter.route consumer r envelope with
      | consuming i entry resume =>
          rw [routed] at shape
          obtain ⟨found, eligible, -⟩ :=
            (AffinityRouter.route_consuming_iff consumer r envelope i entry).mp ⟨resume, routed⟩
          exact Or.inl ⟨i, entry, resume, routed, found, eligible, shape⟩
      | unhandled r' back =>
          rw [routed] at shape
          obtain ⟨rfl, none⟩ :=
            (AffinityRouter.route_unhandled_iff consumer r envelope back).mp ⟨r', routed⟩
          exact Or.inr ⟨r', routed, shape, none⟩
  | blind =>
      have same := BlindRouter.route_registry consumer r envelope
      cases routed : BlindRouter.route consumer r envelope with
      | consuming i entry resume =>
          rw [routed] at same
          obtain ⟨found, eligible, -⟩ :=
            (BlindRouter.route_consuming_iff consumer r envelope i entry).mp ⟨resume, routed⟩
          refine Or.inl ⟨i, entry, resume, routed, found, eligible, fun latency => ?_⟩
          rw [same latency]
          exact .refl r
      | unhandled r' back =>
          rw [routed] at same
          obtain ⟨rfl, none⟩ :=
            (BlindRouter.route_unhandled_iff consumer r envelope back).mp ⟨r', routed⟩
          refine Or.inr ⟨r', routed, ?_, none⟩
          rw [same]
          exact .refl r

/-! ## Either router -/

/-- The order in which a router tries two entries. -/
def Router.Prefers (router : Router) (envelope : Envelope M) (a b : Nat × RegistrationEntry F I M C) : Prop :=
  match router with
  | .affinity => Outranks envelope a b
  | .blind => a.1 < b.1

/-- The eligible entry that comes before every other eligible one. -/
structure Router.Chosen (router : Router) (consumer : Consumer M C) (r : Registry F I M C)
    (envelope : Envelope M) (i : Nat) (entry : RegistrationEntry F I M C) : Prop where
  found : r.entries[i]? = some entry
  eligible : Eligible consumer envelope entry
  first : ∀ j other, r.entries[j]? = some other → Eligible consumer envelope other → j ≠ i →
    router.Prefers envelope (i, entry) (j, other)

theorem Router.route_consuming_iff [Message M] (router : Router) (consumer : Consumer M C)
    (r : Registry F I M C) (envelope : Envelope M) (i : Nat) (entry : RegistrationEntry F I M C) :
    (∃ resume, router.route consumer r envelope = .consuming i entry resume) ↔
      router.Chosen consumer r envelope i entry := by
  cases router with
  | affinity =>
      apply (AffinityRouter.route_consuming_iff consumer r envelope i entry).trans
      exact ⟨fun ⟨found, eligible, first⟩ => ⟨found, eligible, first⟩,
        fun chosen => ⟨chosen.found, chosen.eligible, chosen.first⟩⟩
  | blind =>
      apply (BlindRouter.route_consuming_iff consumer r envelope i entry).trans
      exact ⟨fun ⟨found, eligible, first⟩ => ⟨found, eligible, first⟩,
        fun chosen => ⟨chosen.found, chosen.eligible, chosen.first⟩⟩

end Jackfield
