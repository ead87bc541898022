/-
# Jackfield.Endpoint.Filter -- what a client's filter says

A `ClientFilter` is what a client may write: constraints on the labels, on the producer and
on the size of what it is sent, three of each kind.  It `Holds` of an envelope that meets
them all.

The dimensions the crate ships take one constraint each, and the parser makes one
dimension of a kind: of the constraints of a kind it keeps the first (`kept`), in a fixed
order.  `dims` are the dimensions, and `hardRejected_iff` says that they enforce what is kept.
What is not kept is lost, unless what is kept implies it (`Covered`) or is met by nothing
(`Never`): `kept_suffices_iff`.
-/
import Mathlib.Data.Fintype.EquivFin
import Mathlib.Data.String.Basic
import Jackfield.Router.BuiltIn

namespace Jackfield

set_option autoImplicit false

/-! ## Filters -/

@[ext] structure LabelFilter where
  allOf : Option (List String)
  anyOf : Option (List String)
  noneOf : Option (List String)
  deriving DecidableEq

@[ext] structure ProducerFilter where
  only : Option String
  anyOf : Option (List String)
  noneOf : Option (List String)
  deriving DecidableEq

@[ext] structure SizeFilter where
  atMost : Option UInt64
  atLeast : Option UInt64
  between : Option (UInt64 × UInt64)
  deriving DecidableEq

structure ClientFilter where
  labels : LabelFilter
  producer : ProducerFilter
  size : SizeFilter
  deriving DecidableEq

namespace LabelFilter

def Holds (f : LabelFilter) (labels : List String) : Prop :=
  (∀ l, f.allOf = some l → ∀ x ∈ l, x ∈ labels) ∧ (∀ l, f.anyOf = some l → ∃ x ∈ l, x ∈ labels) ∧
    ∀ l, f.noneOf = some l → ∀ x ∈ l, x ∉ labels

instance (f : LabelFilter) (labels : List String) : Decidable (f.Holds labels) :=
  inferInstanceAs (Decidable ((∀ l ∈ f.allOf, ∀ x ∈ l, x ∈ labels) ∧ (∀ l ∈ f.anyOf, ∃ x ∈ l, x ∈ labels) ∧
    ∀ l ∈ f.noneOf, ∀ x ∈ l, x ∉ labels))

/-- The constraint the parser comes to first. -/
def kept : LabelFilter → LabelFilter
  | ⟨some l, _, _⟩ => ⟨some l, none, none⟩
  | ⟨none, some l, _⟩ => ⟨none, some l, none⟩
  | f => f

/-- What is kept holds of no labels. -/
def Never : LabelFilter → Prop
  | ⟨none, some l, _⟩ => l = []
  | _ => False

/-- What is kept implies the rest. -/
def Covered : LabelFilter → Prop
  | ⟨some l, anyOf, noneOf⟩ => (∀ l', anyOf = some l' → ∃ x ∈ l', x ∈ l) ∧ ∀ l', noneOf = some l' → l' = []
  | ⟨none, some _, noneOf⟩ => ∀ l', noneOf = some l' → l' = []
  | _ => True

def count (f : LabelFilter) : Nat := f.allOf.toList.length + f.anyOf.toList.length + f.noneOf.toList.length

theorem kept_eq_self {f : LabelFilter} (single : f.count ≤ 1) : f.kept = f := by
  obtain ⟨allOf, anyOf, noneOf⟩ := f
  cases allOf <;> cases anyOf <;> cases noneOf <;> first | rfl | simp [count] at single

theorem satisfiable_iff (f : LabelFilter) : (∃ labels, f.kept.Holds labels) ↔ ¬f.Never := by
  obtain ⟨allOf, anyOf, noneOf⟩ := f
  cases allOf with
  | some l => exact iff_of_true ⟨l, by simp [kept, Holds]⟩ (by simp [Never])
  | none =>
      cases anyOf with
      | none => exact iff_of_true ⟨[], by simp [kept, Holds]⟩ (by simp [Never])
      | some l =>
          cases l with
          | nil => exact iff_of_false (by simp [kept, Holds]) (by simp [Never])
          | cons x l => exact iff_of_true ⟨[x], by simp [kept, Holds]⟩ (by simp [Never])

/-- When nothing is lost by keeping the first constraint only. -/
theorem covered_iff {f : LabelFilter} (satisfiable : ¬f.Never) :
    (∀ labels, f.kept.Holds labels → f.Holds labels) ↔ f.Covered := by
  obtain ⟨allOf, anyOf, noneOf⟩ := f
  cases allOf with
  | some l =>
      have isKept : ∀ labels, (kept ⟨some l, anyOf, noneOf⟩).Holds labels ↔ ∀ x ∈ l, x ∈ labels := by
        simp [kept, Holds]
      constructor
      · intro keeps
        constructor
        · rintro l' rfl
          exact (keeps l ((isKept l).mpr fun x member => member)).2.1 l' rfl
        · rintro l' rfl
          rw [List.eq_nil_iff_forall_not_mem]
          intro x member
          have both := keeps (l ++ l') ((isKept _).mpr fun y inFirst => List.mem_append_left _ inFirst)
          exact both.2.2 l' rfl x member (List.mem_append_right _ member)
      · rintro ⟨any, none⟩ labels holds
        rw [isKept] at holds
        refine ⟨?_, ?_, ?_⟩
        · rintro l' same
          cases same
          exact holds
        · intro l' same
          obtain ⟨x, member, inFirst⟩ := any l' same
          exact ⟨x, member, holds x inFirst⟩
        · intro l' same x member
          rw [none l' same] at member
          cases member
  | none =>
      cases anyOf with
      | none => exact iff_of_true (fun labels holds => holds) trivial
      | some l =>
          have isKept : ∀ labels, (kept ⟨none, some l, noneOf⟩).Holds labels ↔ ∃ x ∈ l, x ∈ labels := by
            simp [kept, Holds]
          obtain ⟨y, first⟩ := List.exists_mem_of_ne_nil l satisfiable
          constructor
          · rintro keeps l' rfl
            rw [List.eq_nil_iff_forall_not_mem]
            intro x member
            have both := keeps [y, x] ((isKept _).mpr ⟨y, first, List.mem_cons_self ..⟩)
            exact both.2.2 l' rfl x member (by simp)
          · intro none labels holds
            rw [isKept] at holds
            refine ⟨nofun, ?_, ?_⟩
            · intro l' same
              cases same
              exact holds
            · intro l' same x member
              rw [none l' same] at member
              cases member

end LabelFilter

namespace ProducerFilter

def Holds (f : ProducerFilter) (name : String) : Prop :=
  (∀ s, f.only = some s → name = s) ∧ (∀ l, f.anyOf = some l → name ∈ l) ∧ ∀ l, f.noneOf = some l → name ∉ l

instance (f : ProducerFilter) (name : String) : Decidable (f.Holds name) :=
  inferInstanceAs (Decidable ((∀ s ∈ f.only, name = s) ∧ (∀ l ∈ f.anyOf, name ∈ l) ∧ ∀ l ∈ f.noneOf, name ∉ l))

def kept : ProducerFilter → ProducerFilter
  | ⟨some s, _, _⟩ => ⟨some s, none, none⟩
  | ⟨none, some l, _⟩ => ⟨none, some l, none⟩
  | f => f

def Never : ProducerFilter → Prop
  | ⟨none, some l, _⟩ => l = []
  | _ => False

def Covered : ProducerFilter → Prop
  | ⟨some s, anyOf, noneOf⟩ => (∀ l, anyOf = some l → s ∈ l) ∧ ∀ l, noneOf = some l → s ∉ l
  | ⟨none, some l, noneOf⟩ => ∀ l', noneOf = some l' → ∀ x ∈ l, x ∉ l'
  | _ => True

def count (f : ProducerFilter) : Nat := f.only.toList.length + f.anyOf.toList.length + f.noneOf.toList.length

theorem kept_eq_self {f : ProducerFilter} (single : f.count ≤ 1) : f.kept = f := by
  obtain ⟨only, anyOf, noneOf⟩ := f
  cases only <;> cases anyOf <;> cases noneOf <;> first | rfl | simp [count] at single

theorem satisfiable_iff (f : ProducerFilter) : (∃ name, f.kept.Holds name) ↔ ¬f.Never := by
  obtain ⟨only, anyOf, noneOf⟩ := f
  cases only with
  | some s => exact iff_of_true ⟨s, by simp [kept, Holds]⟩ (by simp [Never])
  | none =>
      cases anyOf with
      | none =>
          -- there are always more names
          obtain ⟨name, fresh⟩ := Infinite.exists_notMem_finset (noneOf.getD []).toFinset
          rw [List.mem_toFinset] at fresh
          refine iff_of_true ⟨name, nofun, nofun, ?_⟩ (by simp [Never])
          rintro l rfl
          exact fresh
      | some l =>
          cases l with
          | nil => exact iff_of_false (by simp [kept, Holds]) (by simp [Never])
          | cons x l => exact iff_of_true ⟨x, by simp [kept, Holds]⟩ (by simp [Never])

theorem covered_iff (f : ProducerFilter) : (∀ name, f.kept.Holds name → f.Holds name) ↔ f.Covered := by
  obtain ⟨only, anyOf, noneOf⟩ := f
  cases only with
  | some s =>
      have isKept : ∀ name, (kept ⟨some s, anyOf, noneOf⟩).Holds name ↔ name = s := by simp [kept, Holds]
      constructor
      · intro keeps
        exact (keeps s ((isKept s).mpr rfl)).2
      · intro covered name holds
        rw [isKept] at holds
        subst holds
        exact ⟨fun s same => Option.some.inj same, covered⟩
  | none =>
      cases anyOf with
      | none => exact iff_of_true (fun name holds => holds) trivial
      | some l =>
          have isKept : ∀ name, (kept ⟨none, some l, noneOf⟩).Holds name ↔ name ∈ l := by simp [kept, Holds]
          constructor
          · intro keeps l' same x member
            exact (keeps x ((isKept x).mpr member)).2.2 l' same
          · intro covered name holds
            rw [isKept] at holds
            refine ⟨nofun, ?_, fun l' same => covered l' same name holds⟩
            intro l' same
            cases same
            exact holds

end ProducerFilter

namespace SizeFilter

def Holds (f : SizeFilter) (size : Nat) : Prop :=
  (∀ n, f.atMost = some n → size ≤ n.toNat) ∧ (∀ n, f.atLeast = some n → n.toNat ≤ size) ∧
    ∀ a b, f.between = some (a, b) → a.toNat ≤ size ∧ size ≤ b.toNat

instance (f : SizeFilter) (size : Nat) : Decidable (f.Holds size) :=
  decidable_of_iff ((f.atMost.all fun n => size ≤ n.toNat) = true ∧ (f.atLeast.all fun n => n.toNat ≤ size) = true ∧
      (f.between.all fun ab => ab.1.toNat ≤ size ∧ size ≤ ab.2.toNat) = true) (by simp [Holds, Option.all_eq_true])

def kept : SizeFilter → SizeFilter
  | ⟨some n, _, _⟩ => ⟨some n, none, none⟩
  | ⟨none, some n, _⟩ => ⟨none, some n, none⟩
  | f => f

/-- What is kept holds of no size up to `limit`. -/
def Never (limit : Nat) : SizeFilter → Prop
  | ⟨none, some n, _⟩ => limit < n.toNat
  | ⟨none, none, some (a, b)⟩ => b < a ∨ limit < a.toNat
  | _ => False

/-- What is kept implies the rest, of sizes up to `limit`. -/
def Covered (limit : Nat) : SizeFilter → Prop
  | ⟨some n, atLeast, between⟩ =>
      (∀ m, atLeast = some m → m = 0) ∧ ∀ a b, between = some (a, b) → a = 0 ∧ min n.toNat limit ≤ b.toNat
  | ⟨none, some n, between⟩ => ∀ a b, between = some (a, b) → a ≤ n ∧ limit ≤ b.toNat
  | _ => True

def count (f : SizeFilter) : Nat := f.atMost.toList.length + f.atLeast.toList.length + f.between.toList.length

theorem kept_eq_self {f : SizeFilter} (single : f.count ≤ 1) : f.kept = f := by
  obtain ⟨atMost, atLeast, between⟩ := f
  cases atMost <;> cases atLeast <;> cases between <;> first | rfl | simp [count] at single

theorem satisfiable_iff (limit : Nat) (f : SizeFilter) :
    (∃ size ≤ limit, f.kept.Holds size) ↔ ¬f.Never limit := by
  obtain ⟨atMost, atLeast, between⟩ := f
  cases atMost with
  | some n => exact iff_of_true ⟨0, Nat.zero_le _, by simp [kept, Holds]⟩ (by simp [Never])
  | none =>
      cases atLeast with
      | some n =>
          simp only [kept, Holds, Never]
          constructor
          · rintro ⟨size, within, -, least, -⟩ above
            have := least n rfl
            omega
          · intro within
            exact ⟨n.toNat, by omega, nofun, by simp, nofun⟩
      | none =>
          cases between with
          | none => exact iff_of_true ⟨0, Nat.zero_le _, by simp [kept, Holds]⟩ (by simp [Never])
          | some ab =>
              obtain ⟨a, b⟩ := ab
              simp only [kept, Holds, Never, UInt64.lt_iff_toNat_lt]
              constructor
              · rintro ⟨size, within, -, -, between⟩ empty
                have := between a b rfl
                omega
              · intro within
                exact ⟨a.toNat, by omega, nofun, nofun, by rintro a' b' same; cases same; omega⟩

theorem covered_iff {limit : Nat} {f : SizeFilter} (satisfiable : ¬f.Never limit) :
    (∀ size ≤ limit, f.kept.Holds size → f.Holds size) ↔ f.Covered limit := by
  obtain ⟨atMost, atLeast, between⟩ := f
  cases atMost with
  | some n =>
      have isKept : ∀ size, (kept ⟨some n, atLeast, between⟩).Holds size ↔ size ≤ n.toNat := by simp [kept, Holds]
      constructor
      · intro keeps
        have none := keeps 0 (Nat.zero_le _) ((isKept 0).mpr (Nat.zero_le _))
        have most := keeps (min n.toNat limit) (Nat.min_le_right ..) ((isKept _).mpr (Nat.min_le_left ..))
        constructor
        · intro m same
          exact UInt64.toNat_inj.mp (Nat.le_zero.mp (none.2.1 m same))
        · intro a b same
          exact ⟨UInt64.toNat_inj.mp (Nat.le_zero.mp (none.2.2 a b same).1), (most.2.2 a b same).2⟩
      · rintro ⟨least, within⟩ size small holds
        rw [isKept] at holds
        refine ⟨?_, ?_, ?_⟩
        · intro m same
          cases same
          exact holds
        · intro m same
          rw [least m same]
          exact Nat.zero_le _
        · intro a b same
          obtain ⟨rfl, above⟩ := within a b same
          exact ⟨Nat.zero_le _, (Nat.le_min.mpr ⟨holds, small⟩).trans above⟩
  | none =>
      cases atLeast with
      | none => exact iff_of_true (fun size small holds => holds) trivial
      | some n =>
          have isKept : ∀ size, (kept ⟨none, some n, between⟩).Holds size ↔ n.toNat ≤ size := by simp [kept, Holds]
          have reached : n.toNat ≤ limit := Nat.le_of_not_lt satisfiable
          constructor
          · intro keeps a b same
            have least := keeps n.toNat reached ((isKept _).mpr (Nat.le_refl _))
            have most := keeps limit (Nat.le_refl _) ((isKept _).mpr reached)
            exact ⟨UInt64.le_iff_toNat_le.mpr (least.2.2 a b same).1, (most.2.2 a b same).2⟩
          · intro within size small holds
            rw [isKept] at holds
            refine ⟨nofun, ?_, ?_⟩
            · intro m same
              cases same
              exact holds
            · intro a b same
              obtain ⟨below, above⟩ := within a b same
              exact ⟨(UInt64.le_iff_toNat_le.mp below).trans holds, small.trans above⟩

end SizeFilter

namespace ClientFilter

def Holds (f : ClientFilter) (eventMeta : EventMeta) : Prop :=
  f.labels.Holds eventMeta.labels ∧ f.producer.Holds eventMeta.origin.name ∧ f.size.Holds eventMeta.size

instance (f : ClientFilter) (eventMeta : EventMeta) : Decidable (f.Holds eventMeta) :=
  inferInstanceAs (Decidable (_ ∧ _ ∧ _))

/-- One constraint of each kind. -/
def kept (f : ClientFilter) : ClientFilter := ⟨f.labels.kept, f.producer.kept, f.size.kept⟩

/-- What is kept holds of no envelope, the longest message having `limit` bytes. -/
def Never (limit : Nat) (f : ClientFilter) : Prop := f.labels.Never ∨ f.producer.Never ∨ f.size.Never limit

/-- In each kind, what is kept implies the rest. -/
def Covered (limit : Nat) (f : ClientFilter) : Prop :=
  f.labels.Covered ∧ f.producer.Covered ∧ f.size.Covered limit

/-- At most one constraint of each kind. -/
def Single (f : ClientFilter) : Prop := f.labels.count ≤ 1 ∧ f.producer.count ≤ 1 ∧ f.size.count ≤ 1

instance (f : ClientFilter) : Decidable f.Single := inferInstanceAs (Decidable (_ ∧ _ ∧ _))

theorem kept_eq_self {f : ClientFilter} (single : f.Single) : f.kept = f := by
  rw [kept, LabelFilter.kept_eq_self single.1, ProducerFilter.kept_eq_self single.2.1,
    SizeFilter.kept_eq_self single.2.2]

/-- **When the constraints that are kept do for all.** -/
theorem kept_suffices_iff (limit : Nat) (f : ClientFilter) :
    (∀ eventMeta : EventMeta, eventMeta.size ≤ limit → f.kept.Holds eventMeta → f.Holds eventMeta) ↔
      f.Never limit ∨ f.Covered limit := by
  constructor
  · intro keeps
    by_cases never : f.Never limit
    · exact Or.inl never
    obtain ⟨noLabels, noProducer, noSize⟩ : ¬f.labels.Never ∧ ¬f.producer.Never ∧ ¬f.size.Never limit := by
      simpa only [Never, not_or] using never
    -- each kind can be tried with what satisfies the other two
    obtain ⟨labels, labelsHold⟩ := f.labels.satisfiable_iff.mpr noLabels
    obtain ⟨name, nameHolds⟩ := f.producer.satisfiable_iff.mpr noProducer
    obtain ⟨size, small, sizeHolds⟩ := (f.size.satisfiable_iff limit).mpr noSize
    refine Or.inr ⟨?_, ?_, ?_⟩
    · rw [← LabelFilter.covered_iff noLabels]
      intro labels' holds
      exact (keeps ⟨⟨name⟩, labels', size⟩ small ⟨holds, nameHolds, sizeHolds⟩).1
    · rw [← ProducerFilter.covered_iff]
      intro name' holds
      exact (keeps ⟨⟨name'⟩, labels, size⟩ small ⟨labelsHold, holds, sizeHolds⟩).2.1
    · rw [← SizeFilter.covered_iff noSize]
      intro size' small' holds
      exact (keeps ⟨⟨name⟩, labels, size'⟩ small' ⟨labelsHold, nameHolds, holds⟩).2.2
  · intro lossless eventMeta small holds
    have never : ¬f.Never limit := by
      rintro (noLabels | noProducer | noSize)
      · exact f.labels.satisfiable_iff.mp ⟨_, holds.1⟩ noLabels
      · exact f.producer.satisfiable_iff.mp ⟨_, holds.2.1⟩ noProducer
      · exact (f.size.satisfiable_iff limit).mp ⟨_, small, holds.2.2⟩ noSize
    have covered := lossless.resolve_left never
    obtain ⟨noLabels, -, noSize⟩ : ¬f.labels.Never ∧ ¬f.producer.Never ∧ ¬f.size.Never limit := by
      simpa only [Never, not_or] using never
    exact ⟨(LabelFilter.covered_iff noLabels).mpr covered.1 _ holds.1,
      (ProducerFilter.covered_iff _).mpr covered.2.1 _ holds.2.1,
      (SizeFilter.covered_iff noSize).mpr covered.2.2 _ small holds.2.2⟩

end ClientFilter

/-! ## Dimensions -/

def LabelFilter.dim? : LabelFilter → Option LabelDim
  | ⟨some l, _, _⟩ => some (.allOf l)
  | ⟨none, some l, _⟩ => some (.anyOf l)
  | ⟨none, none, noneOf⟩ => noneOf.map LabelDim.noneOf

def ProducerFilter.dim? : ProducerFilter → Option ProducerDim
  | ⟨some s, _, _⟩ => some (.only s)
  | ⟨none, some l, _⟩ => some (.anyOf l)
  | ⟨none, none, noneOf⟩ => noneOf.map ProducerDim.noneOf

def SizeFilter.dim? : SizeFilter → Option SizeDim
  | ⟨some n, _, _⟩ => some (.atMost n.toNat)
  | ⟨none, some n, _⟩ => some (.atLeast n.toNat)
  | ⟨none, none, between⟩ => between.map fun ab => .between ab.1.toNat ab.2.toNat

section Dims

variable {F I M C : Type} [F32 F] [Inhabited I] [Message M]

omit [F32 F] [Inhabited I] [Message M] in
theorem Verdict.score_iff (p : Prop) [Decidable p] (s : F) :
    (if p then Verdict.score s else .reject).isReject = false ↔ p := by
  split <;> simp_all [Verdict.isReject]

omit [F32 F] [Inhabited I] [Message M] in
theorem Verdict.reject_iff (p : Prop) [Decidable p] (s : F) :
    (if p then Verdict.reject else .score s).isReject = false ↔ ¬p := by
  split <;> simp_all [Verdict.isReject]

omit [Inhabited I] in
/-- The dimension rejects what the kept constraint does not hold of. -/
theorem LabelFilter.dim?_isReject (f : LabelFilter) (envelope : Envelope M) (state : DimState F I) :
    (f.dim?.any fun d => (d.evaluate envelope state).isReject) = false ↔
      f.kept.Holds (Message.getLabels envelope.message) := by
  obtain ⟨allOf, anyOf, noneOf⟩ := f
  cases allOf with
  | some l => simp [dim?, kept, Holds, LabelDim.allOf, LabelDim.evaluate, Verdict.score_iff]
  | none =>
      cases anyOf with
      | some l => simp [dim?, kept, Holds, LabelDim.anyOf, LabelDim.evaluate, Verdict.score_iff]
      | none => cases noneOf <;> simp [dim?, kept, Holds, LabelDim.noneOf, LabelDim.evaluate, Verdict.score_iff]

omit [Inhabited I] [Message M] in
theorem ProducerDim.isReject_iff (d : ProducerDim) (envelope : Envelope M) (state : DimState F I) :
    (d.evaluate envelope state).isReject = false ↔ d.matcher.matches envelope.origin.name = true :=
  Verdict.score_iff _ _

omit [Inhabited I] [Message M] in
theorem ProducerFilter.dim?_isReject (f : ProducerFilter) (envelope : Envelope M) (state : DimState F I) :
    (f.dim?.any fun d => (d.evaluate envelope state).isReject) = false ↔ f.kept.Holds envelope.origin.name := by
  obtain ⟨only, anyOf, noneOf⟩ := f
  cases only with
  | some s =>
      simp only [dim?, Option.any_some, ProducerDim.isReject_iff, ProducerDim.only, Matcher.matches]
      simp only [kept, Holds, List.any_cons, List.any_nil, Bool.or_false, beq_iff_eq]
      constructor
      · intro same
        exact ⟨fun s' isName => same ▸ Option.some.inj isName, nofun, nofun⟩
      · intro holds
        exact (holds.1 s rfl).symm
  | none =>
      cases anyOf with
      | some l =>
          simp only [dim?, Option.any_some, ProducerDim.isReject_iff, ProducerDim.anyOf, Matcher.matches]
          simp [kept, Holds]
      | none =>
          cases noneOf with
          | some l =>
              simp only [dim?, Option.map_some, Option.any_some, ProducerDim.isReject_iff, ProducerDim.noneOf,
                Matcher.matches]
              simp only [kept, Holds, Bool.not_eq_true', List.any_eq_false, beq_iff_eq]
              constructor
              · intro apart
                refine ⟨nofun, nofun, ?_⟩
                rintro l' same member
                cases same
                exact apart _ member rfl
              · rintro ⟨-, -, apart⟩ x member rfl
                exact apart l rfl member
          | none => simp [dim?, kept, Holds]

omit [Inhabited I] in
theorem SizeFilter.dim?_isReject (f : SizeFilter) (envelope : Envelope M) (state : DimState F I) :
    (f.dim?.any fun d => (d.evaluate envelope state).isReject) = false ↔
      f.kept.Holds (Message.getBytes envelope.message).length := by
  obtain ⟨atMost, atLeast, between⟩ := f
  cases atMost with
  | some n => simp [dim?, kept, Holds, SizeDim.atMost, SizeDim.evaluate, Verdict.reject_iff]
  | none =>
      cases atLeast with
      | some n => simp [dim?, kept, Holds, SizeDim.atLeast, SizeDim.evaluate, Verdict.reject_iff]
      | none =>
          cases between with
          | none => simp [dim?, kept, Holds]
          | some ab =>
              obtain ⟨a, b⟩ := ab
              simp [dim?, kept, Holds, SizeDim.between, SizeDim.evaluate, Verdict.reject_iff]

/-- What the parser makes of a filter: a required dimension for each kind. -/
def ClientFilter.dims (f : ClientFilter) : List (DimSpec F I M) :=
  ((f.labels.dim?.map LabelDim.toDimension).toList ++ (f.producer.dim?.map ProducerDim.toDimension).toList ++
    (f.size.dim?.map SizeDim.toDimension).toList).map fun d => (d, true, F32.lit 1)

theorem ClientFilter.required (f : ClientFilter) : ∀ d ∈ (f.dims : List (DimSpec F I M)), d.2.1 = true := by
  intro d member
  obtain ⟨dim, -, rfl⟩ := List.mem_map.mp member
  rfl

/-- The entry of a consumer that was registered with `dims`, whatever feedback has made of it. -/
def RegistrationEntry.RegisteredWith (entry : RegistrationEntry F I M C) (dims : List (DimSpec F I M)) : Prop :=
  entry.dims.map (fun de => (de.dim, de.rejectOnMiss)) = dims.map fun d => (d.1, d.2.1)

omit [Inhabited I] [Message M] in
theorem registeredWith_new (id : Nat) (consumer : C) (dims : List (DimSpec F I M)) :
    RegistrationEntry.RegisteredWith ⟨id, consumer, dims.map DimSpec.entry⟩ dims := by
  unfold RegistrationEntry.RegisteredWith
  rw [List.map_map]
  apply List.map_congr_left
  intro d _
  simp only [Function.comp_apply, DimSpec.entry]
  split
  · rename_i required
    rw [required]
  · rename_i preferred
    rw [Bool.not_eq_true] at preferred
    rw [preferred]

theorem ClientFilter.builtIn (f : ClientFilter) : ∀ d ∈ (f.dims : List (DimSpec F I M)), d.1.BuiltIn := by
  intro d member
  obtain ⟨dim, listed, rfl⟩ := List.mem_map.mp member
  rcases List.mem_append.mp listed with first | isSize
  · rcases List.mem_append.mp first with isLabel | isProducer
    · obtain ⟨label, -, rfl⟩ := Option.map_eq_some_iff.mp (Option.mem_toList.mp isLabel)
      exact .label label
    · obtain ⟨producer, -, rfl⟩ := Option.map_eq_some_iff.mp (Option.mem_toList.mp isProducer)
      exact .producer producer
  · obtain ⟨size, -, rfl⟩ := Option.map_eq_some_iff.mp (Option.mem_toList.mp isSize)
    exact .size size

theorem RegistrationEntry.RegisteredWith.builtIn {entry : RegistrationEntry F I M C}
    {dims : List (DimSpec F I M)} (registered : entry.RegisteredWith dims) (shipped : ∀ d ∈ dims, d.1.BuiltIn) :
    entry.BuiltIn := by
  intro de member
  have listed : (de.dim, de.rejectOnMiss) ∈ entry.dims.map fun de => (de.dim, de.rejectOnMiss) :=
    List.mem_map_of_mem (f := fun de : DimEntry F I M => (de.dim, de.rejectOnMiss)) member
  rw [registered] at listed
  obtain ⟨d, isDim, same⟩ := List.mem_map.mp listed
  rw [← (Prod.mk.inj same).1]
  exact shipped d isDim

/-- **The dimensions enforce what is kept.** -/
theorem ClientFilter.hardRejected_iff (f : ClientFilter) {entry : RegistrationEntry F I M C}
    (registered : entry.RegisteredWith f.dims) (envelope : Envelope M) :
    BlindRouter.hardRejected envelope entry = false ↔ f.kept.Holds (.fromEnvelope envelope) := by
  let state : DimState F I := ⟨F32.lit 0, default⟩
  have parts : BlindRouter.hardRejected envelope entry =
      ((f.labels.dim?.any fun d => (d.evaluate envelope state).isReject) ||
        (f.producer.dim?.any fun d => (d.evaluate envelope state).isReject) ||
        f.size.dim?.any fun d => (d.evaluate envelope state).isReject) := by
    rw [hardRejected_eq envelope (registered.builtIn f.builtIn), RegistrationEntry.skeleton, registered, dims]
    cases f.labels.dim? <;> cases f.producer.dim? <;> cases f.size.dim? <;>
      simp [LabelDim.toDimension, ProducerDim.toDimension, SizeDim.toDimension, state, Bool.or_assoc]
  rw [parts, Bool.or_eq_false_iff, Bool.or_eq_false_iff, LabelFilter.dim?_isReject, ProducerFilter.dim?_isReject,
    SizeFilter.dim?_isReject, and_assoc]
  rfl

/-- `plan` lists the entry at an index. -/
def Registry.Qualifies (r : Registry F I M C) (envelope : Envelope M) (i : Nat) : Prop :=
  ∃ c ∈ (r.plan envelope).qualified, c.idx = i

omit [Inhabited I] in
theorem Registry.qualifies_iff {r : Registry F I M C} {i : Nat} {entry : RegistrationEntry F I M C}
    (found : r.entries[i]? = some entry) (envelope : Envelope M) :
    r.Qualifies envelope i ↔ BlindRouter.hardRejected envelope entry = false := by
  constructor
  · rintro ⟨c, member, rfl⟩
    exact (of_mem_qualified member found).1
  · intro kept
    exact ⟨.of envelope i entry, (r.mem_qualified envelope _).mpr ⟨entry, found, kept, rfl⟩, rfl⟩

theorem ClientFilter.qualifies_iff (f : ClientFilter) {r : Registry F I M C} {i : Nat}
    {entry : RegistrationEntry F I M C} (found : r.entries[i]? = some entry) (registered : entry.RegisteredWith f.dims)
    (envelope : Envelope M) : r.Qualifies envelope i ↔ f.kept.Holds (.fromEnvelope envelope) :=
  (Registry.qualifies_iff found envelope).trans (f.hardRejected_iff registered envelope)

end Dims

end Jackfield
