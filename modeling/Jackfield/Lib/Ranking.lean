/-
# Jackfield.Lib.Ranking -- stable sorting and the first acceptable candidate

A list is sorted by a total preorder `r`, stably, and then scanned for the first
element that passes a test.  The scan finds the best passing element, where
"best" refines `r` by the original order of the list on ties.

* `pairwise_insertionSort_stable`: the sorted list is ordered by `r`, and where
  `r` cannot tell two elements apart, by the order they came in;
* `find?_eq_some_iff_first`: in a list ordered by an asymmetric relation, the
  first passing element is the passing element that precedes all the others;
* `mem_before_iff`, `mem_after_iff`: cutting such a list at an element splits the
  rest into what precedes it and what follows it.
-/
import Mathlib.Data.List.Sort

namespace Ranking

set_option autoImplicit false

variable {α : Type*}

/-! ## Stable sorting -/

section Stable

variable (r p : α → α → Prop) [DecidableRel r]

/-- `r`, with ties broken by `p`. -/
def Refined (a b : α) : Prop := r a b ∧ (r b a → p a b)

theorem pairwise_orderedInsert_refined (total : ∀ a b, r a b ∨ r b a)
    (trans : ∀ a b c, r a b → r b c → r a c) (a : α) (l : List α)
    (sorted : l.Pairwise (Refined r p)) (first : ∀ b ∈ l, p a b) :
    (l.orderedInsert r a).Pairwise (Refined r p) := by
  induction l with
  | nil => simp
  | cons b rest ih =>
      have headFirst : p a b := first b (by simp)
      have tailFirst : ∀ c ∈ rest, p a c := by
        intro c member
        exact first c (by simp [member])
      obtain ⟨bBefore, restSorted⟩ := List.pairwise_cons.mp sorted
      by_cases before : r a b
      · rw [List.orderedInsert_cons_of_le r rest before]
        refine List.pairwise_cons.mpr ⟨?_, sorted⟩
        intro c member
        rcases List.mem_cons.mp member with rfl | inRest
        · exact ⟨before, fun _ => headFirst⟩
        · exact ⟨trans _ _ _ before (bBefore c inRest).1, fun _ => tailFirst c inRest⟩
      · -- `a` moves past `b`, which is strictly better
        rw [List.orderedInsert_of_not_le r rest before]
        refine List.pairwise_cons.mpr ⟨?_, ih restSorted tailFirst⟩
        intro c member
        rcases (List.mem_orderedInsert r).mp member with rfl | inRest
        · exact ⟨(total c b).resolve_left before, fun back => absurd back before⟩
        · exact bBefore c inRest

/-- **Insertion sort is stable**: ties of `r` come out in the order `p` they went in. -/
theorem pairwise_insertionSort_stable (total : ∀ a b, r a b ∨ r b a)
    (trans : ∀ a b c, r a b → r b c → r a c) (l : List α) (inOrder : l.Pairwise p) :
    (l.insertionSort r).Pairwise (Refined r p) := by
  induction l with
  | nil => simp
  | cons a rest ih =>
      obtain ⟨aFirst, restOrder⟩ := List.pairwise_cons.mp inOrder
      rw [List.insertionSort_cons]
      apply pairwise_orderedInsert_refined r p total trans a _ (ih restOrder)
      intro b member
      exact aFirst b ((List.mem_insertionSort r).mp member)

end Stable

/-! ## The first acceptable element of an ordered list -/

/-- A numbered list is in the order of its numbers. -/
theorem pairwise_zipIdx (l : List α) : l.zipIdx.Pairwise fun a b => a.2 < b.2 := by
  have range := List.pairwise_lt_range' (s := 0) (n := l.length) 1
  rw [← List.zipIdx_map_snd 0 l] at range
  exact List.pairwise_map.mp range

section First

variable {lt : α → α → Prop}

theorem find?_eq_some_iff_first (asymm : ∀ a b, lt a b → ¬ lt b a) {l : List α}
    (sorted : l.Pairwise lt) (test : α → Bool) (a : α) :
    l.find? test = some a ↔
      a ∈ l ∧ test a = true ∧ ∀ b ∈ l, test b = true → b = a ∨ lt a b := by
  induction l with
  | nil => simp
  | cons head rest ih =>
      obtain ⟨headFirst, restSorted⟩ := List.pairwise_cons.mp sorted
      by_cases passes : test head = true
      · rw [List.find?_cons_of_pos passes, Option.some.injEq]
        constructor
        · rintro rfl
          refine ⟨by simp, passes, ?_⟩
          intro b member _
          exact (List.mem_cons.mp member).imp_right (headFirst b)
        · rintro ⟨member, -, best⟩
          rcases List.mem_cons.mp member with same | inRest
          · exact same.symm
          · rcases best head (by simp) passes with same | worse
            · exact same
            · exact absurd (headFirst a inRest) (asymm _ _ worse)
      · rw [List.find?_cons_of_neg passes, ih restSorted]
        constructor
        · rintro ⟨member, ok, best⟩
          refine ⟨by simp [member], ok, ?_⟩
          intro b inList okB
          rcases List.mem_cons.mp inList with rfl | inRest
          · exact absurd okB passes
          · exact best b inRest okB
        · rintro ⟨member, ok, best⟩
          rcases List.mem_cons.mp member with rfl | inRest
          · exact absurd ok passes
          · exact ⟨inRest, ok, fun b inTail => best b (by simp [inTail])⟩

theorem mem_before_iff (asymm : ∀ a b, lt a b → ¬ lt b a) {before after : List α} {a b : α}
    (sorted : (before ++ a :: after).Pairwise lt) :
    b ∈ before ↔ b ∈ before ++ a :: after ∧ lt b a := by
  obtain ⟨-, tailSorted, across⟩ := List.pairwise_append.mp sorted
  constructor
  · intro member
    exact ⟨by simp [member], across b member a (by simp)⟩
  · rintro ⟨member, less⟩
    rcases List.mem_append.mp member with inBefore | inTail
    · exact inBefore
    · rcases List.mem_cons.mp inTail with rfl | inAfter
      · exact absurd less (asymm _ _ less)
      · exact absurd less (asymm _ _ ((List.pairwise_cons.mp tailSorted).1 b inAfter))

theorem mem_after_iff (asymm : ∀ a b, lt a b → ¬ lt b a) {before after : List α} {a b : α}
    (sorted : (before ++ a :: after).Pairwise lt) :
    b ∈ after ↔ b ∈ before ++ a :: after ∧ lt a b := by
  obtain ⟨-, tailSorted, across⟩ := List.pairwise_append.mp sorted
  constructor
  · intro member
    exact ⟨by simp [member], (List.pairwise_cons.mp tailSorted).1 b member⟩
  · rintro ⟨member, less⟩
    rcases List.mem_append.mp member with inBefore | inTail
    · exact absurd less (asymm _ _ (across b inBefore a (by simp)))
    · rcases List.mem_cons.mp inTail with rfl | inAfter
      · exact absurd less (asymm _ _ less)
      · exact inAfter

end First

end Ranking
