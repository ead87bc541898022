/-
# Jackfield.Lib.Stamps -- lists of stamped things

Things bear numbers as they come in.  A list that keeps the order of the numbers and
holds nothing else is a part of the list they came in (`sublist_of_increasing`), and the
first occurrences in a list are not disturbed by what is seen again
(`eraseDups_concat_seen`, `eraseDups_concat_new`).
-/
import Mathlib.Data.List.Sort

set_option autoImplicit false

namespace Stamps

variable {α : Type*}

theorem eraseDups_concat_seen [DecidableEq α] {l : List α} {a : α} (seen : a ∈ l) :
    (l ++ [a]).eraseDups = l.eraseDups := by
  have none : List.removeAll [a] l = [] := by simp [List.removeAll, seen]
  rw [List.eraseDups_append, none, List.eraseDups_nil, List.append_nil]

theorem eraseDups_concat_new [DecidableEq α] {l : List α} {a : α} (new : a ∉ l) :
    (l ++ [a]).eraseDups = l.eraseDups ++ [a] := by
  have one : List.removeAll [a] l = [a] := by simp [List.removeAll, new]
  rw [List.eraseDups_append, one, List.eraseDups_cons]
  rfl

/-- The numbers go up along the list. -/
def Increasing (stamp : α → Nat) (l : List α) : Prop := l.Pairwise fun a b => stamp a < stamp b

theorem Increasing.nodup {stamp : α → Nat} {l : List α} (increasing : Increasing stamp l) : l.Nodup := by
  apply List.Pairwise.imp _ increasing
  rintro a b less rfl
  exact Nat.lt_irrefl _ less

theorem increasing_of_range {stamp : α → Nat} {l : List α} {n : Nat}
    (stamped : l.map stamp = List.range n) : Increasing stamp l := by
  have sorted : (l.map stamp).Pairwise (· < ·) := stamped ▸ List.pairwise_lt_range
  exact List.pairwise_map.mp sorted

/-- One more, with a number above all so far. -/
theorem Increasing.concat {stamp : α → Nat} {l : List α} (increasing : Increasing stamp l) {a : α}
    (above : ∀ b ∈ l, stamp b < stamp a) : Increasing stamp (l ++ [a]) := by
  apply List.pairwise_append.mpr
  refine ⟨increasing, List.pairwise_singleton _ _, ?_⟩
  intro b member c inLast
  rw [List.mem_singleton.mp inLast]
  exact above b member

/-- **What keeps the order and adds nothing is a part of the whole.** -/
theorem sublist_of_increasing {stamp : α → Nat} {l l' : List α} (part : Increasing stamp l)
    (whole : Increasing stamp l') (within : ∀ a ∈ l, a ∈ l') : List.Sublist l l' := by
  have apart : Std.Antisymm fun a b : α => stamp a < stamp b :=
    ⟨fun a b less more => absurd less (Nat.lt_asymm more)⟩
  exact List.sublist_of_subperm_of_pairwise (List.subperm_of_subset part.nodup within) part whole

end Stamps
