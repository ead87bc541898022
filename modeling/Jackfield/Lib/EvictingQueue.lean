/-
# Jackfield.Lib.EvictingQueue -- a bounded queue that drops its oldest element

`push cap q x` appends `x`; when `q` already holds `cap` elements or more, the
front element is dropped first.  `evicted cap q` is what a push on `q` drops.

Nothing is lost silently (`evicted_append_push`), and a positive cap is kept
(`length_push_le_iff`): at cap zero the element just pushed stays.
-/
import Mathlib.Data.List.DropRight

namespace EvictingQueue

set_option autoImplicit false

variable {α : Type*}

def push (cap : Nat) (q : List α) (x : α) : List α :=
  (if cap ≤ q.length then q.tail else q) ++ [x]

/-- The elements a push on `q` drops: none, or the front one. -/
def evicted (cap : Nat) (q : List α) : List α :=
  if cap ≤ q.length then q.take 1 else []

/-- Old queue and new element are exactly what was dropped and what is held. -/
theorem evicted_append_push (cap : Nat) (q : List α) (x : α) :
    evicted cap q ++ push cap q x = q ++ [x] := by
  unfold evicted push
  split
  · cases q <;> simp
  · rfl

/-- What is dropped is a single element, the front one, of a queue at its cap. -/
theorem mem_evicted {cap : Nat} {q : List α} {y : α} (dropped : y ∈ evicted cap q) :
    cap ≤ q.length ∧ q.head? = some y ∧ evicted cap q = [y] := by
  unfold evicted at dropped ⊢
  split at dropped
  · rename_i full
    cases q with
    | nil => simp at dropped
    | cons z rest =>
        have same : y = z := by simpa using dropped
        subst same
        exact ⟨full, rfl, by rw [if_pos full]; rfl⟩
  · simp at dropped

theorem mem_of_mem_push {cap : Nat} {q : List α} {x y : α} (held : y ∈ push cap q x) :
    y ∈ q ∨ y = x := by
  unfold push at held
  rw [List.mem_append, List.mem_singleton] at held
  rcases held with inside | new
  · left
    split at inside
    · exact List.mem_of_mem_tail inside
    · exact inside
  · exact Or.inr new

/-- A push keeps the order. -/
theorem push_sublist (cap : Nat) (q : List α) (x : α) : List.Sublist (push cap q x) (q ++ [x]) := by
  rw [← evicted_append_push cap q x]
  exact List.sublist_append_right _ _

theorem length_push (cap : Nat) (q : List α) (x : α) :
    (push cap q x).length = if cap ≤ q.length then q.length - 1 + 1 else q.length + 1 := by
  unfold push
  split <;> simp

/-- **The cap is kept exactly when it is positive.** -/
theorem length_push_le_iff {cap : Nat} {q : List α} (fits : q.length ≤ cap) (x : α) :
    (push cap q x).length ≤ cap ↔ 1 ≤ cap := by
  rw [length_push]
  split <;> omega

/-! ## Many pushes -/

theorem tail_rtake_succ {l : List α} {n : Nat} (long : n + 1 ≤ l.length) : (l.rtake (n + 1)).tail = l.rtake n := by
  rw [List.rtake, List.rtake, List.tail_drop]
  congr 1
  omega

theorem rtake_of_length_le {l : List α} {n : Nat} (short : l.length ≤ n) : l.rtake n = l := by
  rw [List.rtake, Nat.sub_eq_zero_of_le short, List.drop_zero]

theorem length_rtake (l : List α) (n : Nat) : (l.rtake n).length = min n l.length := by
  rw [List.rtake, List.length_drop]
  omega

/-- **What a sequence of pushes leaves is its end**: as much as the cap allows, and the
last element in any case. -/
theorem foldl_push (cap : Nat) (l : List α) : l.foldl (push cap) [] = l.rtake (max cap 1) := by
  obtain ⟨n, positive⟩ : ∃ n, max cap 1 = n + 1 := ⟨max cap 1 - 1, by omega⟩
  rw [positive]
  induction l using List.reverseRecOn with
  | nil => simp
  | append_singleton l x ih =>
      rw [List.foldl_append, ih, List.foldl_cons, List.foldl_nil, List.rtake_concat_succ, push, length_rtake]
      congr 1
      by_cases long : n + 1 ≤ l.length
      · rw [if_pos (by omega), tail_rtake_succ long]
      · rw [rtake_of_length_le (by omega), rtake_of_length_le (by omega)]
        split
        · -- a full queue that is not long: at cap zero, the empty one
          have empty : l = [] := List.eq_nil_of_length_eq_zero (by omega)
          rw [empty]
          rfl
        · rfl

end EvictingQueue
