/-
# Jackfield.Lib.Metering -- how much a refilled allowance lets through

An allowance of at most `cap` is refilled at `rate` per unit of time, up to `cap`, and
each thing let through takes one off it.  `Metered cap rate level now log` says of such
an allowance that `level` is left, that it was last refilled at `now`, and that `log`
holds the times at which something was let through.

Since the level and what went through from `a` on were paid for by `cap` and the refills
since `a` (`recent`), no window of time lets through more than `cap` and `rate` times its
length (`window`).  The rules are `start`, `refill` and `spend`.
-/
import Mathlib.Algebra.Order.Field.Basic
import Mathlib.Data.List.Basic
import Mathlib.Tactic.Linarith
import Mathlib.Tactic.Ring

set_option autoImplicit false

variable {K : Type*} [Field K] [LinearOrder K] [IsStrictOrderedRing K]

namespace Metering

/-- How many of the times lie in the window from `a` to `b`. -/
def within (log : List K) (a b : K) : Nat := log.countP fun u => a ≤ u ∧ u ≤ b

def since (log : List K) (a : K) : Nat := log.countP fun u => a ≤ u

omit [Field K] [IsStrictOrderedRing K] in
theorem within_append (log more : List K) (a b : K) :
    within (log ++ more) a b = within log a b + within more a b := List.countP_append ..

omit [Field K] [IsStrictOrderedRing K] in
theorem since_append (log more : List K) (a : K) : since (log ++ more) a = since log a + since more a :=
  List.countP_append ..

omit [Field K] [IsStrictOrderedRing K] in
theorem since_singleton (u a : K) : since [u] a = if a ≤ u then 1 else 0 := by
  by_cases inside : a ≤ u <;> simp [since, inside]

omit [Field K] [IsStrictOrderedRing K] in
theorem within_singleton (u a b : K) : within [u] a b = if a ≤ u ∧ u ≤ b then 1 else 0 := by
  by_cases inside : a ≤ u ∧ u ≤ b <;> simp [within, inside]

omit [Field K] [IsStrictOrderedRing K] in
theorem within_le_since (log : List K) (a b : K) : within log a b ≤ since log a := by
  apply List.countP_mono_left
  intro u _ inside
  simp only [decide_eq_true_eq] at inside ⊢
  exact inside.1

omit [Field K] [IsStrictOrderedRing K] in
/-- Nothing went through after the last time. -/
theorem since_eq_zero {log : List K} {now a : K} (past : ∀ u ∈ log, u ≤ now) (later : now < a) :
    since log a = 0 := by
  apply List.countP_eq_zero.mpr
  intro u member inside
  simp only [decide_eq_true_eq] at inside
  exact absurd (lt_of_lt_of_le later inside) (not_lt.mpr (past u member))

end Metering

open Metering

structure Metered (cap rate level now : K) (log : List K) : Prop where
  nonneg : 0 ≤ level
  capped : level ≤ cap
  past : ∀ u ∈ log, u ≤ now
  /-- What went through from `a` on, with what is left. -/
  recent : ∀ a, a ≤ now → since log a + level ≤ cap + rate * (now - a)
  window : ∀ a b, a ≤ b → (within log a b : K) ≤ cap + rate * (b - a)

namespace Metered

variable {cap rate level now : K} {log : List K}

/-- A full allowance. -/
theorem start (now : K) (capNonneg : 0 ≤ cap) (rateNonneg : 0 ≤ rate) : Metered cap rate cap now [] where
  nonneg := capNonneg
  capped := le_rfl
  past := by simp
  recent a before := by
    have refilled : 0 ≤ rate * (now - a) := mul_nonneg rateNonneg (sub_nonneg.mpr before)
    simpa [since] using refilled
  window a b ordered := by
    have refilled : 0 ≤ rate * (b - a) := mul_nonneg rateNonneg (sub_nonneg.mpr ordered)
    simp only [within, List.countP_nil, Nat.cast_zero]
    linarith

/-- Time passes, and the allowance is refilled. -/
theorem refill (metered : Metered cap rate level now log) (rateNonneg : 0 ≤ rate) {later : K}
    (passes : now ≤ later) :
    Metered cap rate (min (level + (later - now) * rate) cap) later log where
  nonneg := by
    have gained : 0 ≤ (later - now) * rate := mul_nonneg (sub_nonneg.mpr passes) rateNonneg
    have capNonneg : 0 ≤ cap := metered.nonneg.trans metered.capped
    exact le_min (by linarith [metered.nonneg]) capNonneg
  capped := min_le_right _ _
  past u member := (metered.past u member).trans passes
  recent a before := by
    by_cases old : a ≤ now
    · have bound := metered.recent a old
      have level' := min_le_left (level + (later - now) * rate) cap
      have split : rate * (later - a) = rate * (now - a) + (later - now) * rate := by ring
      linarith
    · -- nothing went through since `a`
      have none := since_eq_zero metered.past (not_le.mp old)
      have refilled : 0 ≤ rate * (later - a) := mul_nonneg rateNonneg (sub_nonneg.mpr before)
      have level' := min_le_right (level + (later - now) * rate) cap
      rw [none, Nat.cast_zero]
      linarith
  window := metered.window

/-- One more goes through. -/
theorem spend (metered : Metered cap rate level now log) (rateNonneg : 0 ≤ rate) (enough : 1 ≤ level) :
    Metered cap rate (level - 1) now (log ++ [now]) where
  nonneg := sub_nonneg.mpr enough
  capped := by linarith [metered.capped]
  past u member := by
    rcases List.mem_append.mp member with old | new
    · exact metered.past u old
    · rw [List.mem_singleton.mp new]
  recent a before := by
    have bound := metered.recent a before
    rw [since_append, since_singleton, if_pos before]
    push_cast
    linarith
  window a b ordered := by
    rw [within_append, within_singleton]
    by_cases inside : a ≤ now ∧ now ≤ b
    · have bound := metered.recent a inside.1
      have fewer : (within log a b : K) ≤ since log a := Nat.cast_le.mpr (within_le_since log a b)
      have longer : rate * (now - a) ≤ rate * (b - a) :=
        mul_le_mul_of_nonneg_left (sub_le_sub_right inside.2 a) rateNonneg
      rw [if_pos inside]
      push_cast
      linarith
    · rw [if_neg inside, Nat.add_zero]
      exact metered.window a b ordered

end Metered
