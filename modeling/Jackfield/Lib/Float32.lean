/-
# Jackfield.Lib.Float32 -- the floating-point arithmetic a program relies on

A program that ranks by floating-point scores uses few facts about them.  `F32`
names these operations: addition and multiplication, the literals of the source
text, `f32::is_finite`, `f32::min`, `f32::max`, and the total order of
`f32::total_cmp`, which is the linear order of the class.  Nothing relates the
operations to one another: rounding, overflow and non-finite values are all
allowed.

`exact` is the instance in exact rational arithmetic, where every value is
finite and the literals are the numbers written.

Where a program computes with finite values only, what it does is exact arithmetic with
each result rounded.  A `Rounding` is monotone, as rounding to nearest is, and keeps the
numbers that have a representation; the natural numbers below `2 ^ 32` are among them.
-/
import Mathlib.Algebra.Order.Ring.Rat
import Mathlib.Order.Monotone.Defs

set_option autoImplicit false

class F32 (F : Type) extends LinearOrder F, Add F, Mul F where
  /-- The value of a literal of the source text. -/
  lit : ℚ → F
  isFinite : F → Bool
  fmin : F → F → F
  fmax : F → F → F

namespace F32

instance exact : F32 ℚ where
  lit := id
  isFinite _ := true
  fmin := min
  fmax := max

@[simp] theorem lit_exact (q : ℚ) : (lit q : ℚ) = q := rfl

end F32

structure Rounding where
  round : ℚ → ℚ
  mono : Monotone round
  nat : ∀ n : Nat, n < 2 ^ 32 → round n = n

namespace Rounding

/-- Nothing is rounded. -/
def exact : Rounding := ⟨id, monotone_id, fun _ _ => rfl⟩

theorem zero (R : Rounding) : R.round 0 = 0 := by simpa using R.nat 0 (by omega)

theorem one (R : Rounding) : R.round 1 = 1 := by simpa using R.nat 1 (by omega)

theorem nonneg (R : Rounding) {q : ℚ} (isNonneg : 0 ≤ q) : 0 ≤ R.round q := by
  rw [← R.zero]
  exact R.mono isNonneg

theorem le_one (R : Rounding) {q : ℚ} (atMost : q ≤ 1) : R.round q ≤ 1 := by
  rw [← R.one]
  exact R.mono atMost

end Rounding
