/-
# Jackfield.Lib.Overflow -- exact sums and products that overflow

`Overflowing` is single-precision arithmetic without its rounding: a value is a
rational of magnitude at most `f32::MAX`, or it is not finite.  A sum or product
beyond that magnitude is not finite, and neither is anything computed from a value
that is not: infinities and NaN are one value here, which stands above all others.

Addition of a finite value and multiplication by one that is not negative are
monotone as long as the results are finite (`add_le_add`, `mul_le_mul`).
-/
import Mathlib.Algebra.Order.AbsoluteValue.Basic
import Mathlib.Order.WithBot
import Mathlib.Tactic.Linarith
import Mathlib.Tactic.NormNum
import Jackfield.Lib.Float32

set_option autoImplicit false

/-- `f32::MAX`. -/
def maxFinite : ℚ := (2 - 1 / 2 ^ 23) * 2 ^ 127

inductive Overflowing where
  | finite (q : ℚ) (inRange : |q| ≤ maxFinite)
  | nonFinite

namespace Overflowing

def ofRat (q : ℚ) : Overflowing :=
  if inRange : |q| ≤ maxFinite then .finite q inRange else .nonFinite

def isFinite : Overflowing → Bool
  | .finite _ _ => true
  | .nonFinite => false

def key : Overflowing → WithTop ℚ
  | .finite q _ => q
  | .nonFinite => ⊤

theorem key_injective : Function.Injective key := by
  intro a b same
  cases a with
  | finite p _ =>
      cases b with
      | finite q _ =>
          have same : (p : WithTop ℚ) = q := same
          cases WithTop.coe_injective same
          rfl
      | nonFinite => exact absurd same (WithTop.coe_ne_top)
  | nonFinite =>
      cases b with
      | finite q _ => exact absurd same.symm (WithTop.coe_ne_top)
      | nonFinite => rfl

instance : LinearOrder Overflowing := LinearOrder.lift' key key_injective

theorem finite_le_finite {p q : ℚ} {inRange : |p| ≤ maxFinite} {inRange' : |q| ≤ maxFinite} :
    finite p inRange ≤ finite q inRange' ↔ p ≤ q :=
  WithTop.coe_le_coe

def lift (op : ℚ → ℚ → ℚ) : Overflowing → Overflowing → Overflowing
  | .finite p _, .finite q _ => ofRat (op p q)
  | _, _ => .nonFinite

instance : Add Overflowing := ⟨lift (· + ·)⟩

instance : Mul Overflowing := ⟨lift (· * ·)⟩

instance : F32 Overflowing where
  lit := ofRat
  isFinite := isFinite
  fmin := min
  fmax := max

/-! ## Finite values -/

theorem ofRat_cases {q : ℚ} (isFin : (ofRat q).isFinite = true) : ∃ inRange, ofRat q = .finite q inRange := by
  unfold ofRat at isFin ⊢
  split
  · rename_i inRange
    exact ⟨inRange, rfl⟩
  · rename_i beyond
    rw [dif_neg beyond] at isFin
    cases isFin

/-- What is not finite stays so. -/
theorem lift_cases (op : ℚ → ℚ → ℚ) {a b : Overflowing} (isFin : (lift op a b).isFinite = true) :
    ∃ p q inP inQ inRange, a = .finite p inP ∧ b = .finite q inQ ∧
      lift op a b = .finite (op p q) inRange := by
  cases a with
  | nonFinite => cases isFin
  | finite p inP =>
      cases b with
      | nonFinite => cases isFin
      | finite q inQ =>
          obtain ⟨inRange, same⟩ := ofRat_cases isFin
          exact ⟨p, q, inP, inQ, inRange, rfl, rfl, same⟩

theorem add_comm (a b : Overflowing) : a + b = b + a := by
  cases a with
  | nonFinite => cases b <;> rfl
  | finite p inP =>
      cases b with
      | nonFinite => rfl
      | finite q inQ =>
          show ofRat (p + q) = ofRat (q + p)
          rw [Rat.add_comm]

theorem isFinite_of_add {a b : Overflowing} (isFin : (a + b).isFinite = true) :
    a.isFinite = true ∧ b.isFinite = true := by
  obtain ⟨p, q, inP, inQ, inRange, rfl, rfl, -⟩ := lift_cases (· + ·) isFin
  exact ⟨rfl, rfl⟩

/-- Adding the same value, without overflow, keeps the order. -/
theorem add_le_add {a b c : Overflowing} (le : a ≤ b) (isFin : (a + c).isFinite = true)
    (isFin' : (b + c).isFinite = true) : a + c ≤ b + c := by
  obtain ⟨p, r, inP, inR, inRange, rfl, rfl, sum⟩ := lift_cases (· + ·) isFin
  obtain ⟨q, r', inQ, inR', inRange', rfl, sameR, sum'⟩ := lift_cases (· + ·) isFin'
  cases sameR
  show lift (· + ·) _ _ ≤ lift (· + ·) _ _
  rw [sum, sum', finite_le_finite]
  rw [finite_le_finite] at le
  linarith

theorem ofRat_zero : ∃ inRange, ofRat 0 = .finite 0 inRange := by
  apply ofRat_cases
  have inRange : |(0 : ℚ)| ≤ maxFinite := by
    rw [abs_zero, maxFinite]
    norm_num
  rw [ofRat, dif_pos inRange]
  rfl

/-- So does multiplying by the same value, if it is not negative. -/
theorem mul_le_mul {a b c : Overflowing} (le : a ≤ b) (nonneg : ofRat 0 ≤ c)
    (isFin : (a * c).isFinite = true) (isFin' : (b * c).isFinite = true) : a * c ≤ b * c := by
  obtain ⟨p, r, inP, inR, inRange, rfl, rfl, product⟩ := lift_cases (· * ·) isFin
  obtain ⟨q, r', inQ, inR', inRange', rfl, sameR, product'⟩ := lift_cases (· * ·) isFin'
  cases sameR
  obtain ⟨inZero, zero⟩ := ofRat_zero
  rw [zero, finite_le_finite] at nonneg
  rw [finite_le_finite] at le
  show lift (· * ·) _ _ ≤ lift (· * ·) _ _
  rw [product, product', finite_le_finite]
  exact mul_le_mul_of_nonneg_right le nonneg

end Overflowing
