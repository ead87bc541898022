/-
# Jackfield.Lib.LaggingCount -- a counter behind what it counts

Things are put into a collection and taken out of it, and a counter that wraps at `m` is
told of it later: each change leaves an addition or a subtraction to be made.  A
`Lagging` has the numbers, and a `Move` is one change or one correction.

* `Balanced.move`: modulo `m`, counter and additions to come make up for the collection
  and the subtractions to come, whatever the order.  So when none are left to be made,
  the counter is right (`Balanced.settled`).
* `Exact.move`: the same without the modulus, as long as nothing is taken out unless there
  is more in the collection than additions to come.  Then no subtraction is made from zero.
* `Exact.short`: and this is what it takes.  After a removal that comes too early there are more
  subtractions to be made than the counter has, so one can be made from zero.
-/
import Mathlib.Data.Nat.ModEq

set_option autoImplicit false

structure Lagging where
  size : Nat
  /-- What was ever put in. -/
  made : Nat
  count : Nat
  /-- Additions to be made. -/
  rising : Nat
  /-- Subtractions to be made. -/
  falling : Nat

namespace Lagging

/-- One more, below `m`. -/
def up (m x : Nat) : Nat := (x + 1) % m

/-- One less, below `m`. -/
def down (m x : Nat) : Nat := (x + (m - 1)) % m

theorem up_of_lt {m x : Nat} (room : x + 1 < m) : up m x = x + 1 := Nat.mod_eq_of_lt room

theorem down_of_pos {m x : Nat} (positive : 0 < x) (below : x < m) : down m x = x - 1 := by
  have wraps : x + (m - 1) = x - 1 + m := by omega
  rw [down, wraps, Nat.add_mod_right, Nat.mod_eq_of_lt (by omega)]

/-- One step of something that keeps count this way. -/
inductive Move (m : Nat) (l l' : Lagging) : Prop
  /-- Something else happens. -/
  | stay (size : l'.size = l.size) (made : l'.made = l.made) (count : l'.count = l.count)
      (rising : l'.rising = l.rising) (falling : l'.falling = l.falling)
  | put (size : l'.size = l.size + 1) (made : l'.made = l.made + 1) (count : l'.count = l.count)
      (rising : l'.rising = l.rising + 1) (falling : l'.falling = l.falling)
  | add (size : l'.size = l.size) (made : l'.made = l.made) (count : l'.count = up m l.count)
      (rising : l.rising = l'.rising + 1) (falling : l'.falling = l.falling)
  | take (size : l.size = l'.size + 1) (made : l'.made = l.made) (count : l'.count = l.count)
      (rising : l'.rising = l.rising) (falling : l'.falling = l.falling + 1)
  | subtract (size : l'.size = l.size) (made : l'.made = l.made) (count : l'.count = down m l.count)
      (rising : l'.rising = l.rising) (falling : l.falling = l'.falling + 1)

variable {m : Nat} {l l' : Lagging}

/-! ## Modulo `m` -/

structure Balanced (m : Nat) (l : Lagging) : Prop where
  below : l.count < m
  stored : l.size ≤ l.made
  balance : l.count + l.rising ≡ l.size + l.falling [MOD m]

theorem Balanced.move (balanced : Balanced m l) (move : Move m l l') : Balanced m l' := by
  obtain ⟨below, stored, balance⟩ := balanced
  have positive : 0 < m := Nat.zero_lt_of_lt below
  cases move with
  | stay size made count rising falling =>
      refine ⟨by omega, by omega, ?_⟩
      rw [count, rising, size, falling]
      exact balance
  | put size made count rising falling =>
      refine ⟨by omega, by omega, ?_⟩
      have same : l.size + 1 + l.falling = l.size + l.falling + 1 := by omega
      rw [count, rising, size, falling, same, ← Nat.add_assoc]
      exact balance.add_right 1
  | add size made count rising falling =>
      refine ⟨count ▸ Nat.mod_lt _ positive, by omega, ?_⟩
      rw [rising] at balance
      rw [count, size, falling]
      calc up m l.count + l'.rising ≡ l.count + 1 + l'.rising [MOD m] := (Nat.mod_modEq _ m).add_right _
        _ = l.count + (l'.rising + 1) := by omega
        _ ≡ l.size + l.falling [MOD m] := balance
  | take size made count rising falling =>
      refine ⟨by omega, by omega, ?_⟩
      have same : l'.size + (l.falling + 1) = l.size + l.falling := by omega
      rw [count, rising, falling, same]
      exact balance
  | subtract size made count rising falling =>
      refine ⟨count ▸ Nat.mod_lt _ positive, by omega, ?_⟩
      have round : l.size + l.falling + (m - 1) = l.size + l'.falling + m := by omega
      rw [count, rising, size]
      calc down m l.count + l.rising ≡ l.count + (m - 1) + l.rising [MOD m] := (Nat.mod_modEq _ m).add_right _
        _ = l.count + l.rising + (m - 1) := by omega
        _ ≡ l.size + l.falling + (m - 1) [MOD m] := balance.add_right _
        _ = l.size + l'.falling + m := round
        _ ≡ l.size + l'.falling [MOD m] := Nat.add_mod_right ..

/-- With nothing left to be made, the counter is right. -/
theorem Balanced.settled (balanced : Balanced m l) (risen : l.rising = 0) (fallen : l.falling = 0)
    (fits : l.made < m) : l.count = l.size := by
  have balance := balanced.balance
  rw [risen, fallen, Nat.add_zero, Nat.add_zero] at balance
  exact balance.eq_of_lt_of_lt balanced.below (Nat.lt_of_le_of_lt balanced.stored fits)

/-! ## Without wrapping -/

structure Exact (l : Lagging) : Prop where
  balance : l.count + l.rising = l.size + l.falling
  /-- What is still to be added is in the collection. -/
  present : l.rising ≤ l.size
  bounded : l.count + l.rising ≤ l.made

/-- Nothing is taken out unless there is more in the collection than additions to come. -/
def Timely (l l' : Lagging) : Prop := l'.size < l.size → l.rising < l.size

/-- A subtraction is made from something. -/
theorem Exact.positive (exact : Exact l) (owed : 0 < l.falling) : 0 < l.count := by
  have balance := exact.balance
  have present := exact.present
  omega

theorem Exact.move (exact : Exact l) (move : Move m l l') (timely : Timely l l') (fits : l'.made < m) :
    Exact l' := by
  obtain ⟨balance, present, bounded⟩ := exact
  cases move with
  | stay size made count rising falling => constructor <;> omega
  | put size made count rising falling => constructor <;> omega
  | add size made count rising falling =>
      rw [up_of_lt (by omega)] at count
      constructor <;> omega
  | take size made count rising falling =>
      have early : l.rising < l.size := timely (by omega)
      constructor <;> omega
  | subtract size made count rising falling =>
      rw [down_of_pos (by omega) (by omega)] at count
      constructor <;> omega

/-- After a removal that comes too early the counter is short of what is to be subtracted. -/
theorem Exact.short (exact : Exact l) (move : Move m l l') (early : ¬Timely l l') : l'.count < l'.falling := by
  obtain ⟨balance, -, -⟩ := exact
  unfold Timely at early
  cases move <;> omega

end Lagging
