/-
# Jackfield.Endpoint.Bucket -- a token bucket and its clock

`call` is a `try_acquire` at a reading of a clock that does not go back, so the runs of a
bucket are all sequences of calls.  Its tokens stay between none and the burst, and what it
grants keeps to the rate in any window of time (`bucket_within_rate`).

Refills add up (`refill_refill`): as long as nobody takes a token, how often the bucket is
looked at makes no difference.  So a wait is over when it said it would be, if the bucket can
hold a token at all (`wait_honoured_iff`).  A bucket without a rate panics once it is empty
(`never_panics_iff`).
-/
import Jackfield.Endpoint.Throttle
import Jackfield.Lib.Float32
import Jackfield.Lib.Metering

namespace Jackfield

set_option autoImplicit false

open Machine

namespace TokenBucket

/-- A `try_acquire`, with what it answered and when. -/
def call (b : TokenBucket) (now : ℚ) : Option (TokenBucket × List (ℚ × Acquired)) :=
  if b.lastRefill ≤ now then some ((b.tryAcquire now).1, [(now, (b.tryAcquire now).2)]) else none

/-- When a call was granted a token. -/
def grantedAt (c : ℚ × Acquired) : Option ℚ := if c.2 = .token then some c.1 else none

def granted (t : List (ℚ × Acquired)) : List ℚ := t.filterMap grantedAt

theorem call_eq {b b' : TokenBucket} {now : ℚ} {es : List (ℚ × Acquired)} (called : b.call now = some (b', es)) :
    b.lastRefill ≤ now ∧ b' = (b.tryAcquire now).1 ∧ es = [(now, (b.tryAcquire now).2)] := by
  unfold call at called
  split at called
  · rename_i passes
    cases called
    exact ⟨passes, rfl, rfl⟩
  · cases called

/-! ## One try -/

@[simp] theorem refill_capacity (b : TokenBucket) (now : ℚ) : (b.refill now).capacity = b.capacity := rfl

@[simp] theorem refill_rate (b : TokenBucket) (now : ℚ) : (b.refill now).rate = b.rate := rfl

@[simp] theorem refill_lastRefill (b : TokenBucket) (now : ℚ) : (b.refill now).lastRefill = now := rfl

@[simp] theorem tryAcquire_capacity (bucket : TokenBucket) (now : ℚ) :
    (bucket.tryAcquire now).1.capacity = bucket.capacity := by
  simp only [tryAcquire]
  split_ifs <;> rfl

@[simp] theorem tryAcquire_rate (bucket : TokenBucket) (now : ℚ) :
    (bucket.tryAcquire now).1.rate = bucket.rate := by
  simp only [tryAcquire]
  split_ifs <;> rfl

@[simp] theorem tryAcquire_lastRefill (bucket : TokenBucket) (now : ℚ) :
    (bucket.tryAcquire now).1.lastRefill = now := by
  simp only [tryAcquire]
  split_ifs <;> rfl

/-- What a refill makes of the tokens, the clock not having gone back. -/
theorem refill_tokens {b : TokenBucket} {now : ℚ} (passes : b.lastRefill ≤ now) :
    (b.refill now).tokens = min (b.tokens + (now - b.lastRefill) * b.rate) b.capacity := by
  rw [refill, max_eq_right (sub_nonneg.mpr passes)]

theorem token_iff (b : TokenBucket) (now : ℚ) : (b.tryAcquire now).2 = .token ↔ 1 ≤ (b.refill now).tokens := by
  simp only [tryAcquire]
  split_ifs with enough flat
  · simp [enough]
  · simp [enough]
  · simp [enough]

/-- The wait is for what is missing. -/
theorem wait_iff (b : TokenBucket) (now d : ℚ) :
    (b.tryAcquire now).2 = .wait d ↔
      (b.refill now).tokens < 1 ∧ b.rate ≠ 0 ∧ d = (1 - (b.refill now).tokens) / b.rate := by
  by_cases enough : 1 ≤ (b.refill now).tokens
  · simp [tryAcquire, enough]
  · by_cases flat : b.rate = 0
    · simp [tryAcquire, enough, flat]
    · simp [tryAcquire, enough, flat, not_le.mp enough, eq_comm]

theorem panicked_iff (b : TokenBucket) (now : ℚ) :
    (b.tryAcquire now).2 = .panicked ↔ (b.refill now).tokens < 1 ∧ b.rate = 0 := by
  simp only [tryAcquire, refill_rate]
  split_ifs with enough flat
  · simp [enough]
  · simp [not_le.mp enough, flat]
  · simp [flat]

/-- A try in vain is a refill. -/
theorem tryAcquire_of_vain {b : TokenBucket} {now : ℚ} (vain : (b.tryAcquire now).2 ≠ .token) :
    (b.tryAcquire now).1 = b.refill now := by
  simp only [tryAcquire] at vain ⊢
  split_ifs with enough flat
  · rw [if_pos enough] at vain
    exact absurd rfl vain
  · rfl
  · rfl

/-- **A try keeps the books**: the tokens there are, the time, and who got one. -/
theorem tryAcquire_metered {bucket : TokenBucket} {now : ℚ} {log : List ℚ}
    (metered : Metered bucket.capacity bucket.rate bucket.tokens bucket.lastRefill log)
    (rateNonneg : 0 ≤ bucket.rate) (passes : bucket.lastRefill ≤ now) :
    Metered bucket.capacity bucket.rate (bucket.tryAcquire now).1.tokens now
      (log ++ if (bucket.tryAcquire now).2 = .token then [now] else []) := by
  have refilled := metered.refill rateNonneg passes
  rw [← refill_tokens passes] at refilled
  by_cases enough : 1 ≤ (bucket.refill now).tokens
  · have spent : (bucket.tryAcquire now).1.tokens = (bucket.refill now).tokens - 1 := by
      simp only [tryAcquire, if_pos enough]
    rw [spent, if_pos ((token_iff bucket now).mpr enough)]
    exact refilled.spend rateNonneg enough
  · have vain : (bucket.tryAcquire now).2 ≠ .token := fun token => enough ((token_iff bucket now).mp token)
    rw [tryAcquire_of_vain vain, if_neg vain, List.append_nil]
    exact refilled

/-! ## Whole runs -/

variable {ok : TokenBucket → List (ℚ × Acquired) → ℚ → Prop} {rate burst : Nat} {start : ℚ} {b b' : TokenBucket}
  {t u : List (ℚ × Acquired)}

/-- A bucket keeps its capacity and its rate, and its books. -/
structure Kept (rate burst : Nat) (b : TokenBucket) (t : List (ℚ × Acquired)) : Prop where
  capacity : b.capacity = burst
  rate : b.rate = rate
  metered : Metered b.capacity b.rate b.tokens b.lastRefill (granted t)

theorem Kept.rateNonneg (kept : Kept rate burst b t) : 0 ≤ b.rate := kept.rate ▸ Nat.cast_nonneg _

theorem Kept.call {now : ℚ} {es : List (ℚ × Acquired)} (kept : Kept rate burst b t)
    (called : b.call now = some (b', es)) : Kept rate burst b' (t ++ es) := by
  obtain ⟨passes, rfl, rfl⟩ := call_eq called
  refine ⟨by simp [kept.capacity], by simp [kept.rate], ?_⟩
  have after := tryAcquire_metered kept.metered kept.rateNonneg passes
  have logged : granted (t ++ [(now, (b.tryAcquire now).2)]) =
      granted t ++ if (b.tryAcquire now).2 = .token then [now] else [] := by
    rw [granted, List.filterMap_append]
    congr 1
    by_cases token : (b.tryAcquire now).2 = .token <;> simp [grantedAt, token]
  rw [logged]
  simpa using after

theorem kept (runs : Runs call ok (new rate burst start) b t) : Kept rate burst b t := by
  apply runs.invariant (P := fun b t => Kept rate burst b t)
  · exact ⟨rfl, rfl, .start _ (Nat.cast_nonneg _) (Nat.cast_nonneg _)⟩
  · intro b t now b' es ih _ called
    exact ih.call called

/-- **The bucket enforces its rate**: after any calls its tokens are between none and the burst,
and no window of time sees more than `burst + rate * (v - u)` of them granted. -/
theorem bucket_within_rate (runs : Runs call anyStep (new rate burst start) b t) :
    0 ≤ b.tokens ∧ b.tokens ≤ burst ∧
      ∀ u v, u ≤ v → (Metering.within (granted t) u v : ℚ) ≤ burst + rate * (v - u) := by
  have kept := kept runs
  refine ⟨kept.metered.nonneg, kept.capacity ▸ kept.metered.capped, fun u v ordered => ?_⟩
  rw [← kept.capacity, ← kept.rate]
  exact kept.metered.window u v ordered

/-- Two at once, and one second later one more. -/
def tried : TokenBucket × List (ℚ × Acquired) := outcome call (new 1 2 0) [0, 0, 0, 1]

theorem bucket_within_rate_tried :
    granted tried.2 = [0, 0, 1] ∧ (Metering.within (granted tried.2) 0 1 : ℚ) ≤ (2 : Nat) + (1 : Nat) * (1 - 0) := by
  have runs : Runs call anyStep (new 1 2 0) tried.1 tried.2 := runs_outcome_any _ (by decide +kernel)
  exact ⟨by decide +kernel, (bucket_within_rate runs).2.2 0 1 (by norm_num)⟩

/-! ## Waits -/

/-- **Refills add up.** -/
theorem refill_refill {m n : ℚ} (rateNonneg : 0 ≤ b.rate) (passes : b.lastRefill ≤ m) (ordered : m ≤ n) :
    (b.refill m).refill n = b.refill n := by
  have gained : 0 ≤ (n - m) * b.rate := mul_nonneg (sub_nonneg.mpr ordered) rateNonneg
  have first := refill_tokens passes
  have second : ((b.refill m).refill n).tokens = (b.refill n).tokens := by
    rw [refill_tokens (b := b.refill m) ordered, refill_tokens (passes.trans ordered), first, refill_rate,
      refill_capacity, refill_lastRefill]
    have sum : b.tokens + (n - b.lastRefill) * b.rate =
        b.tokens + (m - b.lastRefill) * b.rate + (n - m) * b.rate := by ring
    rw [sum, min_add, min_assoc, min_eq_right (le_add_of_nonneg_right gained)]
  simpa [refill] using second

/-- As long as no token is granted, the bucket is what one refill would make of it. -/
theorem refill_of_vain (rateNonneg : 0 ≤ b.rate) (runs : Runs call ok b b' u) (vain : granted u = []) :
    b.lastRefill ≤ b'.lastRefill ∧ b'.rate = b.rate ∧ ∀ n, b'.lastRefill ≤ n → b'.refill n = b.refill n := by
  revert vain
  apply runs.invariant (P := fun b' u => granted u = [] →
    b.lastRefill ≤ b'.lastRefill ∧ b'.rate = b.rate ∧ ∀ n, b'.lastRefill ≤ n → b'.refill n = b.refill n)
  · exact fun _ => ⟨le_rfl, rfl, fun n _ => rfl⟩
  · intro b₁ u now b₂ es ih _ called vain
    obtain ⟨passes, rfl, rfl⟩ := call_eq called
    rw [granted, List.filterMap_append, List.append_eq_nil_iff] at vain
    obtain ⟨before, sameRate, same⟩ := ih vain.1
    have inVain : (b₁.tryAcquire now).2 ≠ .token := by
      intro token
      simp [grantedAt, token] at vain
    rw [tryAcquire_of_vain inVain]
    refine ⟨before.trans passes, sameRate, fun n later => ?_⟩
    rw [refill_refill (sameRate ▸ rateNonneg) passes later]
    exact same n (passes.trans later)

/-- A wait is honoured: after it, with no token taken meanwhile, there is one. -/
def WaitHonoured (rate burst : Nat) : Prop :=
  ∀ start b t, Runs call anyStep (new rate burst start) b t →
    ∀ now d, b.lastRefill ≤ now → (b.tryAcquire now).2 = .wait d →
      ∀ b' u, Runs call anyStep (b.tryAcquire now).1 b' u → granted u = [] →
        ∀ later, now + d ≤ later → b'.lastRefill ≤ later → (b'.tryAcquire later).2 = .token

theorem wait_nonneg {now d : ℚ} (rateNonneg : 0 ≤ b.rate) (waits : (b.tryAcquire now).2 = .wait d) : 0 ≤ d := by
  obtain ⟨short, -, rfl⟩ := (wait_iff b now d).mp waits
  exact div_nonneg (sub_nonneg.mpr short.le) rateNonneg

/-- What was missing comes in during the wait, unless the bucket cannot hold it. -/
theorem full_after_wait {now d later : ℚ} (rateNonneg : 0 ≤ b.rate) (room : 1 ≤ b.capacity)
    (passes : b.lastRefill ≤ now) (waits : (b.tryAcquire now).2 = .wait d) (elapsed : now + d ≤ later) :
    1 ≤ (b.refill later).tokens := by
  have ordered : now ≤ later := by linarith [wait_nonneg rateNonneg waits]
  obtain ⟨-, nonzero, rfl⟩ := (wait_iff b now d).mp waits
  have positive : 0 < b.rate := lt_of_le_of_ne rateNonneg (Ne.symm nonzero)
  rw [← refill_refill rateNonneg passes ordered, refill_tokens (b := b.refill now) ordered,
    refill_rate, refill_capacity, refill_lastRefill]
  refine le_min ?_ room
  have came : 1 - (b.refill now).tokens ≤ (later - now) * b.rate := by
    rw [← div_le_iff₀ positive]
    linarith
  linarith

/-- A bucket that cannot hold a token grants none. -/
theorem vain_of_no_room (small : b.capacity < 1) (now : ℚ) : (b.tryAcquire now).2 ≠ .token := by
  intro token
  have enough := (token_iff b now).mp token
  have capped : (b.refill now).tokens ≤ b.capacity := min_le_right _ _
  linarith

/-- Without a burst, nothing is granted. -/
theorem granted_eq_nil (runs : Runs call ok (new rate 0 start) b t) : granted t = [] := by
  apply runs.invariant_reached (P := fun _ t => granted t = [])
  · rfl
  · intro b t now b' es before ih _ called
    obtain ⟨passes, rfl, rfl⟩ := call_eq called
    have small : b.capacity < 1 := by
      rw [(kept before).capacity]
      norm_num
    have vain := vain_of_no_room small now
    rw [granted, List.filterMap_append, ← granted, ih]
    simp [grantedAt, vain]

/-- **Waits are honoured, unless the burst is zero.** -/
theorem wait_honoured_iff (positive : 1 ≤ rate) : WaitHonoured rate burst ↔ 1 ≤ burst := by
  constructor
  · intro honoured
    by_contra none
    obtain rfl : burst = 0 := by omega
    have small : (new rate 0 0).capacity < 1 := by norm_num [new]
    have short : ((new rate 0 0).refill 0).tokens < 1 := lt_of_le_of_lt (min_le_right _ _) small
    have nonzero : (rate : ℚ) ≠ 0 := Nat.cast_ne_zero.mpr (by omega)
    have waits := (wait_iff (new rate 0 0) 0 _).mpr ⟨short, nonzero, rfl⟩
    have token := honoured 0 _ _ .start 0 _ le_rfl waits _ _ .start rfl (max 0 (0 + _)) (le_max_right _ _)
      (by rw [tryAcquire_lastRefill]; exact le_max_left _ _)
    exact vain_of_no_room (by rw [tryAcquire_capacity]; exact small) _ token
  · intro room start b t runs now d passes waits b' u meanwhile vain later elapsed notBefore
    have kept := kept runs
    have inVain : (b.tryAcquire now).2 ≠ .token := by simp [waits]
    rw [tryAcquire_of_vain inVain] at meanwhile
    obtain ⟨after, sameRate, same⟩ := refill_of_vain (b := b.refill now) kept.rateNonneg meanwhile vain
    have ordered : now ≤ later := after.trans notBefore
    rw [token_iff, same later notBefore, refill_refill kept.rateNonneg passes ordered]
    exact full_after_wait kept.rateNonneg (by rw [kept.capacity]; exact_mod_cast room) passes waits elapsed

/-- A second after it was told to wait for a second, the caller is told the same. -/
theorem wait_without_burst : ¬ ∀ rate burst, 1 ≤ rate → WaitHonoured rate burst := by
  intro always
  have token := always 1 0 (Nat.le_refl 1) 0 _ _ .start 0 1 le_rfl (by decide +kernel) _ _ .start rfl 1
    (by norm_num) (by norm_num)
  revert token
  decide +kernel

/-! ## Rounded arithmetic -/

/-- `try_acquire` in arithmetic that rounds every result, as that of `f64` does. -/
def tryAcquireRounded (R : Rounding) (b : TokenBucket) (now : ℚ) : TokenBucket × Acquired :=
  let elapsed := R.round (max 0 (now - b.lastRefill))
  let tokens := min (R.round (b.tokens + R.round (elapsed * b.rate))) b.capacity
  if 1 ≤ tokens then ({ b with tokens := R.round (tokens - 1), lastRefill := now }, .token)
  else if b.rate = 0 then ({ b with tokens := tokens, lastRefill := now }, .panicked)
  else ({ b with tokens := tokens, lastRefill := now }, .wait (R.round (R.round (1 - tokens) / b.rate)))

theorem tryAcquireRounded_exact (b : TokenBucket) (now : ℚ) :
    b.tryAcquireRounded .exact now = b.tryAcquire now := rfl

def callRounded (R : Rounding) (b : TokenBucket) (now : ℚ) : Option (TokenBucket × List (ℚ × Acquired)) :=
  if b.lastRefill ≤ now then some ((b.tryAcquireRounded R now).1, [(now, (b.tryAcquireRounded R now).2)])
  else none

/-- No panic, and a wait that `from_secs_f64` accepts: it is not negative and below `2 ^ 64` seconds. -/
def Sound : Acquired → Prop
  | .token => True
  | .wait duration => 0 ≤ duration ∧ duration < 2 ^ 64
  | .panicked => False

/-- No sequence of calls panics. -/
def NeverPanics (R : Rounding) (rate burst : Nat) : Prop :=
  ∀ start b t, Runs (callRounded R) anyStep (new rate burst start) b t → ∀ c ∈ t, Sound c.2

theorem tryAcquireRounded_capacity (R : Rounding) (b : TokenBucket) (now : ℚ) :
    (b.tryAcquireRounded R now).1.capacity = b.capacity := by
  simp only [tryAcquireRounded]
  split_ifs <;> rfl

theorem tryAcquireRounded_rate (R : Rounding) (b : TokenBucket) (now : ℚ) :
    (b.tryAcquireRounded R now).1.rate = b.rate := by
  simp only [tryAcquireRounded]
  split_ifs <;> rfl

variable {R : Rounding}

/-- The tokens do not go below zero, and so a wait is at most a second. -/
theorem tryAcquireRounded_sound (R : Rounding) (now : ℚ) (room : 0 ≤ b.capacity) (positive : 1 ≤ b.rate)
    (nonneg : 0 ≤ b.tokens) :
    0 ≤ (b.tryAcquireRounded R now).1.tokens ∧ Sound (b.tryAcquireRounded R now).2 := by
  unfold tryAcquireRounded
  have gained : 0 ≤ R.round (R.round (max 0 (now - b.lastRefill)) * b.rate) :=
    R.nonneg (mul_nonneg (R.nonneg (le_max_left _ _)) (by linarith))
  have refilled : 0 ≤ min (R.round (b.tokens + R.round (R.round (max 0 (now - b.lastRefill)) * b.rate))) b.capacity :=
    le_min (R.nonneg (add_nonneg nonneg gained)) room
  dsimp only
  generalize min (R.round (b.tokens + R.round (R.round (max 0 (now - b.lastRefill)) * b.rate))) b.capacity = tokens
    at refilled ⊢
  split_ifs with enough flat
  · exact ⟨R.nonneg (sub_nonneg.mpr enough), trivial⟩
  · exact absurd flat (by linarith)
  · have missing : 0 ≤ R.round (1 - tokens) := R.nonneg (sub_nonneg.mpr (not_le.mp enough).le)
    have atMost : R.round (1 - tokens) ≤ 1 := R.le_one (by linarith)
    have waits : R.round (1 - tokens) / b.rate ≤ 1 := (div_le_one (by linarith)).mpr (atMost.trans positive)
    have bound := R.le_one waits
    exact ⟨refilled, R.nonneg (div_nonneg missing (by linarith)), by linarith⟩

/-- A bucket without a rate that has granted `k` tokens. -/
def drained (burst k : Nat) : TokenBucket := { new 0 burst 0 with tokens := (burst - k : Nat) }

/-- It loses a token each time. -/
theorem drained_grants (R : Rounding) {burst k : Nat} (isU32 : burst < 2 ^ 32) (more : k < burst) :
    (drained burst k).tryAcquireRounded R 0 = (drained burst (k + 1), .token) := by
  have left : burst - k = burst - (k + 1) + 1 := by omega
  have some : (1 : ℚ) ≤ (burst - k : Nat) := by
    have rest : (0 : ℚ) ≤ (burst - (k + 1) : Nat) := Nat.cast_nonneg _
    rw [left]
    push_cast
    linarith
  have spent : ((burst - k : Nat) : ℚ) - 1 = (burst - (k + 1) : Nat) := by
    rw [left]
    push_cast
    ring
  simp [tryAcquireRounded, drained, new, R.zero, R.nat (burst - k) (by omega), some, spent,
    R.nat (burst - (k + 1)) (by omega)]

/-- And when there is none, it divides by zero. -/
theorem drained_panics (R : Rounding) (burst : Nat) :
    (drained burst burst).tryAcquireRounded R 0 = (drained burst burst, .panicked) := by
  have short : ¬ (1 : ℚ) ≤ 0 := by norm_num
  simp [tryAcquireRounded, drained, new, R.zero, short]

theorem runs_drained (R : Rounding) {burst k : Nat} (isU32 : burst < 2 ^ 32) (enough : k ≤ burst) :
    ∃ t, Runs (callRounded R) anyStep (new 0 burst 0) (drained burst k) t := by
  induction k with
  | zero => exact ⟨[], .start⟩
  | succ k ih =>
      obtain ⟨t, before⟩ := ih (by omega)
      have called : callRounded R (drained burst k) 0 = some (drained burst (k + 1), [(0, .token)]) := by
        rw [callRounded, if_pos (by simp [drained, new]), drained_grants R isU32 enough]
      exact ⟨_, before.act 0 trivial called⟩

/-- A bucket that has not panicked, and will not if its rate allows. -/
structure Solvent (rate burst : Nat) (b : TokenBucket) (t : List (ℚ × Acquired)) : Prop where
  capacity : b.capacity = burst
  rate : b.rate = rate
  nonneg : 0 ≤ b.tokens
  sound : ∀ c ∈ t, Sound c.2

theorem Solvent.call {now : ℚ} {es : List (ℚ × Acquired)} (solvent : Solvent rate burst b t)
    (positive : 1 ≤ rate) (called : b.callRounded R now = some (b', es)) : Solvent rate burst b' (t ++ es) := by
  unfold callRounded at called
  split at called
  · cases called
    have room : 0 ≤ b.capacity := solvent.capacity ▸ Nat.cast_nonneg _
    have rated : 1 ≤ b.rate := by
      rw [solvent.rate]
      exact_mod_cast positive
    obtain ⟨nonneg, sound⟩ := tryAcquireRounded_sound R now room rated solvent.nonneg
    refine ⟨?_, ?_, nonneg, fun c member => ?_⟩
    · rw [tryAcquireRounded_capacity, solvent.capacity]
    · rw [tryAcquireRounded_rate, solvent.rate]
    · rcases List.mem_append.mp member with old | new
      · exact solvent.sound c old
      · rw [List.mem_singleton.mp new]
        exact sound
  · cases called

/-- **No call panics, unless the rate is zero.** -/
theorem never_panics_iff (R : Rounding) (isU32 : burst < 2 ^ 32) : NeverPanics R rate burst ↔ 1 ≤ rate := by
  constructor
  · intro never
    by_contra none
    obtain rfl : rate = 0 := by omega
    -- the call after the burst
    obtain ⟨t, before⟩ := runs_drained R isU32 (Nat.le_refl burst)
    have called : callRounded R (drained burst burst) 0 = some (drained burst burst, [(0, .panicked)]) := by
      rw [callRounded, if_pos (by simp [drained, new]), drained_panics]
    exact never 0 _ _ (before.act 0 trivial called) (0, .panicked) (by simp)
  · intro positive start b t runs
    have solvent : Solvent rate burst b t := by
      apply runs.invariant (P := fun b t => Solvent rate burst b t)
      · exact ⟨rfl, rfl, Nat.cast_nonneg _, by simp⟩
      · intro b t now b' es ih _ called
        exact ih.call positive called
    exact solvent.sound

/-- With a burst of one, the second call panics. -/
theorem panics_without_rate : ¬ ∀ rate burst, NeverPanics .exact rate burst := by
  intro always
  have runs : Runs (callRounded .exact) anyStep (new 0 1 0) _ _ := runs_outcome_any [0, 0] (by decide +kernel)
  exact always 0 1 0 _ _ runs (0, .panicked) (by decide +kernel)

end TokenBucket

end Jackfield
