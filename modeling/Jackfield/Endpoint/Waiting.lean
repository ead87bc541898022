/-
# Jackfield.Endpoint.Waiting -- what becomes of a throttled `make_send`

A future tries its bucket when it is polled and sleeps for the wait the bucket names, so
what holds of all sequences of calls on a bucket holds of the buckets of any run
(`Producers.bucket_runs`).  A future that had to wait gets its token at the next try, if
no other takes one meanwhile and the burst is not zero (`waiting_ends_iff`), and it does
not panic if the rate is not zero (`sends_never_panic_iff`).
-/
import Jackfield.Endpoint.Admission

namespace Jackfield

set_option autoImplicit false

open Machine

variable {F I M C : Type}

namespace Producers

@[simp] theorem setPhase_sends (s : Producers F I M C) (n m : Nat) (phase : SendPhase) :
    (s.setPhase n phase).sends[m]? =
      (s.sends[m]?).map fun send => if m = n then { send with phase := phase } else send := by
  rw [setPhase, List.getElem?_modify]
  by_cases his : n = m
  · subst his
    simp
  · simp [his, Ne.symm his]

/-- What a step can do to a future. -/
inductive Step (s : Producers F I M C) (send : MakeSend M) : MakeSend M → Prop
  | same : Step s send send
  | slept {b : Nat} {bucket : TokenBucket} {duration : ℚ} (waiting : send.phase = .waiting)
      (throttled : send.throttle = some b) (found : s.buckets[b]? = some bucket)
      (waits : (bucket.tryAcquire s.now).2 = .wait duration) :
      Step s send { send with phase := .sleeping (s.now + duration) }
  | woke {deadline : ℚ} (sleeping : send.phase = .sleeping deadline) (elapsed : deadline ≤ s.now) :
      Step s send { send with phase := .waiting }
  | left {phase : SendPhase} (past : phase = .sending ∨ phase = .ended) : Step s send { send with phase := phase }

variable [F32 F] [Message M]

/-- A poll of a future that is about to try its bucket. -/
theorem poll_waiting {s : Producers F I M C} {n b : Nat} {send : MakeSend M} {bucket : TokenBucket}
    (found : s.sends[n]? = some send) (waiting : send.phase = .waiting) (throttled : send.throttle = some b)
    (made : s.buckets[b]? = some bucket) :
    ∃ s', s'.buckets = s.buckets.set b (bucket.tryAcquire s.now).1 ∧ s'.now = s.now ∧ s'.handles = s.handles ∧
      (((bucket.tryAcquire s.now).2 = .token ∧ s.step (.poll n) = some (s', [.acquired n b s.now]) ∧
          s'.sends = (s.setPhase n .sending).sends) ∨
        (∃ duration, (bucket.tryAcquire s.now).2 = .wait duration ∧ s.step (.poll n) = some (s', []) ∧
          s'.sends = (s.setPhase n (.sleeping (s.now + duration))).sends) ∨
        ((bucket.tryAcquire s.now).2 = .panicked ∧ s.step (.poll n) = some (s', [.panicked n]) ∧
          s'.sends = (s.setPhase n .ended).sends)) := by
  have polls : s.step (.poll n) = s.waitForToken n (some b) := by
    simp only [step, found, waiting, throttled]
  rw [polls]
  simp only [waitForToken, made, Option.map_some]
  generalize bucket.tryAcquire s.now = tried
  obtain ⟨bucket', answer⟩ := tried
  cases answer with
  | token =>
      exact ⟨setPhase { s with buckets := s.buckets.set b bucket' } n .sending, rfl, rfl, rfl,
        Or.inl ⟨rfl, rfl, rfl⟩⟩
  | wait duration =>
      exact ⟨setPhase { s with buckets := s.buckets.set b bucket' } n (.sleeping (s.now + duration)), rfl, rfl, rfl,
        Or.inr (Or.inl ⟨duration, rfl, rfl, rfl⟩)⟩
  | panicked =>
      exact ⟨setPhase { s with buckets := s.buckets.set b bucket' } n .ended, rfl, rfl, rfl,
        Or.inr (Or.inr ⟨rfl, rfl, rfl⟩)⟩

omit [F32 F] [Message M] in
theorem waitForToken_sends {s s' : Producers F I M C} {n : Nat} {throttle : Option Nat}
    {es : List (ProducerEvent M)} (waits : s.waitForToken n throttle = some (s', es)) :
    (∃ phase, (phase = .sending ∨ phase = .ended) ∧ s'.sends = (s.setPhase n phase).sends) ∨
      ∃ b bucket duration, throttle = some b ∧ s.buckets[b]? = some bucket ∧
        (bucket.tryAcquire s.now).2 = .wait duration ∧
        s'.sends = (s.setPhase n (.sleeping (s.now + duration))).sends := by
  cases waited_of_some waits with
  | free => exact Or.inl ⟨.sending, Or.inl rfl, rfl⟩
  | granted found answer => exact Or.inl ⟨.sending, Or.inl rfl, rfl⟩
  | @delayed b bucket duration found answer => exact Or.inr ⟨b, bucket, duration, rfl, found, answer, rfl⟩
  | panicked found answer => exact Or.inl ⟨.ended, Or.inr rfl, rfl⟩

/-- **What a step does to a future.** -/
theorem Move.send_step {s s' : Producers F I M C} {a : ProducerAction F I M C} {es : List (ProducerEvent M)}
    (move : Move s a s' es) {n : Nat} {send : MakeSend M} (held : s.sends[n]? = some send) :
    ∃ send', s'.sends[n]? = some send' ∧ Step s send send' := by
  have phased : ∀ {m : Nat} {old : MakeSend M} {phase : SendPhase}, s.sends[m]? = some old →
      s'.sends = (s.setPhase m phase).sends → Step s old { old with phase := phase } →
      ∃ send', s'.sends[n]? = some send' ∧ Step s send send' := by
    intro m old phase found same next
    rw [same, setPhase_sends, held]
    by_cases his : n = m
    · subst his
      cases held.symm.trans found
      exact ⟨{ send with phase := phase }, by simp, next⟩
    · exact ⟨send, by simp [his], .same⟩
  cases move with
  | aside sameDesk sameBuckets sameSends passes refused => exact ⟨send, sameSends ▸ held, .same⟩
  | begun =>
      refine ⟨send, ?_, .same⟩
      rw [List.getElem?_append_left (List.getElem?_eq_some_iff.mp held).1, held]
  | woke found sleeping elapsed => exact phased found rfl (.woke sleeping elapsed)
  | ended found refused => exact phased found rfl (.left (Or.inr rfl))
  | waited found waiting waits =>
      rcases waitForToken_sends waits with ⟨phase, past, same⟩ | ⟨b, bucket, duration, throttled, made, waits, same⟩
      · exact phased found same (.left past)
      · exact phased found same (.slept waiting throttled made waits)
  | sent found stepped => exact phased found rfl (.left (Or.inr rfl))
  | _ => exact ⟨send, held, .same⟩

/-! ## The bucket of a future -/

theorem Move.now_le {s s' : Producers F I M C} {a : ProducerAction F I M C} {es : List (ProducerEvent M)}
    (move : Move s a s' es) : s.now ≤ s'.now := by
  rcases move.bucket_cases with ⟨-, passes, -⟩ | ⟨throttle, -, same, -⟩ | ⟨b, bucket, -, -, same, -⟩
  · exact passes
  · exact same.ge
  · exact same.ge

/-- `bucket` has come to what bucket `b` is, by calls that the events tell of. -/
def Followed (bucket : TokenBucket) (b : Nat) (s : Producers F I M C) (t : List (ProducerEvent M)) : Prop :=
  ∃ bucket' v, s.buckets[b]? = some bucket' ∧ bucket'.lastRefill ≤ s.now ∧
    Runs TokenBucket.call anyStep bucket bucket' v ∧
    TokenBucket.granted v = t.filterMap (ProducerEvent.acquiredFrom b)

theorem Followed.step {s s' : Producers F I M C} {t es : List (ProducerEvent M)} {a : ProducerAction F I M C}
    {bucket : TokenBucket} {b : Nat} (followed : Followed bucket b s t) (move : Move s a s' es) :
    Followed bucket b s' (t ++ es) := by
  obtain ⟨bucket', v, found, past, runs, log⟩ := followed
  rcases move.bucket_cases with ⟨same, passes, none⟩ | ⟨throttle, grown, sameNow, rfl⟩ |
    ⟨b', tried, made, changed, sameNow, -, granted⟩
  · refine ⟨bucket', v, same ▸ found, past.trans passes, runs, ?_⟩
    rw [List.filterMap_append, none.1 b, List.append_nil, log]
  · refine ⟨bucket', v, ?_, sameNow ▸ past, runs, ?_⟩
    · rw [grown, List.getElem?_append_left (List.getElem?_eq_some_iff.mp found).1, found]
    · rw [List.filterMap_append, log]
      exact (List.append_nil _).symm
  · by_cases his : b' = b
    · subst his
      cases made.symm.trans found
      have called : bucket'.call s.now = some ((bucket'.tryAcquire s.now).1, [(s.now, (bucket'.tryAcquire s.now).2)]) :=
        if_pos past
      refine ⟨(bucket'.tryAcquire s.now).1, _, ?_, ?_, runs.act s.now trivial called, ?_⟩
      · rw [changed, List.getElem?_set_self (List.getElem?_eq_some_iff.mp found).1]
      · rw [TokenBucket.tryAcquire_lastRefill, sameNow]
      · rw [TokenBucket.granted, List.filterMap_append, List.filterMap_append, granted, ← log]
        congr 1
        by_cases token : (bucket'.tryAcquire s.now).2 = .token <;> simp [TokenBucket.grantedAt, token]
    · refine ⟨bucket', v, ?_, sameNow ▸ past, runs, ?_⟩
      · rw [changed, List.getElem?_set_ne his, found]
      · rw [List.filterMap_append, granted, if_neg fun both => his both.1, List.append_nil, log]

variable {ok : Producers F I M C → List (ProducerEvent M) → ProducerAction F I M C → Prop} {capacity cap : Nat}
  {router : Router} {s s' : Producers F I M C} {t u : List (ProducerEvent M)} {b : Nat}

/-- From any state on. -/
theorem followed_from {bucket : TokenBucket} (found : s.buckets[b]? = some bucket) (past : bucket.lastRefill ≤ s.now)
    (runs : Runs step ok s s' u) : Followed bucket b s' u := by
  apply runs.invariant (P := Followed bucket b)
  · exact ⟨bucket, [], found, past, .start, rfl⟩
  · intro s u a s' es ih _ stepped
    exact ih.step (move_of_step stepped)

/-- **A bucket goes through a run of its own**, from when it was made. -/
theorem bucket_runs (runs : Runs step ok (init capacity router cap) s t) {throttle : Throttle}
    (made : ProducerEvent.throttled b throttle ∈ t) :
    ∃ start, Followed (.new throttle.rate throttle.burst start) b s t := by
  revert made
  apply runs.invariant_reached (P := fun s t => ProducerEvent.throttled b throttle ∈ t →
    ∃ start, Followed (.new throttle.rate throttle.burst start) b s t)
  · intro made
    cases made
  · intro s t a s' es before ih _ stepped made
    have move := move_of_step stepped
    rcases List.mem_append.mp made with old | new
    · obtain ⟨start, followed⟩ := ih old
      exact ⟨start, followed.step move⟩
    · rcases move.bucket_cases with ⟨-, -, none⟩ | ⟨throttle', grown, sameNow, rfl⟩ |
        ⟨b', bucket, -, -, -, noneMade, -⟩
      · exact absurd new (none.2 b throttle)
      · cases List.mem_singleton.mp new
        refine ⟨s.now, _, [], ?_, sameNow.ge, .start, ?_⟩
        · rw [grown, List.getElem?_concat_length]
        · rw [List.filterMap_append, (books before).unmade _ le_rfl]
          rfl
      · exact absurd new (noneMade b throttle)

/-! ## Waiting ends -/

/-- A future of bucket `b` that has slept since `deadline` was set does not try before it. -/
def Rested (n b : Nat) (deadline : ℚ) (s : Producers F I M C) : Prop :=
  ∃ send, s.sends[n]? = some send ∧ send.throttle = some b ∧ (send.phase = .waiting → deadline ≤ s.now) ∧
    ∀ next, send.phase = .sleeping next → deadline ≤ next

theorem Rested.step {n : Nat} {deadline : ℚ} {a : ProducerAction F I M C} {es : List (ProducerEvent M)}
    (rested : Rested n b deadline s)
    (rates : ∀ (b : Nat) (bucket : TokenBucket), s.buckets[b]? = some bucket → 0 ≤ bucket.rate)
    (move : Move s a s' es) : Rested n b deadline s' := by
  obtain ⟨send, held, throttled, waits, sleeps⟩ := rested
  obtain ⟨send', held', next⟩ := move.send_step held
  refine ⟨send', held', ?_⟩
  cases next with
  | same => exact ⟨throttled, fun waiting => (waits waiting).trans move.now_le, sleeps⟩
  | @slept b' bucket duration waiting throttled' found answer =>
      refine ⟨throttled, fun waiting => (by cases waiting), fun next sleeping => ?_⟩
      cases sleeping
      have longer := TokenBucket.wait_nonneg (rates b' bucket found) answer
      linarith [waits waiting]
  | woke sleeping elapsed =>
      exact ⟨throttled, fun _ => ((sleeps _ sleeping).trans elapsed).trans move.now_le,
        fun next sleeping => (by cases sleeping)⟩
  | left past =>
      refine ⟨throttled, fun waiting => ?_, fun next sleeping => ?_⟩
      · rcases past with rfl | rfl <;> cases waiting
      · rcases past with rfl | rfl <;> cases sleeping

theorem rested (before : Runs step anyStep (init capacity router cap) s t) (runs : Runs step anyStep s s' u) {n : Nat}
    {deadline : ℚ} (start : Rested n b deadline s) : Rested n b deadline s' := by
  apply runs.invariant_reached (P := fun s _ => Rested n b deadline s)
  · exact start
  · intro s₁ v a s₂ es reached ih _ stepped
    have books := books (before.append (fun _ _ _ allowed => allowed) reached)
    exact ih.step (fun b bucket found => (books.kept b bucket found).1) (move_of_step stepped)

/-- `wait_for_token` tries twice at most: where the first try of a future gave no token, and
no other future took one since, the next try gives one. -/
def TriesTwice (F I M C : Type) [F32 F] [Message M] (rate burst : Nat) : Prop :=
  ∀ capacity router cap (s : Producers F I M C) t, Runs step anyStep (init capacity router cap) s t →
    ∀ b, ProducerEvent.throttled b ⟨rate, burst⟩ ∈ t →
      ∀ n send, s.sends[n]? = some send → send.throttle = some b → send.phase = .waiting →
        ∀ s', s.step (.poll n) = some (s', []) →
          ∀ s₂ u, Runs step anyStep s' s₂ u → u.filterMap (ProducerEvent.acquiredFrom b) = [] →
            ∀ send₂, s₂.sends[n]? = some send₂ → send₂.phase = .waiting →
              ∃ s₃, s₂.step (.poll n) = some (s₃, [.acquired n b s₂.now])

theorem triesTwice_of_burst {rate burst : Nat} (positive : 1 ≤ rate) (room : 1 ≤ burst) :
    TriesTwice F I M C rate burst := by
  intro capacity router cap s t runs b made n send held throttled waiting s' vain s₂ u later alone send₂ held₂ waiting₂
  obtain ⟨start, bucket, v, found, past, calls, -⟩ := bucket_runs runs made
  obtain ⟨s₁, changed, sameNow, -, polled⟩ := poll_waiting held waiting throttled found
  rcases polled with ⟨-, stepped, -⟩ | ⟨duration, waits, stepped, sends⟩ | ⟨-, stepped, -⟩
  · cases stepped.symm.trans vain
  · -- it sleeps
    cases stepped.symm.trans vain
    have before := runs.act (.poll n) trivial vain
    have tried : s'.buckets[b]? = some (bucket.tryAcquire s.now).1 := by
      rw [changed, List.getElem?_set_self (List.getElem?_eq_some_iff.mp found).1]
    obtain ⟨bucket₂, v₂, found₂, past₂, calls₂, log⟩ :=
      followed_from tried (by rw [TokenBucket.tryAcquire_lastRefill, sameNow]) later
    have asleep : Rested n b (s.now + duration) s' := by
      refine ⟨{ send with phase := .sleeping (s.now + duration) }, ?_, throttled, fun waiting => (by cases waiting), ?_⟩
      · rw [sends, setPhase_sends, held]
        simp
      · intro next sleeping
        cases sleeping
        exact le_rfl
    obtain ⟨again, heldAgain, throttledAgain, elapsed, -⟩ := rested before later asleep
    cases heldAgain.symm.trans held₂
    have token := (TokenBucket.wait_honoured_iff positive).mpr room start bucket v calls s.now duration past waits
      bucket₂ v₂ calls₂ (log.trans alone) s₂.now (elapsed waiting₂) past₂
    obtain ⟨s₃, -, -, -, polled⟩ := poll_waiting held₂ waiting₂ throttledAgain found₂
    rcases polled with ⟨-, stepped, -⟩ | ⟨duration', waits', -⟩ | ⟨panics, -⟩
    · exact ⟨s₃, stepped⟩
    · cases token.symm.trans waits'
    · cases token.symm.trans panics
  · cases stepped.symm.trans vain

/-- Without a burst, no future gets a token. -/
theorem never_acquired (runs : Runs step ok (init capacity router cap) s t) {rate : Nat}
    (made : ProducerEvent.throttled b ⟨rate, 0⟩ ∈ t) (n : Nat) (now : ℚ) : ProducerEvent.acquired n b now ∉ t := by
  intro acquired
  obtain ⟨start, bucket, v, -, -, calls, log⟩ := bucket_runs runs made
  have listed : now ∈ t.filterMap (ProducerEvent.acquiredFrom b) := List.mem_filterMap.mpr ⟨_, acquired, if_pos rfl⟩
  rw [← log, TokenBucket.granted_eq_nil calls] at listed
  cases listed

/-! ### At one moment -/

/-- One throttled producer that has begun to send `k` messages, at the moment its bucket was made. -/
structure Opened (rate burst k : Nat) (bucket : TokenBucket) (s : Producers F I M C) (t : List (ProducerEvent M)) :
    Prop where
  runs : Runs step anyStep (init 1 .affinity 0) s t
  made : ProducerEvent.throttled 0 ⟨rate, burst⟩ ∈ t
  buckets : s.buckets = [bucket]
  handles : s.handles = [⟨⟨"sensor"⟩, some 0⟩]
  sends : s.sends.length = k
  now : s.now = 0

theorem opened (rate burst : Nat) :
    ∃ (s : Producers F I M C) (t : List (ProducerEvent M)), Opened rate burst 0 (.new rate burst 0) s t :=
  ⟨_, _, Runs.start.act (.registerProducerThrottled "sensor" ⟨rate, burst⟩) trivial rfl, by simp [init], rfl, rfl,
    rfl, rfl⟩

/-- It begins one more. -/
theorem Opened.begin {rate burst k : Nat} {bucket : TokenBucket} (opened : Opened rate burst k bucket s t)
    (message : M) :
    ∃ (s' : Producers F I M C) (t' : List (ProducerEvent M)) (send : MakeSend M),
      Opened rate burst (k + 1) bucket s' t' ∧ s'.sends[k]? = some send ∧ send.throttle = some 0 ∧
        send.phase = .waiting := by
  let handle : ProducerHandle := ⟨⟨"sensor"⟩, some 0⟩
  have stepped : s.step (.makeSend 0 message) = some (s.begin handle handle.origin message, []) := by
    simp only [step, opened.handles]
    rfl
  refine ⟨_, _, ⟨handle.origin, message, some 0, .waiting⟩, ⟨opened.runs.act _ trivial stepped, ?_, opened.buckets,
    opened.handles, ?_, opened.now⟩, ?_, rfl, rfl⟩
  · rw [List.append_nil]
    exact opened.made
  · simp [Producers.begin, opened.sends]
  · rw [← opened.sends]
    exact List.getElem?_concat_length ..

/-- And tries the bucket for one of them. -/
theorem Opened.poll {rate burst k n : Nat} {bucket : TokenBucket} (opened : Opened rate burst k bucket s t)
    {send : MakeSend M} (held : s.sends[n]? = some send) (throttled : send.throttle = some 0)
    (waiting : send.phase = .waiting) :
    ∃ s' es, s.step (.poll n) = some (s', es) ∧ Opened rate burst k (bucket.tryAcquire 0).1 s' (t ++ es) ∧
      (((bucket.tryAcquire 0).2 = .token ∧ es = [.acquired n 0 0]) ∨
        (∃ duration, (bucket.tryAcquire 0).2 = .wait duration ∧ es = [] ∧
          s'.sends = (s.setPhase n (.sleeping duration)).sends) ∨
        ((bucket.tryAcquire 0).2 = .panicked ∧ es = [.panicked n])) := by
  have found : s.buckets[0]? = some bucket := by rw [opened.buckets, List.getElem?_cons_zero]
  obtain ⟨s', changed, sameNow, sameHandles, polled⟩ := poll_waiting held waiting throttled found
  rw [opened.now] at changed sameNow polled
  rw [opened.buckets] at changed
  have after : ∀ {es : List (ProducerEvent M)}, s.step (.poll n) = some (s', es) → s'.sends.length = k →
      Opened rate burst k (bucket.tryAcquire 0).1 s' (t ++ es) := fun stepped sends =>
    ⟨opened.runs.act _ trivial stepped, List.mem_append_left _ opened.made, changed,
      sameHandles.trans opened.handles, sends, sameNow⟩
  have length : ∀ phase, (s.setPhase n phase).sends.length = k := by
    intro phase
    rw [setPhase, List.length_modify, opened.sends]
  rcases polled with ⟨token, stepped, sends⟩ | ⟨duration, waits, stepped, sends⟩ | ⟨panics, stepped, sends⟩
  · exact ⟨s', _, stepped, after stepped (sends ▸ length _), Or.inl ⟨token, rfl⟩⟩
  · rw [zero_add] at sends
    exact ⟨s', _, stepped, after stepped (sends ▸ length _), Or.inr (Or.inl ⟨duration, waits, rfl, sends⟩)⟩
  · exact ⟨s', _, stepped, after stepped (sends ▸ length _), Or.inr (Or.inr ⟨panics, rfl⟩)⟩

/-- **Waiting for a token ends, unless the burst is zero.** -/
theorem waiting_ends_iff [Nonempty M] {rate burst : Nat} (positive : 1 ≤ rate) :
    (TokenBucket.WaitHonoured rate burst ↔ 1 ≤ burst) ∧ (TriesTwice F I M C rate burst ↔ 1 ≤ burst) := by
  refine ⟨TokenBucket.wait_honoured_iff positive, fun twice => ?_, triesTwice_of_burst positive⟩
  by_contra none
  obtain rfl : burst = 0 := by omega
  -- it waits as it was told, and tries again in vain
  obtain ⟨s, t, start⟩ := opened (F := F) (I := I) (M := M) (C := C) rate 0
  obtain ⟨s₁, t₁, send, begun, held, throttled, waiting⟩ := start.begin (Classical.arbitrary M)
  obtain ⟨s₂, es, vain, slept, polled⟩ := begun.poll held throttled waiting
  rcases polled with ⟨token, rfl⟩ | ⟨duration, waits, rfl, sends⟩ | ⟨panics, -⟩
  · exact never_acquired slept.runs slept.made 0 0 (by simp)
  · have held₂ : s₂.sends[0]? = some { send with phase := .sleeping duration } := by
      rw [sends, setPhase_sends, held]
      rfl
    have longer : 0 ≤ duration := TokenBucket.wait_nonneg (Nat.cast_nonneg _) waits
    let s₃ : Producers F I M C := { s₂ with now := s₂.now + duration }
    have passed : s₂.step (.wait duration) = some (s₃, []) := if_pos longer
    have elapsed : duration ≤ s₃.now := by
      show duration ≤ s₂.now + duration
      rw [slept.now, zero_add]
    have woken : s₃.step (.poll 0) = some (s₃.setPhase 0 .waiting, []) := by
      have held₃ : s₃.sends[0]? = some { send with phase := .sleeping duration } := held₂
      simp only [step, held₃, if_pos elapsed]
    have later : Runs step anyStep s₂ (s₃.setPhase 0 .waiting) ([] ++ [] ++ []) :=
      .act (.act .start _ trivial passed) _ trivial woken
    have held₄ : (s₃.setPhase 0 .waiting).sends[0]? = some { send with phase := .waiting } := by
      rw [setPhase_sends]
      show (s₂.sends[0]?).map _ = _
      rw [held₂]
      rfl
    obtain ⟨s₅, tried⟩ := twice 1 .affinity 0 s₁ t₁ begun.runs 0 begun.made 0 send held throttled waiting s₂ vain
      (s₃.setPhase 0 .waiting) _ later rfl _ held₄ rfl
    have whole := (slept.runs.append (fun _ _ _ allowed => allowed) later).act (.poll 0) trivial tried
    exact never_acquired whole (List.mem_append_left _ (List.mem_append_left _ slept.made)) 0 _
      (List.mem_append_right _ (List.mem_singleton_self _))
  · have flat : (rate : ℚ) = 0 := ((TokenBucket.panicked_iff _ _).mp panics).2
    have zero : rate = 0 := by exact_mod_cast flat
    omega

theorem waiting_ends_iff_single :
    TokenBucket.WaitHonoured 1 1 ∧ TriesTwice ℚ Unit BaseMessage String 1 1 := by
  have nonempty : Nonempty BaseMessage := ⟨World.ping⟩
  obtain ⟨honoured, twice⟩ := waiting_ends_iff (F := ℚ) (I := Unit) (M := BaseMessage) (C := String) (Nat.le_refl 1)
  exact ⟨honoured.mpr (Nat.le_refl 1), twice.mpr (Nat.le_refl 1)⟩

/-! ## Panics -/

/-- A future that panicked had a bucket without a rate. -/
def PanicsExplained (s : Producers F I M C) (t : List (ProducerEvent M)) : Prop :=
  ∀ n, ProducerEvent.panicked n ∈ t → ∃ send b bucket, s.sends[n]? = some send ∧ send.throttle = some b ∧
    s.buckets[b]? = some bucket ∧ bucket.rate = 0

omit [F32 F] [Message M] in
theorem Step.throttle {send send' : MakeSend M} (next : Step s send send') : send'.throttle = send.throttle := by
  cases next <;> rfl

/-- Buckets keep their rates. -/
theorem Move.rate_kept {a : ProducerAction F I M C} {es : List (ProducerEvent M)} (move : Move s a s' es)
    {bucket : TokenBucket} (found : s.buckets[b]? = some bucket) :
    ∃ bucket', s'.buckets[b]? = some bucket' ∧ bucket'.rate = bucket.rate := by
  rcases move.bucket_cases with ⟨same, -⟩ | ⟨throttle, grown, -⟩ | ⟨b', tried, made, changed, -⟩
  · exact ⟨bucket, same ▸ found, rfl⟩
  · refine ⟨bucket, ?_, rfl⟩
    rw [grown, List.getElem?_append_left (List.getElem?_eq_some_iff.mp found).1, found]
  · rw [changed]
    by_cases his : b' = b
    · subst his
      cases made.symm.trans found
      exact ⟨_, List.getElem?_set_self (List.getElem?_eq_some_iff.mp found).1, TokenBucket.tryAcquire_rate ..⟩
    · exact ⟨bucket, (List.getElem?_set_ne his).trans found, rfl⟩

/-- A future panics when its bucket does. -/
theorem Move.panicked {a : ProducerAction F I M C} {es : List (ProducerEvent M)} (move : Move s a s' es) {n : Nat}
    (panics : ProducerEvent.panicked n ∈ es) :
    ∃ send b bucket, s.sends[n]? = some send ∧ send.throttle = some b ∧ s.buckets[b]? = some bucket ∧
      bucket.rate = 0 := by
  cases move with
  | aside sameDesk sameBuckets sameSends passes refused =>
      rcases refused _ panics with ⟨throttle, now, error, same⟩ | ⟨m, error, same⟩ <;> cases same
  | begun => cases panics
  | woke found sleeping elapsed => cases panics
  | ended found refused =>
      rcases refused _ panics with ⟨throttle, now, error, same⟩ | ⟨m, error, same⟩ <;> cases same
  | throttled => simp at panics
  | tried found live stepped => simp at panics
  | @waited m send s' es found waiting waits =>
      cases throttled : send.throttle with
      | none =>
          rw [throttled] at waits
          cases waited_of_some waits
          cases panics
      | some b =>
          rw [throttled] at waits
          cases waited_of_some waits with
          | granted made answer => simp at panics
          | delayed made answer => cases panics
          | @panicked b bucket made answer =>
              cases List.mem_singleton.mp panics
              exact ⟨send, b, bucket, found, throttled, made, ((TokenBucket.panicked_iff _ _).mp answer).2⟩
  | sent found stepped => simp at panics
  | worked stepped => simp at panics

theorem panicsExplained (runs : Runs step ok (init capacity router cap) s t) : PanicsExplained s t := by
  apply runs.invariant (P := PanicsExplained)
  · intro n panics
    cases panics
  · intro s t a s' es ih _ stepped n panics
    have move := move_of_step stepped
    have explained : ∃ send b bucket, s.sends[n]? = some send ∧ send.throttle = some b ∧
        s.buckets[b]? = some bucket ∧ bucket.rate = 0 := by
      rcases List.mem_append.mp panics with old | new
      · exact ih n old
      · exact move.panicked new
    obtain ⟨send, b, bucket, held, throttled, found, flat⟩ := explained
    obtain ⟨send', held', next⟩ := move.send_step held
    obtain ⟨bucket', found', sameRate⟩ := move.rate_kept found
    exact ⟨send', b, bucket', held', next.throttle.trans throttled, found', sameRate.trans flat⟩

/-- No `make_send` on a handle with this rate and burst, or on a clone of it, panics. -/
def SendsNeverPanic (F I M C : Type) [F32 F] [Message M] (rate burst : Nat) : Prop :=
  ∀ capacity router cap (s : Producers F I M C) t, Runs step anyStep (init capacity router cap) s t →
    ∀ b, ProducerEvent.throttled b ⟨rate, burst⟩ ∈ t →
      ∀ n send, s.sends[n]? = some send → send.throttle = some b → ProducerEvent.panicked n ∉ t

/-- Without a rate, each message takes one of the burst. -/
theorem opened_drained [Nonempty M] {burst k : Nat} (isU32 : burst < 2 ^ 32) (enough : k ≤ burst) :
    ∃ (s : Producers F I M C) (t : List (ProducerEvent M)),
      Opened 0 burst k (TokenBucket.drained burst k) s t := by
  induction k with
  | zero => exact opened 0 burst
  | succ k ih =>
      obtain ⟨s, t, before⟩ := ih (by omega)
      obtain ⟨s₁, t₁, send, begun, held, throttled, waiting⟩ := before.begin (Classical.arbitrary M)
      obtain ⟨s₂, es, -, after, -⟩ := begun.poll held throttled waiting
      rw [← TokenBucket.tryAcquireRounded_exact, TokenBucket.drained_grants _ isU32 enough] at after
      exact ⟨s₂, _, after⟩

/-- **Throttled sends never panic, unless the rate is zero**; for the bucket itself this is so with
exact and with rounded arithmetic. -/
theorem throttled_never_panics_iff [Nonempty M] (R : Rounding) {rate burst : Nat} (isU32 : burst < 2 ^ 32) :
    (TokenBucket.NeverPanics R rate burst ↔ 1 ≤ rate) ∧ (SendsNeverPanic F I M C rate burst ↔ 1 ≤ rate) := by
  refine ⟨TokenBucket.never_panics_iff R isU32, fun never => ?_, ?_⟩
  · by_contra none
    obtain rfl : rate = 0 := by omega
    obtain ⟨s, t, before⟩ := opened_drained (F := F) (I := I) (M := M) (C := C) isU32 (Nat.le_refl burst)
    obtain ⟨s₁, t₁, send, begun, held, throttled, waiting⟩ := before.begin (Classical.arbitrary M)
    obtain ⟨s₂, es, stepped, after, polled⟩ := begun.poll held throttled waiting
    obtain ⟨send', held', next⟩ := (move_of_step stepped).send_step held
    have panics : ((TokenBucket.drained burst burst).tryAcquire 0).2 = .panicked := by
      rw [← TokenBucket.tryAcquireRounded_exact, TokenBucket.drained_panics]
    rcases polled with ⟨token, -⟩ | ⟨duration, waits, -⟩ | ⟨-, rfl⟩
    · cases panics.symm.trans token
    · cases panics.symm.trans waits
    · exact never 1 .affinity 0 s₂ _ after.runs 0 after.made burst send' held' (next.throttle.trans throttled)
        (List.mem_append_right _ (List.mem_singleton_self _))
  · intro positive capacity router cap s t runs b made n send held throttled panics
    obtain ⟨send', b', bucket, held', throttled', found, flat⟩ := panicsExplained runs n panics
    cases held.symm.trans held'
    cases throttled.symm.trans throttled'
    obtain ⟨bucket', found', -, sameRate⟩ := (books runs).made b _ made
    cases found.symm.trans found'
    rw [flat] at sameRate
    have zero : rate = 0 := by exact_mod_cast sameRate.symm
    omega

theorem throttled_never_panics_iff_single :
    TokenBucket.NeverPanics .exact 1 1 ∧ SendsNeverPanic ℚ Unit BaseMessage String 1 1 := by
  have nonempty : Nonempty BaseMessage := ⟨World.ping⟩
  obtain ⟨never, sends⟩ := throttled_never_panics_iff (F := ℚ) (I := Unit) (M := BaseMessage) (C := String) .exact
    (by omega : 1 < 2 ^ 32)
  exact ⟨never.mpr (Nat.le_refl 1), sends.mpr (Nat.le_refl 1)⟩

end Producers

end Jackfield
