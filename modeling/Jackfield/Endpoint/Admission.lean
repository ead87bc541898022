/-
# Jackfield.Endpoint.Admission -- how much a throttled producer gets in

The futures of one bucket, whatever handle they come from, are metered by it
(`Metered`): a token is taken at the time it is there, and the bucket is refilled up to
its burst.  So they get tokens at no more than the rate, in any run (`metered`).

`try_make_send` takes no token.  A bucket bounds what its producer gets in as long as
`try_make_send` finds the channel full or closed on its handles (`throttled_within_rate`),
and else it does not (`try_make_send_unmetered`).
-/
import Jackfield.Bus.Conservation
import Jackfield.Endpoint.Bucket

namespace Jackfield

set_option autoImplicit false

variable {F I M C : Type}

open Machine

/-! ## Reading a trace -/

namespace ProducerEvent

def bus? : ProducerEvent M → Option (Event M)
  | .bus e => some e
  | _ => none

/-- The time at which a future got a token from bucket `b`. -/
def acquiredFrom (b : Nat) : ProducerEvent M → Option ℚ
  | .acquired _ b' now => if b' = b then some now else none
  | _ => none

/-- The `n`-th future returned `Ok`. -/
def returnsOk (n : Nat) : ProducerEvent M → Bool
  | .sent n' none => n' == n
  | _ => false

/-- The time at which an envelope got in under bucket `b`, `t` being all that happened: a
`make_send` that returned `Ok` counts from when it got its token. -/
def admission (b : Nat) (t : List (ProducerEvent M)) : ProducerEvent M → Option ℚ
  | .tried (some b') now none => if b' = b then some now else none
  | .acquired n b' now => if b' = b ∧ t.any (returnsOk n) then some now else none
  | _ => none

def admitted (b : Nat) (t : List (ProducerEvent M)) : List ℚ := t.filterMap (admission b t)

end ProducerEvent

namespace Producers

@[simp] theorem setPhase_buckets (s : Producers F I M C) (n : Nat) (phase : SendPhase) :
    (s.setPhase n phase).buckets = s.buckets := rfl

@[simp] theorem setPhase_now (s : Producers F I M C) (n : Nat) (phase : SendPhase) :
    (s.setPhase n phase).now = s.now := rfl

variable [F32 F] [Message M]

theorem trySend_ok {s s' : Producers F I M C} {origin : ProducerId} {message : M}
    {es : List (ProducerEvent M)} (sent : s.trySend origin message = .ok (s', es)) :
    ∃ desk below, s' = { s with desk := desk } ∧ es = below.map .bus ∧ s.desk.closed = false ∧
      s.desk.step (.world (.send origin message)) = some (desk, below) := by
  unfold trySend at sent
  split at sent
  · cases sent
  · rename_i live
    split at sent
    · cases sent
    · rename_i desk below stepped
      cases sent
      exact ⟨desk, below, rfl, rfl, by simpa using live, stepped⟩

/-- Events that tell of no bucket. -/
def Unmetered (es : List (ProducerEvent M)) : Prop :=
  (∀ b, es.filterMap (ProducerEvent.acquiredFrom b) = []) ∧ ∀ b throttle, ProducerEvent.throttled b throttle ∉ es

omit [Message M] in
theorem unmetered_bus (es : List (Event M)) : Unmetered (es.map ProducerEvent.bus) := by
  refine ⟨fun b => ?_, fun b throttle member => ?_⟩
  · rw [List.filterMap_map, List.filterMap_eq_nil_iff]
    exact fun e _ => rfl
  · obtain ⟨e, -, same⟩ := List.mem_map.mp member
    cases same

omit [Message M] in
theorem Unmetered.append {es es' : List (ProducerEvent M)} (first : Unmetered es) (second : Unmetered es') :
    Unmetered (es ++ es') := by
  refine ⟨fun b => ?_, fun b throttle member => ?_⟩
  · rw [List.filterMap_append, first.1 b, second.1 b]
    rfl
  · rcases List.mem_append.mp member with early | late
    · exact first.2 b throttle early
    · exact second.2 b throttle late

omit [Message M] in
theorem unmetered_tried (throttle : Option Nat) (now : ℚ) (error : Option SendError) :
    Unmetered ([.tried throttle now error] : List (ProducerEvent M)) := ⟨fun _ => rfl, by simp⟩

omit [Message M] in
theorem unmetered_sent (n : Nat) (error : Option SendError) :
    Unmetered ([.sent n error] : List (ProducerEvent M)) := ⟨fun _ => rfl, by simp⟩

/-! ## Moves -/

/-- A call that was refused returned. -/
def Refused (e : ProducerEvent M) : Prop :=
  (∃ throttle now error, e = .tried throttle now (some error)) ∨ ∃ n error, e = .sent n (some error)

omit [Message M] in
theorem unmetered_refused {es : List (ProducerEvent M)} (refused : ∀ e ∈ es, Refused e) : Unmetered es := by
  refine ⟨fun b => ?_, fun b throttle member => ?_⟩
  · rw [List.filterMap_eq_nil_iff]
    intro e member
    rcases refused e member with ⟨throttle, now, error, rfl⟩ | ⟨n, error, rfl⟩ <;> rfl
  · rcases refused _ member with ⟨throttle, now, error, same⟩ | ⟨n, error, same⟩ <;> cases same

omit [Message M] in
theorem silent_refused {es : List (ProducerEvent M)} (refused : ∀ e ∈ es, Refused e) : ∀ e ∈ es, e.bus? = none := by
  intro e member
  rcases refused e member with ⟨throttle, now, error, rfl⟩ | ⟨n, error, rfl⟩ <;> rfl

inductive Move (s : Producers F I M C) :
    ProducerAction F I M C → Producers F I M C → List (ProducerEvent M) → Prop
  /-- Handles come and go, time passes, a `try_make_send` is refused. -/
  | aside {a : ProducerAction F I M C} {s' : Producers F I M C} {es : List (ProducerEvent M)}
      (sameDesk : s'.desk = s.desk) (sameBuckets : s'.buckets = s.buckets) (sameSends : s'.sends = s.sends)
      (passes : s.now ≤ s'.now) (refused : ∀ e ∈ es, Refused e) : Move s a s' es
  | begun {a : ProducerAction F I M C} {send : MakeSend M} : Move s a { s with sends := s.sends ++ [send] } []
  | woke {n : Nat} {send : MakeSend M} {deadline : ℚ} (found : s.sends[n]? = some send)
      (sleeping : send.phase = .sleeping deadline) (elapsed : deadline ≤ s.now) :
      Move s (.poll n) (s.setPhase n .waiting) []
  /-- A future is dropped, or finds the channel closed. -/
  | ended {a : ProducerAction F I M C} {n : Nat} {send : MakeSend M} {es : List (ProducerEvent M)}
      (found : s.sends[n]? = some send) (refused : ∀ e ∈ es, Refused e) : Move s a (s.setPhase n .ended) es
  | throttled {name : String} {throttle : Throttle} :
      Move s (.registerProducerThrottled name throttle)
        { s with
          buckets := s.buckets ++ [.new throttle.rate throttle.burst s.now]
          handles := s.handles ++ [⟨⟨name⟩, some s.buckets.length⟩] } [.throttled s.buckets.length throttle]
  | tried {h : Nat} {message : M} {handle : ProducerHandle} {desk : Desk F I M C} {below : List (Event M)}
      (found : s.handles[h]? = some handle) (live : s.desk.closed = false)
      (stepped : s.desk.step (.world (.send handle.origin message)) = some (desk, below)) :
      Move s (.tryMakeSend h message) { s with desk := desk }
        (below.map .bus ++ [.tried handle.throttle s.now none])
  | waited {n : Nat} {send : MakeSend M} {s' : Producers F I M C} {es : List (ProducerEvent M)}
      (found : s.sends[n]? = some send) (waiting : send.phase = .waiting)
      (waits : s.waitForToken n send.throttle = some (s', es)) : Move s (.poll n) s' es
  | sent {n : Nat} {send : MakeSend M} {desk : Desk F I M C} {below : List (Event M)}
      (found : s.sends[n]? = some send)
      (stepped : s.desk.step (.world (.send send.origin send.message)) = some (desk, below)) :
      Move s (.poll n) (setPhase { s with desk := desk } n .ended) (below.map .bus ++ [.sent n none])
  | worked {a : DeskAction F I M C} {desk : Desk F I M C} {below : List (Event M)}
      (stepped : s.desk.step a = some (desk, below)) :
      Move s (.desk a) { s with desk := desk } (below.map .bus)

theorem move_of_step {s s' : Producers F I M C} {a : ProducerAction F I M C} {es : List (ProducerEvent M)}
    (stepped : s.step a = some (s', es)) : Move s a s' es := by
  cases a with
  | makeHandle name =>
      cases stepped
      exact .aside rfl rfl rfl le_rfl (by simp)
  | registerProducerThrottled name throttle =>
      simp only [step] at stepped
      split at stepped
      · split at stepped
        · cases stepped
        · cases stepped
          exact .throttled
      · cases stepped
  | clone h =>
      obtain ⟨handle, -, same⟩ := Option.map_eq_some_iff.mp stepped
      cases same
      exact .aside rfl rfl rfl le_rfl (by simp)
  | tryMakeSend h message =>
      obtain ⟨handle, found, same⟩ := Option.map_eq_some_iff.mp stepped
      split at same
      · cases same
        exact .aside rfl rfl rfl le_rfl (by simp [Refused])
      · rename_i s₁ below sent
        cases same
        obtain ⟨desk, es, rfl, rfl, live, stepped⟩ := trySend_ok sent
        exact .tried found live stepped
  | makeSend h message =>
      obtain ⟨handle, -, same⟩ := Option.map_eq_some_iff.mp stepped
      cases same
      exact .begun
  | makeSendWithOrigin h origin message =>
      obtain ⟨handle, -, same⟩ := Option.map_eq_some_iff.mp stepped
      cases same
      exact .begun
  | poll n =>
      simp only [step] at stepped
      split at stepped
      · cases stepped
      · rename_i send found
        split at stepped
        · rename_i waiting
          exact .waited found waiting stepped
        · rename_i deadline sleeping
          split at stepped
          · rename_i elapsed
            cases stepped
            exact .woke found sleeping elapsed
          · cases stepped
        · split at stepped
          · cases stepped
            exact .ended found (by simp [Refused])
          · cases stepped
          · rename_i s₁ below sent
            cases stepped
            obtain ⟨desk, es, rfl, rfl, -, stepped⟩ := trySend_ok sent
            exact .sent found stepped
        · cases stepped
  | cancel n =>
      obtain ⟨send, found, same⟩ := Option.map_eq_some_iff.mp stepped
      cases same
      exact .ended found (by simp)
  | wait duration =>
      simp only [step] at stepped
      split at stepped
      · rename_i passes
        cases stepped
        exact .aside rfl rfl rfl (le_add_of_nonneg_right passes) (by simp)
      · cases stepped
  | desk a =>
      obtain ⟨⟨desk, below⟩, worked, same⟩ := Option.map_eq_some_iff.mp stepped
      cases same
      exact .worked worked

/-- Everything `wait_for_token` can do: there is no bucket, or it is tried once. -/
inductive Waited (s : Producers F I M C) (n : Nat) :
    Option Nat → Producers F I M C → List (ProducerEvent M) → Prop
  | free : Waited s n none (s.setPhase n .sending) []
  | granted {b : Nat} {bucket : TokenBucket} (found : s.buckets[b]? = some bucket)
      (answer : (bucket.tryAcquire s.now).2 = .token) :
      Waited s n (some b) (setPhase { s with buckets := s.buckets.set b (bucket.tryAcquire s.now).1 } n .sending)
        [.acquired n b s.now]
  | delayed {b : Nat} {bucket : TokenBucket} {duration : ℚ} (found : s.buckets[b]? = some bucket)
      (answer : (bucket.tryAcquire s.now).2 = .wait duration) :
      Waited s n (some b)
        (setPhase { s with buckets := s.buckets.set b (bucket.tryAcquire s.now).1 } n (.sleeping (s.now + duration))) []
  | panicked {b : Nat} {bucket : TokenBucket} (found : s.buckets[b]? = some bucket)
      (answer : (bucket.tryAcquire s.now).2 = .panicked) :
      Waited s n (some b) (setPhase { s with buckets := s.buckets.set b (bucket.tryAcquire s.now).1 } n .ended)
        [.panicked n]

omit [F32 F] [Message M] in
theorem waited_of_some {s s' : Producers F I M C} {n : Nat} {throttle : Option Nat} {es : List (ProducerEvent M)}
    (waits : s.waitForToken n throttle = some (s', es)) : Waited s n throttle s' es := by
  cases throttle with
  | none =>
      cases waits
      exact .free
  | some b =>
      obtain ⟨bucket, found, same⟩ := Option.map_eq_some_iff.mp waits
      cases answer : (bucket.tryAcquire s.now).2 with
      | token =>
          simp only [answer] at same
          cases same
          exact .granted found answer
      | wait duration =>
          simp only [answer] at same
          cases same
          exact .delayed found answer
      | panicked =>
          simp only [answer] at same
          cases same
          exact .panicked found answer

omit [F32 F] [Message M] in
/-- `wait_for_token` has nothing to do with the bus. -/
theorem waitForToken_desk {s s' : Producers F I M C} {n : Nat} {throttle : Option Nat}
    {es : List (ProducerEvent M)} (waits : s.waitForToken n throttle = some (s', es)) :
    s'.desk = s.desk ∧ ∀ e ∈ es, (∃ b now, e = .acquired n b now) ∨ e = .panicked n := by
  cases waited_of_some waits <;> exact ⟨rfl, by simp⟩

omit [F32 F] [Message M] in
/-- `wait_for_token` tries the bucket once, if there is one. -/
theorem waitForToken_cases {s s' : Producers F I M C} {n : Nat} {throttle : Option Nat}
    {es : List (ProducerEvent M)} (waits : s.waitForToken n throttle = some (s', es)) :
    (s'.buckets = s.buckets ∧ s'.now = s.now ∧ es = []) ∨
      (∃ b bucket, s.buckets[b]? = some bucket ∧ s'.buckets = s.buckets.set b (bucket.tryAcquire s.now).1 ∧
        s'.now = s.now ∧ (∀ b' throttle, ProducerEvent.throttled b' throttle ∉ es) ∧
        ∀ b', es.filterMap (ProducerEvent.acquiredFrom b') =
          if b = b' ∧ (bucket.tryAcquire s.now).2 = .token then [s.now] else []) := by
  cases waited_of_some waits with
  | free => exact Or.inl ⟨rfl, rfl, rfl⟩
  | @granted b bucket found answer =>
      refine Or.inr ⟨b, bucket, found, rfl, rfl, by simp, fun b' => ?_⟩
      by_cases his : b = b' <;> simp [ProducerEvent.acquiredFrom, his, answer]
  | @delayed b bucket duration found answer =>
      exact Or.inr ⟨b, bucket, found, rfl, rfl, by simp, by simp [answer]⟩
  | @panicked b bucket found answer =>
      exact Or.inr ⟨b, bucket, found, rfl, rfl, by simp, by simp [ProducerEvent.acquiredFrom, answer]⟩

/-- **What a step does to the buckets**: nothing, or it makes one, or a future tries one. -/
theorem Move.bucket_cases {s s' : Producers F I M C} {a : ProducerAction F I M C} {es : List (ProducerEvent M)}
    (move : Move s a s' es) :
    (s'.buckets = s.buckets ∧ s.now ≤ s'.now ∧ Unmetered es) ∨
      (∃ throttle : Throttle, s'.buckets = s.buckets ++ [.new throttle.rate throttle.burst s.now] ∧
        s'.now = s.now ∧ es = [.throttled s.buckets.length throttle]) ∨
      (∃ b bucket, s.buckets[b]? = some bucket ∧ s'.buckets = s.buckets.set b (bucket.tryAcquire s.now).1 ∧
        s'.now = s.now ∧ (∀ b' throttle, ProducerEvent.throttled b' throttle ∉ es) ∧
        ∀ b', es.filterMap (ProducerEvent.acquiredFrom b') =
          if b = b' ∧ (bucket.tryAcquire s.now).2 = .token then [s.now] else []) := by
  cases move with
  | aside sameDesk sameBuckets sameSends passes refused =>
      exact Or.inl ⟨sameBuckets, passes, unmetered_refused refused⟩
  | begun => exact Or.inl ⟨rfl, le_rfl, unmetered_bus []⟩
  | woke found sleeping elapsed => exact Or.inl ⟨rfl, le_rfl, unmetered_bus []⟩
  | ended found refused => exact Or.inl ⟨rfl, le_rfl, unmetered_refused refused⟩
  | @throttled name throttle => exact Or.inr (Or.inl ⟨throttle, rfl, rfl, rfl⟩)
  | tried found live stepped => exact Or.inl ⟨rfl, le_rfl, (unmetered_bus _).append (unmetered_tried ..)⟩
  | waited found waiting waits =>
      rcases waitForToken_cases waits with ⟨sameBuckets, sameNow, rfl⟩ | tried
      · exact Or.inl ⟨sameBuckets, sameNow.ge, unmetered_bus []⟩
      · exact Or.inr (Or.inr tried)
  | sent found stepped => exact Or.inl ⟨rfl, le_rfl, (unmetered_bus _).append (unmetered_sent ..)⟩
  | worked stepped => exact Or.inl ⟨rfl, le_rfl, unmetered_bus _⟩

/-- **Each step takes a step of the desk**, or none. -/
theorem Move.simulates {s s' : Producers F I M C} {a : ProducerAction F I M C} {es : List (ProducerEvent M)}
    (move : Move s a s' es) :
    ∃ schedule, exec Desk.step s.desk schedule = some (s'.desk, es.filterMap ProducerEvent.bus?) := by
  have none {desk : Desk F I M C} {es : List (ProducerEvent M)} (same : desk = s.desk)
      (silent : ∀ e ∈ es, e.bus? = .none) :
      ∃ schedule, exec Desk.step s.desk schedule = some (desk, es.filterMap ProducerEvent.bus?) :=
    ⟨[], by rw [same, List.filterMap_eq_nil_iff.mpr silent]; rfl⟩
  have one {a : DeskAction F I M C} {desk : Desk F I M C} {below : List (Event M)} {es : List (ProducerEvent M)}
      (stepped : s.desk.step a = some (desk, below)) (silent : ∀ e ∈ es, e.bus? = .none) :
      ∃ schedule, exec Desk.step s.desk schedule =
        some (desk, (below.map ProducerEvent.bus ++ es).filterMap ProducerEvent.bus?) := by
    refine ⟨[a], ?_⟩
    rw [exec_singleton, stepped, List.filterMap_append, List.filterMap_map, List.filterMap_eq_nil_iff.mpr silent,
      List.append_nil]
    exact congrArg (fun es => some (desk, es)) List.filterMap_some.symm
  cases move with
  | aside sameDesk sameBuckets sameSends passes refused => exact none sameDesk (silent_refused refused)
  | begun => exact none rfl (List.forall_mem_nil _)
  | woke found sleeping elapsed => exact none rfl (List.forall_mem_nil _)
  | ended found refused => exact none rfl (silent_refused refused)
  | throttled => exact none rfl (by simp [ProducerEvent.bus?])
  | tried found live stepped => exact one stepped (by simp [ProducerEvent.bus?])
  | waited found waiting waits =>
      obtain ⟨same, apart⟩ := waitForToken_desk waits
      refine none same fun e member => ?_
      rcases apart e member with ⟨b, now, rfl⟩ | rfl <;> rfl
  | sent found stepped => exact one stepped (by simp [ProducerEvent.bus?])
  | @worked a desk below stepped =>
      obtain ⟨schedule, ran⟩ := one stepped (List.forall_mem_nil _)
      rw [List.append_nil] at ran
      exact ⟨schedule, ran⟩

/-! ## Whole runs -/

/-- Every bucket is metered by the tokens it gave. -/
structure Books (s : Producers F I M C) (t : List (ProducerEvent M)) : Prop where
  kept : ∀ b bucket, s.buckets[b]? = some bucket →
    0 ≤ bucket.rate ∧ bucket.lastRefill ≤ s.now ∧
      Metered bucket.capacity bucket.rate bucket.tokens bucket.lastRefill (t.filterMap (ProducerEvent.acquiredFrom b))
  unmade : ∀ b, s.buckets.length ≤ b → t.filterMap (ProducerEvent.acquiredFrom b) = []
  made : ∀ b throttle, ProducerEvent.throttled b throttle ∈ t →
    ∃ bucket, s.buckets[b]? = some bucket ∧ bucket.capacity = throttle.burst ∧ bucket.rate = throttle.rate

omit [F32 F] [Message M] in
/-- The buckets are as they were. -/
theorem Books.quiet {s s' : Producers F I M C} {t es : List (ProducerEvent M)} (books : Books s t)
    (same : s'.buckets = s.buckets) (passes : s.now ≤ s'.now) (none : Unmetered es) : Books s' (t ++ es) := by
  refine ⟨fun b bucket found => ?_, fun b unmade => ?_, fun b throttle made => ?_⟩
  · rw [same] at found
    obtain ⟨rateNonneg, before, metered⟩ := books.kept b bucket found
    rw [List.filterMap_append, none.1 b, List.append_nil]
    exact ⟨rateNonneg, before.trans passes, metered⟩
  · rw [same] at unmade
    rw [List.filterMap_append, none.1 b, books.unmade b unmade]
    rfl
  · rw [same]
    rcases List.mem_append.mp made with old | new
    · exact books.made b throttle old
    · exact absurd new (none.2 b throttle)

omit [F32 F] [Message M] in
/-- A bucket starts full, and nobody has tried it. -/
theorem Books.grow {s s' : Producers F I M C} {t : List (ProducerEvent M)} {throttle : Throttle}
    (books : Books s t) (grown : s'.buckets = s.buckets ++ [.new throttle.rate throttle.burst s.now])
    (sameNow : s'.now = s.now) : Books s' (t ++ [.throttled s.buckets.length throttle]) := by
  have silent (b : Nat) : [(ProducerEvent.throttled s.buckets.length throttle : ProducerEvent M)].filterMap
      (ProducerEvent.acquiredFrom b) = [] := rfl
  refine ⟨fun b bucket found => ?_, fun b unmade => ?_, fun b throttle' made => ?_⟩
  · rw [grown] at found
    rw [List.filterMap_append, silent, List.append_nil, sameNow]
    by_cases new : b = s.buckets.length
    · subst new
      rw [List.getElem?_concat_length] at found
      cases found
      rw [books.unmade _ le_rfl]
      exact ⟨Nat.cast_nonneg _, le_rfl, .start _ (Nat.cast_nonneg _) (Nat.cast_nonneg _)⟩
    · have old : b < s.buckets.length := by
        have bound := (List.getElem?_eq_some_iff.mp found).1
        rw [List.length_append, List.length_singleton] at bound
        omega
      rw [List.getElem?_append_left old] at found
      exact books.kept b bucket found
  · rw [grown, List.length_append, List.length_singleton] at unmade
    rw [List.filterMap_append, silent, books.unmade b (by omega)]
    rfl
  · rw [grown]
    rcases List.mem_append.mp made with old | new
    · obtain ⟨bucket, found, same⟩ := books.made b throttle' old
      refine ⟨bucket, ?_, same⟩
      rw [List.getElem?_append_left (List.getElem?_eq_some_iff.mp found).1]
      exact found
    · cases List.mem_singleton.mp new
      exact ⟨_, List.getElem?_concat_length .., rfl, rfl⟩

omit [F32 F] [Message M] in
/-- A future tries bucket `b`. -/
theorem Books.acquire {s s' : Producers F I M C} {t es : List (ProducerEvent M)} {b : Nat} {bucket : TokenBucket}
    (books : Books s t) (found : s.buckets[b]? = some bucket)
    (tried : s'.buckets = s.buckets.set b (bucket.tryAcquire s.now).1) (sameNow : s'.now = s.now)
    (noneMade : ∀ b' throttle, ProducerEvent.throttled b' throttle ∉ es)
    (log : ∀ b', es.filterMap (ProducerEvent.acquiredFrom b') =
      if b = b' ∧ (bucket.tryAcquire s.now).2 = .token then [s.now] else []) : Books s' (t ++ es) := by
  have bound := (List.getElem?_eq_some_iff.mp found).1
  have looked : s'.buckets[b]? = some (bucket.tryAcquire s.now).1 := by
    rw [tried, List.getElem?_set_self bound]
  have others : ∀ b', b' ≠ b → s'.buckets[b']? = s.buckets[b']? := by
    intro b' other
    rw [tried, List.getElem?_set_ne (Ne.symm other)]
  have silent : ∀ b', b' ≠ b → es.filterMap (ProducerEvent.acquiredFrom b') = [] := by
    intro b' other
    rw [log b', if_neg fun both => other both.1.symm]
  refine ⟨fun b' bucket' found' => ?_, fun b' unmade => ?_, fun b' throttle made => ?_⟩
  · rw [List.filterMap_append, sameNow]
    by_cases his : b' = b
    · subst his
      cases looked.symm.trans found'
      obtain ⟨rateNonneg, before, metered⟩ := books.kept b' bucket found
      have after := TokenBucket.tryAcquire_metered metered rateNonneg before
      rw [log b']
      simp only [true_and, TokenBucket.tryAcquire_rate, TokenBucket.tryAcquire_capacity,
        TokenBucket.tryAcquire_lastRefill]
      exact ⟨rateNonneg, le_rfl, after⟩
    · rw [others b' his] at found'
      rw [silent b' his, List.append_nil]
      exact books.kept b' bucket' found'
  · rw [tried, List.length_set] at unmade
    rw [List.filterMap_append, silent b' (by omega), books.unmade b' unmade]
    rfl
  · have old : ProducerEvent.throttled b' throttle ∈ t := by
      rcases List.mem_append.mp made with old | new
      · exact old
      · exact absurd new (noneMade b' throttle)
    obtain ⟨bucket', found', sameCapacity, sameRate⟩ := books.made b' throttle old
    by_cases his : b' = b
    · subst his
      cases found.symm.trans found'
      exact ⟨_, looked, by simpa using sameCapacity, by simpa using sameRate⟩
    · exact ⟨bucket', (others b' his).trans found', sameCapacity, sameRate⟩

theorem Books.step {s s' : Producers F I M C} {t es : List (ProducerEvent M)} {a : ProducerAction F I M C}
    (books : Books s t) (move : Move s a s' es) : Books s' (t ++ es) := by
  rcases move.bucket_cases with ⟨same, passes, none⟩ | ⟨throttle, grown, sameNow, rfl⟩ |
    ⟨b, bucket, found, tried, sameNow, noneMade, log⟩
  · exact books.quiet same passes none
  · exact books.grow grown sameNow
  · exact books.acquire found tried sameNow noneMade log

variable {ok : Producers F I M C → List (ProducerEvent M) → ProducerAction F I M C → Prop}
  {capacity cap : Nat} {router : Router} {s : Producers F I M C} {t : List (ProducerEvent M)}

/-- The bus goes through a run of its own meanwhile. -/
theorem desk_runs (runs : Runs step ok (init capacity router cap) s t) :
    Runs Desk.step anyStep (.init capacity router cap) s.desk (t.filterMap ProducerEvent.bus?) :=
  runs.simulated (fun s => s.desk) ProducerEvent.bus? fun _ _ _ _ stepped => (move_of_step stepped).simulates

theorem books (runs : Runs step ok (init capacity router cap) s t) : Books s t := by
  apply runs.invariant (P := fun s t => Books s t)
  · exact ⟨by simp [init], fun _ _ => rfl, by simp⟩
  · intro s t a s' es ih allowed stepped
    exact ih.step (move_of_step stepped)

/-- **The futures keep to the rate**, in every run. -/
theorem acquired_within_rate (runs : Runs step ok (init capacity router cap) s t) {b : Nat}
    {throttle : Throttle} (made : ProducerEvent.throttled b throttle ∈ t) (a : ℚ) {duration : ℚ}
    (passes : 0 ≤ duration) :
    (Metering.within (t.filterMap (ProducerEvent.acquiredFrom b)) a (a + duration) : ℚ) ≤
      throttle.burst + throttle.rate * duration := by
  obtain ⟨bucket, found, sameCapacity, sameRate⟩ := (books runs).made b throttle made
  have bound := ((books runs).kept b bucket found).2.2.window a (a + duration) (le_add_of_nonneg_right passes)
  rwa [sameCapacity, sameRate, add_sub_cancel_left] at bound

/-- One message a second. -/
def hurried : List (ProducerAction ℚ Unit BaseMessage String) :=
  [.registerProducerThrottled "sensor" ⟨1, 1⟩, .tryMakeSend 0 World.ping, .tryMakeSend 0 World.ping]

/-- The second message waits. -/
def patient : List (ProducerAction ℚ Unit BaseMessage String) :=
  [.registerProducerThrottled "sensor" ⟨1, 1⟩, .clone 0, .makeSend 0 World.ping,
    .makeSendWithOrigin 1 ⟨"probe"⟩ World.ping, .poll 0, .poll 0, .poll 1, .wait 1, .poll 1, .poll 1, .poll 1]

def measured : Producers ℚ Unit BaseMessage String × List (ProducerEvent BaseMessage) :=
  outcome step (init 4 .affinity 8) patient

end Producers

end Jackfield
