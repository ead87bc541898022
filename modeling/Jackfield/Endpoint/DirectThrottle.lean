/-
# Jackfield.Endpoint.DirectThrottle -- how fast an endpoint in the process sends

A producer registered with `register_producer_throttled` keeps to its rate where the tokens are
counted.  What the bus accepts can come later and all at once, since a future that has its token
still waits for room.  An endpoint has one message under way at a time, so of what is
accepted in a window of time at most the first had its token before
(`accepted_within_rate`).
-/
import Jackfield.Endpoint.DirectSends

namespace Jackfield

set_option autoImplicit false
set_option linter.unusedSectionVars false

variable {F I M C : Type}

open Machine

namespace Producers

variable [F32 F] [Message M] {s s' : Producers F I M C} {a : ProducerAction F I M C} {es : List (ProducerEvent M)}

/-- A token is taken at the time of its step, and time does not go back. -/
theorem Move.timed (move : Move s a s' es) (b : Nat) :
    s.now ≤ s'.now ∧ ∀ now ∈ es.filterMap (ProducerEvent.acquiredFrom b), now = s.now := by
  rcases move.bucket_cases with ⟨-, passes, none⟩ | ⟨throttle, -, sameNow, rfl⟩ |
    ⟨b', bucket, -, -, sameNow, -, log⟩
  · rw [none.1 b]
    exact ⟨passes, fun _ wrong => by cases wrong⟩
  · exact ⟨sameNow.ge, fun _ wrong => by cases wrong⟩
  · rw [log b]
    refine ⟨sameNow.ge, fun now member => ?_⟩
    split at member
    · exact List.mem_singleton.mp member
    · cases member

/-- A future that comes to send has got its token. -/
theorem Move.token (move : Move s a s' es) {n b : Nat} {old send : MakeSend M} (held : s.sends[n]? = some old)
    (now : s'.sends[n]? = some send) (sending : send.phase = .sending) (throttled : old.throttle = some b) :
    old.phase = .sending ∨ .acquired n b s.now ∈ es := by
  have same : s'.sends[n]? = s.sends[n]? → old.phase = .sending := by
    intro stays
    rw [stays] at now
    cases held.symm.trans now
    exact sending
  have phased : ∀ {m : Nat} {found : MakeSend M} {phase : SendPhase}, s.sends[m]? = some found →
      s'.sends = (s.setPhase m phase).sends → (m = n → found = old → phase = .sending → .acquired n b s.now ∈ es) →
      old.phase = .sending ∨ .acquired n b s.now ∈ es := by
    intro m found phase isFound changed gets
    by_cases his : m = n
    · subst his
      cases held.symm.trans isFound
      rw [changed, setPhase_sends, held] at now
      cases (show some { old with phase := phase } = some send by simpa using now)
      exact Or.inr (gets rfl rfl sending)
    · apply Or.inl (same _)
      rw [changed, setPhase_sends]
      simp [Ne.symm his]
  cases move with
  | aside sameDesk sameBuckets sameSends passes refused => exact Or.inl (same (by rw [sameSends]))
  | begun => exact Or.inl (same (List.getElem?_append_left (List.getElem?_eq_some_iff.mp held).1))
  | woke found sleeping elapsed => exact phased found rfl fun _ _ wrong => by cases wrong
  | ended found refused => exact phased found rfl fun _ _ wrong => by cases wrong
  | @waited m found s' es isFound waiting waits =>
      generalize metered : found.throttle = throttle at waits
      cases waited_of_some waits with
      | free =>
          refine phased isFound rfl fun _ isOld _ => ?_
          cases throttled.symm.trans (isOld ▸ metered)
      | granted isBucket answer =>
          refine phased isFound rfl fun his isOld _ => ?_
          cases throttled.symm.trans (isOld ▸ metered)
          rw [his]
          exact List.mem_singleton_self _
      | delayed isBucket answer => exact phased isFound rfl fun _ _ wrong => by cases wrong
      | panicked isBucket answer => exact phased isFound rfl fun _ _ wrong => by cases wrong
  | sent found stepped => exact phased found rfl fun _ _ wrong => by cases wrong
  | _ => exact Or.inl (same rfl)

end Producers

/-! ## The tokens of an endpoint -/

namespace Locals

/-- The times at which bucket `b` gave a token. -/
def tokensFrom (b : Nat) (t : List (LocalEvent M C)) : List ℚ :=
  (t.filterMap LocalEvent.producers?).filterMap (ProducerEvent.acquiredFrom b)

/-- One, if the endpoint has a token that it has not sent with. -/
def tokenHeld (s : Locals F I M C) (k : Nat) : Nat :=
  match s.endpoints k with
  | .here _ (some n) =>
      match s.producers.sends[n]? with
      | some send => if send.phase = .sending then 1 else 0
      | none => 0
  | _ => 0

theorem tokensFrom_append (b : Nat) (t es : List (LocalEvent M C)) :
    tokensFrom b (t ++ es) = tokensFrom b t ++ tokensFrom b es := by
  simp [tokensFrom]

theorem tokenHeld_of_sending {s : Locals F I M C} {k n : Nat} {e : Endpoint C} {send : MakeSend M}
    (here : s.endpoints k = .here e (some n)) (found : s.producers.sends[n]? = some send)
    (sending : send.phase = .sending) : s.tokenHeld k = 1 := by
  simp [tokenHeld, here, found, sending]

theorem tokenHeld_cases (s : Locals F I M C) (k : Nat) :
    s.tokenHeld k = 0 ∨
      s.tokenHeld k = 1 ∧ ∃ e n send, s.endpoints k = .here e (some n) ∧ s.producers.sends[n]? = some send ∧
        send.phase = .sending := by
  unfold tokenHeld
  split
  · rename_i e n here
    split
    · rename_i send found
      split
      · rename_i sending
        exact Or.inr ⟨rfl, e, n, send, here, found, sending⟩
      · exact Or.inl rfl
    · exact Or.inl rfl
  · exact Or.inl rfl

variable [F32 F] [Message M] {s s' : Locals F I M C} {a : LocalAction F I M C} {t u es : List (LocalEvent M C)}
  {k b : Nat} {name : String} {throttle : Throttle}

/-- An endpoint stays where it is, or is lent to nobody, or begins a future. -/
theorem Move.place_cases (move : Move s a s' es) (k : Nat) :
    s'.endpoints k = s.endpoints k ∨ (∀ e n, s'.endpoints k ≠ .here e (some n)) ∨
      ∃ e send, s'.endpoints k = .here e (some s.producers.sends.length) ∧
        s'.producers.sends[s.producers.sends.length]? = some send ∧ send.phase = .waiting := by
  have placed : ∀ {s : Locals F I M C} {j : Nat} {place : Place C}, (∀ e n, place ≠ .here e (some n)) →
      (s.setPlace j place).endpoints k = s.endpoints k ∨
        ∀ e n, (s.setPlace j place).endpoints k ≠ .here e (some n) := by
    intro s j place unlent
    rw [setPlace_endpoints]
    split
    · exact Or.inr unlent
    · exact Or.inl rfl
  have unlent : ∀ {e : Endpoint C} (e' : Endpoint C) (n : Nat), Place.here e none ≠ .here e' (some n) :=
    fun _ _ wrong => by cases wrong
  cases move with
  | made unused => exact (placed unlent).imp_right Or.inl
  | handlerSet free => exact (placed unlent).imp_right Or.inl
  | attached free stepped given => exact (placed unlent).imp_right Or.inl
  | throttled free stepped given => exact (placed unlent).imp_right Or.inl
  | entered free enters stepped => exact (placed fun _ _ wrong => by cases wrong).imp_right Or.inl
  | @begun j h e handle message free sends found stepped =>
      rw [setPlace_endpoints]
      split
      · exact Or.inr (Or.inr ⟨e, _, rfl, List.getElem?_concat_length .., rfl⟩)
      · exact Or.inl rfl
  | _ => exact Or.inl rfl

/-- **What is accepted under the name in a step** is what endpoint `k` is sending. -/
theorem Orderly.accepts_step (orderly : Orderly k name s t) (own : OwnName k name s a) (move : Move s a s' es) :
    acceptedUnder name es = [] ∨
      ∃ e n send, s.endpoints k = .here e (some n) ∧ s.producers.sends[n]? = some send ∧ send.phase = .sending ∧
        acceptedUnder name es = [send.message] ∧ s'.producers.sends = (s.producers.setPhase n .ended).sends := by
  cases move with
  | made unused => exact Or.inl rfl
  | handlerSet free => exact Or.inl rfl
  | attached free stepped given => exact Or.inl rfl
  | throttled free stepped given => exact Or.inl rfl
  | refused free noHandle => exact Or.inl rfl
  | begun free sends found stepped => exact Or.inl rfl
  | @entered j e a b producers below free enters stepped =>
      have foreign : b.sendsAs? s.producers = none := by cases enters <;> rfl
      have accepts := orderly.accepts stepped (by rw [foreign]; simp) [] rfl
      rwa [List.append_nil] at accepts
  | taken stepped =>
      exact orderly.accepts stepped (by simp [ProducerAction.sendsAs?]) _ (LocalEvent.filterMap_producers_consumed _)
  | others apart stepped =>
      have accepts := orderly.accepts stepped (own.others _ rfl) [] rfl
      rwa [List.append_nil] at accepts

/-- **A step spends a token for each message**: what is accepted and the token in hand are the token that was
in hand and the tokens taken. -/
theorem Orderly.spends (orderly : Orderly k name s t) (own : OwnName k name s a) (move : Move s a s' es)
    (metered : ∀ e n send, s.endpoints k = .here e (some n) → s.producers.sends[n]? = some send →
      send.throttle = some b) :
    (acceptedUnder name es).length + s'.tokenHeld k ≤ s.tokenHeld k + (tokensFrom b es).length := by
  rcases orderly.accepts_step own move with none | ⟨e, n, send, here, found, sending, told, ended⟩
  · rw [none, List.length_nil, Nat.zero_add]
    rcases s'.tokenHeld_cases k with zero | ⟨one, e, n, send, here, found, sending⟩
    · omega
    · rcases move.place_cases k with same | unlent | ⟨e', send', here', found', waiting⟩
      · rw [same] at here
        obtain ⟨old, held⟩ : ∃ old, s.producers.sends[n]? = some old :=
          ⟨_, List.getElem?_eq_getElem (orderly.known k e n here)⟩
        have throttled := metered e n old here held
        have got : old.phase = .sending ∨
            .acquired n b s.producers.now ∈ es.filterMap LocalEvent.producers? := by
          rcases move.below with ⟨unchanged, -⟩ | ⟨below, stepped⟩
          · rw [unchanged, held] at found
            cases found
            exact Or.inl sending
          · exact (Producers.move_of_step stepped).token held found sending throttled
        rcases got with already | token
        · have before := tokenHeld_of_sending here held already
          omega
        · have taken : s.producers.now ∈ tokensFrom b es := List.mem_filterMap.mpr ⟨_, token, if_pos rfl⟩
          have nonempty := List.length_pos_of_mem taken
          omega
      · exact absurd here (unlent e n)
      · cases here.symm.trans here'
        cases found.symm.trans found'
        cases sending.symm.trans waiting
  · have before := tokenHeld_of_sending here found sending
    have after : s'.tokenHeld k = 0 := by
      rcases s'.tokenHeld_cases k with zero | ⟨one, e', m, send', here', found', sending'⟩
      · exact zero
      · rcases move.place_cases k with same | unlent | ⟨e'', send'', here'', found'', waiting⟩
        · rw [same] at here'
          cases here.symm.trans here'
          rw [ended, Producers.setPhase_sends, found] at found'
          have phase := congrArg MakeSend.phase (Option.some.inj found')
          simp [sending'] at phase
        · exact absurd here' (unlent e' m)
        · cases here'.symm.trans here''
          cases found'.symm.trans found''
          cases sending'.symm.trans waiting
    rw [told, before, after, List.length_singleton]
    omega

/-! ## One registration -/

/-- Endpoint `k` is registered as a producer once at most, and with this throttle. -/
structure OnceThrottled (k : Nat) (throttle : Throttle) (t : List (LocalEvent M C)) (a : LocalAction F I M C) :
    Prop where
  throttled : a ≠ .registerProducer k
  once : ∀ other, a = .registerProducerThrottled k other → other = throttle ∧ ∀ bucket, .attached k bucket ∉ t

/-- What endpoint `k` sends with has the one bucket that it was registered with. -/
structure Rated (k : Nat) (throttle : Throttle) (s : Locals F I M C) (t : List (LocalEvent M C)) : Prop where
  handles : ∀ e n h, s.endpoints k = .here e n → e.handle = some h →
    ∃ handle b, s.producers.handles[h]? = some handle ∧ handle.throttle = some b ∧
      .attached k (some (b, throttle)) ∈ t
  sends : ∀ e n send, s.endpoints k = .here e (some n) → s.producers.sends[n]? = some send →
    ∃ b, send.throttle = some b ∧ .attached k (some (b, throttle)) ∈ t
  made : ∀ b, .attached k (some (b, throttle)) ∈ t → .producers (.throttled b throttle) ∈ t
  once : ∀ b b', .attached k (some (b, throttle)) ∈ t → .attached k (some (b', throttle)) ∈ t → b = b'

/-- The endpoint is not attached anew. -/
theorem Rated.quiet (rated : Rated k throttle s t) (unattached : ∀ bucket, .attached k bucket ∉ es) :
    Rated k throttle s (t ++ es) := by
  have old : ∀ b, .attached k (some (b, throttle)) ∈ t ++ es → .attached k (some (b, throttle)) ∈ t :=
    fun b told => (List.mem_append.mp told).resolve_right (unattached _)
  refine ⟨?handles, ?sends, ?made, ?once⟩
  case handles =>
    intro e n h here has
    obtain ⟨handle, b, found, metered, told⟩ := rated.handles e n h here has
    exact ⟨handle, b, found, metered, List.mem_append_left _ told⟩
  case sends =>
    intro e n send here found
    obtain ⟨b, metered, told⟩ := rated.sends e n send here found
    exact ⟨b, metered, List.mem_append_left _ told⟩
  case made => exact fun b told => List.mem_append_left _ (rated.made b (old b told))
  case once => exact fun b b' told told' => rated.once b b' (old b told) (old b' told')

/-- The bus takes a step, and the endpoint has no part in it. -/
theorem Rated.below (rated : Rated k throttle s t) (orderly : Orderly k name s t)
    {b : ProducerAction F I M (Resident C)} {producers : Producers F I M (Resident C)}
    {below : List (ProducerEvent M)} (stepped : s.producers.step b = some (producers, below)) :
    Rated k throttle { s with producers := producers } t where
  handles e n h here has := by
    obtain ⟨handle, b, found, metered, told⟩ := rated.handles e n h here has
    obtain ⟨⟨more, grown⟩, -⟩ := Producers.grown_of_step stepped
    refine ⟨handle, b, ?_, metered, told⟩
    rw [grown, List.getElem?_append_left (List.getElem?_eq_some_iff.mp found).1, found]
  sends e n send here found := by
    have held := List.getElem?_eq_getElem (orderly.known k e n here)
    obtain ⟨send', now, -, -, same, -⟩ := (Producers.move_of_step stepped).send_stays held
    cases found.symm.trans now
    rw [same]
    exact rated.sends e n _ here held
  made := rated.made
  once := rated.once

/-- An endpoint goes somewhere else, and endpoint `k` not into a future. -/
theorem Rated.place (rated : Rated k throttle s t) {j : Nat} {place : Place C}
    (unlent : j = k → ∀ e n, place ≠ .here e (some n))
    (handles : j = k → ∀ e n h, place = .here e n → e.handle = some h →
      ∃ handle b, s.producers.handles[h]? = some handle ∧ handle.throttle = some b ∧
        .attached k (some (b, throttle)) ∈ t) : Rated k throttle (s.setPlace j place) t where
  handles e n h here has := by
    rw [setPlace_endpoints] at here
    split at here
    · rename_i same
      exact handles same.symm e n h here has
    · exact rated.handles e n h here has
  sends e n send here found := by
    rw [setPlace_endpoints] at here
    split at here
    · rename_i same
      exact absurd here (unlent same.symm e n)
    · exact rated.sends e n send here found
  made := rated.made
  once := rated.once

/-- Another endpoint goes somewhere else, in a step of the bus. -/
theorem Rated.elsewhere (rated : Rated k throttle s t) (orderly : Orderly k name s t)
    {b : ProducerAction F I M (Resident C)} {producers : Producers F I M (Resident C)}
    {below : List (ProducerEvent M)} (stepped : s.producers.step b = some (producers, below)) {j : Nat}
    (other : j ≠ k) (place : Place C) (unattached : ∀ bucket, .attached k bucket ∉ es) :
    Rated k throttle ({ s with producers := producers }.setPlace j place) (t ++ es) :=
  ((rated.below orderly stepped).place (fun same => absurd same other) fun same => absurd same other).quiet
    unattached

/-- The endpoint is registered. -/
theorem rated_of_registered (unattached : ∀ bucket, .attached k bucket ∉ t) (e : Endpoint C) :
    Rated k throttle
      (setPlace { s with producers := { s.producers with
          buckets := s.producers.buckets ++ [.new throttle.rate throttle.burst s.producers.now]
          handles := s.producers.handles ++ [⟨⟨e.name⟩, some s.producers.buckets.length⟩] } } k
        (.here (e.attach s.producers.handles.length) none))
      (t ++ [.producers (.throttled s.producers.buckets.length throttle),
        .attached k (some (s.producers.buckets.length, throttle))]) := by
  have only : ∀ b, .attached k (some (b, throttle)) ∈ t ++
      [.producers (.throttled s.producers.buckets.length throttle),
        .attached k (some (s.producers.buckets.length, throttle))] → b = s.producers.buckets.length := by
    intro b told
    rcases List.mem_append.mp told with old | new
    · exact absurd old (unattached _)
    · simpa using new
  refine ⟨?handles, ?sends, ?made, ?once⟩
  case handles =>
    intro e' n h here has
    rw [setPlace_endpoints, if_pos rfl] at here
    cases here
    cases has
    exact ⟨_, s.producers.buckets.length, List.getElem?_concat_length .., rfl, by simp⟩
  case sends =>
    intro e' n send here
    rw [setPlace_endpoints, if_pos rfl] at here
    cases here
  case made =>
    intro b told
    rw [only b told]
    simp
  case once => exact fun b b' told told' => (only b told).trans (only b' told').symm

/-- The endpoint begins a future. -/
theorem Rated.begins (rated : Rated k throttle s t) {h : Nat} {e : Endpoint C} {n : Option Nat}
    {handle : ProducerHandle} {message : M} (place : s.endpoints k = .here e n) (has : e.handle = some h)
    (found : s.producers.handles[h]? = some handle) :
    Rated k throttle
      ({ s with producers := s.producers.begin handle handle.origin message }.setPlace k
        (.here e (some s.producers.sends.length))) t := by
  refine ⟨?handles, ?sends, rated.made, rated.once⟩
  case handles =>
    intro e' n' h' here has'
    rw [setPlace_endpoints, if_pos rfl] at here
    cases here
    exact rated.handles e n h' place has'
  case sends =>
    intro e' n' send here isNew
    rw [setPlace_endpoints, if_pos rfl] at here
    cases here
    rw [setPlace_producers, Producers.begin, List.getElem?_concat_length] at isNew
    cases isNew
    obtain ⟨handle', b, found', metered, told⟩ := rated.handles e n h place has
    cases found.symm.trans found'
    exact ⟨b, metered, told⟩

theorem Rated.step (rated : Rated k throttle s t) (orderly : Orderly k name s t) (once : OnceThrottled k throttle t a)
    (move : Move s a s' es) : Rated k throttle s' (t ++ es) := by
  cases move with
  | @made j name' flags unused =>
      refine (rated.place (fun _ _ _ wrong => by cases wrong) ?_).quiet (by simp)
      rintro - e n h same has
      cases same
      cases has
  | @handlerSet j consumer e free =>
      obtain ⟨⟨b, place⟩, -⟩ := free_eq_some free
      refine (rated.place (fun _ _ _ wrong => by cases wrong) ?_).quiet (by simp)
      rintro rfl e' n h same has
      cases same
      exact rated.handles e b h place has
  | @attached j e producers free stepped given =>
      have other : j ≠ k := by
        rintro rfl
        exact once.throttled rfl
      exact rated.elsewhere orderly stepped other _ (by simp [other.symm])
  | @throttled j e throttle' producers free stepped given =>
      by_cases same : j = k
      · subst same
        obtain ⟨rfl, unattached⟩ := once.once _ rfl
        rw [given]
        exact rated_of_registered unattached e
      · exact rated.elsewhere orderly stepped same _ (by simp [Ne.symm same])
  | @refused j e message free noHandle => exact rated.quiet (by simp)
  | @begun j h e handle message free sends found stepped =>
      obtain ⟨⟨b, place⟩, -⟩ := free_eq_some free
      by_cases same : j = k
      · subst same
        exact (rated.begins place (Endpoint.handle_of_sendOp sends) found).quiet (by simp)
      · exact rated.elsewhere orderly stepped same _ (by simp)
  | @entered j e a b producers below free enters stepped =>
      refine ((rated.below orderly stepped).place (fun _ _ _ wrong => by cases wrong) ?_).quiet (by simp)
      exact fun _ _ _ _ wrong => by cases wrong
  | taken stepped => exact (rated.below orderly stepped).quiet (by simp)
  | others apart stepped => exact (rated.below orderly stepped).quiet (by simp)

/-! ## Whole runs -/

theorem rated_init (k : Nat) (throttle : Throttle) (capacity : Nat) (router : Router) (cap : Nat) :
    Rated k throttle (init capacity router cap : Locals F I M C) [] where
  handles _ _ _ wrong := by cases wrong
  sends _ _ _ wrong := by cases wrong
  made _ wrong := by cases wrong
  once _ _ wrong := by cases wrong

/-- Tokens are of the time between the start of a run and its end. -/
theorem Move.timed (move : Move s a s' es) (b : Nat) :
    s.producers.now ≤ s'.producers.now ∧ ∀ now ∈ tokensFrom b es, now = s.producers.now := by
  rcases move.below with ⟨same, silent⟩ | ⟨below, stepped⟩
  · rw [same, tokensFrom, silent]
    exact ⟨le_rfl, fun _ wrong => by cases wrong⟩
  · exact (Producers.move_of_step stepped).timed b

theorem tokens_within {ok : Locals F I M C → List (LocalEvent M C) → LocalAction F I M C → Prop}
    (runs : Runs step ok s s' u) (b : Nat) :
    s.producers.now ≤ s'.producers.now ∧
      ∀ now ∈ tokensFrom b u, s.producers.now ≤ now ∧ now ≤ s'.producers.now := by
  apply runs.invariant (P := fun s' u => s.producers.now ≤ s'.producers.now ∧
    ∀ now ∈ tokensFrom b u, s.producers.now ≤ now ∧ now ≤ s'.producers.now)
  · exact ⟨le_rfl, fun _ wrong => by cases wrong⟩
  · rintro s₁ u a s₂ es ⟨passed, within⟩ - stepped
    obtain ⟨passes, atOnce⟩ := (move_of_step stepped).timed b
    refine ⟨passed.trans passes, fun now member => ?_⟩
    rcases List.mem_append.mp (tokensFrom_append b u es ▸ member) with old | new
    · exact ⟨(within now old).1, (within now old).2.trans passes⟩
    · rw [atOnce now new]
      exact ⟨passed, passes⟩

/-- Each message accepted has a token, if the endpoint has one bucket. -/
theorem spent_of_later (orderly : Orderly k name s t) (rated : Rated k throttle s t)
    (later : Runs step (fun s u a => OwnName k name s a ∧ OnceThrottled k throttle (t ++ u) a) s s' u)
    (only : ∀ b', .attached k (some (b', throttle)) ∈ t ++ u → b' = b) :
    (acceptedUnder name u).length + s'.tokenHeld k ≤ s.tokenHeld k + (tokensFrom b u).length := by
  suffices whole : Orderly k name s' (t ++ u) ∧ Rated k throttle s' (t ++ u) ∧
      ((∀ b', .attached k (some (b', throttle)) ∈ t ++ u → b' = b) →
        (acceptedUnder name u).length + s'.tokenHeld k ≤ s.tokenHeld k + (tokensFrom b u).length) from
    whole.2.2 only
  clear only
  apply later.invariant (P := fun s' u => Orderly k name s' (t ++ u) ∧ Rated k throttle s' (t ++ u) ∧
    ((∀ b', .attached k (some (b', throttle)) ∈ t ++ u → b' = b) →
      (acceptedUnder name u).length + s'.tokenHeld k ≤ s.tokenHeld k + (tokensFrom b u).length))
  · rw [List.append_nil]
    exact ⟨orderly, rated, fun _ => by simp [acceptedUnder, busTrace, tokensFrom]⟩
  · rintro s₁ u a s₂ es ⟨orderly, rated, spent⟩ ⟨own, once⟩ stepped
    have move := move_of_step stepped
    rw [← List.append_assoc]
    refine ⟨orderly.step own move, rated.step orderly once move, fun only => ?_⟩
    have before := spent fun b' told => only b' (List.mem_append_left _ told)
    have metered : ∀ e n send, s₁.endpoints k = .here e (some n) → s₁.producers.sends[n]? = some send →
        send.throttle = some b := by
      intro e n send here found
      obtain ⟨b', throttled, told⟩ := rated.sends e n send here found
      rw [throttled, only b' (List.mem_append_left _ told)]
    have here := orderly.spends own move metered
    rw [acceptedUnder_append, tokensFrom_append, List.length_append, List.length_append]
    omega

variable {capacity cap : Nat} {router : Router}

/-- The bus and its handles go through a run of their own. -/
theorem producers_runs {ok : Locals F I M C → List (LocalEvent M C) → LocalAction F I M C → Prop}
    (runs : Runs step ok (init capacity router cap) s t) :
    Runs Producers.step anyStep (.init capacity router cap) s.producers (t.filterMap LocalEvent.producers?) := by
  apply runs.simulated (fun s => s.producers) LocalEvent.producers?
  intro s a s' es stepped
  rcases (move_of_step stepped).below with ⟨same, silent⟩ | ⟨b, below⟩
  · exact ⟨[], by rw [same, silent]; rfl⟩
  · exact ⟨[b], by rw [exec_singleton, below]⟩

theorem rated_of_runs (runs : Runs step (fun s t a => OwnName k name s a ∧ OnceThrottled k throttle t a)
    (init capacity router cap : Locals F I M C) s t) : Orderly k name s t ∧ Rated k throttle s t := by
  apply runs.invariant (P := fun s t => Orderly k name s t ∧ Rated k throttle s t)
  · exact ⟨orderly_init k name capacity router cap, rated_init k throttle capacity router cap⟩
  · rintro s t a s' es ⟨orderly, rated⟩ ⟨own, once⟩ stepped
    exact ⟨orderly.step own (move_of_step stepped), rated.step orderly once (move_of_step stepped)⟩

/-- **A throttled endpoint keeps to its rate in what the bus accepts.**  In every run in which endpoint `k`
is registered once, throttled, and nobody else sends under its name: from any state on, whatever
time has passed, no more of its messages are accepted than its burst, its rate times that time,
and the one that had its token before. -/
theorem accepted_within_rate
    (runs : Runs step (fun s t a => OwnName k name s a ∧ OnceThrottled k throttle t a)
      (init capacity router cap : Locals F I M C) s t)
    (later : Runs step (fun s u a => OwnName k name s a ∧ OnceThrottled k throttle (t ++ u) a) s s' u) :
    ((acceptedUnder name u).length : ℚ) ≤
      throttle.burst + throttle.rate * (s'.producers.now - s.producers.now) + 1 := by
  obtain ⟨orderly, rated⟩ := rated_of_runs runs
  have whole := runs.append (fun _ _ _ allowed => allowed) later
  have below := producers_runs whole
  have held : s.tokenHeld k ≤ 1 := by
    rcases s.tokenHeld_cases k with zero | ⟨one, -⟩ <;> omega
  by_cases attached : ∃ b, .attached k (some (b, throttle)) ∈ t ++ u
  · obtain ⟨b, told⟩ := attached
    obtain ⟨-, rated'⟩ := rated_of_runs whole
    have made : ProducerEvent.throttled b throttle ∈ (t ++ u).filterMap LocalEvent.producers? :=
      List.mem_filterMap.mpr ⟨_, rated'.made b told, rfl⟩
    have spent := spent_of_later orderly rated later fun b' told' => rated'.once b' b told' told
    obtain ⟨passes, inside⟩ := tokens_within later b
    have window := Producers.acquired_within_rate below made s.producers.now (sub_nonneg.mpr passes)
    have counted : (tokensFrom b u).length ≤
        Metering.within (((t ++ u).filterMap LocalEvent.producers?).filterMap (ProducerEvent.acquiredFrom b))
          s.producers.now (s.producers.now + (s'.producers.now - s.producers.now)) := by
      rw [add_sub_cancel, ← tokensFrom, tokensFrom_append, Metering.within_append]
      have all : Metering.within (tokensFrom b u) s.producers.now s'.producers.now = (tokensFrom b u).length :=
        List.countP_eq_length.mpr fun now member => decide_eq_true (inside now member)
      omega
    have bound : (acceptedUnder name u).length ≤ (tokensFrom b u).length + 1 := by omega
    calc ((acceptedUnder name u).length : ℚ) ≤ ((tokensFrom b u).length : ℚ) + 1 := by exact_mod_cast bound
      _ ≤ throttle.burst + throttle.rate * (s'.producers.now - s.producers.now) + 1 := by
        have counted' : ((tokensFrom b u).length : ℚ) ≤ _ := Nat.cast_le.mpr counted
        linarith
  · -- a bucket that was never made gave no tokens
    have spent := spent_of_later orderly rated later (b := s'.producers.buckets.length) fun b' told =>
      absurd ⟨b', told⟩ attached
    have unmade : tokensFrom s'.producers.buckets.length u = [] := by
      have none := (Producers.books below).unmade s'.producers.buckets.length le_rfl
      rw [← tokensFrom, tokensFrom_append, List.append_eq_nil_iff] at none
      exact none.2
    rw [unmade, List.length_nil] at spent
    have bound : (acceptedUnder name u).length ≤ 1 := by omega
    have refilled : 0 ≤ (throttle.rate : ℚ) * (s'.producers.now - s.producers.now) :=
      mul_nonneg (Nat.cast_nonneg _) (sub_nonneg.mpr (tokens_within later 0).1)
    have burst : (0 : ℚ) ≤ throttle.burst := Nat.cast_nonneg _
    have bound' : ((acceptedUnder name u).length : ℚ) ≤ 1 := by exact_mod_cast bound
    linarith

/-! ## A token in hand -/

/-- The channel is full when the first future has its token, and for as long as the next token takes. -/
def heldUp : List (LocalAction ℚ Unit BaseMessage String) :=
  [.new 0 "talker" ⟨false, true⟩, .registerProducerThrottled 0 ⟨1, 1⟩,
    .producers (.desk (.world (.send ⟨"radio"⟩ (said 5)))), .sendBus 0 (said 7), .producers (.poll 0),
    .producers (.wait 1)]

/-- The bus makes room, and two messages are accepted at once. -/
def letGo : List (LocalAction ℚ Unit BaseMessage String) :=
  [.producers (.desk (.world .dispatch)), .takeEnvelope World.obliging, .producers (.poll 0),
    .takeEnvelope World.obliging, .sendBus 0 (said 8), .producers (.poll 1), .producers (.poll 1)]

def halted : Locals ℚ Unit BaseMessage String × List (LocalEvent BaseMessage String) :=
  outcome step (init 1 .affinity 8) heldUp

def resumed : Locals ℚ Unit BaseMessage String × List (LocalEvent BaseMessage String) := outcome step halted.1 letGo

def onceThrottledTest (k : Nat) (throttle : Throttle) (t : List (LocalEvent BaseMessage String)) :
    LocalAction ℚ Unit BaseMessage String → Bool
  | .registerProducer j => j != k
  | .registerProducerThrottled j other =>
      j != k || (other == throttle && t.all fun | .attached j _ => j != k | _ => true)
  | _ => true

theorem onceThrottled_of_test {k : Nat} {throttle : Throttle} {t : List (LocalEvent BaseMessage String)}
    {a : LocalAction ℚ Unit BaseMessage String} (passes : onceThrottledTest k throttle t a = true) :
    OnceThrottled k throttle t a where
  throttled := by
    rintro rfl
    simp [onceThrottledTest] at passes
  once other isRegister := by
    subst isRegister
    simp only [onceThrottledTest, bne_self_eq_false, Bool.false_or, Bool.and_eq_true, beq_iff_eq] at passes
    refine ⟨passes.1, fun bucket told => ?_⟩
    have apart := List.all_eq_true.mp passes.2 _ told
    simp at apart

theorem allowed_of_tests {k : Nat} {name : String} {throttle : Throttle} {s : Locals ℚ Unit BaseMessage String}
    {t : List (LocalEvent BaseMessage String)} {a : LocalAction ℚ Unit BaseMessage String}
    (passes : (ownNameTest k name s a && onceThrottledTest k throttle t a) = true) :
    OwnName k name s a ∧ OnceThrottled k throttle t a := by
  obtain ⟨own, once⟩ := Bool.and_eq_true_iff.mp passes
  exact ⟨ownName_of_test own, onceThrottled_of_test once⟩

/-- No time passes, and the bound is reached. -/
theorem accepted_within_rate_resumed :
    acceptedUnder "talker" resumed.2 = [said 7, said 8] ∧
      ((acceptedUnder "talker" resumed.2).length : ℚ) ≤
        (1 : Nat) + (1 : Nat) * (resumed.1.producers.now - halted.1.producers.now) + 1 ∧
      (1 : Nat) + (1 : Nat) * (resumed.1.producers.now - halted.1.producers.now) + 1 = (2 : ℚ) := by
  have runs : Runs step (fun s t a => OwnName 0 "talker" s a ∧ OnceThrottled 0 ⟨1, 1⟩ t a) (init 1 .affinity 8)
      halted.1 halted.2 :=
    runs_outcome heldUp (fun s t a => ownNameTest 0 "talker" s a && onceThrottledTest 0 ⟨1, 1⟩ t a)
      (fun _ _ _ => allowed_of_tests) (by decide +kernel) (by decide +kernel)
  have later : Runs step (fun s u a => OwnName 0 "talker" s a ∧ OnceThrottled 0 ⟨1, 1⟩ (halted.2 ++ u) a) halted.1
      resumed.1 resumed.2 :=
    runs_outcome letGo (fun s u a => ownNameTest 0 "talker" s a && onceThrottledTest 0 ⟨1, 1⟩ (halted.2 ++ u) a)
      (fun _ _ _ => allowed_of_tests) (by decide +kernel) (by decide +kernel)
  have bound := accepted_within_rate runs later
  have still : resumed.1.producers.now = halted.1.producers.now := by decide +kernel
  refine ⟨by decide +kernel, bound, ?_⟩
  rw [still]
  norm_num

end Locals

end Jackfield
