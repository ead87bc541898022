/-
# Jackfield.Router.Agreement -- routing over reachable registries

`Registry.ReachedBy listed n r` says that `r` came about from the empty registry by
registrations (of dimension lists that meet `listed`), deregistrations and routings
by either router, in any order, and that `n` of these steps were registrations.  The
counter is a `u64` and wraps round, so the ids increase along the vector up to
`2 ^ 64` registrations (`ReachedBy.increasing`), and so long "earlier entry" and
"lower id" are one.

* `AffinityRouter.route_picks_best`: the affinity router hands the message to the
  best eligible consumer and to no other, or hands it back when there is none;
* `routers_agree`: the blind router consumes exactly the same envelopes, and picks
  the same consumer where scores do not tell the eligible ones apart.

With one registration more, two consumers can share an id (`twins`), and a consumer
can stand behind one that came after it in the order of the ids (`displaced`).
-/
import Jackfield.Router.Selection

namespace Jackfield

set_option autoImplicit false

variable {F I M C : Type} [F32 F] [Message M]

/-! ## Reachable registries -/

inductive Registry.ReachedBy (listed : List (DimSpec F I M) → Prop) : Nat → Registry F I M C → Prop
  | new : ReachedBy listed 0 .new
  | register {n : Nat} {r : Registry F I M C} (consumer : C) (dims : List (DimSpec F I M)) :
      ReachedBy listed n r → listed dims →
      ReachedBy listed (n + 1) (r.registerWith consumer dims).registry
  | deregister {n : Nat} {r : Registry F I M C} (id : Nat) :
      ReachedBy listed n r → ReachedBy listed n (r.deregister id).1
  | consumed {n : Nat} {r : Registry F I M C} {router : Router} {consumer : Consumer M C}
      {envelope : Envelope M} {i : Nat} {entry : RegistrationEntry F I M C}
      {resume : Nat → Registry F I M C} (latency : Nat) :
      ReachedBy listed n r → router.route consumer r envelope = .consuming i entry resume →
      ReachedBy listed n (resume latency)
  | unhandled {n : Nat} {r r' : Registry F I M C} {router : Router} {consumer : Consumer M C}
      {envelope back : Envelope M} :
      ReachedBy listed n r → router.route consumer r envelope = .unhandled r' back →
      ReachedBy listed n r'

/-- Reached after any number of registrations. -/
def Registry.Reachable (listed : List (DimSpec F I M) → Prop) (r : Registry F I M C) : Prop :=
  ∃ n, r.ReachedBy listed n

/-- The state after a routing that consumed has the shape of the state before. -/
theorem Router.consuming_sameShape {router : Router} {consumer : Consumer M C}
    {r : Registry F I M C} {envelope : Envelope M} {i : Nat} {entry : RegistrationEntry F I M C}
    {resume : Nat → Registry F I M C}
    (routed : router.route consumer r envelope = .consuming i entry resume) (latency : Nat) :
    r.SameShape (resume latency) := by
  rcases router.route_cases consumer r envelope with
    ⟨i', entry', resume', routed', -, -, shape⟩ | ⟨r', routed', -⟩
  · rw [routed] at routed'
    cases routed'
    exact shape latency
  · rw [routed] at routed'
    cases routed'

theorem Router.unhandled_sameShape {router : Router} {consumer : Consumer M C}
    {r r' : Registry F I M C} {envelope back : Envelope M}
    (routed : router.route consumer r envelope = .unhandled r' back) : r.SameShape r' := by
  rcases router.route_cases consumer r envelope with ⟨_, _, _, routed', -⟩ | ⟨r'', routed', shape, -⟩
  · rw [routed] at routed'
    cases routed'
  · rw [routed] at routed'
    cases routed'
    exact shape

namespace Registry.ReachedBy

variable {listed : List (DimSpec F I M) → Prop} {n : Nat} {r : Registry F I M C}

/-- The counter counts the registrations. -/
theorem nextId_eq (reached : r.ReachedBy listed n) : r.nextId = n % 2 ^ 64 := by
  induction reached with
  | new => rfl
  | register consumer dims _ _ ih =>
      rw [registerWith_nextId, ih, Nat.mod_add_mod]
  | deregister id _ ih => exact ih
  | consumed latency _ routed ih => exact (Router.consuming_sameShape routed latency).1.trans ih
  | unhandled _ routed ih => exact (Router.unhandled_sameShape routed).1.trans ih

theorem idsSound (reached : r.ReachedBy listed n) (few : n < 2 ^ 64) : r.IdsSound := by
  induction reached with
  | new => exact .new
  | @register n r consumer dims before _ ih =>
      have counted : r.nextId = n := by rw [before.nextId_eq, Nat.mod_eq_of_lt (by omega)]
      exact (ih (by omega)).registerWith consumer dims (by omega)
  | deregister id _ ih => exact (ih few).deregister id
  | consumed latency _ routed ih =>
      exact (ih few).sameShape (Router.consuming_sameShape routed latency)
  | unhandled _ routed ih => exact (ih few).sameShape (Router.unhandled_sameShape routed)

/-- Up to the registration at which the counter wraps, the ids increase along the vector. -/
theorem increasing (reached : r.ReachedBy listed n) (few : n ≤ 2 ^ 64) :
    (r.entries.map fun e => e.id).Pairwise (· < ·) := by
  induction reached with
  | new => exact List.Pairwise.nil
  | register consumer dims before _ _ =>
      exact (before.idsSound (by omega)).increasing_registerWith consumer dims
  | @deregister n r id _ ih => exact (ih few).sublist ((r.deregister_sublist id).map _)
  | consumed latency _ routed ih =>
      rw [(Router.consuming_sameShape routed latency).ids]
      exact ih few
  | unhandled _ routed ih =>
      rw [(Router.unhandled_sameShape routed).ids]
      exact ih few

end Registry.ReachedBy

/-! ## Round the counter -/

section Visits

omit [Message M]

/-- Register a consumer without dimensions, and deregister it again. -/
def Registry.visit (visitor : C) (r : Registry F I M C) : Registry F I M C :=
  ((r.registerWith visitor []).registry.deregister r.nextId).1

theorem Registry.visit_eq (visitor : C) {r : Registry F I M C}
    (free : ∀ entry ∈ r.entries, entry.id ≠ r.nextId) :
    r.visit visitor = ⟨r.entries, (r.nextId + 1) % 2 ^ 64⟩ := by
  have kept : r.entries.filter (fun entry => decide (entry.id ≠ r.nextId)) = r.entries :=
    List.filter_eq_self.mpr (by simpa using free)
  rw [visit, deregister_eq, registerWith_entries, registerWith_nextId, List.filter_append, kept]
  simp

/-- Visits leave the entries and move the counter, round to zero if need be. -/
theorem Registry.visits_eq (visitor : C) (entries : List (RegistrationEntry F I M C)) (k m : Nat)
    (lower : ∀ entry ∈ entries, entry.id < k) (fits : k < 2 ^ 64) (few : k + m ≤ 2 ^ 64) :
    (visit visitor)^[m] ⟨entries, k⟩ = ⟨entries, (k + m) % 2 ^ 64⟩ := by
  induction m with
  | zero => rw [Function.iterate_zero, id, Nat.add_zero, Nat.mod_eq_of_lt fits]
  | succ m ih =>
      rw [Function.iterate_succ_apply', ih (by omega), Nat.mod_eq_of_lt (by omega)]
      apply visit_eq
      intro entry member
      have := lower entry member
      show entry.id ≠ k + m
      omega

end Visits

theorem Registry.ReachedBy.visits {listed : List (DimSpec F I M) → Prop} {n : Nat}
    {r : Registry F I M C} (reached : r.ReachedBy listed n) (bare : listed []) (visitor : C)
    (m : Nat) : ((visit visitor)^[m] r).ReachedBy listed (n + m) := by
  induction m with
  | zero => exact reached
  | succ m ih =>
      rw [Function.iterate_succ_apply']
      exact (ih.register visitor [] bare).deregister _

/-! ## The best eligible consumer -/

omit [Message M] in
/-- Where the ids increase, the order of the plan is: higher score, then lower id. -/
theorem outranks_iff_of_increasing {r : Registry F I M C}
    (increasing : (r.entries.map fun e => e.id).Pairwise (· < ·)) (envelope : Envelope M)
    {i j : Nat} {a b : RegistrationEntry F I M C} (at_i : r.entries[i]? = some a)
    (at_j : r.entries[j]? = some b) :
    Outranks envelope (i, a) (j, b) ↔
      affinity envelope b < affinity envelope a ∨
        (affinity envelope b = affinity envelope a ∧ a.id < b.id) := by
  have ids := Registry.id_lt_iff increasing at_i at_j
  unfold Outranks
  apply or_congr_right
  apply and_congr_right
  intro _
  constructor
  · rintro (less | ⟨-, earlier⟩)
    · exact less
    · exact ids.mpr earlier
  · exact Or.inl

/-- **Routing picks the best eligible consumer.**  On every reachable registry:
`consume` is called on the consumer of the entry that outranks all other eligible
ones, and on no other; the envelope comes back, unchanged, exactly when no entry
is eligible; and, up to `2 ^ 64` registrations, to outrank is to score higher or, at
equal scores, to have the lower registration id. -/
theorem AffinityRouter.route_picks_best {n : Nat} {r : Registry F I M C}
    (reached : r.ReachedBy (fun _ => True) n) (consumer : Consumer M C) (envelope : Envelope M) :
    (∀ i entry, (∃ resume, route consumer r envelope = .consuming i entry resume) ↔
      r.entries[i]? = some entry ∧ Eligible consumer envelope entry ∧
        ∀ j other, r.entries[j]? = some other → Eligible consumer envelope other → j ≠ i →
          Outranks envelope (i, entry) (j, other)) ∧
    (∀ back, (∃ r', route consumer r envelope = .unhandled r' back) ↔
      back = envelope ∧ ∀ entry ∈ r.entries, ¬ Eligible consumer envelope entry) ∧
    (n ≤ 2 ^ 64 → ∀ i j a b, r.entries[i]? = some a → r.entries[j]? = some b →
      (Outranks envelope (i, a) (j, b) ↔
        affinity envelope b < affinity envelope a ∨
          (affinity envelope b = affinity envelope a ∧ a.id < b.id))) :=
  ⟨route_consuming_iff consumer r envelope, route_unhandled_iff consumer r envelope,
    fun few _ _ _ _ at_i at_j => outranks_iff_of_increasing (reached.increasing few) envelope at_i at_j⟩

/-- The sensor's own consumer, and one that would take anything. -/
def fallback : RegistrationEntry ℚ Unit BaseMessage String :=
  ⟨0, "fallback", [⟨(ProducerDim.noneOf []).toDimension, ⟨1, ()⟩, false⟩]⟩

def primary : RegistrationEntry ℚ Unit BaseMessage String :=
  ⟨1, "primary", [⟨(ProducerDim.only "sensor").toDimension, ⟨1, ()⟩, true⟩,
    ⟨(SizeDim.atMost 16).toDimension, ⟨2, ()⟩, false⟩]⟩

def duo : Registry ℚ Unit BaseMessage String := ⟨[fallback, primary], 2⟩

def reading : Envelope BaseMessage := ⟨⟨"sensor"⟩, .new none none none⟩

def willing : Consumer BaseMessage String := ⟨fun _ => true, fun _ _ => true⟩

theorem duo_reached : duo.ReachedBy (fun _ => True) 2 :=
  .register "primary" [((ProducerDim.only "sensor").toDimension, true, 1),
      ((SizeDim.atMost 16).toDimension, false, 2)]
    (.register "fallback" [((ProducerDim.noneOf []).toDimension, false, 1)] .new trivial) trivial

theorem primary_best : duo.entries[1]? = some primary ∧ Eligible willing reading primary ∧
    ∀ j other, duo.entries[j]? = some other → Eligible willing reading other → j ≠ 1 →
      Outranks reading (1, primary) (j, other) := by
  refine ⟨rfl, ⟨rfl, rfl, rfl⟩, ?_⟩
  intro j other at_j _ apart
  match j, at_j with
  | 0, found =>
      cases found
      exact Or.inl (by decide +kernel)
  | 1, _ => exact absurd rfl apart

theorem route_picks_primary :
    (∃ resume, AffinityRouter.route willing duo reading = .consuming 1 primary resume) ∧
      (Outranks reading (1, primary) (0, fallback) ↔
        affinity reading fallback < affinity reading primary ∨
          (affinity reading fallback = affinity reading primary ∧ primary.id < fallback.id)) := by
  obtain ⟨picks, -, order⟩ := AffinityRouter.route_picks_best duo_reached willing reading
  exact ⟨(picks 1 primary).mpr primary_best, order (by decide) 1 0 primary fallback rfl rfl⟩

/-- An entry without dimensions, which any message suits and scores zero for. -/
def bare (id : Nat) (consumer : String) : RegistrationEntry ℚ Unit BaseMessage String := ⟨id, consumer, []⟩

theorem bare_eligible (id : Nat) (consumer : String) : Eligible willing reading (bare id consumer) :=
  ⟨rfl, rfl, rfl⟩

/-- The first consumer is still there when its id is given out again. -/
def twins : Registry ℚ Unit BaseMessage String := ⟨[bare 0 "first", bare 0 "second"], 1⟩

theorem twins_reached : twins.ReachedBy (fun _ => True) (2 ^ 64 + 1) := by
  have first : Registry.ReachedBy (fun _ => True) 1 ⟨[bare 0 "first"], 1⟩ := .register "first" [] .new trivial
  have round := first.visits trivial "visitor" (2 ^ 64 - 1)
  have lower : ∀ entry ∈ [bare 0 "first"], entry.id < 1 := by decide
  rw [Registry.visits_eq "visitor" _ 1 _ lower (by omega) (by omega)] at round
  exact round.register "second" [] trivial

/-- First in the order by score and then by id, with `lower` the comparison of the ids. -/
structure First (lower : Nat → Nat → Prop) (consumer : Consumer M C) (r : Registry F I M C)
    (envelope : Envelope M) (i : Nat) (entry : RegistrationEntry F I M C) : Prop where
  found : r.entries[i]? = some entry
  eligible : Eligible consumer envelope entry
  first : ∀ j other, r.entries[j]? = some other → Eligible consumer envelope other → j ≠ i →
    affinity envelope other < affinity envelope entry ∨
      (affinity envelope other = affinity envelope entry ∧ lower entry.id other.id)

/-- Of two consumers with one id and one score, the earlier entry wins: neither comes
strictly before the other in the order, and each does if ties count. -/
theorem route_tie :
    twins.ReachedBy (fun _ => True) (2 ^ 64 + 1) ∧
      (¬ ∀ i entry, (∃ resume, AffinityRouter.route willing twins reading = .consuming i entry resume) ↔
        First (· < ·) willing twins reading i entry) ∧
      ¬ ∀ i entry, (∃ resume, AffinityRouter.route willing twins reading = .consuming i entry resume) ↔
        First (· ≤ ·) willing twins reading i entry := by
  have routed : ∃ resume, AffinityRouter.route willing twins reading =
      .consuming 0 (bare 0 "first") resume := ⟨_, rfl⟩
  refine ⟨twins_reached, ?_, ?_⟩
  · intro picks
    rcases ((picks 0 (bare 0 "first")).mp routed).first 1 (bare 0 "second") rfl (bare_eligible 0 _)
      (by decide) with higher | ⟨-, lower⟩
    · exact absurd higher (lt_irrefl _)
    · exact absurd lower (lt_irrefl _)
  · intro picks
    have second : First (· ≤ ·) willing twins reading 1 (bare 0 "second") := by
      refine ⟨rfl, bare_eligible 0 _, ?_⟩
      intro j other at_j _ apart
      match j, at_j with
      | 0, found =>
          cases found
          exact Or.inr ⟨rfl, le_refl _⟩
      | 1, _ => exact absurd rfl apart
    obtain ⟨resume, first⟩ := routed
    obtain ⟨resume', again⟩ := (picks 1 (bare 0 "second")).mpr second
    rw [first] at again
    cases again

/-! ## The two routers -/

/-- A router consumes exactly when somebody is eligible. -/
theorem Router.consumes_iff (router : Router) (consumer : Consumer M C) (r : Registry F I M C)
    (envelope : Envelope M) :
    (∃ i entry resume, router.route consumer r envelope = .consuming i entry resume) ↔
      ∃ entry ∈ r.entries, Eligible consumer envelope entry := by
  rcases router.route_cases consumer r envelope with
    ⟨i, entry, resume, routed, found, eligible, -⟩ | ⟨r', routed, -, none⟩
  · constructor
    · intro _
      exact ⟨entry, List.mem_of_getElem? found, eligible⟩
    · intro _
      exact ⟨i, entry, resume, routed⟩
  · rw [routed]
    constructor
    · rintro ⟨_, _, _, same⟩
      cases same
    · rintro ⟨entry, member, eligible⟩
      exact absurd eligible (none entry member)

/-- **The two routers agree on what can be handled.**  With the same answers, they
consume the same envelopes; where all eligible consumers score alike, they pick,
up to `2 ^ 64` registrations, the same one; and the blind router leaves every
dimension state as it was. -/
theorem routers_agree {n : Nat} {r : Registry F I M C} (reached : r.ReachedBy (fun _ => True) n)
    (consumer : Consumer M C) (envelope : Envelope M) :
    ((∃ i entry resume, AffinityRouter.route consumer r envelope = .consuming i entry resume) ↔
      ∃ i entry resume, BlindRouter.route consumer r envelope = .consuming i entry resume) ∧
    (n ≤ 2 ^ 64 →
      (∀ a ∈ r.entries, ∀ b ∈ r.entries, Eligible consumer envelope a → Eligible consumer envelope b →
        affinity envelope a = affinity envelope b) →
      ∀ i entry, (∃ resume, AffinityRouter.route consumer r envelope = .consuming i entry resume) ↔
        ∃ resume, BlindRouter.route consumer r envelope = .consuming i entry resume) ∧
    (match BlindRouter.route consumer r envelope with
      | .consuming _ _ resume => ∀ latency, resume latency = r
      | .unhandled r' _ => r' = r) := by
  refine ⟨(Router.affinity.consumes_iff consumer r envelope).trans
    (Router.blind.consumes_iff consumer r envelope).symm, ?_,
    BlindRouter.route_registry consumer r envelope⟩
  intro few level i entry
  have increasing := reached.increasing few
  rw [AffinityRouter.route_consuming_iff, BlindRouter.route_consuming_iff]
  apply and_congr_right
  intro at_i
  apply and_congr_right
  intro eligible
  -- at equal scores, to outrank an eligible entry is to stand before it
  have earlier : ∀ j other, r.entries[j]? = some other → Eligible consumer envelope other →
      (Outranks envelope (i, entry) (j, other) ↔ i < j) := by
    intro j other at_j otherEligible
    have same := level other (List.mem_of_getElem? at_j) entry (List.mem_of_getElem? at_i)
      otherEligible eligible
    rw [outranks_iff_of_increasing increasing envelope at_i at_j, same,
      Registry.id_lt_iff increasing at_i at_j]
    simp
  constructor
  · intro best j other at_j otherEligible apart
    exact (earlier j other at_j otherEligible).mp (best j other at_j otherEligible apart)
  · intro first j other at_j otherEligible apart
    exact (earlier j other at_j otherEligible).mpr (first j other at_j otherEligible apart)

theorem routers_agree_duo :
    (∃ i entry resume, BlindRouter.route willing duo reading = .consuming i entry resume) ∧
      ((∀ a ∈ duo.entries, ∀ b ∈ duo.entries, Eligible willing reading a → Eligible willing reading b →
          affinity reading a = affinity reading b) →
        ∀ i entry, (∃ resume, AffinityRouter.route willing duo reading = .consuming i entry resume) ↔
          ∃ resume, BlindRouter.route willing duo reading = .consuming i entry resume) := by
  obtain ⟨consumes, picks, -⟩ := routers_agree duo_reached willing reading
  obtain ⟨resume, routed⟩ :=
    (AffinityRouter.route_consuming_iff willing duo reading 1 primary).mpr primary_best
  exact ⟨consumes.mp ⟨1, primary, resume, routed⟩, picks (by decide)⟩

/-- A consumer with id zero behind one that was registered long before it. -/
def displaced : Registry ℚ Unit BaseMessage String := ⟨[bare 1 "earlier", bare 0 "later"], 1⟩

/-- Two consumers come and the first leaves, the counter goes round, and a third comes. -/
theorem displaced_eq :
    (((Registry.visit "visitor")^[2 ^ 64 - 2]
      (((Registry.new.registerWith "first" []).registry.registerWith "earlier" []).registry.deregister 0).1
        ).registerWith "later" []).registry = displaced := by
  have two : (((Registry.new.registerWith "first" []).registry.registerWith "earlier" []).registry.deregister 0).1 =
      ⟨[bare 1 "earlier"], 2⟩ := rfl
  have lower : ∀ entry ∈ [bare 1 "earlier"], entry.id < 2 := by decide
  rw [two, Registry.visits_eq "visitor" _ 2 _ lower (by omega) (by omega)]
  rfl

/-- Registrations and deregistrations alone lead to a registry where both consumers take the
message at equal scores, and each router hands it to another one. -/
theorem routers_differ :
    (((Registry.visit "visitor")^[2 ^ 64 - 2]
      (((Registry.new.registerWith "first" []).registry.registerWith "earlier" []).registry.deregister 0).1
        ).registerWith "later" []).registry = displaced ∧
      (∀ a ∈ displaced.entries, ∀ b ∈ displaced.entries, affinity reading a = affinity reading b) ∧
      (∃ resume, AffinityRouter.route willing displaced reading = .consuming 1 (bare 0 "later") resume) ∧
      ∃ resume, BlindRouter.route willing displaced reading = .consuming 0 (bare 1 "earlier") resume :=
  ⟨displaced_eq, by decide +kernel, ⟨_, rfl⟩, ⟨_, rfl⟩⟩

end Jackfield
