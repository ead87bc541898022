/-
# Jackfield.Router.Outcome -- one event for every qualified consumer

`dueEvent` says what the dimensions of an entry ought to hear of one affinity
routing: `Consumed` for the winner; `Busy` or `Vetoed` for an entry that outranks
the winner -- for every qualified entry, when there is no winner -- according to
which of its two questions it answered no; `Skipped` for an entry the winner
outranks; and nothing for an entry a required dimension rejects.

`AffinityRouter.one_outcome` proves that this is what they hear, once each, that
no index leaves the vector, and that nothing but dimension states changes.
-/
import Jackfield.Router.Agreement

namespace Jackfield

set_option autoImplicit false

variable {F I M C : Type} [F32 F]

instance (envelope : Envelope M) (a b : Nat × RegistrationEntry F I M C) :
    Decidable (Outranks envelope a b) := by
  unfold Outranks; infer_instance

section Due

variable [Message M]

/-- What an entry that is tried hears when it does not take the message. -/
def triedEvent (consumer : Consumer M C) (envelope : Envelope M)
    (entry : RegistrationEntry F I M C) : Option DispatchEvent :=
  if !consumer.available entry.consumer then some (.busy (.fromEnvelope envelope))
  else if !consumer.validate entry.consumer envelope then some (.vetoed (.fromEnvelope envelope))
  else none

/-- The event due to the entry at index `i`. -/
def dueEvent (consumer : Consumer M C) (envelope : Envelope M)
    (winner : Option (Nat × RegistrationEntry F I M C)) (latency : Nat) (i : Nat)
    (entry : RegistrationEntry F I M C) : Option DispatchEvent :=
  if BlindRouter.hardRejected envelope entry then none
  else match winner with
    | none => triedEvent consumer envelope entry
    | some won =>
        if i = won.1 then some (.consumed (.fromEnvelope envelope) latency)
        else if Outranks envelope (i, entry) won then triedEvent consumer envelope entry
        else some (.skipped (.fromEnvelope envelope))

end Due

/-- An entry after the event due to it: each of its dimensions has observed it, once. -/
def afterEvent (event : Option DispatchEvent) (entry : RegistrationEntry F I M C) :
    RegistrationEntry F I M C :=
  match event with
  | none => entry
  | some event =>
      { entry with dims := entry.dims.map fun de => { de with state := de.dim.observe event de.state } }

namespace Registry

/-! ## Delivering a list of events -/

/-- What a delivery list holds for one index, in order. -/
def eventsAt (deliveries : List (Nat × DispatchEvent)) (i : Nat) : List DispatchEvent :=
  (deliveries.filter fun d => d.1 == i).map Prod.snd

omit [F32 F] in
@[simp] theorem eventsAt_append (l l' : List (Nat × DispatchEvent)) (i : Nat) :
    eventsAt (l ++ l') i = eventsAt l i ++ eventsAt l' i := by
  simp [eventsAt]

omit [F32 F] in
/-- Each entry hears its own events, in the order of the list, and no other. -/
theorem deliverAll_getElem? (deliveries : List (Nat × DispatchEvent)) (r : Registry F I M C) (i : Nat) :
    (deliveries.foldl deliver r).entries[i]? =
      (r.entries[i]?).map fun e => (eventsAt deliveries i).foldl (fun e ev => observeEntry ev e) e := by
  induction deliveries generalizing r with
  | nil => simp [eventsAt]
  | cons d rest ih =>
      rw [List.foldl_cons, ih]
      simp only [deliver, List.getElem?_modify]
      by_cases hit : d.1 = i
      · simp [eventsAt, hit, Option.map_map, Function.comp_def]
      · simp [eventsAt, hit]

variable [Message M]

/-- The indices of a plan are pairwise distinct. -/
theorem plan_idx_ne (r : Registry F I M C) (envelope : Envelope M) :
    (r.plan envelope).qualified.Pairwise fun a b => a.idx ≠ b.idx := by
  apply (r.plan_pairwise envelope).imp_of_mem
  intro a b inA inB ranked same
  obtain ⟨entry, at_a, -, isA⟩ := (r.mem_qualified envelope a).mp inA
  have isB := (of_mem_qualified inB (same ▸ at_a)).2
  have both : a = b := by rw [isA, isB, same]
  subst both
  exact ranked.asymm ranked

omit [F32 F] [Message M] in
theorem filter_idx_of_forall_ne {l : List (Candidate F)} {i : Nat} (absent : ∀ b ∈ l, b.idx ≠ i) :
    l.filter (fun b => b.idx == i) = [] := by
  rw [List.filter_eq_nil_iff]
  intro b member
  simpa using absent b member

omit [F32 F] [Message M] in
/-- Among candidates with distinct indices, those with the index of one of them are that one. -/
theorem filter_idx {l : List (Candidate F)} (distinct : l.Pairwise fun a b => a.idx ≠ b.idx)
    {c : Candidate F} (member : c ∈ l) : l.filter (fun b => b.idx == c.idx) = [c] := by
  obtain ⟨before, after, cut⟩ := List.append_of_mem member
  subst cut
  obtain ⟨-, tailDistinct, across⟩ := List.pairwise_append.mp distinct
  have offBefore : before.filter (fun b => b.idx == c.idx) = [] := by
    apply filter_idx_of_forall_ne
    intro b inBefore
    exact across b inBefore c (by simp)
  have offAfter : after.filter (fun b => b.idx == c.idx) = [] := by
    apply filter_idx_of_forall_ne
    intro b inAfter
    exact ((List.pairwise_cons.mp tailDistinct).1 b inAfter).symm
  rw [List.filter_append, List.filter_cons_of_pos (by simp), offBefore, offAfter]
  rfl

omit [F32 F] [Message M] in
/-- Where a list of candidates with distinct indices is cut. -/
theorem findIdx?_idx {before after : List (Candidate F)} {c : Candidate F}
    (distinct : (before ++ c :: after).Pairwise fun a b => a.idx ≠ b.idx) :
    (before ++ c :: after).findIdx? (fun b => b.idx == c.idx) = some before.length := by
  obtain ⟨-, -, across⟩ := List.pairwise_append.mp distinct
  rw [List.findIdx?_append, List.findIdx?_eq_none_iff.mpr]
  · simp [List.findIdx?_cons]
  · intro b inBefore
    simpa using across b inBefore c (by simp)

omit [F32 F] [Message M] in
/-- The events of a plan cut at its winner: one per candidate tried, one per candidate behind. -/
theorem events_cut {plan : RoutePlan F} {before after : List (Candidate F)} {c : Candidate F}
    (cut : plan.qualified = before ++ c :: after)
    (distinct : plan.qualified.Pairwise fun a b => a.idx ≠ b.idx) (pre : List (Nat × Bool)) :
    events plan (some c.idx) pre =
      pre.map (fun p => (p.1, if p.2 then DispatchEvent.busy plan.eventMeta else .vetoed plan.eventMeta)) ++
        after.map fun b => (b.idx, .skipped plan.eventMeta) := by
  rw [cut] at distinct
  have position : plan.qualified.findIdx? (fun b => b.idx == c.idx) = some before.length := by
    rw [cut]
    exact findIdx?_idx distinct
  have behind : plan.qualified.drop (before.length + 1) = after := by
    rw [cut, ← List.drop_drop, List.drop_left]
    rfl
  simp only [events, position, behind]

omit [F32 F] [Message M] in
/-- Events computed candidate by candidate sit at the candidates' own indices. -/
theorem eventsAt_map (l : List (Candidate F)) (f : Candidate F → DispatchEvent) (i : Nat) :
    eventsAt (l.map fun c => (c.idx, f c)) i = (l.filter fun c => c.idx == i).map f := by
  simp [eventsAt, List.filter_map, Function.comp_def]

end Registry

/-! ## One routing -/

namespace AffinityRouter

omit [F32 F] in
/-- What the scan noted of a candidate it passed over is the event due to a tried entry. -/
theorem triedEvent_of_passedOver [Message M] {consumer : Consumer M C}
    {entries : List (RegistrationEntry F I M C)} {envelope : Envelope M} {c : Candidate F}
    {entry : RegistrationEntry F I M C} (found : entries[c.idx]? = some entry)
    (passed : PassedOver consumer entries envelope c) :
    triedEvent consumer envelope entry =
      some (if (noted consumer entries c).2 then .busy (.fromEnvelope envelope)
        else .vetoed (.fromEnvelope envelope)) := by
  obtain ⟨entry', found', refuses⟩ := passed
  rw [found] at found'
  cases found'
  by_cases available : consumer.available entry.consumer = true
  · have vetoes : consumer.validate entry.consumer envelope ≠ true := by
      intro valid
      exact refuses ⟨available, valid⟩
    simp [triedEvent, noted, found, available, vetoes]
  · simp [triedEvent, noted, found, available]

variable [Message M]

/-- The deliveries of one routing: the `events` of `observe`, then the one of
`observeConsumed`. -/
def deliveries (r : Registry F I M C) (envelope : Envelope M) (winnerIdx : Option Nat)
    (preWinner : List (Nat × Bool)) (latency : Nat) : List (Nat × DispatchEvent) :=
  Registry.events (r.plan envelope) winnerIdx preWinner ++
    match winnerIdx with
    | none => []
    | some w => [(w, .consumed (.fromEnvelope envelope) latency)]

/-- The deliveries of a `route` call, from its own scan. -/
def heard (consumer : Consumer M C) (r : Registry F I M C) (envelope : Envelope M) (latency : Nat) :
    List (Nat × DispatchEvent) :=
  let scanned := scan consumer r.entries envelope (r.plan envelope).qualified []
  deliveries r envelope (scanned.2.map Prod.fst) scanned.1 latency

/-- One `route` call in full: who won, if anybody, and the registry left behind. -/
def Routed (consumer : Consumer M C) (r : Registry F I M C) (envelope : Envelope M) (latency : Nat)
    (winner : Option (Nat × RegistrationEntry F I M C)) (after : Registry F I M C) : Prop :=
  match winner with
  | some (w, won) => ∃ resume, route consumer r envelope = .consuming w won resume ∧
      after = resume latency
  | none => route consumer r envelope = .unhandled after envelope

/-- No candidate stands for a rejected entry. -/
theorem idx_ne_of_rejected {r : Registry F I M C} {envelope : Envelope M} {i : Nat}
    {entry : RegistrationEntry F I M C} (found : r.entries[i]? = some entry)
    (rejected : BlindRouter.hardRejected envelope entry = true) :
    ∀ c ∈ (r.plan envelope).qualified, c.idx ≠ i := by
  intro c member same
  have kept := (Registry.of_mem_qualified member (same ▸ found)).1
  rw [rejected] at kept
  cases kept

/-- The events at one index, of a plan cut at its winner. -/
theorem eventsAt_cut (consumer : Consumer M C) {r : Registry F I M C} {envelope : Envelope M}
    {before after : List (Candidate F)} {c : Candidate F}
    (cut : (r.plan envelope).qualified = before ++ c :: after) (latency i : Nat) :
    Registry.eventsAt (deliveries r envelope (some c.idx) (before.map (noted consumer r.entries)) latency) i =
      (before.filter fun b => b.idx == i).map (fun b =>
          if (noted consumer r.entries b).2 then DispatchEvent.busy (.fromEnvelope envelope)
          else .vetoed (.fromEnvelope envelope)) ++
        (after.filter fun b => b.idx == i).map (fun _ => DispatchEvent.skipped (.fromEnvelope envelope)) ++
          (if c.idx = i then [DispatchEvent.consumed (.fromEnvelope envelope) latency] else []) := by
  rw [deliveries, Registry.events_cut cut (r.plan_idx_ne envelope), Registry.eventsAt_append,
    Registry.eventsAt_append, List.map_map, ← Registry.eventsAt_map, ← Registry.eventsAt_map]
  congr 1
  by_cases hit : c.idx = i <;> simp [Registry.eventsAt, hit]

/-- With a winner, every entry is delivered exactly the event due to it. -/
theorem eventsAt_winner {consumer : Consumer M C} {r : Registry F I M C} {envelope : Envelope M}
    {before after : List (Candidate F)} {c : Candidate F} {won : RegistrationEntry F I M C}
    (cut : (r.plan envelope).qualified = before ++ c :: after)
    (at_c : r.entries[c.idx]? = some won)
    (passed : ∀ b ∈ before, PassedOver consumer r.entries envelope b) (latency : Nat) {i : Nat}
    {entry : RegistrationEntry F I M C} (found : r.entries[i]? = some entry) :
    Registry.eventsAt (deliveries r envelope (some c.idx) (before.map (noted consumer r.entries)) latency) i =
        (dueEvent consumer envelope (some (c.idx, won)) latency i entry).toList ∧
      (dueEvent consumer envelope (some (c.idx, won)) latency i entry).isSome =
        !BlindRouter.hardRejected envelope entry := by
  have distinct := r.plan_idx_ne envelope
  have sorted := r.plan_pairwise envelope
  have isWon : c = Candidate.of envelope c.idx won :=
    (Registry.of_mem_qualified (by rw [cut]; simp) at_c).2
  rw [eventsAt_cut consumer cut]
  rw [cut] at distinct sorted
  obtain ⟨beforeDistinct, tailDistinct, across⟩ := List.pairwise_append.mp distinct
  obtain ⟨behind, afterDistinct⟩ := List.pairwise_cons.mp tailDistinct
  by_cases rejected : BlindRouter.hardRejected envelope entry = true
  · have nowhere := idx_ne_of_rejected found rejected
    rw [cut] at nowhere
    rw [Registry.filter_idx_of_forall_ne fun b member => nowhere b (by simp [member]),
      Registry.filter_idx_of_forall_ne fun b member => nowhere b (by simp [member]),
      if_neg (nowhere c (by simp))]
    constructor <;> simp [dueEvent, rejected]
  · have listed : Candidate.of envelope i entry ∈ before ++ c :: after := by
      rw [← cut]
      exact (r.mem_qualified envelope _).mpr ⟨entry, found, by simpa using rejected, rfl⟩
    rcases List.mem_append.mp listed with inBefore | inTail
    · -- tried before the winner: it outranks the winner
      have ranked : Outranks envelope (i, entry) (c.idx, won) := by
        have := ((Ranking.mem_before_iff (fun _ _ h => h.asymm) sorted).mp inBefore).2
        rw [isWon] at this
        exact this
      have apart : i ≠ c.idx := across _ inBefore c (by simp)
      have here : before.filter (fun b => b.idx == i) = [Candidate.of envelope i entry] :=
        Registry.filter_idx beforeDistinct inBefore
      have notAfter : ∀ b ∈ after, b.idx ≠ i := by
        intro b member same
        exact across _ inBefore b (by simp [member]) same.symm
      rw [here, Registry.filter_idx_of_forall_ne notAfter, if_neg (Ne.symm apart)]
      have due := triedEvent_of_passedOver (c := Candidate.of envelope i entry) found
        (passed _ inBefore)
      constructor <;> simp [dueEvent, rejected, apart, ranked, due]
    · rcases List.mem_cons.mp inTail with isC | inAfter
      · have same : i = c.idx := congrArg Candidate.idx isC
        subst same
        rw [Registry.filter_idx_of_forall_ne fun b member => across b member c (by simp),
          Registry.filter_idx_of_forall_ne fun b member => (behind b member).symm, if_pos rfl]
        constructor <;> simp [dueEvent, rejected]
      · -- ranked behind the winner
        have ranked : Outranks envelope (c.idx, won) (i, entry) := by
          have := ((Ranking.mem_after_iff (fun _ _ h => h.asymm) sorted).mp inAfter).2
          rw [isWon] at this
          exact this
        have apart : i ≠ c.idx := (behind _ inAfter).symm
        have here : after.filter (fun b => b.idx == i) = [Candidate.of envelope i entry] :=
          Registry.filter_idx afterDistinct inAfter
        have notBefore : ∀ b ∈ before, b.idx ≠ i := by
          intro b member
          exact across b member (Candidate.of envelope i entry) (by simp [inAfter])
        rw [here, Registry.filter_idx_of_forall_ne notBefore, if_neg (Ne.symm apart)]
        constructor <;> simp [dueEvent, rejected, apart, ranked.asymm]

/-- Without a winner, every qualified entry was tried and hears how. -/
theorem eventsAt_nobody {consumer : Consumer M C} {r : Registry F I M C} {envelope : Envelope M}
    (passed : ∀ b ∈ (r.plan envelope).qualified, PassedOver consumer r.entries envelope b)
    (latency : Nat) {i : Nat} {entry : RegistrationEntry F I M C} (found : r.entries[i]? = some entry) :
    Registry.eventsAt (deliveries r envelope none
        ((r.plan envelope).qualified.map (noted consumer r.entries)) latency) i =
        (dueEvent consumer envelope none latency i entry).toList ∧
      (dueEvent consumer envelope none latency i entry).isSome =
        !BlindRouter.hardRejected envelope entry := by
  have split : Registry.eventsAt (deliveries r envelope none
        ((r.plan envelope).qualified.map (noted consumer r.entries)) latency) i =
      ((r.plan envelope).qualified.filter fun b => b.idx == i).map (fun b =>
        if (noted consumer r.entries b).2 then DispatchEvent.busy (.fromEnvelope envelope)
        else .vetoed (.fromEnvelope envelope)) := by
    rw [← Registry.eventsAt_map]
    simp [deliveries, Registry.events, List.map_map, Function.comp_def, Registry.plan, noted]
  rw [split]
  by_cases rejected : BlindRouter.hardRejected envelope entry = true
  · rw [Registry.filter_idx_of_forall_ne (idx_ne_of_rejected found rejected)]
    constructor <;> simp [dueEvent, rejected]
  · have listed : Candidate.of envelope i entry ∈ (r.plan envelope).qualified :=
      (r.mem_qualified envelope _).mpr ⟨entry, found, by simpa using rejected, rfl⟩
    have here : (r.plan envelope).qualified.filter (fun b => b.idx == i) =
        [Candidate.of envelope i entry] := Registry.filter_idx (r.plan_idx_ne envelope) listed
    rw [here]
    have due := triedEvent_of_passedOver (c := Candidate.of envelope i entry) found (passed _ listed)
    constructor <;> simp [dueEvent, rejected, due]

/-- A `route` call that runs to its end comes to one of the two. -/
theorem exists_routed (consumer : Consumer M C) (r : Registry F I M C) (envelope : Envelope M)
    (latency : Nat) : ∃ winner after, Routed consumer r envelope latency winner after := by
  rcases route_cases consumer r envelope with
    ⟨before, c, after, won, -, -, -, -, result⟩ | ⟨-, result⟩
  · exact ⟨some (c.idx, won), _, _, result, rfl⟩
  · exact ⟨none, _, result⟩

theorem idx_lt_length (r : Registry F I M C) (envelope : Envelope M) :
    ∀ c ∈ (r.plan envelope).qualified, c.idx < r.entries.length := by
  intro c member
  obtain ⟨entry, found⟩ := qualified_inRange r envelope c member
  exact (List.getElem?_eq_some_iff.mp found).1

/-- What a routing tells whom: the registry it leaves is the one before, after the
deliveries, and these hold for every entry the event due to it and no other. -/
theorem Routed.delivered {consumer : Consumer M C} {r after : Registry F I M C}
    {envelope : Envelope M} {latency : Nat} {winner : Option (Nat × RegistrationEntry F I M C)}
    (routed : Routed consumer r envelope latency winner after) :
    after = (heard consumer r envelope latency).foldl Registry.deliver r ∧
      (∀ i entry, r.entries[i]? = some entry →
        Registry.eventsAt (heard consumer r envelope latency) i =
            (dueEvent consumer envelope winner latency i entry).toList ∧
          (dueEvent consumer envelope winner latency i entry).isSome =
            !BlindRouter.hardRejected envelope entry) ∧
      ∀ d ∈ heard consumer r envelope latency, d.1 < r.entries.length := by
  have inRange := idx_lt_length r envelope
  rcases scan_cases consumer r.entries envelope _ (qualified_inRange r envelope) [] with
    ⟨before, c, behind, won, cut, at_c, -, -, passed, scanned⟩ | ⟨passed, scanned⟩
  · rw [List.nil_append] at scanned
    have isHeard : heard consumer r envelope latency =
        deliveries r envelope (some c.idx) (before.map (noted consumer r.entries)) latency := by
      simp only [heard, scanned, Option.map_some]
    have result : route consumer r envelope = .consuming c.idx won fun latency =>
        (r.observe (r.plan envelope) (some c.idx) (before.map (noted consumer r.entries))).observeConsumed
          c.idx (r.plan envelope).eventMeta latency := by
      simp only [route, scanned]
    rcases winner with _ | ⟨w, won'⟩
    · have clash := Eq.trans (Eq.symm routed) result
      cases clash
    obtain ⟨resume, routed, rfl⟩ := routed
    have same := routed.symm.trans result
    cases same
    rw [isHeard]
    refine ⟨?_, ?_, ?_⟩
    · rw [deliveries, List.foldl_append]
      rfl
    · intro i entry found
      exact eventsAt_winner cut at_c passed latency found
    · intro d member
      rw [deliveries, Registry.events_cut cut (r.plan_idx_ne envelope), List.map_map] at member
      rw [cut] at inRange
      simp only [List.mem_append, List.mem_map, List.mem_singleton, Function.comp_def] at member
      rcases member with (⟨b, inBefore, rfl⟩ | ⟨b, inBehind, rfl⟩) | rfl
      · exact inRange b (by simp [inBefore])
      · exact inRange b (by simp [inBehind])
      · exact inRange c (by simp)
  · rw [List.nil_append] at scanned
    have isHeard : heard consumer r envelope latency = deliveries r envelope none
        ((r.plan envelope).qualified.map (noted consumer r.entries)) latency := by
      simp only [heard, scanned, Option.map_none]
    have result : route consumer r envelope = .unhandled (r.observe (r.plan envelope) none
        ((r.plan envelope).qualified.map (noted consumer r.entries))) envelope := by
      simp only [route, scanned]
    rcases winner with _ | ⟨w, won'⟩
    · have same := Eq.trans (Eq.symm routed) result
      cases same
      rw [isHeard]
      refine ⟨?_, ?_, ?_⟩
      · rw [deliveries, List.append_nil]
        rfl
      · intro i entry found
        exact eventsAt_nobody passed latency found
      · intro d member
        rw [deliveries, Registry.events, List.append_nil, List.append_nil, List.map_map] at member
        obtain ⟨b, listed, rfl⟩ := List.mem_map.mp member
        exact inRange b listed
    · obtain ⟨resume, routed, -⟩ := routed
      have clash := routed.symm.trans result
      cases clash

/-- The registry a routing leaves behind: each entry after the event due to it. -/
theorem Routed.entries {consumer : Consumer M C} {r after : Registry F I M C} {envelope : Envelope M}
    {latency : Nat} {winner : Option (Nat × RegistrationEntry F I M C)}
    (routed : Routed consumer r envelope latency winner after) :
    after.entries = r.entries.mapIdx fun i entry =>
      afterEvent (dueEvent consumer envelope winner latency i entry) entry := by
  obtain ⟨rfl, each, -⟩ := routed.delivered
  apply List.ext_getElem?
  intro i
  rw [Registry.deliverAll_getElem?, List.getElem?_mapIdx]
  cases found : r.entries[i]? with
  | none => rfl
  | some entry =>
      rw [Option.map_some, Option.map_some, (each i entry found).1]
      cases dueEvent consumer envelope winner latency i entry <;> rfl

theorem Routed.sameShape {consumer : Consumer M C} {r after : Registry F I M C}
    {envelope : Envelope M} {latency : Nat} {winner : Option (Nat × RegistrationEntry F I M C)}
    (routed : Routed consumer r envelope latency winner after) : r.SameShape after := by
  obtain ⟨rfl, -⟩ := routed.delivered
  exact Registry.deliverAll_sameShape _ r

/-- **One outcome for every qualified consumer.**  Whatever the registry, the
envelope and the answers: the deliveries of one affinity routing hold for each
entry exactly the one event due to it, or none if a required dimension rejects
it; the state left behind is each entry after that one event; every index used is
an index of the vector; ids, order and dimensions stay. -/
theorem one_outcome (consumer : Consumer M C) (r : Registry F I M C) (envelope : Envelope M)
    (latency : Nat) :
    ∃ (winner : Option (Nat × RegistrationEntry F I M C)) (after : Registry F I M C),
      Routed consumer r envelope latency winner after ∧
      after = (heard consumer r envelope latency).foldl Registry.deliver r ∧
      (∀ i entry, r.entries[i]? = some entry →
        Registry.eventsAt (heard consumer r envelope latency) i =
            (dueEvent consumer envelope winner latency i entry).toList ∧
          (dueEvent consumer envelope winner latency i entry).isSome =
            !BlindRouter.hardRejected envelope entry) ∧
      (∀ c ∈ (r.plan envelope).qualified, c.idx < r.entries.length) ∧
      (∀ d ∈ heard consumer r envelope latency, d.1 < r.entries.length) ∧
      after.entries = r.entries.mapIdx (fun i entry =>
        afterEvent (dueEvent consumer envelope winner latency i entry) entry) ∧
      r.SameShape after := by
  obtain ⟨winner, after, routed⟩ := exists_routed consumer r envelope latency
  obtain ⟨whole, each, inRange⟩ := routed.delivered
  exact ⟨winner, after, routed, whole, each, idx_lt_length r envelope, inRange, routed.entries,
    routed.sameShape⟩

end AffinityRouter

end Jackfield
