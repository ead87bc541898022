/-
# Jackfield.Bus.Conservation -- no envelope is lost or doubled

`held` are the envelopes inside the bus: in the channel, in the pending queue, and
in the iterator of a running `drain`.  `settled` are those that left it: handed to
a consumer, evicted by `push_pending`, or lost with a dropped `drain`.

No step changes what is held and settled together, but for the envelope a send
adds (`Move.conserves`).  So over a run they are exactly the accepted envelopes,
each counted once (`conserved`), and while nothing is cancelled in the middle of a
`consume`, none of them is lost: `every_envelope_once`.
-/
import Mathlib.Algebra.Order.Group.Multiset
import Mathlib.Tactic.Abel
import Jackfield.Bus.Moves

namespace Jackfield

set_option autoImplicit false

variable {F I M C : Type}

/-! ## Reading a trace -/

namespace Event

def accepted? : Event M → Option (Parcel M)
  | .accepted e => some e
  | _ => none

def handed? : Event M → Option (Nat × Parcel M)
  | .handed id e => some (id, e)
  | _ => none

def evicted? : Event M → Option (Parcel M)
  | .evicted e => some e
  | _ => none

def lost? : Event M → Option (Parcel M)
  | .lost e => some e
  | _ => none

theorem evicted?_evicted (l : List (Parcel M)) : (l.map evicted).filterMap evicted? = l := by
  rw [List.filterMap_map]
  exact List.filterMap_some

theorem lost?_lost (l : List (Parcel M)) : (l.map lost).filterMap lost? = l := by
  rw [List.filterMap_map]
  exact List.filterMap_some

theorem filterMap_map_none {β : Type} {f : Event M → Option β} {g : Parcel M → Event M}
    (misses : ∀ e, f (g e) = none) (l : List (Parcel M)) : (l.map g).filterMap f = [] := by
  rw [List.filterMap_map, List.filterMap_eq_nil_iff]
  intro e _
  exact misses e

/-- A reading of one kind of event finds exactly the events of that kind. -/
theorem mem_filterMap_iff {α : Type} {f : Event M → Option α} {g : α → Event M}
    (reads : ∀ event a, f event = some a ↔ event = g a) {t : List (Event M)} {a : α} :
    a ∈ t.filterMap f ↔ g a ∈ t := by
  rw [List.mem_filterMap]
  constructor
  · rintro ⟨event, member, found⟩
    rw [← (reads event a).mp found]
    exact member
  · intro member
    exact ⟨g a, member, (reads _ a).mpr rfl⟩

theorem mem_filterMap_accepted {t : List (Event M)} {e : Parcel M} :
    e ∈ t.filterMap accepted? ↔ accepted e ∈ t := by
  apply mem_filterMap_iff
  intro event e
  cases event <;> simp [accepted?]

theorem mem_filterMap_evicted {t : List (Event M)} {e : Parcel M} :
    e ∈ t.filterMap evicted? ↔ evicted e ∈ t := by
  apply mem_filterMap_iff
  intro event e
  cases event <;> simp [evicted?]

theorem mem_filterMap_lost {t : List (Event M)} {e : Parcel M} :
    e ∈ t.filterMap lost? ↔ lost e ∈ t := by
  apply mem_filterMap_iff
  intro event e
  cases event <;> simp [lost?]

theorem mem_filterMap_handed {t : List (Event M)} {id : Nat} {e : Parcel M} :
    (id, e) ∈ t.filterMap handed? ↔ handed id e ∈ t := by
  have reads : ∀ (event : Event M) (p : Nat × Parcel M), handed? event = some p ↔ event = handed p.1 p.2 := by
    rintro event ⟨id, e⟩
    cases event <;> simp [handed?]
  exact mem_filterMap_iff reads

end Event

namespace World

open Machine

/-- The envelopes inside the bus. -/
def held (w : World F I M C) : Multiset (Parcel M) :=
  ↑w.bus.rx.buf + ↑w.bus.pending + ↑w.control.rest

/-- The envelopes that left the bus. -/
def settled (t : List (Event M)) : Multiset (Parcel M) :=
  ↑((t.filterMap Event.handed?).map Prod.snd) + ↑(t.filterMap Event.evicted?) +
    ↑(t.filterMap Event.lost?)

theorem settled_append (t u : List (Event M)) : settled (t ++ u) = settled t + settled u := by
  simp only [settled, List.filterMap_append, List.map_append, ← Multiset.coe_add]
  abel

theorem settled_evictions (l : List (Parcel M)) : settled (l.map .evicted) = ↑l := by
  rw [settled, Event.evicted?_evicted, Event.filterMap_map_none fun _ => rfl,
    Event.filterMap_map_none fun _ => rfl]
  simp

theorem settled_losses (l : List (Parcel M)) : settled (l.map .lost) = ↑l := by
  rw [settled, Event.lost?_lost, Event.filterMap_map_none fun _ => rfl,
    Event.filterMap_map_none fun _ => rfl]
  simp

/-! ## One step -/

/-- Taking the next envelope takes it out of what is held. -/
theorem held_of_next {w : World F I M C} {e : Parcel M} {bus : Bus F I (Stamped M) C} {loop : Loop M}
    (taken : w.next = some (e, bus, loop)) :
    w.held = e ::ₘ (↑bus.rx.buf + ↑bus.pending + ↑loop.rest) := by
  rcases next_cases taken with ⟨rest, running, rfl, rfl⟩ | ⟨rx, running, loops, front, rfl⟩
  · simp only [held, running, Control.rest, Loop.rest, ← Multiset.cons_coe, Multiset.add_cons]
  · have empty : loop.rest = [] := by rcases loops with rfl | rfl <;> rfl
    simp only [held, running, Control.rest, empty, front, ← Multiset.cons_coe, Multiset.cons_add]

variable [F32 F]

/-- **No step loses or doubles an envelope.** -/
theorem Move.conserves {w w' : World F I M C} {a : Action F I M C} {es : List (Event M)}
    (move : Move w a w' es) : w'.held + settled es = w.held + ↑(es.filterMap Event.accepted?) := by
  cases move with
  | sent queued =>
      simp only [held, queued, settled, List.filterMap, Event.accepted?, Event.handed?, Event.evicted?,
        Event.lost?, ← Multiset.coe_add]
      simp only [List.map_nil, Multiset.coe_nil]
      abel
  | @commanded cmd cmdRx queued => cases cmd <;> rfl
  | handles same sameCmds handle =>
      simp only [held, same]
      rfl
  | registered idle => rfl
  | deregistered idle => rfl
  | drain idle =>
      simp only [held, idle]
      rfl
  | dispatch idle =>
      simp only [held, idle]
      rfl
  | appliedRegister running commands front => rfl
  | appliedDeregister running commands front => rfl
  | @handed consumer e bus loop entry resume taken member eligible shape =>
      rw [held_of_next taken]
      show ((bus.rx.buf : Multiset (Parcel M)) + bus.pending + loop.rest) + ({e} + 0 + 0) = _ + 0
      rw [← Multiset.singleton_add]
      abel
  | @returned consumer e bus loop registry taken shape nobody =>
      obtain ⟨-, -, -, samePending, sameMax⟩ := next_frame taken
      have kept : (↑(EvictingQueue.evicted bus.maxPending bus.pending) : Multiset (Parcel M)) +
          ↑(EvictingQueue.push bus.maxPending bus.pending e) = ↑bus.pending + {e} := by
        rw [Multiset.coe_add, EvictingQueue.evicted_append_push, ← Multiset.coe_add,
          Multiset.coe_singleton]
      have evictions : settled (.routed e ::
          (EvictingQueue.evicted w.bus.maxPending w.bus.pending).map Event.evicted) =
            ↑(EvictingQueue.evicted bus.maxPending bus.pending) := by
        rw [← samePending, ← sameMax]
        exact settled_evictions _
      have noSend : List.filterMap Event.accepted? (.routed e ::
          (EvictingQueue.evicted w.bus.maxPending w.bus.pending).map Event.evicted) = [] :=
        Event.filterMap_map_none (fun _ => rfl) _
      rw [held_of_next taken, evictions, noSend, ← Multiset.singleton_add]
      calc (↑bus.rx.buf + ↑(EvictingQueue.push bus.maxPending bus.pending e) + ↑loop.rest) +
            (↑(EvictingQueue.evicted bus.maxPending bus.pending) : Multiset (Parcel M))
          = ↑bus.rx.buf + (↑(EvictingQueue.evicted bus.maxPending bus.pending) +
              ↑(EvictingQueue.push bus.maxPending bus.pending e)) + ↑loop.rest := by abel
        _ = ↑bus.rx.buf + (↑bus.pending + {e}) + ↑loop.rest := by rw [kept]
        _ = {e} + (↑bus.rx.buf + ↑bus.pending + ↑loop.rest) + ↑([] : List (Parcel M)) := by
              rw [Multiset.coe_nil]
              abel
  | tookPending running empty =>
      -- the queue moves into the iterator
      simp only [held, running, Control.rest, Loop.rest]
      simp only [settled, List.filterMap_nil, List.map_nil, Multiset.coe_nil, add_zero]
  | pendingDone running =>
      simp only [held, running]
      rfl
  | @finished loop running done =>
      have empty : loop.rest = [] := by rcases done with ⟨rfl, -⟩ | ⟨rfl, -⟩ <;> rfl
      simp only [held, running, Control.rest, empty]
      rfl
  | resumed consuming =>
      simp only [held, consuming]
      rfl
  | @dropped loop suspended =>
      have inHand : w.control.rest = loop.rest := by
        rcases suspended with ⟨resume, consuming⟩ | ⟨waiting, rfl⟩
        · rw [consuming]
          rfl
        · rw [waiting]
          rfl
      have noSend : (loop.rest.map Event.lost).filterMap Event.accepted? = [] :=
        Event.filterMap_map_none (fun _ => rfl) _
      rw [settled_losses, noSend, held, held, inHand]
      simp only [Control.rest, Multiset.coe_nil, add_zero]

/-- A step accepts no envelope, or one, stamped with the next serial number. -/
theorem Move.stamps {w w' : World F I M C} {a : Action F I M C} {es : List (Event M)}
    (move : Move w a w' es) :
    (es.filterMap Event.accepted? = [] ∧ w'.sent = w.sent) ∨
      ∃ e, es.filterMap Event.accepted? = [e] ∧ e.serial = w.sent ∧ w'.sent = w.sent + 1 := by
  cases move with
  | sent queued => exact Or.inr ⟨_, rfl, rfl, rfl⟩
  | @commanded cmd cmdRx queued => cases cmd <;> exact Or.inl ⟨rfl, rfl⟩
  | returned taken shape nobody => exact Or.inl ⟨Event.filterMap_map_none (fun _ => rfl) _, rfl⟩
  | dropped suspended => exact Or.inl ⟨Event.filterMap_map_none (fun _ => rfl) _, rfl⟩
  | _ => exact Or.inl ⟨rfl, rfl⟩

/-- The cap and the router are set once. -/
theorem Move.fixed {w w' : World F I M C} {a : Action F I M C} {es : List (Event M)}
    (move : Move w a w' es) :
    w'.bus.maxPending = w.bus.maxPending ∧ w'.bus.router = w.bus.router := by
  cases move with
  | handed taken member eligible shape =>
      obtain ⟨-, sameRouter, -, -, sameMax⟩ := next_frame taken
      exact ⟨sameMax, sameRouter⟩
  | returned taken shape nobody =>
      obtain ⟨-, sameRouter, -, -, sameMax⟩ := next_frame taken
      exact ⟨sameMax, sameRouter⟩
  | _ => exact ⟨rfl, rfl⟩

/-- **An eviction takes the front of a queue at its cap**, and nothing else. -/
theorem Move.evicts {w w' : World F I M C} {a : Action F I M C} {es : List (Event M)}
    (move : Move w a w' es) {e : Parcel M} (evicted : e ∈ es.filterMap Event.evicted?) :
    w.bus.maxPending ≤ w.bus.pending.length ∧ w.bus.pending.head? = some e ∧
      es.filterMap Event.evicted? = [e] := by
  cases move with
  | returned taken shape nobody =>
      rw [List.filterMap_cons_none rfl, Event.evicted?_evicted] at evicted ⊢
      exact EvictingQueue.mem_evicted evicted
  | @commanded cmd cmdRx queued => cases cmd <;> cases evicted
  | dropped suspended =>
      rw [Event.filterMap_map_none fun _ => rfl] at evicted
      cases evicted
  | _ => cases evicted

/-! ## Whole runs -/

variable [Message M] {ok : World F I M C → List (Event M) → Action F I M C → Prop} {capacity cap : Nat}
  {router : Router} {w : World F I M C} {t : List (Event M)}

/-- **What is held and what is settled are the accepted envelopes**, and these bear
the serial numbers from zero on, in order. -/
theorem conserved (runs : Runs step ok (init capacity router cap) w t) :
    w.held + settled t = ↑(t.filterMap Event.accepted?) ∧
      (t.filterMap Event.accepted?).map Envelope.serial = List.range w.sent := by
  apply runs.invariant
  · exact ⟨rfl, rfl⟩
  · intro w t a w' es ih allowed stepped
    have move := move_of_step stepped
    obtain ⟨balance, stamped⟩ := ih
    constructor
    · rw [settled_append, List.filterMap_append, ← Multiset.coe_add, ← balance,
        add_comm (settled t), ← add_assoc, move.conserves]
      abel
    · rw [List.filterMap_append, List.map_append, stamped]
      rcases move.stamps with ⟨none, same⟩ | ⟨e, one, serial, next⟩
      · rw [none, same, List.map_nil, List.append_nil]
      · rw [one, next, List.map_singleton, serial, List.range_succ]

theorem fixed (runs : Runs step ok (init capacity router cap) w t) :
    w.bus.maxPending = cap ∧ w.bus.router = router := by
  apply runs.invariant
  · exact ⟨rfl, rfl⟩
  · intro w t a w' es ih allowed stepped
    obtain ⟨sameCap, sameRouter⟩ := (move_of_step stepped).fixed
    exact ⟨sameCap.trans ih.1, sameRouter.trans ih.2⟩

/-- A future is dropped only at `select!`: every `drain`, and every iteration of
`dispatch`, runs to its end. -/
def Completes (w : World F I M C) (_ : List (Event M)) (a : Action F I M C) : Prop :=
  a = .drop → w.control = .running .dispatch

omit [Message M] in
theorem Move.keepsAll {w w' : World F I M C} {a : Action F I M C} {es : List (Event M)}
    (move : Move w a w' es) (completes : Completes w t a) : es.filterMap Event.lost? = [] := by
  cases move with
  | @commanded cmd cmdRx queued => cases cmd <;> rfl
  | returned taken shape nobody => exact Event.filterMap_map_none (fun _ => rfl) _
  | @dropped loop suspended =>
      have waiting := completes rfl
      rcases suspended with ⟨resume, consuming⟩ | ⟨-, rfl⟩
      · rw [waiting] at consuming
        cases consuming
      · rfl
  | _ => rfl

theorem nothing_lost (runs : Runs step Completes (init capacity router cap) w t) :
    t.filterMap Event.lost? = [] := by
  apply runs.invariant
  · rfl
  · intro w t a w' es ih allowed stepped
    rw [List.filterMap_append, ih, (move_of_step stepped).keepsAll allowed]
    rfl

/-- How often the envelope stamped as `e` is stands in a list. -/
def copies (e : Parcel M) (l : List (Parcel M)) : Nat := l.countP fun x => x.serial == e.serial

omit [F32 F] [Message M] in
/-- Stamped `0, 1, 2, …`, each accepted envelope stands there once. -/
theorem copies_accepted {l : List (Parcel M)} {n : Nat} (stamped : l.map Envelope.serial = List.range n)
    {e : Parcel M} (member : e ∈ l) : copies e l = 1 := by
  have distinct : (l.map Envelope.serial).Nodup := stamped ▸ List.nodup_range
  have counted : copies e l = (l.map Envelope.serial).count e.serial := by
    rw [copies, List.count, List.countP_map]
    rfl
  rw [counted]
  exact List.count_eq_one_of_mem distinct (List.mem_map_of_mem member)

/-- **Every envelope once.**  For every capacity, cap and router, and in every
interleaving in which no `consume` is cancelled: between two operations the
channel, the pending queue, the record of messages handed over and the record of
evictions hold together exactly the accepted envelopes, each of them once; and an
eviction takes the front envelope of a pending queue that is at its cap. -/
theorem every_envelope_once (runs : Runs step Completes (init capacity router cap) w t) :
    (w.control = .idle ∨ w.control = .running .dispatch →
      (w.bus.rx.buf ++ w.bus.pending ++ (t.filterMap Event.handed?).map Prod.snd ++
          t.filterMap Event.evicted?).Perm (t.filterMap Event.accepted?) ∧
        ∀ e, Event.accepted e ∈ t →
          copies e w.bus.rx.buf + copies e w.bus.pending +
              copies e ((t.filterMap Event.handed?).map Prod.snd) +
              copies e (t.filterMap Event.evicted?) = 1) ∧
      ∀ a w' es, w.step a = some (w', es) → ∀ e, Event.evicted e ∈ es →
        cap ≤ w.bus.pending.length ∧ w.bus.pending.head? = some e ∧
          es.filterMap Event.evicted? = [e] := by
  constructor
  · intro between
    obtain ⟨balance, stamped⟩ := conserved runs
    have noIterator : w.control.rest = [] := by
      rcases between with idle | waiting
      · rw [idle]
        rfl
      · rw [waiting]
        rfl
    have whole : (w.bus.rx.buf ++ w.bus.pending ++ (t.filterMap Event.handed?).map Prod.snd ++
        t.filterMap Event.evicted?).Perm (t.filterMap Event.accepted?) := by
      rw [← Multiset.coe_eq_coe, ← balance, held, settled, noIterator, nothing_lost runs]
      simp only [← Multiset.coe_add, Multiset.coe_nil, add_zero]
      abel
    refine ⟨whole, ?_⟩
    intro e accepted
    have once := copies_accepted stamped (Event.mem_filterMap_accepted.mpr accepted)
    rw [copies, ← whole.countP_eq] at once
    simpa only [copies, List.countP_append] using once
  · intro a w' es stepped e evicted
    rw [← (fixed runs).1]
    exact (move_of_step stepped).evicts (Event.mem_filterMap_evicted.mpr evicted)

/-! ## A morning at `dispatch` -/

/-- Listens to the sensor only. -/
def alarm : Action ℚ Unit BaseMessage String :=
  .registerConsumer "alarm" [((ProducerDim.only "sensor").toDimension, true, 1)]

def ping : BaseMessage := .new none none none

/-- Everybody has time and takes anything. -/
def obliging : Consumer (Stamped BaseMessage) String := ⟨fun _ => true, fun _ _ => true⟩

/-- One envelope nobody wants, one that is taken. -/
def morning : List (Action ℚ Unit BaseMessage String) :=
  [alarm, .dispatch, .send ⟨"radio"⟩ ping, .send ⟨"sensor"⟩ ping, .takeEnvelope obliging,
    .takeEnvelope obliging, .resume 7]

def evening : World ℚ Unit BaseMessage String × List (Event BaseMessage) :=
  outcome step (init 4 .affinity 1) morning

theorem every_envelope_once_morning :
    copies ⟨⟨"sensor"⟩, ⟨1, ping⟩⟩ evening.1.bus.rx.buf +
        copies ⟨⟨"sensor"⟩, ⟨1, ping⟩⟩ evening.1.bus.pending +
        copies ⟨⟨"sensor"⟩, ⟨1, ping⟩⟩ ((evening.2.filterMap Event.handed?).map Prod.snd) +
        copies ⟨⟨"sensor"⟩, ⟨1, ping⟩⟩ (evening.2.filterMap Event.evicted?) = 1 := by
  have runs : Runs step Completes (init 4 .affinity 1) evening.1 evening.2 := by
    apply runs_outcome morning (fun _ _ a => !a.isDrop) _ rfl rfl
    intro w t a notDrop isDrop
    subst isDrop
    cases notDrop
  exact ((every_envelope_once runs).1 (Or.inr rfl)).2 _ (by decide +kernel)

end World

end Jackfield
