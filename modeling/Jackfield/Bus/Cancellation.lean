/-
# Jackfield.Bus.Cancellation -- dropping the future of a running call

A call of `drain` or `dispatch` may be dropped at each of its await points.  What
was inside the bus at the call, or came in since, and was neither routed nor
evicted by the call, should then still be in the bus.

It is, wherever the rest of the work is kept in the channels or in the pending
queue.  The loop of `drain` over the pending queue keeps it in its own iterator,
out of `mem::take`, and the iterator goes with the future: `cancel_keeps_iff`.
-/
import Jackfield.Bus.Conservation

namespace Jackfield

set_option autoImplicit false

variable {F I M C : Type} [F32 F]

namespace World

open Machine

/-- A step of one and the same call. -/
def During (w : World F I M C) (_ : List (Event M)) (a : Action F I M C) : Prop :=
  w.control ≠ .idle ∧ a ≠ .drop

/-- `During`, as a test. -/
def during? (w : World F I M C) (_ : List (Event M)) (a : Action F I M C) : Bool :=
  match w.control with
  | .idle => false
  | _ => !a.isDrop

omit [F32 F] in
theorem during_of_during? {w : World F I M C} {t : List (Event M)} {a : Action F I M C}
    (passes : during? w t a = true) : During w t a := by
  constructor
  · intro idle
    simp [during?, idle] at passes
  · rintro rfl
    unfold during? at passes
    split at passes <;> cases passes

/-- An envelope leaves the bus by being routed, evicted or lost. -/
theorem Move.stays {w w' : World F I M C} {a : Action F I M C} {es : List (Event M)}
    (move : Move w a w' es) {e : Parcel M} (inside : e ∈ w.held ∨ Event.accepted e ∈ es) :
    e ∈ w'.held ∨ Event.routed e ∈ es ∨ Event.evicted e ∈ es ∨ Event.lost e ∈ es := by
  have whole : e ∈ w'.held + settled es := by
    rw [move.conserves, Multiset.mem_add, Multiset.mem_coe, Event.mem_filterMap_accepted]
    exact inside
  simp only [settled, Multiset.mem_add, Multiset.mem_coe, Event.mem_filterMap_evicted,
    Event.mem_filterMap_lost] at whole
  rcases whole with stays | (handed | evicted) | lost
  · exact Or.inl stays
  · -- what is handed over was routed
    obtain ⟨⟨id, e'⟩, member, rfl⟩ := List.mem_map.mp handed
    obtain ⟨-, -, -, -, -, both, -⟩ := move.handed_cases (Event.mem_filterMap_handed.mp member)
    right; left
    rw [both]
    exact List.mem_cons_self ..
  · exact Or.inr (Or.inr (Or.inl evicted))
  · exact Or.inr (Or.inr (Or.inr lost))

/-- Only a drop loses anything. -/
theorem Move.lost_only_by_drop {w w' : World F I M C} {a : Action F I M C} {es : List (Event M)}
    (move : Move w a w' es) (going : a ≠ .drop) (e : Parcel M) : Event.lost e ∉ es := by
  cases move with
  | @commanded cmd cmdRx queued => cases cmd <;> simp [BusCmd.returned]
  | dropped suspended => exact absurd rfl going
  | returned taken shape nobody => simp
  | _ => simp

variable [Message M] {ok : World F I M C → List (Event M) → Action F I M C → Prop} {capacity cap : Nat}
  {router : Router} {w : World F I M C} {t : List (Event M)}

/-- The envelopes inside the bus are all different. -/
theorem nodup_held (runs : Runs step ok (init capacity router cap) w t) : w.held.Nodup := by
  obtain ⟨balance, stamped⟩ := conserved runs
  have distinct : (t.filterMap Event.accepted?).Nodup :=
    List.Nodup.of_map Envelope.serial (stamped ▸ List.nodup_range)
  have whole : (w.held + settled t).Nodup := by
    rw [balance]
    exact Multiset.coe_nodup.mpr distinct
  exact (Multiset.nodup_add.mp whole).1

/-! ## During one call -/

/-- What was in the bus, or came in, is inside until it is routed or evicted. -/
theorem kept_during {w₁ : World F I M C} (during : Runs step During w₁ w t) {e : Parcel M}
    (inside : e ∈ w₁.held ∨ Event.accepted e ∈ t) (notRouted : Event.routed e ∉ t)
    (notEvicted : Event.evicted e ∉ t) : e ∈ w.held := by
  induction during with
  | start => exact inside.resolve_right (by simp)
  | @step w w' t es a before allowed stepped ih =>
      have move := move_of_step stepped
      simp only [List.mem_append, not_or] at inside notRouted notEvicted
      have now : e ∈ w.held ∨ Event.accepted e ∈ es := by
        rcases inside with atCall | earlier | justNow
        · exact Or.inl (ih (Or.inl atCall) notRouted.1 notEvicted.1)
        · exact Or.inl (ih (Or.inr earlier) notRouted.1 notEvicted.1)
        · exact Or.inr justNow
      rcases move.stays now with stays | routed | evicted | lost
      · exact stays
      · exact absurd routed notRouted.2
      · exact absurd evicted notEvicted.2
      · exact absurd lost (move.lost_only_by_drop allowed.2 e)

/-- Until the iterator is used up: the pending queue of the call is untouched while
commands are applied, and what the iterator still holds comes from that queue and
was neither routed nor evicted since. -/
structure Unvisited (w₀ : World F I M C) (w : World F I M C) (t : List (Event M)) : Prop where
  untouched : w.control = .running .drainCmds →
    w.bus.pending = w₀.bus.pending ∧ ∀ e, Event.routed e ∉ t ∧ Event.evicted e ∉ t
  awaits : ∀ loop resume, w.control = .consuming loop resume → loop ≠ .drainCmds
  inHand : ∀ e ∈ w.control.rest,
    e ∈ w₀.bus.pending ∧ Event.routed e ∉ t ∧ Event.evicted e ∉ t

omit [F32 F] [Message M] in
theorem Unvisited.calm {w₀ w w' : World F I M C} {t es : List (Event M)} (unvisited : Unvisited w₀ w t)
    (sameControl : w'.control = w.control) (samePending : w'.bus.pending = w.bus.pending)
    (calm : ∀ e, Event.routed e ∉ es ∧ Event.evicted e ∉ es) : Unvisited w₀ w' (t ++ es) where
  untouched running := by
    obtain ⟨same, none⟩ := unvisited.untouched (sameControl ▸ running)
    refine ⟨samePending.trans same, ?_⟩
    intro e
    simp only [List.mem_append, not_or]
    exact ⟨⟨(none e).1, (calm e).1⟩, (none e).2, (calm e).2⟩
  awaits loop resume consuming := unvisited.awaits loop resume (sameControl ▸ consuming)
  inHand e member := by
    obtain ⟨old, notRouted, notEvicted⟩ := unvisited.inHand e (sameControl ▸ member)
    simp only [List.mem_append, not_or]
    exact ⟨old, ⟨notRouted, (calm e).1⟩, notEvicted, (calm e).2⟩

omit [F32 F] [Message M] in
/-- Taking an envelope: what the iterator holds afterwards was behind it, and is not
in the pending queue. -/
theorem rest_of_next {w : World F I M C} (distinct : w.held.Nodup) {e : Parcel M}
    {bus : Bus F I (Stamped M) C} {loop : Loop M} (taken : w.next = some (e, bus, loop)) :
    loop ≠ .drainCmds ∧ ∀ x ∈ loop.rest, x ∈ w.control.rest ∧ x ≠ e ∧ x ∉ w.bus.pending := by
  have cut := held_of_next taken
  rw [cut, Multiset.nodup_cons, Multiset.nodup_add, Multiset.nodup_add] at distinct
  obtain ⟨notBehind, ⟨-, -, -⟩, -, apart⟩ := distinct
  obtain ⟨-, -, -, samePending, -⟩ := next_frame taken
  constructor
  · rcases next_cases taken with ⟨rest, running, rfl, -⟩ | ⟨rx, running, rfl | rfl, -, -⟩ <;> simp
  · intro x inRest
    refine ⟨mem_rest_of_next taken inRest, ?_, ?_⟩
    · rintro rfl
      exact notBehind (Multiset.mem_add.mpr (Or.inr inRest))
    · intro inPending
      rw [← samePending] at inPending
      exact Multiset.disjoint_left.mp apart (Multiset.mem_add.mpr (Or.inr inPending)) inRest

omit [Message M] in
theorem Unvisited.step {w₀ w w' : World F I M C} {t es : List (Event M)} {a : Action F I M C}
    (unvisited : Unvisited w₀ w t) (distinct : w.held.Nodup) (allowed : During w t a)
    (move : Move w a w' es) : Unvisited w₀ w' (t ++ es) := by
  cases move with
  | @commanded cmd cmdRx queued =>
      exact unvisited.calm rfl rfl fun e => by cases cmd <;> simp [BusCmd.returned]
  | registered idle => exact absurd idle allowed.1
  | deregistered idle => exact absurd idle allowed.1
  | drain idle => exact absurd idle allowed.1
  | dispatch idle => exact absurd idle allowed.1
  | dropped suspended => exact absurd rfl allowed.2
  | @handed consumer e bus loop entry resume taken member eligible shape =>
      obtain ⟨noCmds, behind⟩ := rest_of_next distinct taken
      refine ⟨by simp, ?_, ?_⟩
      · intro loop' resume' consuming
        cases consuming
        exact noCmds
      · intro x inRest
        obtain ⟨wasInHand, other, -⟩ := behind x inRest
        obtain ⟨old, notRouted, notEvicted⟩ := unvisited.inHand x wasInHand
        simp only [List.mem_append, not_or]
        exact ⟨old, ⟨notRouted, by simp [other]⟩, notEvicted, by simp⟩
  | @returned consumer e bus loop registry taken shape nobody =>
      obtain ⟨noCmds, behind⟩ := rest_of_next distinct taken
      refine ⟨?_, by simp, ?_⟩
      · intro running
        cases running
        exact absurd rfl noCmds
      · intro x inRest
        obtain ⟨wasInHand, other, notPending⟩ := behind x inRest
        obtain ⟨old, notRouted, notEvicted⟩ := unvisited.inHand x wasInHand
        simp only [List.mem_append, not_or]
        refine ⟨old, ⟨notRouted, by simp [other]⟩, notEvicted, ?_⟩
        -- what is evicted comes from the pending queue, not from the iterator
        intro evicted
        simp only [List.mem_cons, reduceCtorEq, false_or, List.mem_map, Event.evicted.injEq,
          exists_eq_right] at evicted
        exact notPending (List.mem_of_mem_head? (EvictingQueue.mem_evicted evicted).2.1)
  | tookPending running empty =>
      obtain ⟨same, none⟩ := unvisited.untouched running
      refine ⟨by simp, by simp, ?_⟩
      intro x inRest
      rw [List.append_nil]
      exact ⟨same ▸ inRest, none x⟩
  | pendingDone running =>
      refine ⟨by simp, by simp, ?_⟩
      intro x inRest
      cases inRest
  | finished running done =>
      refine ⟨by simp, by simp, ?_⟩
      intro x inRest
      cases inRest
  | @resumed loop resume latency consuming =>
      refine ⟨?_, by simp, ?_⟩
      · intro running
        cases running
        exact absurd rfl (unvisited.awaits _ _ consuming)
      · intro x inRest
        rw [List.append_nil]
        exact unvisited.inHand x (by rw [consuming]; exact inRest)
  | _ => exact unvisited.calm rfl rfl fun e => by simp

/-! ## The call and its drop -/

/-- A call up to one of its states: `w₀` when it was made, `w` now, `t` since. -/
structure InCall (capacity : Nat) (router : Router) (cap : Nat) (call : Action F I M C)
    (w₀ w : World F I M C) (t : List (Event M)) : Prop where
  isCall : call = .drain ∨ call = .dispatch
  reached : ∃ t₀, Runs step anyStep (init capacity router cap) w₀ t₀
  during : ∃ w₁, w₀.step call = some (w₁, []) ∧ Runs step During w₁ w t

theorem InCall.called {call : Action F I M C} {w₀ w : World F I M C}
    (inCall : InCall capacity router cap call w₀ w t) :
    ∃ w₁, w₁.held = w₀.held ∧ Unvisited w₀ w₁ [] ∧ (∃ t₁, Runs step anyStep (init capacity router cap) w₁ t₁) ∧
      Runs step During w₁ w t := by
  obtain ⟨isCall, ⟨t₀, reached⟩, w₁, called, during⟩ := inCall
  refine ⟨w₁, ?_, ?_, ⟨_, reached.step trivial called⟩, during⟩
  · have same := (move_of_step called).conserves
    simpa [settled] using same
  · rcases isCall with rfl | rfl
    · cases move_of_step called with
      | handles _ _ handle => simp at handle
      | drain idle => exact ⟨fun _ => ⟨rfl, by simp⟩, by simp, by simp [Control.rest, Loop.rest]⟩
    · cases move_of_step called with
      | handles _ _ handle => simp at handle
      | dispatch idle => exact ⟨by simp, by simp, by simp [Control.rest, Loop.rest]⟩

theorem InCall.unvisited {call : Action F I M C} {w₀ w : World F I M C}
    (inCall : InCall capacity router cap call w₀ w t) : Unvisited w₀ w t ∧ w.held.Nodup := by
  obtain ⟨w₁, -, atCall, ⟨t₁, reached⟩, during⟩ := inCall.called
  have distinct : ∀ {s u}, Runs step During w₁ s u → s.held.Nodup := by
    intro s u part
    have whole : Runs step anyStep (init capacity router cap) s (t₁ ++ u) :=
      reached.append (fun _ _ _ _ => trivial) part
    exact nodup_held whole
  refine ⟨?_, distinct during⟩
  apply during.invariant_reached atCall
  intro s u a s' es part unvisited allowed stepped
  exact unvisited.step (distinct part) allowed (move_of_step stepped)

/-- **A dropped call loses nothing, exactly if the iterator is used up.**  Take any
call of `drain` or `dispatch` on any reachable bus, and drop its future at any of
its await points.  Everything that was in the pending queue or the channel at the
call, or was sent since, and that the call neither routed nor evicted, is in the
pending queue or the channel afterwards -- if and only if the call was not
suspended in the loop of `drain` over the pending queue with envelopes still in
its iterator. -/
theorem cancel_keeps_iff {call : Action F I M C} {w₀ w w' : World F I M C} {es : List (Event M)}
    (inCall : InCall capacity router cap call w₀ w t) (dropped : w.step .drop = some (w', es)) :
    (∀ e, e ∈ w₀.bus.pending ∨ e ∈ w₀.bus.rx.buf ∨ Event.accepted e ∈ t →
        Event.routed e ∉ t → Event.evicted e ∉ t → e ∈ w'.bus.pending ∨ e ∈ w'.bus.rx.buf) ↔
      ¬ ∃ e rest resume, w.control = .consuming (.drainPending (e :: rest)) resume := by
  obtain ⟨unvisited, distinct⟩ := inCall.unvisited
  have sameBus : w'.bus = w.bus := by
    cases move_of_step dropped with
    | handles _ _ handle => simp at handle
    | dropped suspended => rfl
  rw [sameBus]
  constructor
  · rintro keeps ⟨e, rest, resume, consuming⟩
    have inHand : e ∈ w.control.rest := by
      rw [consuming]
      exact List.mem_cons_self ..
    obtain ⟨old, notRouted, notEvicted⟩ := unvisited.inHand e inHand
    rw [held, Multiset.nodup_add] at distinct
    obtain ⟨-, -, apart⟩ := distinct
    rcases keeps e (Or.inl old) notRouted notEvicted with inPending | inChannel
    · exact Multiset.disjoint_left.mp apart (Multiset.mem_add.mpr (Or.inr inPending)) inHand
    · exact Multiset.disjoint_left.mp apart (Multiset.mem_add.mpr (Or.inl inChannel)) inHand
  · intro usedUp e inside notRouted notEvicted
    obtain ⟨w₁, sameHeld, -, -, during⟩ := inCall.called
    have atCall : e ∈ w₁.held ∨ Event.accepted e ∈ t := by
      rw [sameHeld, held, Multiset.mem_add, Multiset.mem_add]
      rcases inside with inPending | inChannel | sent
      · exact Or.inl (Or.inl (Or.inr inPending))
      · exact Or.inl (Or.inl (Or.inl inChannel))
      · exact Or.inr sent
    have noIterator : w.control.rest = [] := by
      cases move_of_step dropped with
      | handles _ _ handle => simp at handle
      | @dropped loop suspended =>
          rcases suspended with ⟨resume, consuming⟩ | ⟨waiting, -⟩
          · rw [consuming]
            cases loop with
            | drainPending rest =>
                cases rest with
                | nil => rfl
                | cons x rest => exact absurd ⟨x, rest, resume, consuming⟩ usedUp
            | _ => rfl
          · rw [waiting]
            rfl
    have inside := kept_during during atCall notRouted notEvicted
    rw [held, noIterator, Multiset.coe_nil, add_zero, Multiset.mem_add] at inside
    exact inside.symm

/-! ## A `drain` dropped in the middle -/

/-- Two messages nobody wants, and then a consumer for both. -/
def lateListener : List (Action ℚ Unit BaseMessage String) :=
  [.send ⟨"radio"⟩ ping, .send ⟨"radio"⟩ ping, .drain, .advance, .advance,
    .takeEnvelope obliging, .takeEnvelope obliging,
    .advance, .registerConsumer "listener" []]

/-- `drain` applies no command, takes the pending queue, and suspends in `consume`. -/
def midDrain : List (Action ℚ Unit BaseMessage String) :=
  [.advance, .takeEnvelope obliging]

def atDrain : World ℚ Unit BaseMessage String := (outcome step (init 4 .affinity 8) lateListener).1

def suspended : World ℚ Unit BaseMessage String × List (Event BaseMessage) :=
  outcome step { atDrain with control := .running .drainCmds } midDrain

theorem midDrain_inCall : InCall 4 .affinity 8 .drain atDrain suspended.1 suspended.2 where
  isCall := Or.inl rfl
  reached := ⟨_, runs_outcome_any lateListener rfl⟩
  during := ⟨_, rfl, runs_outcome midDrain during?
    (fun _ _ _ passes => during_of_during? passes) rfl rfl⟩

theorem dropped_drain_loses :
    ∃ w' es, suspended.1.step .drop = some (w', es) ∧
      InCall 4 .affinity 8 .drain atDrain suspended.1 suspended.2 ∧
      (⟨⟨"radio"⟩, ⟨1, ping⟩⟩ : Parcel BaseMessage) ∈ atDrain.bus.pending ∧
      Event.routed ⟨⟨"radio"⟩, ⟨1, ping⟩⟩ ∉ suspended.2 ∧ Event.evicted ⟨⟨"radio"⟩, ⟨1, ping⟩⟩ ∉ suspended.2 ∧
      w'.bus.pending = [] ∧ w'.bus.rx.buf = [] :=
  ⟨_, _, rfl, midDrain_inCall, by decide +kernel, by decide +kernel, by decide +kernel, rfl, rfl⟩

theorem cancel_keeps_iff_midDrain :
    ¬ ∀ e, e ∈ atDrain.bus.pending ∨ e ∈ atDrain.bus.rx.buf ∨ Event.accepted e ∈ suspended.2 →
      Event.routed e ∉ suspended.2 → Event.evicted e ∉ suspended.2 →
        e ∈ suspended.1.bus.pending ∨ e ∈ suspended.1.bus.rx.buf :=
  fun keeps => (cancel_keeps_iff midDrain_inCall rfl).mp keeps ⟨_, _, _, rfl⟩

end World

end Jackfield
