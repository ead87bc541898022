/-
# Jackfield.Bus.Order -- in which order the bus holds and routes its envelopes

`line` are the envelopes inside the bus, the pending queue first, then what the
iterator of a running `drain` holds, then the channel.  Whatever happens, it is a part
of the accepted envelopes in the order of their sends (`held_in_order`): an eviction
drops the oldest envelope of all that are inside.

From the channel each envelope is taken once, in the order of the sends, so this is
the order of first routings: `first_come_first_routed`.  A later `drain` offers
what came back again, before anything that came in since; from one call of `drain` to
the next, then, envelopes are routed in the order of their sends, each at most once:
`sweep_in_order`.
-/
import Jackfield.Bus.Conservation
import Jackfield.Lib.Stamps

namespace Jackfield

set_option autoImplicit false

variable {F I M C : Type}

namespace Event

def routed? : Event M → Option (Parcel M)
  | .routed e => some e
  | _ => none

theorem mem_filterMap_routed {t : List (Event M)} {e : Parcel M} :
    e ∈ t.filterMap routed? ↔ routed e ∈ t := by
  apply mem_filterMap_iff
  intro event e
  cases event <;> simp [routed?]

end Event

/-- A `drain` that has not taken out the pending queue. -/
def Control.collecting : Control F I M C → Bool
  | .running .drainCmds => true
  | .consuming .drainCmds _ => true
  | _ => false

namespace World

open Machine Stamps

/-- The envelopes inside the bus, the oldest first. -/
def line (w : World F I M C) : List (Parcel M) := w.bus.pending ++ w.control.rest ++ w.bus.rx.buf

/-- Of these, what is routed before another `drain` is called. -/
def ahead (w : World F I M C) : List (Parcel M) :=
  (if w.control.collecting then w.bus.pending else w.control.rest) ++ w.bus.rx.buf

/-! ## One step -/

variable [F32 F]

/-- A step that routes `e`: the next one in line for it, from the iterator or from the
channel; it leaves the bus or goes to the back of the pending queue. -/
structure Routes (w w' : World F I M C) (es : List (Event M)) (e : Parcel M) : Prop where
  routed : es.filterMap Event.routed? = [e]
  accepted : es.filterMap Event.accepted? = []
  taken : w.control.rest = e :: w'.control.rest ∧ w'.bus.rx.buf = w.bus.rx.buf ∨
    w.control.rest = [] ∧ w'.control.rest = [] ∧ w.bus.rx.buf = e :: w'.bus.rx.buf
  past : w.control.collecting = false ∧ w'.control.collecting = false
  pending : w'.bus.pending = w.bus.pending ∨
    w'.bus.pending = EvictingQueue.push w.bus.maxPending w.bus.pending e

/-- A step that routes nothing: the queues stay but for a send, or the iterator takes
over the pending queue, or is dropped. -/
structure Rests (w w' : World F I M C) (a : Action F I M C) (es : List (Event M)) : Prop where
  routed : es.filterMap Event.routed? = []
  channel : w'.bus.rx.buf = w.bus.rx.buf ++ es.filterMap Event.accepted?
  queue : w'.bus.pending = w.bus.pending ∧ (w'.control.rest = w.control.rest ∨ w'.control.rest = []) ∧
        (w'.control.collecting = true → w.control.collecting = true ∨ a = .drain) ∨
      w.control.collecting = true ∧ w'.control.collecting = false ∧ w.control.rest = [] ∧
        w'.bus.pending = [] ∧ w'.control.rest = w.bus.pending

omit [F32 F] in
theorem past_of_next {w : World F I M C} {e : Parcel M} {bus : Bus F I (Stamped M) C} {loop : Loop M}
    (taken : w.next = some (e, bus, loop)) :
    w.control.collecting = false ∧ ∀ control : Control F I M C,
      (control = .running loop ∨ ∃ resume, control = .consuming loop resume) →
        control.collecting = false := by
  rcases next_cases taken with ⟨rest, running, rfl, -⟩ | ⟨rx, running, rfl | rfl, -, -⟩ <;>
    refine ⟨by rw [running]; rfl, ?_⟩ <;>
    rintro control (rfl | ⟨resume, rfl⟩) <;>
    rfl

omit [F32 F] in
theorem taken_of_next {w : World F I M C} {e : Parcel M} {bus : Bus F I (Stamped M) C} {loop : Loop M}
    (taken : w.next = some (e, bus, loop)) :
    w.control.rest = e :: loop.rest ∧ bus.rx.buf = w.bus.rx.buf ∨
      w.control.rest = [] ∧ loop.rest = [] ∧ w.bus.rx.buf = e :: bus.rx.buf := by
  rcases next_cases taken with ⟨rest, running, rfl, rfl⟩ | ⟨rx, running, loops, front, rfl⟩
  · left
    rw [running]
    exact ⟨rfl, rfl⟩
  · right
    rw [running]
    rcases loops with rfl | rfl <;> exact ⟨rfl, rfl, front⟩

/-- **A step routes the next envelope in line, or none.** -/
theorem Move.routes_or_rests {w w' : World F I M C} {a : Action F I M C} {es : List (Event M)}
    (move : Move w a w' es) : (∃ e, Routes w w' es e) ∨ Rests w w' a es := by
  cases move with
  | @handed consumer e bus loop entry resume taken member eligible shape =>
      obtain ⟨before, after⟩ := past_of_next taken
      have past := after (.consuming loop resume) (Or.inr ⟨resume, rfl⟩)
      exact Or.inl ⟨e, rfl, rfl, taken_of_next taken, ⟨before, past⟩, Or.inl (next_frame taken).2.2.2.1⟩
  | @returned consumer e bus loop registry taken shape nobody =>
      obtain ⟨-, -, -, samePending, sameMax⟩ := next_frame taken
      obtain ⟨before, after⟩ := past_of_next taken
      have past := after (.running loop) (Or.inl rfl)
      have front := taken_of_next taken
      refine Or.inl ⟨e, ?_, ?_, front, ⟨before, past⟩, Or.inr ?_⟩
      · rw [List.filterMap_cons_some (by rfl : Event.routed? (.routed e) = some e),
          Event.filterMap_map_none fun _ => rfl]
      · exact Event.filterMap_map_none (fun _ => rfl) _
      · rw [← samePending, ← sameMax]
        rfl
  | sent queued =>
      exact Or.inr ⟨rfl, queued, Or.inl ⟨rfl, Or.inl rfl, Or.inl⟩⟩
  | @commanded cmd cmdRx queued =>
      refine Or.inr ⟨by cases cmd <;> rfl, ?_, Or.inl ⟨rfl, Or.inl rfl, Or.inl⟩⟩
      cases cmd <;> exact (List.append_nil _).symm
  | handles same sameCmds handle =>
      exact Or.inr ⟨rfl, by rw [same]; exact (List.append_nil _).symm, Or.inl ⟨rfl, Or.inl rfl, Or.inl⟩⟩
  | drain idle => exact Or.inr ⟨rfl, (List.append_nil _).symm, Or.inl ⟨rfl, Or.inr rfl, fun _ => Or.inr rfl⟩⟩
  | tookPending running empty =>
      refine Or.inr ⟨rfl, (List.append_nil _).symm, Or.inr ⟨?_, rfl, ?_, rfl, rfl⟩⟩ <;> rw [running] <;> rfl
  | @resumed loop resume latency consuming =>
      refine Or.inr ⟨rfl, (List.append_nil _).symm, Or.inl ⟨rfl, Or.inl ?_, ?_⟩⟩
      · rw [consuming]
        rfl
      · intro collecting
        rw [consuming]
        cases loop <;> first | exact Or.inl rfl | cases collecting
  | @dropped loop suspended =>
      refine Or.inr ⟨Event.filterMap_map_none (fun _ => rfl) _, ?_, Or.inl ⟨rfl, Or.inr rfl, by simp [Control.collecting]⟩⟩
      rw [Event.filterMap_map_none fun _ => rfl]
      exact (List.append_nil _).symm
  | pendingDone running =>
      exact Or.inr ⟨rfl, (List.append_nil _).symm, Or.inl ⟨rfl, Or.inr rfl, by simp [Control.collecting]⟩⟩
  | dispatch idle =>
      exact Or.inr ⟨rfl, (List.append_nil _).symm, Or.inl ⟨rfl, Or.inr rfl, by simp [Control.collecting]⟩⟩
  | finished running done =>
      exact Or.inr ⟨rfl, (List.append_nil _).symm, Or.inl ⟨rfl, Or.inr rfl, by simp [Control.collecting]⟩⟩
  | _ => exact Or.inr ⟨rfl, (List.append_nil _).symm, Or.inl ⟨rfl, Or.inl rfl, Or.inl⟩⟩

omit [F32 F] in
theorem Routes.line_sublist {w w' : World F I M C} {es : List (Event M)} {e : Parcel M}
    (routes : Routes w w' es e) : List.Sublist w'.line w.line := by
  have queue : List.Sublist w'.bus.pending (w.bus.pending ++ [e]) := by
    rcases routes.pending with same | pushed
    · rw [same]
      exact List.sublist_append_left _ _
    · rw [pushed]
      exact EvictingQueue.push_sublist _ _ _
  rcases routes.taken with ⟨iterator, channel⟩ | ⟨before, after, channel⟩
  · rw [line, line, iterator, channel, List.append_cons]
    exact (queue.append_right _).append_right _
  · rw [line, line, before, after, channel, List.append_nil, List.append_nil, List.append_cons]
    exact queue.append_right _

omit [F32 F] in
theorem Rests.line_sublist {w w' : World F I M C} {a : Action F I M C} {es : List (Event M)}
    (rests : Rests w w' a es) : List.Sublist w'.line (w.line ++ es.filterMap Event.accepted?) := by
  rw [line, line, rests.channel, ← List.append_assoc]
  apply List.Sublist.append_right
  apply List.Sublist.append_right
  rcases rests.queue with ⟨same, kept | gone, -⟩ | ⟨-, -, none, empty, takenOver⟩
  · rw [same, kept]
  · rw [same, gone, List.append_nil]
    exact List.sublist_append_left _ _
  · rw [none, empty, takenOver, List.append_nil]
    exact .refl _

/-- **No step changes the order**: a send goes to the end of the line. -/
theorem Move.line_sublist {w w' : World F I M C} {a : Action F I M C} {es : List (Event M)}
    (move : Move w a w' es) : List.Sublist w'.line (w.line ++ es.filterMap Event.accepted?) := by
  rcases move.routes_or_rests with ⟨e, routes⟩ | rests
  · rw [routes.accepted, List.append_nil]
    exact routes.line_sublist
  · exact rests.line_sublist

omit [F32 F] in
theorem ahead_sublist_line (w : World F I M C) : List.Sublist w.ahead w.line := by
  apply List.Sublist.append_right
  split
  · exact List.sublist_append_left _ _
  · exact List.sublist_append_right _ _

omit [F32 F] in
theorem rest_sublist_ahead (w : World F I M C) :
    List.Sublist w.control.rest (if w.control.collecting then w.bus.pending else w.control.rest) := by
  split
  · rename_i collecting
    have none : w.control.rest = [] := by
      unfold Control.collecting at collecting
      split at collecting
      · rename_i running
        rw [running]
        rfl
      · rename_i consuming
        rw [consuming]
        rfl
      · cases collecting
    rw [none]
    exact List.nil_sublist _
  · exact .refl _

/-- What a step routes it takes from the front of what is ahead. -/
theorem Move.ahead_sublist {w w' : World F I M C} {a : Action F I M C} {es : List (Event M)}
    (move : Move w a w' es) (noDrain : a ≠ .drain) :
    List.Sublist (es.filterMap Event.routed? ++ w'.ahead) (w.ahead ++ es.filterMap Event.accepted?) := by
  rcases move.routes_or_rests with ⟨e, routes⟩ | rests
  · have front : w.ahead = e :: w'.ahead := by
      obtain ⟨before, after⟩ := routes.past
      rw [ahead, ahead, before, after]
      rcases routes.taken with ⟨iterator, channel⟩ | ⟨none, none', channel⟩
      · rw [if_neg (by simp), if_neg (by simp), iterator, channel]
        rfl
      · rw [if_neg (by simp), if_neg (by simp), none, none', channel]
        rfl
    rw [routes.routed, routes.accepted, front, List.append_nil]
    exact .refl _
  · rw [rests.routed, List.nil_append, ahead, ahead, rests.channel, ← List.append_assoc]
    apply List.Sublist.append_right
    apply List.Sublist.append_right
    rcases rests.queue with ⟨same, iterator, stays⟩ | ⟨collecting, past, -, -, takenOver⟩
    · by_cases collecting : w'.control.collecting
      · rw [if_pos collecting, if_pos ((stays collecting).resolve_right noDrain), same]
      · rw [if_neg collecting]
        apply List.Sublist.trans _ (rest_sublist_ahead w)
        rcases iterator with kept | gone
        · rw [kept]
        · rw [gone]
          exact List.nil_sublist _
    · rw [if_pos collecting, if_neg (by simp [past]), takenOver]

/-- What is handed over is what was routed, less what came back. -/
theorem Move.handed_sublist {w w' : World F I M C} {a : Action F I M C} {es : List (Event M)}
    (move : Move w a w' es) :
    List.Sublist ((es.filterMap Event.handed?).map Prod.snd) (es.filterMap Event.routed?) := by
  cases move with
  | handed taken member eligible shape => exact .refl _
  | @commanded cmd cmdRx queued => cases cmd <;> exact List.nil_sublist _
  | returned taken shape nobody =>
      rw [List.filterMap_cons_none (by rfl), Event.filterMap_map_none fun _ => rfl]
      exact List.nil_sublist _
  | dropped suspended =>
      rw [Event.filterMap_map_none fun _ => rfl]
      exact List.nil_sublist _
  | _ => exact List.nil_sublist _

/-! ## Whole runs -/

variable [Message M] {capacity cap : Nat} {router : Router}
  {ok ok' : World F I M C → List (Event M) → Action F I M C → Prop} {w w₀ : World F I M C} {t t₀ : List (Event M)}

/-- In the line, and so in the bus, envelopes stand in the order of their sends. -/
theorem line_in_order (runs : Runs step ok (init capacity router cap) w t) :
    List.Sublist w.line (t.filterMap Event.accepted?) := by
  apply runs.invariant (P := fun w t => List.Sublist w.line (t.filterMap Event.accepted?))
  · exact .refl _
  · intro w t a w' es ih _ stepped
    rw [List.filterMap_append]
    exact (move_of_step stepped).line_sublist.trans (ih.append_right _)

/-- Accepted envelopes bear increasing serial numbers. -/
theorem accepted_increasing (runs : Runs step ok (init capacity router cap) w t) :
    Increasing Envelope.serial (t.filterMap Event.accepted?) :=
  increasing_of_range (conserved runs).2

/-- **The bus keeps the order of the sends.**  In every state of every interleaving,
the pending queue, the iterator of a running `drain` and the channel hold together,
in this order, a part of the accepted envelopes in the order they were accepted in; so
`push_pending` only ever evicts an envelope older than everything else in the bus. -/
theorem held_in_order (runs : Runs step anyStep (init capacity router cap) w t) :
    List.Sublist (w.bus.pending ++ w.control.rest ++ w.bus.rx.buf) (t.filterMap Event.accepted?) ∧
      ∀ a w' es, w.step a = some (w', es) → ∀ e, Event.evicted e ∈ es →
        ∀ x ∈ w.bus.pending ++ w.control.rest ++ w.bus.rx.buf, x = e ∨ e.serial < x.serial := by
  have inLine := line_in_order runs
  refine ⟨inLine, ?_⟩
  intro a w' es stepped e evicted x member
  obtain ⟨-, front, -⟩ := (move_of_step stepped).evicts (Event.mem_filterMap_evicted.mpr evicted)
  obtain ⟨rest, queue⟩ := List.head?_eq_some_iff.mp front
  have increasing : Increasing Envelope.serial (w.bus.pending ++ w.control.rest ++ w.bus.rx.buf) :=
    (accepted_increasing runs).sublist inLine
  rw [queue] at increasing member
  rcases List.mem_cons.mp member with same | behind
  · exact Or.inl same
  · exact Or.inr ((List.pairwise_cons.mp increasing).1 x behind)

/-- Two messages nobody wants, where one can wait. -/
def crowding : List (Action ℚ Unit BaseMessage String) :=
  [.send ⟨"radio"⟩ ping, .send ⟨"radio"⟩ ping, .dispatch, .takeEnvelope obliging]

def crowded : World ℚ Unit BaseMessage String × List (Event BaseMessage) :=
  outcome step (init 4 .affinity 1) crowding

theorem held_in_order_crowded :
    (crowded.1.bus.pending ++ crowded.1.control.rest ++ crowded.1.bus.rx.buf).map Envelope.serial = [0, 1] ∧
      ∀ x ∈ crowded.1.bus.pending ++ crowded.1.control.rest ++ crowded.1.bus.rx.buf, x = ⟨⟨"radio"⟩, ⟨0, ping⟩⟩ ∨
        0 < x.serial := by
  have runs : Runs step anyStep (init 4 .affinity 1) crowded.1 crowded.2 :=
    runs_outcome_any crowding (by decide +kernel)
  have evicts : crowded.1.step (.takeEnvelope obliging) = some (_,
      [.routed ⟨⟨"radio"⟩, ⟨1, ping⟩⟩, .evicted ⟨⟨"radio"⟩, ⟨0, ping⟩⟩]) := rfl
  exact ⟨by decide +kernel, (held_in_order runs).2 _ _ _ evicts _ (by simp)⟩

/-- What has been routed, by the time of first routings. -/
structure FirstRouted (w : World F I M C) (t : List (Event M)) : Prop where
  inTurn : ((t.filterMap Event.routed?).map Envelope.serial).eraseDups ++ w.bus.rx.buf.map Envelope.serial =
    (t.filterMap Event.accepted?).map Envelope.serial
  again : ∀ e, e ∈ w.bus.pending ∨ e ∈ w.control.rest → Event.routed e ∈ t
  genuine : ∀ e, Event.routed e ∈ t → Event.accepted e ∈ t

omit [F32 F] [Message M] in
theorem Routes.mem_line {w w' : World F I M C} {es : List (Event M)} {e : Parcel M}
    (routes : Routes w w' es e) : e ∈ w.line := by
  rw [line, List.mem_append, List.mem_append]
  rcases routes.taken with ⟨iterator, -⟩ | ⟨-, -, channel⟩
  · rw [iterator]
    exact Or.inl (Or.inr (List.mem_cons_self ..))
  · rw [channel]
    exact Or.inr (List.mem_cons_self ..)

omit [F32 F] [Message M] in
/-- An envelope from the iterator was routed before; one from the channel was not. -/
theorem FirstRouted.routes {w w' : World F I M C} {t es : List (Event M)} {e : Parcel M}
    (first : FirstRouted w t) (distinct : ((t.filterMap Event.accepted?).map Envelope.serial).Nodup)
    (inLine : List.Sublist w.line (t.filterMap Event.accepted?)) (routes : Routes w w' es e) :
    FirstRouted w' (t ++ es) where
  inTurn := by
    rw [List.filterMap_append, List.filterMap_append, routes.routed, routes.accepted, List.append_nil,
      List.map_append, List.map_singleton, ← first.inTurn]
    rcases routes.taken with ⟨iterator, channel⟩ | ⟨-, -, channel⟩
    · have before : Event.routed e ∈ t := first.again e (Or.inr (by rw [iterator]; exact List.mem_cons_self ..))
      rw [eraseDups_concat_seen (List.mem_map_of_mem (Event.mem_filterMap_routed.mpr before)), channel]
    · have inTurn := first.inTurn
      rw [channel, List.map_cons] at inTurn
      have new : e.serial ∉ (t.filterMap Event.routed?).map Envelope.serial := by
        intro seen
        rw [← inTurn, List.nodup_append] at distinct
        exact distinct.2.2 _ (List.mem_eraseDups.mpr seen) _ (List.mem_cons_self ..) rfl
      rw [eraseDups_concat_new new, channel, List.map_cons, List.append_assoc, List.singleton_append]
  again := by
    intro x inside
    rw [List.mem_append]
    have now : Event.routed e ∈ es := by
      rw [← Event.mem_filterMap_routed, routes.routed]
      exact List.mem_singleton.mpr rfl
    rcases inside with inPending | inHand
    · rcases routes.pending with same | pushed
      · exact Or.inl (first.again x (Or.inl (same ▸ inPending)))
      · rcases EvictingQueue.mem_of_mem_push (pushed ▸ inPending) with old | rfl
        · exact Or.inl (first.again x (Or.inl old))
        · exact Or.inr now
    · rcases routes.taken with ⟨iterator, -⟩ | ⟨-, none, -⟩
      · exact Or.inl (first.again x (Or.inr (iterator ▸ List.mem_cons_of_mem _ inHand)))
      · rw [none] at inHand
        cases inHand
  genuine := by
    intro x routed
    rw [List.mem_append] at routed ⊢
    rcases routed with earlier | now
    · exact Or.inl (first.genuine x earlier)
    · rw [← Event.mem_filterMap_routed, routes.routed] at now
      rw [List.mem_singleton.mp now]
      exact Or.inl (Event.mem_filterMap_accepted.mp (inLine.subset routes.mem_line))

omit [F32 F] [Message M] in
theorem FirstRouted.rests {w w' : World F I M C} {t es : List (Event M)} {a : Action F I M C}
    (first : FirstRouted w t) (rests : Rests w w' a es) : FirstRouted w' (t ++ es) where
  inTurn := by
    rw [List.filterMap_append, List.filterMap_append, rests.routed, List.append_nil, rests.channel,
      List.map_append, List.map_append, ← List.append_assoc, first.inTurn]
  again := by
    intro x inside
    rw [List.mem_append]
    left
    rcases rests.queue with ⟨same, kept | gone, -⟩ | ⟨-, -, -, empty, takenOver⟩
    · exact first.again x (by rw [same, kept] at inside; exact inside)
    · rw [same, gone] at inside
      exact first.again x (Or.inl (inside.resolve_right (by simp)))
    · rw [empty, takenOver] at inside
      exact first.again x (Or.inl (inside.resolve_left (by simp)))
  genuine := by
    intro x routed
    rw [List.mem_append] at routed ⊢
    rcases routed with earlier | now
    · exact Or.inl (first.genuine x earlier)
    · rw [← Event.mem_filterMap_routed, rests.routed] at now
      cases now

theorem firstRouted (runs : Runs step ok (init capacity router cap) w t) : FirstRouted w t := by
  apply runs.invariant_reached
  · exact ⟨rfl, by rintro e (inPending | inHand) <;> contradiction, by simp⟩
  · intro w t a w' es before ih _ stepped
    rcases (move_of_step stepped).routes_or_rests with ⟨e, routes⟩ | rests
    · have distinct : ((t.filterMap Event.accepted?).map Envelope.serial).Nodup :=
        (conserved before).2 ▸ List.nodup_range
      exact ih.routes distinct (line_in_order before) routes
    · exact ih.rests rests

/-- **First come, first routed.**  In every interleaving, with any cancellations: the
envelopes routed so far, taken by their first routings, and after them those in the
channel, are exactly the accepted ones in the order they were accepted in.  So no send
is overtaken on its way to the router, and none is passed over. -/
theorem first_come_first_routed (runs : Runs step anyStep (init capacity router cap) w t) :
    ((t.filterMap Event.routed?).map Envelope.serial).eraseDups ++ w.bus.rx.buf.map Envelope.serial =
        (t.filterMap Event.accepted?).map Envelope.serial ∧
      ∀ e, Event.routed e ∈ t → Event.accepted e ∈ t :=
  ⟨(firstRouted runs).inTurn, (firstRouted runs).genuine⟩

/-- A message that comes back is routed a second time before the next one is routed at all. -/
def comingBack : List (Action ℚ Unit BaseMessage String) :=
  [.send ⟨"radio"⟩ ping, .send ⟨"radio"⟩ ping, .send ⟨"radio"⟩ ping, .dispatch, .takeEnvelope obliging, .drop,
    .drain, .advance, .takeEnvelope obliging, .advance, .takeEnvelope obliging]

def cameBack : World ℚ Unit BaseMessage String × List (Event BaseMessage) :=
  outcome step (init 4 .affinity 8) comingBack

theorem first_come_first_routed_cameBack :
    (cameBack.2.filterMap Event.routed?).map Envelope.serial = [0, 0, 1] ∧
      ((cameBack.2.filterMap Event.routed?).map Envelope.serial).eraseDups ++
          cameBack.1.bus.rx.buf.map Envelope.serial = [0, 1, 2] := by
  have runs : Runs step anyStep (init 4 .affinity 8) cameBack.1 cameBack.2 :=
    runs_outcome_any comingBack (by decide +kernel)
  exact ⟨by decide +kernel, (first_come_first_routed runs).1.trans (by decide +kernel)⟩

/-! ## From one `drain` to the next -/

/-- No `drain` is called. -/
def NoDrain (_ : World F I M C) (_ : List (Event M)) (a : Action F I M C) : Prop := a ≠ .drain

theorem routed_ahead (part : Runs step NoDrain w₀ w t) :
    List.Sublist (t.filterMap Event.routed? ++ w.ahead) (w₀.ahead ++ t.filterMap Event.accepted?) := by
  apply part.invariant (P := fun w t =>
    List.Sublist (t.filterMap Event.routed? ++ w.ahead) (w₀.ahead ++ t.filterMap Event.accepted?))
  · rw [List.filterMap_nil, List.filterMap_nil, List.append_nil]
    exact .refl _
  · intro w t a w' es ih noDrain stepped
    rw [List.filterMap_append, List.filterMap_append, List.append_assoc]
    apply ((List.Sublist.refl _).append ((move_of_step stepped).ahead_sublist noDrain)).trans
    rw [← List.append_assoc, ← List.append_assoc]
    exact ih.append_right _

theorem routed_in_order (runs : Runs step ok (init capacity router cap) w₀ t₀) (part : Runs step NoDrain w₀ w t) :
    List.Sublist (t.filterMap Event.routed?) ((t₀ ++ t).filterMap Event.accepted?) := by
  rw [List.filterMap_append]
  apply (List.sublist_append_left _ _).trans ((routed_ahead part).trans _)
  exact ((ahead_sublist_line w₀).trans (line_in_order runs)).append_right _

theorem handed_routed (part : Runs step ok' w₀ w t) :
    List.Sublist ((t.filterMap Event.handed?).map Prod.snd) (t.filterMap Event.routed?) := by
  apply part.invariant (P := fun _ t =>
    List.Sublist ((t.filterMap Event.handed?).map Prod.snd) (t.filterMap Event.routed?))
  · exact .refl _
  · intro w t a w' es ih _ stepped
    rw [List.filterMap_append, List.map_append, List.filterMap_append]
    exact ih.append (move_of_step stepped).handed_sublist

/-- **One sweep keeps the order of the sends.**  From any reachable state, and so from a
call of `drain`, on to the next call of `drain`, with sends, commands, any number of
`dispatch` calls and any cancellations in between: the envelopes routed are a part of
those accepted, in the order they were accepted in; none of them is routed twice; and
the consumers are handed a part of these, in this order. -/
theorem sweep_in_order (runs : Runs step anyStep (init capacity router cap) w₀ t₀)
    (part : Runs step NoDrain w₀ w t) :
    List.Sublist (t.filterMap Event.routed?) ((t₀ ++ t).filterMap Event.accepted?) ∧
      ((t.filterMap Event.routed?).map Envelope.serial).Nodup ∧
      List.Sublist ((t.filterMap Event.handed?).map Prod.snd) (t.filterMap Event.routed?) := by
  have routed := routed_in_order runs part
  refine ⟨routed, ?_, handed_routed part⟩
  have whole : Runs step anyStep (init capacity router cap) w (t₀ ++ t) :=
    runs.append (fun _ _ _ _ => trivial) part
  apply List.Nodup.sublist (routed.map _)
  rw [(conserved whole).2]
  exact List.nodup_range

/-- Two messages nobody wants; a consumer for both; the `drain` that hands them over, and
one more message meanwhile. -/
def firstLot : List (Action ℚ Unit BaseMessage String) :=
  [.send ⟨"radio"⟩ ping, .send ⟨"radio"⟩ ping, .dispatch, .takeEnvelope obliging, .takeEnvelope obliging, .drop,
    .registerConsumer "listener" [], .drain]

def secondLot : List (Action ℚ Unit BaseMessage String) :=
  [.send ⟨"radio"⟩ ping, .advance, .takeEnvelope obliging, .resume 0, .takeEnvelope obliging, .resume 0,
    .advance, .takeEnvelope obliging]

def atFirst : World ℚ Unit BaseMessage String × List (Event BaseMessage) :=
  outcome step (init 4 .affinity 8) firstLot

def atSecond : World ℚ Unit BaseMessage String × List (Event BaseMessage) :=
  outcome step atFirst.1 secondLot

theorem sweep_in_order_secondLot :
    (atSecond.2.filterMap Event.routed?).map Envelope.serial = [0, 1, 2] ∧
      List.Sublist (atSecond.2.filterMap Event.routed?)
        ((atFirst.2 ++ atSecond.2).filterMap Event.accepted?) := by
  have before : Runs step anyStep (init 4 .affinity 8) atFirst.1 atFirst.2 :=
    runs_outcome_any firstLot (by decide +kernel)
  have after : Runs step NoDrain atFirst.1 atSecond.1 atSecond.2 := by
    apply runs_outcome secondLot (fun _ _ a => match a with | .drain => false | _ => true)
    · rintro w t a notDrain rfl
      cases notDrain
    · decide +kernel
    · decide +kernel
  exact ⟨by decide +kernel, (sweep_in_order before after).1⟩

end World

end Jackfield
