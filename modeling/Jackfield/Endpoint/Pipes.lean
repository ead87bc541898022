/-
# Jackfield.Endpoint.Pipes -- a channel consumer's channel is first in, first out

What a receiver has received, followed by what its channel still holds, is in order what
the sends that ended have put there (`Piped`).  While the receiver is there these are all
of them; once it is gone it does not come back, since no two channels have one number
(`Fresh`), so the sends that fail come after all those that succeeded.

A send can also be withdrawn, with a call of `drain` or `dispatch` that is dropped while it
is suspended in `consume`.  What is received of a channel is always in the order in which
its consumer was handed it, and without gaps unless a send was withdrawn
(`received_of_handed`).
-/
import Jackfield.Endpoint.Delivery

namespace Jackfield

set_option autoImplicit false

variable {F I M L : Type}

open Machine

/-! ## Reading a trace -/

/-- The item, if it is one of channel `r`. -/
def onChannel (r : Nat) (send : Nat × BusableItem) : Option BusableItem :=
  if send.1 = r then some send.2 else none

@[simp] theorem onChannel_self (r : Nat) (item : BusableItem) : onChannel r (r, item) = some item := if_pos rfl

theorem onChannel_of_ne {r r' : Nat} (other : r' ≠ r) (item : BusableItem) : onChannel r (r', item) = none :=
  if_neg other

namespace RelayEvent

/-- A send ended, and `consume` with it. -/
def ended? : RelayEvent M → Option (Nat × BusableItem)
  | .delivered r item => some (r, item)
  | .refused r item => some (r, item)
  | _ => none

def received? : RelayEvent M → Option (Nat × BusableItem)
  | .received r item => some (r, item)
  | _ => none

/-- What happened to the items of channel `r`. -/
def itemsOn (r : Nat) (read : RelayEvent M → Option (Nat × BusableItem)) (t : List (RelayEvent M)) :
    List BusableItem :=
  (t.filterMap read).filterMap (onChannel r)

@[simp] theorem itemsOn_nil (r : Nat) (read : RelayEvent M → Option (Nat × BusableItem)) :
    itemsOn r read [] = [] := rfl

@[simp] theorem itemsOn_append (r : Nat) (read : RelayEvent M → Option (Nat × BusableItem))
    (t es : List (RelayEvent M)) : itemsOn r read (t ++ es) = itemsOn r read t ++ itemsOn r read es := by
  simp only [itemsOn, List.filterMap_append]

/-- What the bus does is not about an item. -/
theorem itemsOn_bus (r : Nat) {read : RelayEvent M → Option (Nat × BusableItem)} (apart : ∀ e, read (.bus e) = none)
    (es : List (Event M)) : itemsOn r read (es.map .bus) = [] := by
  have nothing : (es.map RelayEvent.bus).filterMap read = [] := by
    rw [List.filterMap_map]
    exact List.filterMap_eq_nil_iff.mpr fun e _ => apart e
  rw [itemsOn, nothing]
  rfl

theorem itemsOn_singleton_self (r : Nat) {read : RelayEvent M → Option (Nat × BusableItem)} {e : RelayEvent M}
    {item : BusableItem} (reads : read e = some (r, item)) : itemsOn r read [e] = [item] := by
  simp [itemsOn, reads]

theorem itemsOn_singleton_of_ne {r r' : Nat} {read : RelayEvent M → Option (Nat × BusableItem)}
    {e : RelayEvent M} {item : BusableItem} (reads : read e = some (r', item)) (other : r' ≠ r) :
    itemsOn r read [e] = [] := by
  simp [itemsOn, reads, onChannel_of_ne other]

/-- The sends that ended are those settled without having been withdrawn. -/
theorem ended_sublist (r : Nat) (t : List (RelayEvent M)) :
    List.Sublist (itemsOn r ended? t) (itemsOn r settled? t) := by
  apply List.Sublist.filterMap
  induction t with
  | nil => exact .refl _
  | cons e rest ih =>
      cases e with
      | delivered r' item => exact ih.cons_cons _
      | refused r' item => exact ih.cons_cons _
      | withdrawn r' item => exact ih.cons _
      | _ => exact ih

theorem ended_eq_settled {r : Nat} {t : List (RelayEvent M)} (kept : ∀ item, .withdrawn r item ∉ t) :
    itemsOn r ended? t = itemsOn r settled? t := by
  induction t with
  | nil => rfl
  | cons e rest ih =>
      have same := ih fun item inRest => kept item (List.mem_cons_of_mem _ inRest)
      rw [← List.singleton_append, itemsOn_append, itemsOn_append, same]
      congr 1
      cases e with
      | withdrawn r' item =>
          have other : r' ≠ r := by
            rintro rfl
            exact kept item (List.mem_cons_self ..)
          have reads : settled? (.withdrawn r' item : RelayEvent M) = some (r', item) := rfl
          rw [itemsOn_singleton_of_ne reads other]
          rfl
      | _ => rfl

/-- The messages with which `consume` of channel consumer `r` was called: those handed over
right before it began its send. -/
def handedTo (r : Nat) : List (RelayEvent M) → List (Stamped M)
  | .bus (.handed _ e) :: .offered r' _ :: t => if r' = r then e.message :: handedTo r t else handedTo r t
  | _ :: t => handedTo r t
  | [] => []

/-- Traces can be read step by step, if no step begins with a send. -/
theorem handedTo_append (r : Nat) (t : List (RelayEvent M)) {es : List (RelayEvent M)}
    (apart : ∀ r' item rest, es ≠ .offered r' item :: rest) :
    handedTo r (t ++ es) = handedTo r t ++ handedTo r es := by
  fun_induction handedTo r t with
  | case1 id e item t ih => simp [handedTo, ih]
  | case2 id e r' item t other ih => simp [handedTo, ih, other]
  | case3 first t notHanded ih =>
      rw [List.cons_append, ← ih]
      apply handedTo.eq_2
      rintro id e r' item rest isFirst isRest
      cases t with
      | nil => exact apart r' item rest isRest
      | cons second others =>
          cases isRest
          exact notHanded id e r' item others isFirst rfl
  | case4 => rfl

end RelayEvent

namespace Relay

open RelayEvent (itemsOn ended? received? settled? offered? handedTo)

variable [F32 F] [Message M] {s s' : Relay F I M L} {a : RelayAction F I M L} {t es : List (RelayEvent M)}

omit [F32 F] [Message M] in
/-- A step aside tells of no item, but for one that is withdrawn. -/
theorem itemsOn_after (r : Nat) {read : RelayEvent M → Option (Nat × BusableItem)} (desk : Desk F I M (Plug L))
    (below : List (Event M)) (apart : ∀ e, read (.bus e) = none) (kept : ∀ r item, read (.withdrawn r item) = none) :
    itemsOn r read (s.after desk below).2 = [] := by
  unfold after
  split
  · exact RelayEvent.itemsOn_bus r apart below
  · rw [RelayEvent.itemsOn_append, RelayEvent.itemsOn_bus r apart below]
    cases s.inFlight with
    | none => rfl
    | some send => simp [itemsOn, kept]

/-! ## What the bus hands over -/

/-- No step begins with a send. -/
theorem Move.apart (move : Move s a s' es) (r : Nat) (item : BusableItem) (rest : List (RelayEvent M)) :
    es ≠ .offered r item :: rest := by
  intro begins
  have afterBus : ∀ {below : List (Event M)} {other : List (RelayEvent M)},
      below.map .bus ++ other = .offered r item :: rest → below = [] ∧ other = .offered r item :: rest := by
    intro below other same
    cases below with
    | nil => exact ⟨rfl, same⟩
    | cons e below => cases same
  cases move with
  | routed stepped begun =>
      obtain ⟨rfl, isSend⟩ := afterBus begins
      obtain ⟨-, taken, -, -⟩ := Desk.world_step stepped
      rcases World.takeEnvelope_cases taken with ⟨entry, e, bus, loop, resume, -, -, none, -⟩ | ⟨nobody, -⟩
      · cases none
      · rw [begun, nobody] at isSend
        cases isSend
  | resumed elsewhere stepped =>
      rw [← List.append_nil (List.map _ _)] at begins
      cases (afterBus begins).2
  | delivered sending live sent stepped => cases (afterBus begins).2
  | refused sending gone stepped => cases (afterBus begins).2
  | @aside a desk es isAside stepped =>
      unfold after at begins
      split at begins
      · rw [← List.append_nil (List.map _ _)] at begins
        cases (afterBus begins).2
      · have isSend := (afterBus begins).2
        cases sending : s.inFlight with
        | none => simp [sending] at isSend
        | some send => simp [sending] at isSend
  | _ => cases begins

/-- A step hands over just what it offers. -/
theorem Move.handed (move : Move s a s' es) (r : Nat) :
    itemsOn r offered? es = (handedTo r es).map .ofMessage := by
  -- the bus tells of hand-overs, but only a send that begins makes one the channel's
  have silent : ∀ (below : List (Event M)) {other : List (RelayEvent M)}, itemsOn r offered? other = [] →
      handedTo r other = [] → (∀ r' item rest, other ≠ .offered r' item :: rest) →
      itemsOn r offered? (below.map .bus ++ other) = (handedTo r (below.map .bus ++ other)).map .ofMessage := by
    intro below other none nothing apart
    have quiet : handedTo r (below.map .bus ++ other) = [] := by
      induction below with
      | nil => exact nothing
      | cons e rest ih =>
          rw [List.map_cons, List.cons_append, RelayEvent.handedTo.eq_2, ih]
          rintro id e r' item others - isRest
          cases rest with
          | nil => exact apart r' item others isRest
          | cons e' rest => cases isRest
    rw [RelayEvent.itemsOn_append, RelayEvent.itemsOn_bus r (fun _ => rfl), none, quiet]
    rfl
  have busOnly : ∀ below : List (Event M),
      itemsOn r offered? (below.map .bus) = (handedTo r (below.map .bus)).map .ofMessage := by
    intro below
    have only := silent below (RelayEvent.itemsOn_nil r _) rfl (by simp)
    rwa [List.append_nil] at only
  cases move with
  | @routed consumer desk send es stepped begun =>
      obtain ⟨-, taken, -, -⟩ := Desk.world_step stepped
      rcases World.takeEnvelope_cases taken with
        ⟨entry, e, bus, loop, resume, -, who, rfl, -⟩ | ⟨nobody, -⟩
      · cases isSend : send with
        | none => exact silent _ rfl rfl (by simp)
        | some send =>
            obtain ⟨r', item⟩ := send
            obtain ⟨entry', e', same, -, rfl⟩ := sendOf_eq_some (begun.symm.trans isSend)
            cases who.symm.trans same
            rw [RelayEvent.itemsOn_append, RelayEvent.itemsOn_bus r (fun _ => rfl), List.nil_append]
            have reads : offered? (.offered r' (.ofMessage e.message) : RelayEvent M) =
              some (r', .ofMessage e.message) := rfl
            by_cases own : r' = r
            · rw [own] at reads ⊢
              refine (RelayEvent.itemsOn_singleton_self r reads).trans ?_
              simp [handedTo]
            · refine (RelayEvent.itemsOn_singleton_of_ne reads own).trans ?_
              simp [handedTo, own]
      · rw [begun, nobody]
        exact silent _ rfl rfl (by simp [sendOf])
  | resumed elsewhere stepped => exact busOnly _
  | delivered sending live sent stepped => exact silent _ rfl rfl (by simp)
  | refused sending gone stepped => exact silent _ rfl rfl (by simp)
  | @aside a desk es isAside stepped =>
      unfold after
      split
      · exact busOnly _
      · cases s.inFlight with
        | none => exact silent _ rfl rfl (by simp)
        | some send => exact silent _ rfl rfl (by simp)
  | _ => rfl

/-! ## First in, first out -/

/-- What was received from a channel, and what it holds behind that, are the sends that ended. -/
def Piped (s : Relay F I M L) (t : List (RelayEvent M)) (r : Nat) : Prop :=
  Channel.Fifo (s.pipes r).live (itemsOn r received? t) (s.pipes r).items.buf (itemsOn r ended? t)

/-- Only the receiver of a channel receives from it. -/
theorem Move.receive_of_received (move : Move s a s' es) {r : Nat} {item : BusableItem}
    (received : RelayEvent.received r item ∈ es) : a = .receive r := by
  cases move with
  | received live front =>
      cases List.mem_singleton.mp received
      rfl
  | @routed consumer desk send es stepped begun => cases send <;> simp at received
  | @aside a desk es isAside stepped =>
      unfold after at received
      split at received <;> simp at received
  | _ => simp at received

/-- A number that no call has had is that of no channel. -/
def Fresh (s : Relay F I M L) (t : List (RelayEvent M)) : Prop :=
  ∀ r, s.desk.calls r = .unused → (s.pipes r).live = false ∧ itemsOn r offered? t = []

theorem Move.live_cases (move : Move s a s' es) {r : Nat} (live : (s'.pipes r).live = true) :
    (s.pipes r).live = true ∨ ∃ dims, a = .plugIn r dims := by
  cases move with
  | @pluggedIn r' dims fresh =>
      by_cases same : r = r'
      · exact Or.inr ⟨dims, by rw [same]⟩
      · exact Or.inl (by simpa [same] using live)
  | @received r' item items wasLive front =>
      by_cases same : r = r'
      · exact Or.inl (same ▸ wasLive)
      · exact Or.inl (by simpa [same] using live)
  | @unplugged r' wasLive =>
      by_cases same : r = r'
      · exact Or.inl (same ▸ wasLive)
      · exact Or.inl (by simpa [same] using live)
  | @delivered latency r' item items desk es sending wasLive sent stepped =>
      by_cases same : r = r'
      · exact Or.inl (same ▸ wasLive)
      · exact Or.inl (by simpa [same] using live)
  | @aside a desk es isAside stepped =>
      rw [(after_desk s desk es).2] at live
      exact Or.inl live
  | _ => exact Or.inl live

/-- A number that no call has had after a step had none before, and the step gives it to no channel. -/
theorem Move.unused_before (move : Move s a s' es) {r : Nat} (unused : s'.desk.calls r = .unused) :
    s.desk.calls r = .unused ∧ ∀ dims, a ≠ .plugIn r dims := by
  constructor
  · rcases move.desk_cases with same | ⟨b, below, stepped, -⟩
    · rwa [same] at unused
    · rcases (Desk.move_of_step stepped).call_cases r with same | ⟨consumer, dims, -, -, now⟩ | ⟨-, -, now⟩ |
        ⟨id, -, -, now⟩ | ⟨-, -, now⟩ | ⟨-, -, now⟩ | ⟨id, -, -, now⟩
      · exact same.symm.trans unused
      all_goals cases now.symm.trans unused
  · rintro dims rfl
    cases move with
    | pluggedIn fresh => simp at unused

variable {ok : Relay F I M L → List (RelayEvent M) → RelayAction F I M L → Prop} {capacity cap : Nat}
  {router : Router}

/-- An item is sent on the channel of a call that has been made. -/
theorem Move.offered_used (move : Move s a s' es) (runs : Runs step ok (init capacity router cap) s t) {r : Nat}
    (unused : s.desk.calls r = .unused) : itemsOn r offered? es = [] := by
  have busOnly : ∀ below : List (Event M), itemsOn r offered? (below.map .bus) = [] :=
    RelayEvent.itemsOn_bus r (fun _ => rfl)
  cases move with
  | @routed consumer desk send es stepped begun =>
      rw [RelayEvent.itemsOn_append, busOnly, List.nil_append]
      cases isSend : send with
      | none => rfl
      | some send =>
          obtain ⟨r', item⟩ := send
          obtain ⟨entry, e, who, isChannel, -⟩ := sendOf_eq_some (begun.symm.trans isSend)
          obtain ⟨i, chosen⟩ := (World.recipient_eq_some_iff.mp who).2
          have sent := Desk.sent_of_stamped (desk_runs runs) entry (List.mem_of_getElem? chosen.found) r'
            (by rw [isChannel])
          have other : r' ≠ r := by
            rintro rfl
            exact sent.1 unused
          exact RelayEvent.itemsOn_singleton_of_ne rfl other
  | resumed elsewhere stepped => exact busOnly _
  | delivered sending live sent stepped => simp [itemsOn, offered?]
  | refused sending gone stepped => simp [itemsOn, offered?]
  | aside isAside stepped => exact itemsOn_after r _ _ (fun _ => rfl) (fun _ _ => rfl)
  | _ => rfl

theorem fresh (runs : Runs step ok (init capacity router cap) s t) : Fresh s t := by
  apply runs.invariant_reached (P := Fresh)
  · exact fun _ _ => ⟨rfl, rfl⟩
  · intro s t a s' es before ih _ stepped r unused
    have move := move_of_step stepped
    obtain ⟨wasUnused, notMade⟩ := move.unused_before unused
    obtain ⟨dead, none⟩ := ih r wasUnused
    constructor
    · by_contra live
      rcases move.live_cases (Bool.eq_true_of_not_eq_false live) with wasLive | ⟨dims, isPlugIn⟩
      · rw [dead] at wasLive
        cases wasLive
      · exact notMade dims isPlugIn
    · rw [RelayEvent.itemsOn_append, none, move.offered_used before wasUnused]
      rfl

/-- The sends that have been settled were begun, in the same order. -/
theorem settled_first (runs : Runs step ok (init capacity router cap) s t) (r : Nat) :
    itemsOn r settled? t <+: itemsOn r offered? t := by
  refine ⟨s.inFlight.toList.filterMap (onChannel r), ?_⟩
  rw [itemsOn, itemsOn, settled_balance runs, List.filterMap_append]

omit [F32 F] [Message M] in
/-- Nothing happens to the channel. -/
theorem Piped.frame {r : Nat} (piped : Piped s t r) (same : s'.pipes r = s.pipes r)
    (noneReceived : itemsOn r received? es = []) (noneEnded : itemsOn r ended? es = []) :
    Piped s' (t ++ es) r := by
  unfold Piped
  rwa [same, RelayEvent.itemsOn_append, RelayEvent.itemsOn_append, noneReceived, noneEnded, List.append_nil,
    List.append_nil]

/-- **First in, first out, step by step.** -/
theorem Piped.step {r : Nat} (piped : Piped s t r) (move : Move s a s' es)
    (unsent : s.desk.calls r = .unused → itemsOn r ended? t = []) : Piped s' (t ++ es) r := by
  have elsewhere : ∀ {r' : Nat} {pipe : Pipe} {desk : Desk F I M (Plug L)} {inFlight : Option (Nat × BusableItem)},
      r ≠ r' → (({ s with desk := desk, inFlight := inFlight } : Relay F I M L).setPipe r' pipe).pipes r =
        s.pipes r := by
    intro r' pipe desk inFlight other
    rw [setPipe_pipes, if_neg other]
  have noneReceived : ∀ below : List (Event M), itemsOn r received? (below.map .bus) = [] :=
    RelayEvent.itemsOn_bus r (fun _ => rfl)
  have noneEnded : ∀ below : List (Event M), itemsOn r ended? (below.map .bus) = [] :=
    RelayEvent.itemsOn_bus r (fun _ => rfl)
  cases move with
  | @pluggedIn r' dims unused =>
      by_cases own : r = r'
      · subst own
        -- its number is new, so nothing has been sent under it
        have nothing := unsent unused
        have none := piped.taken_first
        rw [nothing, List.prefix_nil] at none
        simp only [Piped, setPipe_pipes, if_pos, List.append_nil, nothing, none]
        exact .start _
      · exact piped.frame (elsewhere own) rfl rfl
  | @received r' item items live front =>
      have reads : received? (.received r' item : RelayEvent M) = some (r', item) := rfl
      by_cases own : r = r'
      · subst own
        rw [Piped, Channel.tryRecv_buf front] at piped
        have apart : itemsOn r ended? [(.received r item : RelayEvent M)] = [] := rfl
        simp only [Piped, setPipe_pipes, if_pos, RelayEvent.itemsOn_append, apart,
          RelayEvent.itemsOn_singleton_self r reads, List.append_nil]
        exact piped.take
      · exact piped.frame (elsewhere own) (RelayEvent.itemsOn_singleton_of_ne reads (Ne.symm own)) rfl
  | @unplugged r' live =>
      by_cases own : r = r'
      · subst own
        simp only [Piped, setPipe_pipes, if_pos, List.append_nil]
        exact piped.hangUp
      · exact piped.frame (elsewhere own) rfl rfl
  | @routed consumer desk send es stepped begun =>
      apply piped.frame rfl
      · rw [RelayEvent.itemsOn_append, noneReceived]
        cases send <;> rfl
      · rw [RelayEvent.itemsOn_append, noneEnded]
        cases send <;> rfl
  | resumed idle stepped => exact piped.frame rfl (noneReceived _) (noneEnded _)
  | @delivered latency r' item items desk es sending live sent stepped =>
      have reads : ended? (.delivered r' item : RelayEvent M) = some (r', item) := rfl
      by_cases own : r = r'
      · subst own
        rw [Piped, live] at piped
        have apart : itemsOn r received? [(.delivered r item : RelayEvent M)] = [] := rfl
        simp only [Piped, setPipe_pipes, if_pos, RelayEvent.itemsOn_append, noneReceived, noneEnded, apart,
          RelayEvent.itemsOn_singleton_self r reads, Channel.send_buf sent, live, List.append_nil, List.nil_append]
        exact piped.put
      · apply piped.frame (elsewhere own)
        · rw [RelayEvent.itemsOn_append, noneReceived]
          rfl
        · rw [RelayEvent.itemsOn_append, noneEnded, RelayEvent.itemsOn_singleton_of_ne reads (Ne.symm own)]
          rfl
  | @refused latency r' item desk es sending gone stepped =>
      have reads : ended? (.refused r' item : RelayEvent M) = some (r', item) := rfl
      by_cases own : r = r'
      · subst own
        rw [Piped, gone] at piped
        have apart : itemsOn r received? [(.refused r item : RelayEvent M)] = [] := rfl
        simp only [Piped, RelayEvent.itemsOn_append, noneReceived, noneEnded, apart,
          RelayEvent.itemsOn_singleton_self r reads, gone, List.append_nil, List.nil_append]
        exact piped.refuse
      · apply piped.frame rfl
        · rw [RelayEvent.itemsOn_append, noneReceived]
          rfl
        · rw [RelayEvent.itemsOn_append, noneEnded, RelayEvent.itemsOn_singleton_of_ne reads (Ne.symm own)]
          rfl
  | @aside a desk es isAside stepped =>
      exact piped.frame (congrFun (after_desk s desk es).2 r) (itemsOn_after r _ _ (fun _ => rfl) (fun _ _ => rfl))
        (itemsOn_after r _ _ (fun _ => rfl) (fun _ _ => rfl))

/-- Nothing has been sent under a number that no call has had. -/
theorem ended_of_unused (runs : Runs step ok (init capacity router cap) s t) {r : Nat}
    (unused : s.desk.calls r = .unused) : itemsOn r ended? t = [] := by
  have begun := (RelayEvent.ended_sublist r t).trans (settled_first runs r).sublist
  rwa [(fresh runs r unused).2, List.sublist_nil] at begun

theorem piped (runs : Runs step ok (init capacity router cap) s t) (r : Nat) : Piped s t r := by
  apply runs.invariant_reached (P := fun s t => Piped s t r)
  · exact .start _
  · intro s t a s' es before ih _ stepped
    exact ih.step (move_of_step stepped) (ended_of_unused before)

theorem received_of_unused (runs : Runs step ok (init capacity router cap) s t) {r : Nat}
    (unused : s.desk.calls r = .unused) : itemsOn r received? t = [] := by
  have inOrder := (piped runs r).taken_first
  rwa [ended_of_unused runs unused, List.prefix_nil] at inOrder

theorem handed (runs : Runs step ok (init capacity router cap) s t) (r : Nat) :
    itemsOn r offered? t = (handedTo r t).map .ofMessage := by
  apply runs.invariant (P := fun _ t => itemsOn r offered? t = (handedTo r t).map .ofMessage) rfl
  intro s t a s' es ih _ stepped
  have move := move_of_step stepped
  rw [RelayEvent.itemsOn_append, RelayEvent.handedTo_append r t move.apart, List.map_append, ih, move.handed]

/-- **What is received from a channel was handed to its consumer, in the same order**, and
without gaps unless a call of `drain` or `dispatch` was dropped with a message of this channel. -/
theorem received_of_handed (runs : Runs step ok (init capacity router cap) s t) (r : Nat) :
    List.Sublist (itemsOn r received? t) ((handedTo r t).map .ofMessage) ∧
      ((∀ item, RelayEvent.withdrawn r item ∉ t) →
        itemsOn r received? t <+: (handedTo r t).map .ofMessage) := by
  have inOrder := (piped runs r).taken_first
  have begun := settled_first runs r
  rw [handed runs] at begun
  constructor
  · exact inOrder.sublist.trans ((RelayEvent.ended_sublist r t).trans begun.sublist)
  · intro kept
    exact inOrder.trans (RelayEvent.ended_eq_settled kept ▸ begun)

end Relay

end Jackfield
