/-
# Jackfield.Endpoint.Parcels -- what the bus hands to channel consumers, and to which

A hand-over to a channel consumer is told twice: the bus hands an envelope to somebody,
and right behind that a send begins on channel `r` (`handOvers`).  Such an envelope goes to
an entry with the stamp of call `r` that does not reject it (`Move.handOvers_cases`), and an
entry has the dimensions that its call asked for (`Asks`).  So what is handed to channel `r`
meets what call `r` asked for, in every run (`parcels_asked_for`); and no envelope is handed
to two channels, or twice to one (`handed_once`).

What an endpoint takes out of channel `r` and puts on its wire is traced back to these envelopes
by `RelayEvent.CameThrough`, which the results about clients share.
-/
import Jackfield.Bus.Turns
import Jackfield.Endpoint.Filter
import Jackfield.Endpoint.Pipes

namespace Jackfield

set_option autoImplicit false

variable {F I M L : Type}

open Machine

/-! ## Reading a trace -/

namespace RelayEvent

/-- The envelopes handed to channel consumers, with their channels. -/
def handOvers : List (RelayEvent M) → List (Nat × Parcel M)
  | .bus (.handed _ e) :: .offered r _ :: t => (r, e) :: handOvers t
  | _ :: t => handOvers t
  | [] => []

/-- The envelope, if it was handed to channel `r`. -/
def parcelOn (r : Nat) (h : Nat × Parcel M) : Option (Parcel M) := if h.1 = r then some h.2 else none

/-- The envelopes handed to channel `r`. -/
def parcelsTo (r : Nat) (t : List (RelayEvent M)) : List (Parcel M) := (handOvers t).filterMap (parcelOn r)

/-- Traces can be read step by step, if no step begins with a send. -/
theorem handOvers_append (t : List (RelayEvent M)) {es : List (RelayEvent M)}
    (apart : ∀ r item rest, es ≠ .offered r item :: rest) :
    handOvers (t ++ es) = handOvers t ++ handOvers es := by
  fun_induction handOvers t with
  | case1 id e r item t ih => simp [handOvers, ih]
  | case2 first t notHanded ih =>
      rw [List.cons_append, ← ih]
      apply handOvers.eq_2
      rintro id e r item rest isFirst isRest
      cases t with
      | nil => exact apart r item rest isRest
      | cons second others =>
          cases isRest
          exact notHanded id e r item others isFirst rfl
  | case3 => rfl

/-- Without a send there is no hand-over. -/
theorem handOvers_eq_nil {es : List (RelayEvent M)} (none : ∀ r item, .offered r item ∉ es) : handOvers es = [] := by
  fun_induction handOvers es with
  | case1 id e r item t ih => exact absurd (by simp) (none r item)
  | case2 first t notHanded ih => exact ih fun r item member => none r item (List.mem_cons_of_mem _ member)
  | case3 => rfl

/-- They are hand-overs of the bus. -/
theorem handOvers_sublist (t : List (RelayEvent M)) :
    List.Sublist ((handOvers t).map Prod.snd) (((t.filterMap bus?).filterMap Event.handed?).map Prod.snd) := by
  fun_induction handOvers t with
  | case1 id e r item t ih =>
      exact ih.cons_cons e
  | case2 first t notHanded ih =>
      have further : List.Sublist ((t.filterMap bus?).filterMap Event.handed?)
          (((first :: t).filterMap bus?).filterMap Event.handed?) :=
        ((List.sublist_cons_self ..).filterMap _).filterMap _
      exact ih.trans (further.map _)
  | case3 => exact .refl _

theorem handedTo_eq (r : Nat) (t : List (RelayEvent M)) :
    handedTo r t = (parcelsTo r t).map fun e => e.message := by
  unfold parcelsTo
  fun_induction handedTo r t with
  | case1 id e item t ih => simp [handOvers, ih, parcelOn]
  | case2 id e r' item t other ih => simp [handOvers, ih, parcelOn, other]
  | case3 first t notHanded ih =>
      rw [ih, handOvers.eq_2]
      exact fun id e r' item rest isFirst isRest => notHanded id e r' item rest isFirst isRest
  | case4 => rfl

theorem parcelsTo_append (r : Nat) (t : List (RelayEvent M)) {es : List (RelayEvent M)}
    (apart : ∀ r item rest, es ≠ .offered r item :: rest) :
    parcelsTo r (t ++ es) = parcelsTo r t ++ parcelsTo r es := by
  rw [parcelsTo, handOvers_append t apart, List.filterMap_append]
  rfl

theorem mem_parcelsTo {r : Nat} {t : List (RelayEvent M)} {e : Parcel M} :
    e ∈ parcelsTo r t ↔ (r, e) ∈ handOvers t := by
  rw [parcelsTo, List.mem_filterMap]
  constructor
  · rintro ⟨⟨r', e'⟩, member, same⟩
    obtain ⟨isChannel, isParcel⟩ := Option.ite_none_right_eq_some.mp same
    cases isParcel
    exact isChannel ▸ member
  · exact fun member => ⟨_, member, if_pos rfl⟩

theorem parcelsTo_sublist (r : Nat) (t : List (RelayEvent M)) :
    List.Sublist (parcelsTo r t) ((handOvers t).map Prod.snd) := by
  rw [parcelsTo, ← List.filterMap_eq_map]
  induction handOvers t with
  | nil => exact .refl _
  | cons h rest ih =>
      by_cases own : h.1 = r
      · rw [List.filterMap_cons_some (f := parcelOn r) (if_pos own)]
        exact ih.cons_cons _
      · rw [List.filterMap_cons_none (f := parcelOn r) (if_neg own)]
        exact ih.cons _

/-- What came out of channel `r` as `got`: envelopes that were handed to it, in their order,
each accepted before and none twice. -/
structure CameThrough {α : Type} (image : Parcel M → α) (r : Nat) (t : List (RelayEvent M)) (got : List α)
    (parcels : List (Parcel M)) : Prop where
  handed : List.Sublist parcels (parcelsTo r t)
  accepted : ∀ e ∈ parcels, Event.accepted e ∈ t.filterMap bus?
  once : (parcels.map Envelope.serial).Nodup
  images : got = parcels.map image

end RelayEvent

/-! ## What a call asked for -/

namespace Desk

variable {C : Type}

/-- The dimensions of call `r` are such for its consumer, wherever they are. -/
structure Asks (such : C → List (DimSpec F I (Stamped M)) → Prop) (d : Desk F I M C) (r : Nat) : Prop where
  sending : ∀ consumer dims, d.calls r = .sending consumer dims → such consumer dims
  queued : ∀ consumer dims, BusCmd.register consumer dims r ∈ d.world.bus.cmdRx.buf → such consumer.consumer dims
  registered : ∀ entry ∈ d.world.bus.registry.entries, entry.consumer.call = some r →
    ∃ dims, such entry.consumer.consumer dims ∧ entry.RegisteredWith dims

/-- If call `r` is made, it asks for such dimensions. -/
def Asking (such : C → List (DimSpec F I (Stamped M)) → Prop) (r : Nat) (a : DeskAction F I M C) : Prop :=
  ∀ consumer dims, a = .call r consumer dims → such consumer dims

variable [F32 F] [Message M] {such : C → List (DimSpec F I (Stamped M)) → Prop} {r : Nat}

omit [F32 F] [Message M] in
/-- Another call, or a stage past the sending, is nothing to `Asks`. -/
theorem Asks.setCall {d : Desk F I M C} (asks : Asks such d r) {r' : Nat} {call : Call F I M C}
    (sent : r = r' → ∀ consumer dims, call = .sending consumer dims → such consumer dims) :
    Asks such (d.setCall r' call) r := by
  refine ⟨?_, asks.queued, asks.registered⟩
  intro consumer dims sending
  rw [setCall_calls] at sending
  split at sending
  · rename_i same
    exact sent same consumer dims sending
  · exact asks.sending consumer dims sending

theorem Asks.step {d d' : Desk F I M C} {a : DeskAction F I M C} {es : List (Event M)} (asks : Asks such d r)
    (tidy : Tidy d) (sound : World.ResumeSound d.world) (asking : Asking such r a) (move : Move d a d' es) :
    Asks such d' r := by
  cases move with
  | called fresh =>
      apply asks.setCall
      rintro rfl consumer dims sending
      cases sending
      exact asking _ _ rfl
  | @submitted r' consumer dims cmdRx sending live sent queued =>
      have now : Asks such { d with world := { d.world with bus := { d.world.bus with cmdRx := cmdRx } } } r := by
        refine ⟨asks.sending, ?_, asks.registered⟩
        intro consumer' dims' member
        have member : BusCmd.register consumer' dims' r ∈ cmdRx.buf := member
        rw [queued] at member
        rcases List.mem_append.mp member with old | new
        · exact asks.queued _ _ old
        · cases List.mem_singleton.mp new
          exact asks.sending _ _ sending
      exact now.setCall (by simp)
  | received answer => exact asks.setCall (by simp)
  | failed suspended closed => exact asks.setCall (by simp)
  | abandoned suspended => exact asks.setCall (by simp)
  | @worked a world es live plain stepped =>
      have worked := World.move_of_step stepped
      refine ⟨?_, ?_, ?_⟩
      · intro consumer dims sending
        have sending : answered d.calls es r = .sending consumer dims := sending
        rcases answered_cases d.calls es r with same | ⟨id, -, -, now⟩
        · exact asks.sending consumer dims (same.symm.trans sending)
        · cases now.symm.trans sending
      · intro consumer dims member
        have member : BusCmd.register consumer dims r ∈ world.bus.cmdRx.buf := member
        rcases worked.command_cases with ⟨same, -⟩ | ⟨cmd, rfl, added, -⟩ | ⟨consumer', dims', r', front, -⟩ |
          ⟨id, front, -⟩
        · exact asks.queued _ _ (same ▸ member)
        · rw [added] at member
          rcases List.mem_append.mp member with old | new
          · exact asks.queued _ _ old
          · rw [← List.mem_singleton.mp new] at plain
            cases plain
        · exact asks.queued _ _ (front ▸ List.mem_cons_of_mem _ member)
        · exact asks.queued _ _ (front ▸ List.mem_cons_of_mem _ member)
      · intro entry member stamped
        rcases worked.entry_origin sound member with ⟨old, inEntries, same⟩ | ⟨dims, new, rfl | ⟨r', rest, -, front⟩⟩
        · have sameConsumer : entry.consumer = old.consumer := congrArg (fun s => s.2.1) same
          have sameDims : entry.skeleton.2.2 = old.skeleton.2.2 := by rw [same]
          obtain ⟨dims, suits, registered⟩ := asks.registered old inEntries (sameConsumer ▸ stamped)
          exact ⟨dims, sameConsumer ▸ suits, sameDims.trans registered⟩
        · -- the owner's own consumers bear no stamp
          rw [Action.plain, stamped] at plain
          cases plain
        · have inQueue : BusCmd.register entry.consumer dims r' ∈ d.world.bus.cmdRx.buf := by
            rw [front]
            exact List.mem_cons_self ..
          cases stamped.symm.trans (tidy.stamped _ _ _ inQueue)
          have registered : entry.RegisteredWith dims := by
            rw [new]
            exact registeredWith_new _ _ _
          exact ⟨dims, asks.queued _ _ inQueue, registered⟩
  | closed idle live => exact ⟨asks.sending, asks.queued, asks.registered⟩

variable {capacity cap : Nat} {router : Router} {d : Desk F I M C} {t : List (Event M)}

theorem asks (runs : Runs step (fun _ _ a => Asking such r a) (init capacity router cap) d t) : Asks such d r := by
  apply runs.invariant_reached (P := fun d _ => Asks such d r)
  · refine ⟨?_, ?_, ?_⟩
    · intro consumer dims sending
      cases sending
    · intro consumer dims member
      cases member
    · intro entry member
      cases member
  · intro d t a d' es before ih asking stepped
    exact ih.step (tidy before) (World.resumeSound (world_runs before)) asking (move_of_step stepped)

end Desk

namespace Relay

open RelayEvent (handOvers parcelsTo)

variable [F32 F] [Message M] {s s' : Relay F I M L} {a : RelayAction F I M L} {t es : List (RelayEvent M)}

/-! ## One step -/

/-- **A step hands over to a channel what the consumer of its call would take**, or to no channel. -/
theorem Move.handOvers_cases (move : Move s a s' es) :
    handOvers es = [] ∨ ∃ consumer r entry e, a = .takeEnvelope consumer ∧
      entry ∈ s.desk.world.bus.registry.entries ∧ entry.consumer = ⟨some r, .channel⟩ ∧
      Eligible (s.answers consumer) e entry ∧ es.filterMap RelayEvent.bus? = [.routed e, .handed entry.id e] ∧
      handOvers es = [(r, e)] := by
  cases move with
  | @routed consumer desk send es stepped begun =>
      obtain ⟨-, taken, -, -⟩ := Desk.world_step stepped
      rcases World.takeEnvelope_cases taken with ⟨entry, e, bus, loop, resume, -, who, rfl, -⟩ | ⟨nobody, -⟩
      · cases isSend : send with
        | none =>
            left
            apply RelayEvent.handOvers_eq_nil
            simp
        | some send =>
            obtain ⟨r, item⟩ := send
            obtain ⟨entry', e', same, isChannel, -⟩ := sendOf_eq_some (begun.symm.trans isSend)
            cases who.symm.trans same
            obtain ⟨-, i, chosen⟩ := World.recipient_eq_some_iff.mp who
            exact Or.inr ⟨consumer, r, entry, e, rfl, List.mem_of_getElem? chosen.found, isChannel, chosen.eligible,
              rfl, rfl⟩
      · left
        apply RelayEvent.handOvers_eq_nil
        rw [begun, nobody]
        simp [sendOf]
  | @aside a desk es isAside stepped =>
      left
      apply RelayEvent.handOvers_eq_nil
      intro r item offered
      unfold after at offered
      split at offered <;> simp at offered
  | _ =>
      left
      apply RelayEvent.handOvers_eq_nil
      simp

/-- If channel `r` is plugged in, its consumer comes with such dimensions. -/
def Plugs (such : List (DimSpec F I (Stamped M)) → Prop) (r : Nat) (a : RelayAction F I M L) : Prop :=
  ∀ dims, a = .plugIn r dims → such dims

/-- A channel consumer has such dimensions. -/
def Suits (such : List (DimSpec F I (Stamped M)) → Prop) (consumer : Plug L) (dims : List (DimSpec F I (Stamped M))) :
    Prop :=
  consumer = .channel → such dims

/-- The desk is asked for no call of a channel consumer but the one plugged in. -/
theorem asking_of_plugs {such : List (DimSpec F I (Stamped M)) → Prop} {r : Nat} (plugs : Plugs such r a)
    (stepped : s.step a = some (s', es)) : ∀ b ∈ (s.deskAction? a).toList, Desk.Asking (Suits such) r b := by
  rintro b member consumer dims rfl isChannel
  subst isChannel
  cases a with
  | plugIn r' dims' =>
      cases List.mem_singleton.mp member
      exact plugs dims rfl
  | desk b =>
      cases List.mem_singleton.mp member
      cases stepped
  | receive r' => cases member
  | unplug r' => cases member
  | takeEnvelope consumer => cases List.mem_singleton.mp member
  | resume latency => cases List.mem_singleton.mp member

/-! ## Runs -/

variable {ok : Relay F I M L → List (RelayEvent M) → RelayAction F I M L → Prop} {capacity cap : Nat}
  {router : Router}

/-- No two hand-overs to channels are of one envelope. -/
theorem handed_once (runs : Runs step ok (init capacity router cap) s t) :
    ((handOvers t).map fun h => h.2.serial).Nodup ∧
      ∀ h ∈ handOvers t, Event.accepted h.2 ∈ t.filterMap RelayEvent.bus? := by
  have bus := world_runs runs
  have part := RelayEvent.handOvers_sublist t
  constructor
  · have serials := part.map Envelope.serial
    rw [List.map_map, List.map_map] at serials
    exact (World.handed_nodup bus).sublist serials
  · intro h member
    obtain ⟨⟨id, e⟩, handed, same⟩ := List.mem_map.mp (part.subset (List.mem_map_of_mem member))
    rw [← same]
    exact Event.mem_filterMap_accepted.mp (World.accepted_of_handed bus (Event.mem_filterMap_handed.mp handed))

/-- A part of what a channel was handed came through it. -/
theorem cameThrough (runs : Runs step ok (init capacity router cap) s t) {α : Type} {image : Parcel M → α} {r : Nat}
    {parcels : List (Parcel M)} {got : List α} (part : List.Sublist parcels (parcelsTo r t))
    (images : got = parcels.map image) : RelayEvent.CameThrough image r t got parcels := by
  obtain ⟨once, genuine⟩ := handed_once runs
  refine ⟨part, ?_, ?_, images⟩
  · intro e member
    exact genuine _ (RelayEvent.mem_parcelsTo.mp (part.subset member))
  · have among := (part.trans (RelayEvent.parcelsTo_sublist ..)).map Envelope.serial
    rw [List.map_map] at among
    exact List.Nodup.sublist among once

/-- What came through two channels are different envelopes. -/
theorem cameThrough_apart (runs : Runs step ok (init capacity router cap) s t) {α α' : Type}
    {image : Parcel M → α} {image' : Parcel M → α'} {r r' : Nat} {got : List α} {got' : List α'}
    {parcels parcels' : List (Parcel M)} (came : RelayEvent.CameThrough image r t got parcels)
    (came' : RelayEvent.CameThrough image' r' t got' parcels') (other : r ≠ r') :
    ∀ e ∈ parcels, ∀ e' ∈ parcels', e.serial ≠ e'.serial := by
  intro e member e' member' same
  have handed := RelayEvent.mem_parcelsTo.mp (came.handed.subset member)
  have handed' := RelayEvent.mem_parcelsTo.mp (came'.handed.subset member')
  have one := List.inj_on_of_nodup_map (handed_once runs).1 handed handed' same
  exact other (congrArg Prod.fst one)

variable {such : List (DimSpec F I (Stamped M)) → Prop} {r : Nat}

theorem asks (runs : Runs step (fun _ _ a => Plugs such r a) (init capacity router cap) s t) :
    Desk.Asks (Suits such) s.desk r := by
  have asking : Runs Desk.step (fun _ _ b => Desk.Asking (Suits such) r b) (Desk.init capacity router cap) s.desk
      (t.filterMap RelayEvent.bus?) := by
    apply runs.simulated_allowed (fun s => s.desk)
    intro s t a s' es plugs stepped
    exact ⟨_, asking_of_plugs plugs stepped, simulates stepped⟩
  exact Desk.asks asking

/-- **Nothing is handed to a channel but what its call asked for.** -/
theorem parcels_asked_for (runs : Runs step (fun _ _ a => Plugs such r a) (init capacity router cap) s t) :
    ∀ e ∈ parcelsTo r t, ∃ dims, such dims ∧ ∃ entry : RegistrationEntry F I (Stamped M) (Boxed (Plug L)),
      entry.RegisteredWith dims ∧ BlindRouter.hardRejected e entry = false := by
  apply runs.invariant_reached (P := fun _ t => ∀ e ∈ parcelsTo r t, ∃ dims, such dims ∧
    ∃ entry : RegistrationEntry F I (Stamped M) (Boxed (Plug L)), entry.RegisteredWith dims ∧
      BlindRouter.hardRejected e entry = false)
  · intro e member
    cases member
  · intro s t a s' es before ih _ stepped e member
    have move := move_of_step stepped
    rw [RelayEvent.parcelsTo_append r t move.apart, List.mem_append] at member
    rcases member with earlier | now
    · exact ih e earlier
    · rw [RelayEvent.mem_parcelsTo] at now
      rcases move.handOvers_cases with none | ⟨consumer, r', entry, e', -, inEntries, isChannel, eligible, -, one⟩
      · rw [none] at now
        cases now
      · rw [one] at now
        cases List.mem_singleton.mp now
        obtain ⟨dims, suits, registered⟩ := (asks before).registered entry inEntries (by rw [isChannel])
        rw [isChannel] at suits
        exact ⟨dims, suits rfl, entry, registered, eligible.qualified⟩

end Relay

end Jackfield
