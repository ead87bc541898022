/-
# Jackfield.Endpoint.Ordering -- a channel is handed its messages in the order of their sends

If the owner of the bus never calls `drain`, the bus routes every envelope once, in order.
If it never calls `dispatch`, all commands are applied before a call routes, so a consumer
that is there when a message comes back refuses it for good: a channel consumer agrees to
everything until its receiver is gone, and after that it is handed nothing (`Relay.InTurn`).
Either way, and whatever the other consumers answer, the envelopes handed to a channel are
accepted ones in the order they were accepted in (`parcels_in_order`).
-/
import Jackfield.Endpoint.Parcels
import Jackfield.Endpoint.Parsing

namespace Jackfield

set_option autoImplicit false
set_option linter.unusedSectionVars false

variable {F I M L : Type}

open Machine Stamps

namespace Desk

variable {C : Type} [F32 F] [Message M]

/-! ## A request is applied once -/

/-- The request of call `r` is made, and not in the queue any more. -/
structure Placed (d : Desk F I M C) (r : Nat) : Prop where
  made : d.calls r ≠ .unused
  sent : ∀ consumer dims, d.calls r ≠ .sending consumer dims
  taken : r ∉ d.asked

theorem Placed.step {d d' : Desk F I M C} {a : DeskAction F I M C} {es : List (Event M)} {r : Nat}
    (placed : Placed d r) (move : Move d a d' es) : Placed d' r := by
  have stays : d'.calls r ≠ .unused ∧ ∀ consumer dims, d'.calls r ≠ .sending consumer dims := by
    rcases move.call_cases r with same | ⟨consumer, dims, -, unused, -⟩ | ⟨-, -, now⟩ | ⟨id, -, -, now⟩ |
      ⟨-, -, now⟩ | ⟨-, -, now⟩ | ⟨id, -, -, now⟩
    · rw [same]
      exact ⟨placed.made, placed.sent⟩
    · exact absurd unused placed.made
    all_goals simp [now]
  refine ⟨stays.1, stays.2, ?_⟩
  intro asked
  rcases move.asked_cases asked with was | ⟨⟨consumer, dims, sending⟩, -⟩
  · exact placed.taken was
  · exact placed.sent consumer dims sending

variable {ok : Desk F I M C → List (Event M) → DeskAction F I M C → Prop} {capacity cap : Nat}
  {router : Router} {d : Desk F I M C} {t : List (Event M)}

/-- Who is registered for a call has its request behind it. -/
theorem placed_of_stamped (runs : Runs step ok (init capacity router cap) d t) :
    ∀ entry ∈ d.world.bus.registry.entries, ∀ r, entry.consumer.call = some r → Placed d r := by
  apply runs.invariant_reached (P := fun d _ => ∀ entry ∈ d.world.bus.registry.entries, ∀ r,
    entry.consumer.call = some r → Placed d r)
  · intro entry member
    cases member
  · intro d t a d' es before ih allowed stepped entry member r stamped
    have move := move_of_step stepped
    obtain ⟨made, sent⟩ := sent_of_stamped (before.step allowed stepped) entry member r stamped
    rcases move.stamped_cases (tidy before) (World.resumeSound (world_runs before)) member stamped with
      ⟨old, inEntries, -, stamped⟩ | ⟨dims, rest, rfl, front, -⟩
    · exact (ih old inEntries r stamped).step move
    · refine ⟨made, sent, ?_⟩
      -- it was the first of the queue, and no call is in it twice
      have apart := (tidy before).apart
      rw [asked, front] at apart
      have worked := World.move_of_step (world_step stepped).2.1
      rw [asked]
      generalize d'.world = after at worked ⊢
      cases worked with
      | handles same sameCmds handle => simp at handle
      | appliedRegister running commands front' =>
          cases front.symm.trans front'
          exact (List.nodup_cons.mp apart).1
      | appliedDeregister running commands front' => cases front.symm.trans front'

end Desk

namespace Relay

open RelayEvent (handOvers parcelsTo)

variable [F32 F] [Message M] {s s' : Relay F I M L} {a : RelayAction F I M L} {t es : List (RelayEvent M)}

/-! ## What a step is for the bus -/

/-- The step of the bus that a step of the relay takes. -/
inductive Works (s : Relay F I M L) : RelayAction F I M L → Action F I M (Boxed (Plug L)) → Prop
  | routed (consumer : Consumer (Stamped M) L) : Works s (.takeEnvelope consumer) (.takeEnvelope (s.answers consumer))
  | resumed (latency : Nat) : Works s (.resume latency) (.resume latency)
  | submitted {r : Nat} {consumer : Plug L} {dims : List (DimSpec F I (Stamped M))}
      (sending : s.desk.calls r = .sending consumer dims) :
      Works s (.desk (.submit r)) (.sendCmd (.register ⟨some r, consumer⟩ dims r))
  | owned {b : Action F I M (Boxed (Plug L))} (plain : b.plain = true)
      (aside : (DeskAction.world b).aside = true) : Works s (.desk (.world b)) b

theorem Move.world_cases (move : Move s a s' es) :
    (s'.desk.world = s.desk.world ∧ es.filterMap RelayEvent.bus? = []) ∨
      ∃ b, Works s a b ∧ s.desk.world.step b = some (s'.desk.world, es.filterMap RelayEvent.bus?) := by
  cases move with
  | @routed consumer desk send es stepped begun =>
      obtain ⟨-, worked, -, -⟩ := Desk.world_step stepped
      refine Or.inr ⟨_, .routed consumer, ?_⟩
      rw [RelayEvent.filterMap_bus_append _ (by cases send <;> rfl)]
      exact worked
  | resumed elsewhere stepped =>
      obtain ⟨-, worked, -, -⟩ := Desk.world_step stepped
      refine Or.inr ⟨_, .resumed _, ?_⟩
      rw [RelayEvent.filterMap_bus]
      exact worked
  | delivered sending live sent stepped =>
      obtain ⟨-, worked, -, -⟩ := Desk.world_step stepped
      refine Or.inr ⟨_, .resumed _, ?_⟩
      rw [RelayEvent.filterMap_bus_append _ rfl]
      exact worked
  | refused sending gone stepped =>
      obtain ⟨-, worked, -, -⟩ := Desk.world_step stepped
      refine Or.inr ⟨_, .resumed _, ?_⟩
      rw [RelayEvent.filterMap_bus_append _ rfl]
      exact worked
  | @aside a desk es apart stepped =>
      rw [(after_desk s desk es).1, after_events]
      cases Desk.move_of_step stepped with
      | submitted sending live sent queued => exact Or.inr ⟨_, .submitted sending, sent⟩
      | worked live plain worked => exact Or.inr ⟨_, .owned plain apart, worked⟩
      | _ => exact Or.inl ⟨rfl, rfl⟩
  | _ => exact Or.inl ⟨rfl, rfl⟩

/-- The owner of the bus never calls `drain`. -/
def Undrained (a : RelayAction F I M L) : Prop := a ≠ .desk (.world .drain)

/-- The owner of the bus never calls `dispatch`. -/
def Undispatched (a : RelayAction F I M L) : Prop := a ≠ .desk (.world .dispatch)

/-! ## Without `drain` -/

variable {ok : Relay F I M L → List (RelayEvent M) → RelayAction F I M L → Prop} {capacity cap : Nat}
  {router : Router}

theorem undrained_runs (runs : Runs step (fun _ _ a => Undrained a) (init capacity router cap) s t) :
    Runs World.step World.NoDrain (World.init capacity router cap) s.desk.world (t.filterMap RelayEvent.bus?) := by
  have simulated : Runs World.step (fun _ _ b => b ≠ .drain) (World.init capacity router cap) s.desk.world
      (t.filterMap RelayEvent.bus?) := by
    refine runs.simulated_allowed (fun s => s.desk.world) RelayEvent.bus? (fun b => b ≠ Action.drain) ?_
    intro s t a s' es undrained stepped
    rcases (move_of_step stepped).world_cases with ⟨same, none⟩ | ⟨b, works, worked⟩
    · rw [same, none]
      exact ⟨[], by simp, rfl⟩
    · refine ⟨[b], ?_, (exec_singleton ..).trans worked⟩
      intro c member
      rw [List.mem_singleton.mp member]
      cases works with
      | owned plain aside =>
          rintro rfl
          exact undrained rfl
      | _ => simp
  exact simulated

/-! ## Without `dispatch` -/

variable [Inhabited I]

/-- A channel consumer agrees to everything, as long as its receiver is there. -/
def agreeing : Consumer (Stamped M) (Boxed (Plug L)) := ⟨fun _ => true, fun _ _ => true⟩

/-- The consumer of channel `r`. -/
def Plugged (r : Nat) (_ : Nat) (consumer : Boxed (Plug L)) : Prop := consumer = ⟨some r, .channel⟩

/-- The call that registers channel `r` asks for built-in dimensions. -/
def Shipped (dims : List (DimSpec F I (Stamped M))) : Prop := ∀ d ∈ dims, d.1.BuiltIn

/-- All that the parser makes of a filter is. -/
theorem shipped_of_parsed {fromStr : String → Except String Json} {text : String}
    {dims : List (DimSpec F I (Stamped M))} (parsed : parseDimensions fromStr text = .ok dims) : Shipped dims := by
  by_cases nonempty : text = ""
  · subst nonempty
    have isEmpty : ("" : String).isEmpty = true := by decide
    rw [parseDimensions, if_pos isEmpty] at parsed
    cases parsed
    intro d member
    cases member
  · cases isJson : fromStr text with
    | error message =>
        rw [parseDimensions, if_neg (by simpa using nonempty), isJson] at parsed
        cases parsed
    | ok v =>
        obtain ⟨-, rfl⟩ := (parseDimensions_ok_iff nonempty isJson dims).mp parsed
        intro d member
        obtain ⟨dim, listed, rfl⟩ := List.mem_map.mp member
        simp only [List.mem_append, Option.mem_toList, Option.map_eq_some_iff] at listed
        rcases listed with (⟨label, -, rfl⟩ | ⟨producer, -, rfl⟩) | ⟨size, -, rfl⟩
        · exact .label label
        · exact .producer producer
        · exact .size size

/-- While the receiver is there, its consumer answers alike. -/
theorem eligible_agreeing {consumer : Consumer (Stamped M) L} {r : Nat}
    (live : (s.pipes r).live = true) {entry : RegistrationEntry F I (Stamped M) (Boxed (Plug L))}
    (plugged : entry.consumer = ⟨some r, .channel⟩) (e : Parcel M) :
    Eligible (s.answers consumer) e entry ↔ Eligible agreeing e entry := by
  constructor
  · exact fun eligible => ⟨eligible.qualified, rfl, rfl⟩
  · intro eligible
    refine ⟨eligible.qualified, ?_, ?_⟩
    · rw [plugged]
      simpa [answers] using live
    · rw [plugged]
      rfl

theorem not_inDispatch (runs : Runs step (fun _ _ a => Undispatched a) (init capacity router cap) s t) :
    ¬ World.InDispatch s.desk.world := by
  apply runs.invariant (P := fun s _ => ¬ World.InDispatch s.desk.world)
  · exact World.not_inDispatch_of_idle rfl
  · intro s t a s' es ih undispatched stepped inDispatch
    rcases (move_of_step stepped).world_cases with ⟨same, -⟩ | ⟨b, works, worked⟩
    · exact ih (same ▸ inDispatch)
    · rcases (World.move_of_step worked).inDispatch_before inDispatch with called | before
      · cases works with
        | owned plain aside => exact undispatched (by rw [called])
        | _ => cases called
      · exact ih before

/-- A channel that has been handed something has its request behind it. -/
theorem placed_of_handed (runs : Runs step ok (init capacity router cap) s t) (r : Nat)
    (handed : parcelsTo r t ≠ []) : s.desk.Placed r := by
  revert handed
  apply runs.invariant_reached (P := fun s t => parcelsTo r t ≠ [] → s.desk.Placed r)
  · intro handed
    exact absurd rfl handed
  · intro s t a s' es before ih _ stepped handed
    have move := move_of_step stepped
    have was : s.desk.Placed r := by
      by_cases earlier : parcelsTo r t = []
      · rw [RelayEvent.parcelsTo_append r t move.apart, earlier, List.nil_append] at handed
        obtain ⟨e, now⟩ := List.exists_mem_of_ne_nil _ handed
        rw [RelayEvent.mem_parcelsTo] at now
        rcases move.handOvers_cases with none | ⟨consumer, r', entry, e', -, inEntries, isChannel, -, -, one⟩
        · rw [none] at now
          cases now
        · rw [one] at now
          cases List.mem_singleton.mp now
          exact Desk.placed_of_stamped (desk_runs before) entry inEntries r (by rw [isChannel])
      · exact ih earlier
    rcases move.desk_cases with same | ⟨b, below, deskStepped, -⟩
    · exact same ▸ was
    · exact was.step (Desk.move_of_step deskStepped)

/-- Channel `r` has been handed its envelopes in order, and while its receiver is there,
nothing older is for it. -/
structure InTurn (s : Relay F I M L) (t : List (RelayEvent M)) (r : Nat) : Prop where
  whileLive : (s.pipes r).live = true → World.InTurn agreeing (Plugged r) s.desk.world (parcelsTo r t)
  increasing : Increasing Envelope.serial (parcelsTo r t)

/-- A driven bus: `dispatch` is not called, and channel `r` has built-in dimensions. -/
def Driven (r : Nat) (a : RelayAction F I M L) : Prop := Undispatched a ∧ Plugs Shipped r a

theorem watchedBuiltIn {r : Nat} (runs : Runs step (fun _ _ a => Driven r a) (init capacity router cap) s t) :
    World.WatchedBuiltIn (Plugged r) s.desk.world.bus.registry := by
  intro entry member plugged
  have plugs : Runs step (fun _ _ a => Plugs Shipped r a) (init capacity router cap) s t :=
    runs.mono_reached fun _ _ _ _ driven => driven.2
  obtain ⟨dims, suits, registered⟩ := (asks plugs).registered entry member (by rw [plugged])
  rw [plugged] at suits
  exact registered.builtIn (suits rfl)

/-- Nothing is handed to a channel whose receiver is gone. -/
theorem Move.parcels_of_gone (move : Move s a s' es) {r : Nat} (gone : (s.pipes r).live = false) :
    parcelsTo r es = [] := by
  apply List.eq_nil_iff_forall_not_mem.mpr
  intro e member
  rw [RelayEvent.mem_parcelsTo] at member
  rcases move.handOvers_cases with none | ⟨consumer, r', entry, e', -, -, isChannel, eligible, -, one⟩
  · rw [none] at member
    cases member
  · rw [one] at member
    cases List.mem_singleton.mp member
    have available := eligible.available
    rw [isChannel] at available
    simp [answers, gone] at available

/-- The step of the bus is steady for the channel's consumer. -/
theorem steady_of_driven {r : Nat} {b : Action F I M (Boxed (Plug L))} (undispatched : Undispatched a)
    (waits : ¬ World.InDispatch s.desk.world) (live : (s.pipes r).live = true) (works : Works s a b) :
    World.Steady agreeing (Plugged r) s.desk.world b where
  answers := by
    rintro answers rfl entry member plugged e
    cases works with
    | routed consumer => exact eligible_agreeing live plugged e
    | owned plain aside => cases aside
  called := by
    rintro rfl
    cases works with
    | owned plain aside => exact absurd rfl undispatched
  applied := fun _ waiting => absurd (Or.inl waiting) waits

/-- What the channel is handed in a step of the bus. -/
theorem Move.handsOver (move : Move s a s' es) {r : Nat} (live : (s.pipes r).live = true) :
    World.HandsOver agreeing (Plugged r) s.desk.world (es.filterMap RelayEvent.bus?) (parcelsTo r es) := by
  rcases move.handOvers_cases with none | ⟨consumer, r', entry, e, -, inEntries, isChannel, eligible, told, one⟩
  · left
    rw [parcelsTo, none]
    rfl
  · by_cases own : r' = r
    · subst own
      refine Or.inr ⟨entry, inEntries, isChannel, e, ?_, by simp [told], (eligible_agreeing live isChannel e).mp eligible⟩
      simp [parcelsTo, one, RelayEvent.parcelOn]
    · left
      simp [parcelsTo, one, RelayEvent.parcelOn, own]

/-- A consumer of the channel was registered before, if the channel has been handed something. -/
theorem Move.plugged_before (move : Move s a s' es) (runs : Runs step ok (init capacity router cap) s t) {r : Nat}
    {entry : RegistrationEntry F I (Stamped M) (Boxed (Plug L))}
    (member : entry ∈ s'.desk.world.bus.registry.entries) (plugged : Plugged r entry.id entry.consumer)
    (handed : parcelsTo r t ++ parcelsTo r es ≠ []) :
    ∃ old ∈ s.desk.world.bus.registry.entries, entry.skeleton = old.skeleton := by
  have tidy := Desk.tidy (desk_runs runs)
  have stamped : entry.consumer.call = some r := by rw [plugged]
  rcases move.world_cases with ⟨same, -⟩ | ⟨b, works, worked⟩
  · exact ⟨entry, same ▸ member, rfl⟩
  · rcases (World.move_of_step worked).entry_origin (World.resumeSound (world_runs runs)) member with
      old | ⟨dims, -, rfl | ⟨reply, rest, rfl, front⟩⟩
    · exact old
    · -- the owner's own consumers bear no stamp
      cases works with
      | owned plain aside =>
          rw [Action.plain, stamped] at plain
          cases plain
    · -- its request is just being applied, so nothing has been handed to it
      have inQueue : BusCmd.register entry.consumer dims reply ∈ s.desk.world.bus.cmdRx.buf := by
        rw [front]
        exact List.mem_cons_self ..
      cases stamped.symm.trans (tidy.stamped _ _ _ inQueue)
      have none : parcelsTo r es = [] := by
        rcases move.handOvers_cases with none | ⟨consumer, r', entry, e, rfl, -⟩
        · rw [parcelsTo, none]
          rfl
        · cases works
      rw [none, List.append_nil] at handed
      exact absurd inQueue fun queued =>
        (placed_of_handed runs r handed).taken (List.mem_filterMap.mpr ⟨_, queued, rfl⟩)

theorem InTurn.step {r : Nat} (inTurn : InTurn s t r)
    (runs : Runs step (fun _ _ a => Driven r a) (init capacity router cap) s t) (driven : Driven r a)
    (move : Move s a s' es) : InTurn s' (t ++ es) r := by
  have next := RelayEvent.parcelsTo_append r t move.apart
  by_cases live : (s.pipes r).live = true
  · have turn : World.InTurn agreeing (Plugged r) s'.desk.world (parcelsTo r (t ++ es)) := by
      rw [next]
      rcases move.world_cases with ⟨same, silent⟩ | ⟨b, works, worked⟩
      · have none : parcelsTo r es = [] := by
          rcases move.handOvers_cases with none | ⟨consumer, r', entry, e, -, -, -, -, told, -⟩
          · rw [parcelsTo, none]
            rfl
          · cases silent.symm.trans told
        rw [none, List.append_nil, same]
        exact inTurn.whileLive live
      · have undispatched : Runs Relay.step (fun _ _ a => Undispatched a) (init capacity router cap) s t :=
          runs.mono_reached fun _ _ _ _ driven => driven.1
        have steady := steady_of_driven driven.1 (not_inDispatch undispatched) live works
        refine (inTurn.whileLive live).step (world_runs runs) ?_ (watchedBuiltIn runs) steady
          (World.move_of_step worked) ?_ (move.handsOver live)
        · intro e handed
          have inBus := (RelayEvent.handOvers_sublist t).subset ((RelayEvent.parcelsTo_sublist r t).subset handed)
          obtain ⟨⟨id, e'⟩, member, rfl⟩ := List.mem_map.mp inBus
          exact ⟨id, Event.mem_filterMap_handed.mp member⟩
        · exact fun entry member plugged handed => move.plugged_before runs member plugged handed
    exact ⟨fun _ => turn, turn.increasing⟩
  · rw [Bool.not_eq_true] at live
    have same : parcelsTo r (t ++ es) = parcelsTo r t := by
      rw [next, move.parcels_of_gone live, List.append_nil]
    refine ⟨?_, same ▸ inTurn.increasing⟩
    intro nowLive
    rcases move.live_cases nowLive with wasLive | ⟨dims, rfl⟩
    · cases live.symm.trans wasLive
    · -- a new channel: its call is new, so there is no consumer, and nothing was handed to one
      cases move with
      | pluggedIn fresh =>
          have none : parcelsTo r t = [] := by
            by_contra handed
            exact (placed_of_handed runs r handed).made fresh
          rw [same, none]
          have nobody : ∀ entry ∈ s.desk.world.bus.registry.entries, ¬ Plugged r entry.id entry.consumer := by
            intro entry member plugged
            exact (Desk.placed_of_stamped (desk_runs runs) entry member r (by rw [plugged])).made fresh
          refine ⟨?_, ?_, .nil⟩
          · exact fun _ e _ entry member plugged => absurd plugged (nobody entry member)
          · exact fun entry member plugged => absurd plugged (nobody entry member)

theorem inTurn {r : Nat} (runs : Runs step (fun _ _ a => Driven r a) (init capacity router cap) s t) :
    InTurn s t r := by
  apply runs.invariant_reached (P := fun s t => InTurn s t r)
  · refine ⟨?_, .nil⟩
    intro live
    cases live
  · intro s t a s' es before ih driven stepped
    exact ih.step before driven (move_of_step stepped)

/-- **A channel is handed its messages in the order of their sends**, if the bus is driven
by `drain` alone or by `dispatch` alone. -/
theorem parcels_in_order {r : Nat} (oneWay : Runs step (fun _ _ a => Undrained a) (init capacity router cap) s t ∨
      Runs step (fun _ _ a => Driven r a) (init capacity router cap) s t) :
    List.Sublist (parcelsTo r t) ((t.filterMap RelayEvent.bus?).filterMap Event.accepted?) := by
  rcases oneWay with undrained | driven
  · have bus := undrained_runs undrained
    have fresh : Runs World.step World.NoDrain (World.init capacity router cap : World F I M (Boxed (Plug L)))
        (World.init capacity router cap) [] := .start
    have handed := (RelayEvent.parcelsTo_sublist r t).trans (RelayEvent.handOvers_sublist t)
    exact handed.trans ((World.handed_routed bus).trans (World.routed_in_order fresh bus))
  · apply sublist_of_increasing (inTurn driven).increasing (World.accepted_increasing (world_runs driven))
    intro e member
    exact Event.mem_filterMap_accepted.mpr
      ((handed_once driven).2 (r, e) (RelayEvent.mem_parcelsTo.mp member))

end Relay

end Jackfield
