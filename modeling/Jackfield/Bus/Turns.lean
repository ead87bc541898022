/-
# Jackfield.Bus.Turns -- each consumer gets its messages in the order of their sends

Two envelopes change places on the way to one consumer only if the older one came back
while the consumer was there, or before it was, and goes to it after all.  The first
cannot be, with built-in dimensions and answers that do not change: what came back was
refused by everybody, and is again.  The second takes a `dispatch` that goes on while
somebody registered would take a pending envelope; that is what `Timely` excludes, and
`drain` never does, since it applies the commands before it routes (`NoneWaiting`).  So
`consumer_in_order` holds in every timely run, and with `drain` alone in every run.
-/
import Jackfield.Bus.Order
import Jackfield.Bus.Stranding

namespace Jackfield

set_option autoImplicit false

variable {F I M C : Type}

/-- What was handed to the consumer registered under `id`. -/
def Event.handedTo (id : Nat) : Event M → Option (Parcel M)
  | .handed id' e => if id' = id then some e else none
  | _ => none

theorem Event.mem_filterMap_handedTo {t : List (Event M)} {id : Nat} {e : Parcel M} :
    e ∈ t.filterMap (Event.handedTo id) ↔ Event.handed id e ∈ t := by
  apply mem_filterMap_iff
  intro event e
  cases event with
  | handed id' e' =>
      simp only [Event.handedTo]
      split
      · rename_i same
        subst same
        simp
      · rename_i other
        simp [other]
  | _ => simp [Event.handedTo]

/-- The call is routing: past its commands, if it is a `drain`. -/
def Control.routing : Control F I M C → Bool
  | .idle => false
  | .running .drainCmds => false
  | .consuming .drainCmds _ => false
  | _ => true

namespace World

open Machine Stamps

variable [F32 F] [Inhabited I] [Message M]

/-! ## While a call routes -/

/-- Nobody watched would take a pending envelope. -/
def NoneWaiting (consumer : Consumer (Stamped M) C) (watched : Nat → C → Prop) (w : World F I M C) : Prop :=
  ∀ e ∈ w.bus.pending, ∀ entry ∈ w.bus.registry.entries, watched entry.id entry.consumer →
    ¬ Eligible consumer e entry

/-- The watched consumers answer as `consumer`, and none comes to a `dispatch` too late. -/
structure Steady (consumer : Consumer (Stamped M) C) (watched : Nat → C → Prop) (w : World F I M C)
    (a : Action F I M C) : Prop where
  answers : ∀ answers, a = .takeEnvelope answers → ∀ entry ∈ w.bus.registry.entries,
    watched entry.id entry.consumer → ∀ e, Eligible answers e entry ↔ Eligible consumer e entry
  called : a = .dispatch → NoneWaiting consumer watched w
  applied : a = .takeCmd → w.control = .running .dispatch → ∀ c dims reply rest,
    w.bus.cmdRx.buf = .register c dims reply :: rest → watched w.bus.registry.nextId c →
      ∀ e ∈ w.bus.pending, ¬ Eligible consumer e ⟨w.bus.registry.nextId, c, dims.map DimSpec.entry⟩

omit [F32 F] [Inhabited I] [Message M] in
theorem routing_of_next {w : World F I M C} {e : Parcel M} {bus : Bus F I (Stamped M) C} {loop : Loop M}
    (taken : w.next = some (e, bus, loop)) : w.control.routing = true := by
  rcases next_cases taken with ⟨rest, running, -, -⟩ | ⟨rx, running, rfl | rfl, -, -⟩ <;>
    rw [running] <;> rfl

/-- The watched entries are built-in. -/
def WatchedBuiltIn (watched : Nat → C → Prop) (r : Registry F I (Stamped M) C) : Prop :=
  ∀ entry ∈ r.entries, watched entry.id entry.consumer → entry.BuiltIn

/-- Dimension states do not matter to them. -/
theorem refused_sameShape {consumer : Consumer (Stamped M) C} {watched : Nat → C → Prop} {e : Parcel M}
    {r r' : Registry F I (Stamped M) C} (builtIn : WatchedBuiltIn watched r) (shape : r.SameShape r')
    (refused : ∀ entry ∈ r.entries, watched entry.id entry.consumer → ¬ Eligible consumer e entry) :
    ∀ entry ∈ r'.entries, watched entry.id entry.consumer → ¬ Eligible consumer e entry := by
  intro entry' member isWatched eligible
  obtain ⟨entry, inEntries, same⟩ := shape.mem member
  have sameId : entry'.id = entry.id := congrArg Prod.fst same
  have sameConsumer : entry'.consumer = entry.consumer := congrArg (fun s => s.2.1) same
  rw [sameId, sameConsumer] at isWatched
  have own := builtIn entry inEntries isWatched
  exact refused entry inEntries isWatched ((eligible_congr consumer e same own).mp eligible)

/-- **A steady step leaves nobody watched waiting while a call routes.** -/
theorem Move.noneWaiting {w w' : World F I M C} {a : Action F I M C} {es : List (Event M)}
    {consumer : Consumer (Stamped M) C} {watched : Nat → C → Prop} (move : Move w a w' es)
    (steady : Steady consumer watched w a) (sound : ResumeSound w)
    (builtIn : WatchedBuiltIn watched w.bus.registry)
    (before : w.control.routing = true → NoneWaiting consumer watched w) (routing : w'.control.routing = true) :
    NoneWaiting consumer watched w' := by
  cases move with
  | handles same sameCmds handle => exact before routing
  | registered idle =>
      rw [show World.control _ = w.control from rfl, idle] at routing
      cases routing
  | @deregistered id idle =>
      rw [show World.control _ = w.control from rfl, idle] at routing
      cases routing
  | drain idle => cases routing
  | dispatch idle => exact steady.called rfl
  | @appliedRegister loop c dims reply cmdRx running commands front =>
      rcases commands with rfl | rfl
      · rw [show World.control _ = w.control from rfl, running] at routing
        cases routing
      · intro e inPending entry member isWatched
        rw [Registry.registerWith_entries] at member
        rcases List.mem_append.mp member with old | new
        · exact before routing e inPending entry old isWatched
        · rw [List.mem_singleton.mp new] at isWatched ⊢
          exact steady.applied rfl running c dims reply cmdRx.buf front isWatched e inPending
  | @appliedDeregister loop id cmdRx running commands front =>
      intro e inPending entry member
      exact before routing e inPending entry ((Registry.deregister_sublist _ id).subset member)
  | @handed answers e bus loop entry resume taken member eligible shape =>
      obtain ⟨-, -, sameRegistry, samePending, -⟩ := next_frame taken
      show ∀ e ∈ bus.pending, ∀ entry ∈ bus.registry.entries, watched entry.id entry.consumer →
        ¬ Eligible consumer e entry
      rw [samePending, sameRegistry]
      exact before (routing_of_next taken)
  | @returned answers e bus loop registry taken shape nobody =>
      obtain ⟨-, -, -, samePending, -⟩ := next_frame taken
      intro e' inPending
      apply refused_sameShape builtIn shape
      intro entry member isWatched
      rcases EvictingQueue.mem_of_mem_push inPending with old | rfl
      · exact before (routing_of_next taken) e' (samePending ▸ old) entry member isWatched
      · rw [← steady.answers answers rfl entry member isWatched]
        exact nobody entry member
  | tookPending running empty =>
      intro e inPending
      cases inPending
  | pendingDone running => exact before (by rw [running]; rfl)
  | finished running done => cases routing
  | @resumed loop resume latency consuming =>
      have was : w.control.routing = true := by
        rw [consuming]
        cases loop <;> first | rfl | cases routing
      intro e inPending
      exact refused_sameShape builtIn (sound _ _ consuming _) (before was e inPending)
  | dropped suspended => cases routing
  | _ => exact before routing

/-! ## What the watched have been handed, nothing older is for them -/

/-- The envelopes `got` went to the watched consumers. -/
structure InTurn (consumer : Consumer (Stamped M) C) (watched : Nat → C → Prop) (w : World F I M C)
    (got : List (Parcel M)) : Prop where
  swept : w.control.routing = true → NoneWaiting consumer watched w
  /-- They take none of the older ones that are still here. -/
  overtakes : ∀ entry ∈ w.bus.registry.entries, watched entry.id entry.consumer → ∀ later ∈ got,
    ∀ e ∈ w.line, e.serial < later.serial → ¬ Eligible consumer e entry
  increasing : Increasing Envelope.serial got

omit [Inhabited I] [Message M] in
/-- An entry was there, but for dimension states, or the step makes it. -/
theorem Move.entry_origin {w w' : World F I M C} {a : Action F I M C} {es : List (Event M)}
    (move : Move w a w' es) (sound : ResumeSound w) {entry : RegistrationEntry F I (Stamped M) C}
    (member : entry ∈ w'.bus.registry.entries) :
    (∃ old ∈ w.bus.registry.entries, entry.skeleton = old.skeleton) ∨
      ∃ dims, entry = ⟨w.bus.registry.nextId, entry.consumer, dims.map DimSpec.entry⟩ ∧
        (a = .registerConsumer entry.consumer dims ∨
          ∃ reply rest, a = .takeCmd ∧ w.bus.cmdRx.buf = .register entry.consumer dims reply :: rest) := by
  have feedback : w.bus.registry.SameShape w'.bus.registry →
      ∃ old ∈ w.bus.registry.entries, entry.skeleton = old.skeleton := by
    intro shape
    obtain ⟨old, inEntries, same⟩ := shape.mem member
    exact ⟨old, inEntries, same⟩
  cases move with
  | @registered consumer dims idle =>
      have member : entry ∈ (w.bus.registry.registerWith consumer dims).registry.entries := member
      rw [Registry.registerWith_entries] at member
      rcases List.mem_append.mp member with old | new
      · exact Or.inl ⟨entry, old, rfl⟩
      · cases List.mem_singleton.mp new
        exact Or.inr ⟨dims, rfl, Or.inl rfl⟩
  | @appliedRegister loop consumer dims reply cmdRx running commands front =>
      have member : entry ∈ (w.bus.registry.registerWith consumer dims).registry.entries := member
      rw [Registry.registerWith_entries] at member
      rcases List.mem_append.mp member with old | new
      · exact Or.inl ⟨entry, old, rfl⟩
      · cases List.mem_singleton.mp new
        exact Or.inr ⟨dims, rfl, Or.inr ⟨reply, cmdRx.buf, rfl, front⟩⟩
  | @deregistered id idle => exact Or.inl ⟨entry, (Registry.deregister_sublist _ id).subset member, rfl⟩
  | @appliedDeregister loop id cmdRx running commands front =>
      exact Or.inl ⟨entry, (Registry.deregister_sublist _ id).subset member, rfl⟩
  | handed taken inEntries eligible shape =>
      obtain ⟨-, -, sameRegistry, -, -⟩ := next_frame taken
      apply Or.inl (feedback _)
      show Registry.SameShape _ (Bus.registry _)
      rw [sameRegistry]
      exact .refl _
  | returned taken shape nobody => exact Or.inl (feedback shape)
  | resumed consuming => exact Or.inl (feedback (sound _ _ consuming _))
  | _ => exact Or.inl ⟨entry, member, rfl⟩

variable {capacity cap : Nat} {router : Router} {w : World F I M C} {t : List (Event M)}
  {ok : World F I M C → List (Event M) → Action F I M C → Prop} {consumer : Consumer (Stamped M) C}

omit [Inhabited I] in
theorem accepted_of_handed (runs : Runs step ok (init capacity router cap) w t) {id : Nat} {e : Parcel M}
    (handed : Event.handed id e ∈ t) : e ∈ t.filterMap Event.accepted? := by
  have out : e ∈ settled t := by
    rw [settled, Multiset.mem_add, Multiset.mem_add]
    exact Or.inl (Or.inl (List.mem_map_of_mem (f := Prod.snd) (Event.mem_filterMap_handed.mpr handed)))
  rw [← Multiset.mem_coe, ← (conserved runs).1]
  exact Multiset.mem_add.mpr (Or.inr out)

omit [Inhabited I] in
/-- No envelope is handed over twice. -/
theorem handed_nodup (runs : Runs step ok (init capacity router cap) w t) :
    ((t.filterMap Event.handed?).map fun h => h.2.serial).Nodup := by
  obtain ⟨balance, stamped⟩ := conserved runs
  have among : (((t.filterMap Event.handed?).map Prod.snd : List (Parcel M)) : Multiset (Parcel M)) ≤
      ↑(t.filterMap Event.accepted?) := by
    rw [← balance, settled, add_assoc]
    exact (Multiset.le_add_right _ _).trans (Multiset.le_add_left _ _)
  have serials := Multiset.map_le_map (f := Envelope.serial) among
  rw [Multiset.map_coe, Multiset.map_coe, stamped, List.map_map] at serials
  exact Multiset.coe_nodup.mp (Multiset.nodup_of_le serials (Multiset.coe_nodup.mpr List.nodup_range))

omit [Inhabited I] in
theorem serial_lt_sent (runs : Runs step ok (init capacity router cap) w t) {e : Parcel M}
    (accepted : e ∈ t.filterMap Event.accepted?) : e.serial < w.sent := by
  rw [← List.mem_range, ← (conserved runs).2]
  exact List.mem_map_of_mem accepted

omit [Inhabited I] in
/-- What was handed over is not inside any more. -/
theorem handed_not_in_line (runs : Runs step ok (init capacity router cap) w t) {id : Nat} {e x : Parcel M}
    (handed : Event.handed id e ∈ t) (inside : x ∈ w.line) : x.serial ≠ e.serial := by
  intro same
  have distinct : Multiset.Nodup (w.held + settled t) := by
    rw [(conserved runs).1]
    exact Multiset.coe_nodup.mpr (accepted_increasing runs).nodup
  have inHeld : x ∈ w.held := by
    simp only [held, Multiset.mem_add, Multiset.mem_coe]
    simp only [line, List.mem_append] at inside
    rcases inside with (inPending | inHand) | inChannel
    · exact Or.inl (Or.inr inPending)
    · exact Or.inr inHand
    · exact Or.inl (Or.inl inChannel)
  have out : e ∈ settled t := by
    rw [settled, Multiset.mem_add, Multiset.mem_add]
    exact Or.inl (Or.inl (List.mem_map_of_mem (f := Prod.snd) (Event.mem_filterMap_handed.mpr handed)))
  -- equal serials: the same envelope
  have one : x = e := by
    have accepted := accepted_of_handed runs handed
    have accepted' := (line_in_order runs).subset inside
    have stamped : ((t.filterMap Event.accepted?).map Envelope.serial).Nodup :=
      (conserved runs).2 ▸ List.nodup_range
    exact List.inj_on_of_nodup_map stamped accepted' accepted same
  subst one
  exact Multiset.disjoint_left.mp (Multiset.nodup_add.mp distinct).2.2 inHeld out

omit [Inhabited I] in
/-- Messages are handed to ids that have been given out. -/
theorem handed_below (runs : Runs step ok (init capacity router cap) w t)
    (few : (t.filterMap Event.registered?).length < 2 ^ 64) {id : Nat} {e : Parcel M}
    (handed : Event.handed id e ∈ t) : id < w.bus.registry.nextId := by
  have given : id ∈ t.filterMap Event.registered? := by
    revert few handed
    apply runs.invariant_reached (P := fun _ t => (t.filterMap Event.registered?).length < 2 ^ 64 →
      Event.handed id e ∈ t → id ∈ t.filterMap Event.registered?)
    · intro _ handed
      cases handed
    · intro w t a w' es before ih _ stepped few handed
      rw [List.filterMap_append, List.length_append] at few
      rw [List.filterMap_append, List.mem_append]
      left
      rcases List.mem_append.mp handed with earlier | now
      · exact ih (by omega) earlier
      · obtain ⟨-, -, -, -, -, -, entry, member, rfl, -⟩ := (move_of_step stepped).handed_cases now
        obtain ⟨range, sound⟩ := idsSound before (by omega)
        rw [range, List.mem_range]
        exact sound.below entry member
  rw [(idsSound runs few).1, List.mem_range] at given
  exact given

omit [F32 F] [Inhabited I] [Message M] in
/-- What the bus still holds once `later` is taken from the line, but not behind it, was pending. -/
theorem Routes.older_pending {w w' : World F I M C} {es : List (Event M)} {later e : Parcel M}
    (routes : Routes w w' es later) (increasing : Increasing Envelope.serial w.line) (inLine : e ∈ w'.line)
    (older : e.serial < later.serial) : e ∈ w.bus.pending := by
  have cut : w.line = w.bus.pending ++ later :: (w'.control.rest ++ w'.bus.rx.buf) := by
    rcases routes.taken with ⟨iterator, channel⟩ | ⟨none, none', channel⟩
    · rw [line, iterator, channel, List.append_assoc]
      rfl
    · rw [line, none, none', channel, List.append_nil]
      rfl
  have behind : ∀ x ∈ w'.control.rest ++ w'.bus.rx.buf, later.serial < x.serial := by
    rw [cut] at increasing
    exact (List.pairwise_cons.mp (List.pairwise_append.mp increasing).2.1).1
  rw [line, List.append_assoc, List.mem_append] at inLine
  rcases inLine with inPending | inRest
  · rcases routes.pending with same | pushed
    · exact same ▸ inPending
    · rcases EvictingQueue.mem_of_mem_push (pushed ▸ inPending) with old | rfl
      · exact old
      · exact absurd older (Nat.lt_irrefl _)
  · exact absurd older (Nat.lt_asymm (behind e inRest))

/-- What a step hands to the watched: nothing, or the one envelope it routes. -/
def HandsOver (consumer : Consumer (Stamped M) C) (watched : Nat → C → Prop) (w : World F I M C)
    (es : List (Event M)) (more : List (Parcel M)) : Prop :=
  more = [] ∨ ∃ entry ∈ w.bus.registry.entries, watched entry.id entry.consumer ∧
    ∃ e, more = [e] ∧ Event.handed entry.id e ∈ es ∧ Eligible consumer e entry

/-- **Step by step, the watched get what they get in the order of the sends.**  Consumers
that are registered later have not been handed anything. -/
theorem InTurn.step (before : Runs step ok (init capacity router cap) w t) {watched : Nat → C → Prop}
    {got more : List (Parcel M)} (turn : InTurn consumer watched w got)
    (out : ∀ e ∈ got, ∃ id, Event.handed id e ∈ t) (builtIn : WatchedBuiltIn watched w.bus.registry)
    {w' : World F I M C} {a : Action F I M C} {es : List (Event M)} (steady : Steady consumer watched w a)
    (move : Move w a w' es)
    (fresh : ∀ entry ∈ w'.bus.registry.entries, watched entry.id entry.consumer → got ++ more ≠ [] →
      ∃ old ∈ w.bus.registry.entries, entry.skeleton = old.skeleton)
    (hands : HandsOver consumer watched w es more) : InTurn consumer watched w' (got ++ more) where
  swept := move.noneWaiting steady (resumeSound before) builtIn turn.swept
  overtakes := by
    intro entry member isWatched later handed e inLine older
    obtain ⟨old, inEntries, same⟩ := fresh entry member isWatched (List.ne_nil_of_mem handed)
    have sameId : entry.id = old.id := congrArg Prod.fst same
    have sameConsumer : entry.consumer = old.consumer := congrArg (fun s => s.2.1) same
    rw [sameId, sameConsumer] at isWatched
    rw [eligible_congr consumer e same (builtIn old inEntries isWatched)]
    rcases List.mem_append.mp handed with earlier | now
    · obtain ⟨id, wasHanded⟩ := out later earlier
      rcases List.mem_append.mp (move.line_sublist.subset inLine) with inside | sent
      · exact turn.overtakes old inEntries isWatched later earlier e inside older
      · have was := serial_lt_sent before (accepted_of_handed before wasHanded)
        rcases move.stamps with ⟨none, -⟩ | ⟨x, one, serial, -⟩
        · rw [none] at sent
          cases sent
        · rw [one] at sent
          rw [List.mem_singleton.mp sent, serial] at older
          omega
    · -- the step that hands it over: what is older is pending, and nobody takes it
      rcases hands with none | ⟨receiver, -, -, x, one, event, -⟩
      · rw [none] at now
        cases now
      · rw [one] at now
        cases List.mem_singleton.mp now
        obtain ⟨answers, bus, loop, -, taken, routed, -⟩ := move.handed_cases event
        rcases move.routes_or_rests with ⟨x, routes⟩ | rests
        · have same : later = x := by
            have one := routes.routed
            rw [routed] at one
            exact List.singleton_inj.mp one
          subst same
          have increasing := (accepted_increasing before).sublist (line_in_order before)
          exact turn.swept (routing_of_next taken) e (routes.older_pending increasing inLine older) old inEntries
            isWatched
        · have none := rests.routed
          rw [routed] at none
          cases none
  increasing := by
    rcases hands with none | ⟨entry, member, isWatched, e, one, event, eligible⟩
    · rw [none, List.append_nil]
      exact turn.increasing
    · rw [one]
      apply turn.increasing.concat
      intro earlier handed
      obtain ⟨id, wasHanded⟩ := out earlier handed
      have inside : e ∈ w.line := by
        obtain ⟨answers, bus, loop, -, -, routed, -⟩ := move.handed_cases event
        rcases move.routes_or_rests with ⟨x, routes⟩ | rests
        · have one := routes.routed
          rw [routed] at one
          have same : e = x := List.singleton_inj.mp one
          exact same ▸ routes.mem_line
        · have none := rests.routed
          rw [routed] at none
          cases none
      have apart := handed_not_in_line before wasHanded inside
      -- an older one would have been refused
      by_contra notEarlier
      exact turn.overtakes entry member isWatched earlier handed e inside (by omega) eligible

/-! ## Whole runs -/

/-- The consumer registered under `id`. -/
def Named (id : Nat) (id' : Nat) (_ : C) : Prop := id' = id

/-- What a timely step in the setting hands over under `id`. -/
theorem handsOver_named {w w' : World F I M C} {a : Action F I M C} {es : List (Event M)}
    (setting : Setting consumer a) (move : Move w a w' es) (id : Nat) :
    HandsOver consumer (Named id) w es (es.filterMap (Event.handedTo id)) := by
  by_cases now : ∃ e, Event.handed id e ∈ es
  · obtain ⟨e, now⟩ := now
    obtain ⟨answers, bus, loop, rfl, -, same, entry, member, named, eligible⟩ := move.handed_cases now
    cases setting
    refine Or.inr ⟨entry, member, named, e, ?_, named.symm ▸ now, eligible⟩
    rw [same, List.filterMap_cons_none (by rfl), List.filterMap_cons_some (by rw [Event.handedTo, if_pos rfl])]
    rfl
  · left
    apply List.eq_nil_iff_forall_not_mem.mpr
    intro e member
    exact now ⟨e, Event.mem_filterMap_handedTo.mp member⟩

theorem steady_of_inTime {w : World F I M C} {a : Action F I M C} {watched : Nat → C → Prop}
    (inTime : InTime consumer w t a) : Steady consumer watched w a where
  answers := by
    rintro answers rfl entry member isWatched e
    cases inTime.1
    exact Iff.rfl
  called := by
    rintro rfl e inPending entry member isWatched
    exact inTime.2 e inPending entry member
  applied := by
    rintro rfl waiting c dims reply rest front isWatched
    exact inTime.2 waiting c dims reply rest front

theorem inTurn (runs : Runs step (InTime consumer) (init capacity router cap) w t)
    (few : (t.filterMap Event.registered?).length < 2 ^ 64) (id : Nat) :
    InTurn consumer (Named id) w (t.filterMap (Event.handedTo id)) := by
  revert few
  apply runs.invariant_reached (P := fun w t => (t.filterMap Event.registered?).length < 2 ^ 64 →
    InTurn consumer (Named id) w (t.filterMap (Event.handedTo id)))
  · intro _
    refine ⟨?_, ?_, List.Pairwise.nil⟩
    · intro routing
      cases routing
    · intro entry member
      cases member
  · intro w t a w' es before ih inTime stepped few
    have move := move_of_step stepped
    rw [List.filterMap_append, List.length_append] at few
    rw [List.filterMap_append]
    have builtIn : WatchedBuiltIn (Named id) w.bus.registry :=
      fun entry member _ => (inTime_invariant before).1.entries entry member
    apply (ih (by omega)).step before _ builtIn (steady_of_inTime inTime) move _ (handsOver_named inTime.1 move id)
    · exact fun e handed => ⟨id, Event.mem_filterMap_handedTo.mp handed⟩
    · intro entry member named something
      rcases move.entry_origin (resumeSound before) member with old | ⟨dims, new, -⟩
      · exact old
      · -- nothing has been handed to it yet
        have below : id < w.bus.registry.nextId := by
          obtain ⟨e, handed⟩ := List.exists_mem_of_ne_nil _ something
          rw [← List.filterMap_append, Event.mem_filterMap_handedTo, List.mem_append] at handed
          rcases handed with earlier | now
          · exact handed_below before (by omega) earlier
          · obtain ⟨-, -, -, -, -, -, old, inEntries, sameId, -⟩ := move.handed_cases now
            rw [← sameId]
            exact (idsSound before (by omega)).2.below old inEntries
        have isId : entry.id = id := named
        have isNext : entry.id = w.bus.registry.nextId := by rw [new]
        omega

/-- **Each consumer gets its messages in the order of their sends.**  With answers that
do not change and built-in dimensions, and fewer than `2 ^ 64` registrations: in every
interleaving of timely steps -- sends, registrations and deregistrations at any time,
`drain` calls, cancelled ones among them, and `dispatch` calls -- what is handed to the consumer
registered under `id` is a part of the accepted envelopes, in the order they were
accepted in. -/
theorem consumer_in_order (runs : Runs step (InTime consumer) (init capacity router cap) w t)
    (few : (t.filterMap Event.registered?).length < 2 ^ 64) (id : Nat) :
    List.Sublist (t.filterMap (Event.handedTo id)) (t.filterMap Event.accepted?) := by
  apply sublist_of_increasing (inTurn runs few id).increasing (accepted_increasing runs)
  intro e handed
  exact accepted_of_handed runs (Event.mem_filterMap_handedTo.mp handed)

/-! ## Without `dispatch` -/

/-- Steps in the setting, `dispatch` never being called. -/
def DrainOnly (consumer : Consumer (Stamped M) C) (_ : World F I M C) (_ : List (Event M))
    (a : Action F I M C) : Prop :=
  Setting consumer a ∧ a ≠ .dispatch

omit [Inhabited I] in
theorem undispatched_not_inDispatch (runs : Runs step ok (init capacity router cap) w t)
    (undispatched : ∀ w t a, ok w t a → a ≠ .dispatch) : ¬ InDispatch w := by
  apply runs.invariant (P := fun w _ => ¬ InDispatch w)
  · exact not_inDispatch_of_idle rfl
  · intro w t a w' es ih allowed stepped inDispatch
    rcases (move_of_step stepped).inDispatch_before inDispatch with called | before
    · exact undispatched w t a allowed called
    · exact ih before

/-- With `drain` alone, nobody comes too late. -/
theorem inTime_of_drainOnly (runs : Runs step (DrainOnly consumer) (init capacity router cap) w t) :
    Runs step (InTime consumer) (init capacity router cap) w t := by
  apply runs.mono_reached
  intro w t a before drained
  refine ⟨drained.1, ?_⟩
  cases a with
  | dispatch => exact absurd rfl drained.2
  | takeCmd =>
      intro waiting
      exact absurd (Or.inl waiting) (undispatched_not_inDispatch before fun _ _ _ drained => drained.2)
  | _ => trivial

/-! ## An older message after a younger one -/

/-- Two messages, between which the consumer for both registers with a running `dispatch`. -/
def lateForOne : List (Action ℚ Unit BaseMessage String) :=
  [.dispatch, .send ⟨"radio"⟩ ping, .takeEnvelope obliging, .sendCmd (.register "listener" [] 0), .takeCmd,
    .send ⟨"radio"⟩ ping, .takeEnvelope obliging, .resume 0, .drop, .drain, .advance, .takeEnvelope obliging]

/-- The condition cannot be left out. -/
theorem late_listener_out_of_order :
    ∃ w t, Runs step (fun _ _ a => Setting obliging a)
        (init 4 .affinity 8 : World ℚ Unit BaseMessage String) w t ∧
      (t.filterMap (Event.handedTo 0)).map Envelope.serial = [1, 0] := by
  have setting : ∀ a ∈ lateForOne, Setting obliging a := by simp [lateForOne, Setting]
  exact ⟨_, _, runs_outcome_within lateForOne setting (by decide +kernel), by decide +kernel⟩

/-- The same messages, the consumer being there from the start. -/
def thereInTime : List (Action ℚ Unit BaseMessage String) :=
  [.registerConsumer "listener" [], .send ⟨"radio"⟩ ping, .drain, .advance, .advance, .takeEnvelope obliging,
    .send ⟨"radio"⟩ ping, .resume 0, .takeEnvelope obliging]

def servedInTime : World ℚ Unit BaseMessage String × List (Event BaseMessage) :=
  outcome step (init 4 .affinity 8) thereInTime

theorem consumer_in_order_inTime :
    (servedInTime.2.filterMap (Event.handedTo 0)).map Envelope.serial = [0, 1] ∧
      List.Sublist (servedInTime.2.filterMap (Event.handedTo 0))
        (servedInTime.2.filterMap Event.accepted?) := by
  have drained : ∀ a ∈ thereInTime, Setting obliging a ∧ a ≠ .dispatch := by simp [thereInTime, Setting]
  have runs : Runs step (DrainOnly obliging) (init 4 .affinity 8) servedInTime.1 servedInTime.2 :=
    runs_outcome_within thereInTime drained (by decide +kernel)
  exact ⟨by decide +kernel, consumer_in_order (inTime_of_drainOnly runs) (by decide +kernel) 0⟩

end World

end Jackfield
