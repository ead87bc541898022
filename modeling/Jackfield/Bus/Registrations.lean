/-
# Jackfield.Bus.Registrations -- ids over whole runs

A step of a world registers one consumer, or removes one, or leaves the registry
in shape (`Move.registry_cases`, and for one entry `Move.entry_cases`); this needs that
a suspended `route` will leave it in shape too (`ResumeSound`).

So, while the `u64` counter has not wrapped, the ids given out are `0, 1, 2, …`,
those present increase along the vector, and a deregistration removes exactly the
consumer it names, if it is there, and otherwise nothing: `ids_sound`.
-/
import Jackfield.Bus.Conservation

namespace Jackfield

set_option autoImplicit false

variable {F I M C : Type}

namespace Event

def registered? : Event M → Option Nat
  | .registered id => some id
  | _ => none

theorem mem_filterMap_registered {t : List (Event M)} {id : Nat} :
    id ∈ t.filterMap registered? ↔ registered id ∈ t := by
  apply mem_filterMap_iff
  intro event id
  cases event <;> simp [registered?]

def replied? : Event M → Option (Nat × Nat)
  | .replied r id => some (r, id)
  | _ => none

theorem mem_filterMap_replied {t : List (Event M)} {r id : Nat} :
    (r, id) ∈ t.filterMap replied? ↔ replied r id ∈ t := by
  have reads : ∀ (event : Event M) (p : Nat × Nat), replied? event = some p ↔ event = replied p.1 p.2 := by
    rintro event ⟨r, id⟩
    cases event <;> simp [replied?]
  exact mem_filterMap_iff reads

end Event

namespace World

open Machine

variable [F32 F]

/-- What `route` will do to the registry when `consume` is done is feedback only. -/
def ResumeSound (w : World F I M C) : Prop :=
  ∀ loop resume, w.control = .consuming loop resume → ∀ latency, w.bus.registry.SameShape (resume latency)

theorem Move.resumeSound {w w' : World F I M C} {a : Action F I M C} {es : List (Event M)}
    (move : Move w a w' es) (sound : ResumeSound w) : ResumeSound w' := by
  cases move with
  | sent queued => exact sound
  | commanded queued => exact sound
  | handles same sameCmds handle => exact sound
  | handed taken member eligible shape =>
      intro loop' resume' consuming latency
      cases consuming
      obtain ⟨-, -, sameRegistry, -, -⟩ := next_frame taken
      show Registry.SameShape (Bus.registry _) _
      rw [sameRegistry]
      exact shape latency
  | registered idle =>
      intro loop resume consuming
      cases idle.symm.trans consuming
  | deregistered idle =>
      intro loop resume consuming
      cases idle.symm.trans consuming
  | appliedRegister running commands front =>
      intro loop resume consuming
      cases running.symm.trans consuming
  | appliedDeregister running commands front =>
      intro loop resume consuming
      cases running.symm.trans consuming
  | _ =>
      intro loop resume consuming
      cases consuming

/-- **What a step does to the registry**: one registration, one deregistration, or feedback. -/
theorem Move.registry_cases {w w' : World F I M C} {a : Action F I M C} {es : List (Event M)}
    (move : Move w a w' es) (sound : ResumeSound w) :
    (es.filterMap Event.registered? = [w.bus.registry.nextId] ∧
        ∃ consumer dims, w'.bus.registry = (w.bus.registry.registerWith consumer dims).registry) ∨
      (es.filterMap Event.registered? = [] ∧
        ((∃ id, w'.bus.registry = (w.bus.registry.deregister id).1) ∨
          w.bus.registry.SameShape w'.bus.registry)) := by
  cases move with
  | @registered consumer dims idle => exact Or.inl ⟨rfl, consumer, dims, rfl⟩
  | @appliedRegister loop consumer dims reply cmdRx running commands front =>
      exact Or.inl ⟨rfl, consumer, dims, rfl⟩
  | @deregistered id idle => exact Or.inr ⟨rfl, Or.inl ⟨id, rfl⟩⟩
  | @appliedDeregister loop id cmdRx running commands front => exact Or.inr ⟨rfl, Or.inl ⟨id, rfl⟩⟩
  | handed taken member eligible shape =>
      obtain ⟨-, -, sameRegistry, -, -⟩ := next_frame taken
      refine Or.inr ⟨rfl, Or.inr ?_⟩
      show Registry.SameShape _ (Bus.registry _)
      rw [sameRegistry]
      exact .refl _
  | returned taken shape nobody =>
      exact Or.inr ⟨Event.filterMap_map_none (fun _ => rfl) _, Or.inr shape⟩
  | resumed consuming => exact Or.inr ⟨rfl, Or.inr (sound _ _ consuming _)⟩
  | @commanded cmd cmdRx queued => exact Or.inr ⟨by cases cmd <;> rfl, Or.inr (.refl _)⟩
  | dropped suspended => exact Or.inr ⟨Event.filterMap_map_none (fun _ => rfl) _, Or.inr (.refl _)⟩
  | _ => exact Or.inr ⟨rfl, Or.inr (.refl _)⟩

/-- **Where an entry comes from**: it was there, up to its weights, or the owner has just
registered it, or it answers the command that was in front. -/
theorem Move.entry_cases {w w' : World F I M C} {a : Action F I M C} {es : List (Event M)}
    (move : Move w a w' es) (sound : ResumeSound w) {entry : RegistrationEntry F I (Stamped M) C}
    (member : entry ∈ w'.bus.registry.entries) :
    (∃ old ∈ w.bus.registry.entries, entry.id = old.id ∧ entry.consumer = old.consumer) ∨
      (∃ dims, a = .registerConsumer entry.consumer dims) ∨
      (∃ dims r rest, a = .takeCmd ∧ w.bus.cmdRx.buf = .register entry.consumer dims r :: rest ∧
        es = [.registered entry.id, .replied r entry.id]) := by
  have feedback : w.bus.registry.SameShape w'.bus.registry →
      ∃ old ∈ w.bus.registry.entries, entry.id = old.id ∧ entry.consumer = old.consumer := by
    intro shape
    obtain ⟨old, inEntries, same⟩ := shape.mem member
    exact ⟨old, inEntries, congrArg Prod.fst same, congrArg (fun s => s.2.1) same⟩
  cases move with
  | @registered consumer dims idle =>
      rw [Registry.registerWith_entries] at member
      rcases List.mem_append.mp member with old | new
      · exact Or.inl ⟨entry, old, rfl, rfl⟩
      · rw [List.mem_singleton.mp new]
        exact Or.inr (Or.inl ⟨dims, rfl⟩)
  | @appliedRegister loop consumer dims r cmdRx running commands front =>
      rw [Registry.registerWith_entries] at member
      rcases List.mem_append.mp member with old | new
      · exact Or.inl ⟨entry, old, rfl, rfl⟩
      · rw [List.mem_singleton.mp new]
        exact Or.inr (Or.inr ⟨dims, r, _, rfl, front, rfl⟩)
  | @deregistered id idle =>
      exact Or.inl ⟨entry, (Registry.deregister_sublist _ id).subset member, rfl, rfl⟩
  | @appliedDeregister loop id cmdRx running commands front =>
      exact Or.inl ⟨entry, (Registry.deregister_sublist _ id).subset member, rfl, rfl⟩
  | handed taken eligibleMember eligible shape =>
      apply Or.inl ∘ feedback
      show Registry.SameShape _ (Bus.registry _)
      rw [(next_frame taken).2.2.1]
      exact .refl _
  | returned taken shape nobody => exact Or.inl (feedback shape)
  | resumed consuming => exact Or.inl (feedback (sound _ _ consuming _))
  | _ => exact Or.inl ⟨entry, member, rfl, rfl⟩

variable [Message M] {ok : World F I M C → List (Event M) → Action F I M C → Prop} {capacity cap : Nat}
  {router : Router} {w : World F I M C} {t : List (Event M)}

theorem resumeSound (runs : Runs step ok (init capacity router cap) w t) : ResumeSound w := by
  apply runs.invariant (P := fun w _ => ResumeSound w)
  · intro loop resume consuming
    cases consuming
  · intro w t a w' es ih allowed stepped
    exact (move_of_step stepped).resumeSound ih

/-- Below the wrap-round: the ids given out are the numbers below the counter, in
order, and those present are sound. -/
theorem idsSound (runs : Runs step ok (init capacity router cap) w t)
    (few : (t.filterMap Event.registered?).length < 2 ^ 64) :
    t.filterMap Event.registered? = List.range w.bus.registry.nextId ∧ w.bus.registry.IdsSound := by
  revert few
  apply runs.invariant_reached
  · intro _
    exact ⟨rfl, .new⟩
  · intro w t a w' es before ih allowed stepped few
    rw [List.filterMap_append, List.length_append] at few
    obtain ⟨given, sound⟩ := ih (by omega)
    rw [given, List.length_range] at few
    rw [List.filterMap_append, given]
    rcases (move_of_step stepped).registry_cases (resumeSound before) with
      ⟨one, consumer, dims, same⟩ | ⟨none, ⟨id, same⟩ | shape⟩
    · rw [one, List.length_singleton] at few
      rw [one, same, Registry.registerWith_nextId, Nat.mod_eq_of_lt few, List.range_succ]
      exact ⟨rfl, sound.registerWith consumer dims few⟩
    · rw [none, same, List.append_nil]
      exact ⟨rfl, sound.deregister id⟩
    · rw [none, shape.1, List.append_nil]
      exact ⟨rfl, sound.sameShape shape⟩

omit [Message M] in
/-- The ids the bus answers with are among those it gives out. -/
theorem Move.replies_sublist {w w' : World F I M C} {a : Action F I M C} {es : List (Event M)}
    (move : Move w a w' es) :
    List.Sublist ((es.filterMap Event.replied?).map Prod.snd) (es.filterMap Event.registered?) := by
  rcases move.command_cases with ⟨-, silent⟩ | ⟨cmd, -, -, rfl, -⟩ | ⟨consumer, dims, r, -, rfl, -⟩ |
    ⟨id, -, rfl, -⟩
  · have none : es.filterMap Event.replied? = [] := by
      apply List.eq_nil_iff_forall_not_mem.mpr
      rintro ⟨r, id⟩ member
      exact silent r id (Event.mem_filterMap_replied.mp member)
    rw [none]
    exact List.nil_sublist _
  · cases cmd <;> exact List.nil_sublist _
  · exact .refl _
  · exact .refl _

/-- The ids given out are `0, 1, 2, …`, as far as a `u64` can count them. -/
theorem ids_given (runs : Runs step ok (init capacity router cap) w t) :
    ∃ n, t.filterMap Event.registered? = (List.range n).map (· % 2 ^ 64) ∧
      w.bus.registry.nextId = n % 2 ^ 64 := by
  apply runs.invariant_reached (P := fun w t => ∃ n,
    t.filterMap Event.registered? = (List.range n).map (· % 2 ^ 64) ∧ w.bus.registry.nextId = n % 2 ^ 64)
  · exact ⟨0, rfl, rfl⟩
  · intro w t a w' es before ih _ stepped
    obtain ⟨n, given, next⟩ := ih
    rw [List.filterMap_append, given]
    rcases (move_of_step stepped).registry_cases (resumeSound before) with
      ⟨one, consumer, dims, same⟩ | ⟨none, ⟨id, same⟩ | shape⟩
    · refine ⟨n + 1, ?_, ?_⟩
      · rw [one, next, List.range_succ, List.map_append]
        rfl
      · rw [same, Registry.registerWith_nextId, next]
        omega
    · rw [none, same, List.append_nil]
      exact ⟨n, rfl, next⟩
    · rw [none, List.append_nil]
      exact ⟨n, rfl, shape.1 ▸ next⟩

theorem replies_among (runs : Runs step ok (init capacity router cap) w t) :
    List.Sublist ((t.filterMap Event.replied?).map Prod.snd) (t.filterMap Event.registered?) := by
  apply runs.invariant (P := fun _ t =>
    List.Sublist ((t.filterMap Event.replied?).map Prod.snd) (t.filterMap Event.registered?))
  · exact .refl _
  · intro w t a w' es ih _ stepped
    rw [List.filterMap_append, List.map_append, List.filterMap_append]
    exact ih.append (move_of_step stepped).replies_sublist

/-- As long as no id has been given out twice, no two calls are answered with the same. -/
theorem answers_apart (runs : Runs step ok (init capacity router cap) w t)
    (few : (t.filterMap Event.registered?).length ≤ 2 ^ 64) {r r' id : Nat}
    (answer : Event.replied r id ∈ t) (answer' : Event.replied r' id ∈ t) : r = r' := by
  have apart : ((t.filterMap Event.replied?).map Prod.snd).Nodup := by
    apply List.Nodup.sublist (replies_among runs)
    obtain ⟨n, given, -⟩ := ids_given runs
    rw [given, List.length_map, List.length_range] at few
    rw [given]
    apply List.Nodup.map_on _ List.nodup_range
    intro i below j below' same
    rw [List.mem_range] at below below'
    rwa [Nat.mod_eq_of_lt (by omega), Nat.mod_eq_of_lt (by omega)] at same
  have same := List.inj_on_of_nodup_map apart (Event.mem_filterMap_replied.mpr answer)
    (Event.mem_filterMap_replied.mpr answer') rfl
  exact congrArg Prod.fst same

/-- **Ids are sound over whole runs.**  In every interleaving with fewer than `2 ^ 64`
registrations, by the builder or by commands: the ids present increase along the
vector and stay below the counter; no two registrations were given the same id,
and the next one will be given a new one; and a deregistration, by the method or by
a command, removes exactly the consumer it names and says so, or finds nothing,
says so and changes nothing. -/
theorem ids_sound (runs : Runs step anyStep (init capacity router cap) w t)
    (few : (t.filterMap Event.registered?).length < 2 ^ 64) :
    (w.bus.registry.entries.map fun e => e.id).Pairwise (· < ·) ∧
      (∀ e ∈ w.bus.registry.entries, e.id < w.bus.registry.nextId) ∧
      (t.filterMap Event.registered?).Nodup ∧
      Event.registered w.bus.registry.nextId ∉ t ∧
      ∀ id, (w.bus.applyCmd (.deregister id)).1 = (w.bus.deregisterConsumer id).1 ∧
        ((∃ before entry after, w.bus.registry.entries = before ++ entry :: after ∧ entry.id = id ∧
            w.bus.deregisterConsumer id =
              ({ w.bus with registry := ⟨before ++ after, w.bus.registry.nextId⟩ }, true)) ∨
          ((∀ entry ∈ w.bus.registry.entries, entry.id ≠ id) ∧
            w.bus.deregisterConsumer id = (w.bus, false))) := by
  obtain ⟨given, sound⟩ := idsSound runs few
  refine ⟨sound.increasing, sound.below, ?_, ?_, ?_⟩
  · rw [given]
    exact List.nodup_range
  · rw [← Event.mem_filterMap_registered, given]
    simp
  · intro id
    refine ⟨rfl, ?_⟩
    rcases w.bus.registry.deregister_cases id sound.nodup with
      ⟨before, entry, after, cut, named, removed⟩ | ⟨absent, unchanged⟩
    · left
      refine ⟨before, entry, after, cut, named, ?_⟩
      rw [Bus.deregisterConsumer, removed]
    · right
      refine ⟨absent, ?_⟩
      rw [Bus.deregisterConsumer, unchanged]

/-- One consumer is registered by the builder, one by a command, and the first leaves. -/
def turnover : List (Action ℚ Unit BaseMessage String) :=
  [alarm, .sendCmd (.register "listener" [] 0), .drain, .takeCmd, .advance, .advance, .advance,
    .deregisterConsumer 0]

def afterTurnover : World ℚ Unit BaseMessage String × List (Event BaseMessage) :=
  outcome step (init 4 .blind 8) turnover

theorem ids_sound_turnover : (afterTurnover.2.filterMap Event.registered?).Nodup := by
  have runs : Runs step anyStep (init 4 .blind 8) afterTurnover.1 afterTurnover.2 :=
    runs_outcome_any turnover rfl
  exact (ids_sound runs (by decide +kernel)).2.2.1

end World

end Jackfield
