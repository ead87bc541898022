/-
# Jackfield.Bus.Requests -- registrations nobody can undo

Every queued `Register` belongs to one call, which waits for its answer or has been
dropped (`Tidy`).

The bus learns that the answer has no receiver only when it sends it, and by then
the consumer is registered.  So a call that is dropped while it waits, or before it
takes its answer out of the oneshot, leaves a consumer whose id nobody knows.
`registrations_undoable` says these two are the only ways: as long as neither
happens (`Attended`), whoever registered a consumer through a command has its id or
can still receive it -- and every other step breaks this.
-/
import Jackfield.Bus.Desk
import Jackfield.Bus.Registrations

namespace Jackfield

set_option autoImplicit false

variable {F I M C : Type}

open Machine

namespace Desk

theorem answered_of_silent (calls : Nat → Call F I M C) {es : List (Event M)}
    (silent : ∀ r id, Event.replied r id ∉ es) : answered calls es = calls := by
  funext r
  have nothing : es.findSome? (Event.answer r) = none := by
    apply List.findSome?_eq_none_iff.mpr
    intro event member
    cases event with
    | replied r' id => exact absurd member (silent r' id)
    | _ => rfl
  rw [answered, nothing]
  cases calls r <;> rfl

theorem answered_replied (calls : Nat → Call F I M C) (r id n : Nat) (r' : Nat) :
    answered calls [.registered n, .replied r id] r' =
      match calls r' with
      | .waiting => if r = r' then .replied id else .waiting
      | call => call := by
  have found : [Event.registered n, .replied r id].findSome? (Event.answer (M := M) r') =
      if r = r' then some id else none := by
    by_cases same : r = r' <;> simp [List.findSome?, Event.answer, same]
  rw [answered, found]
  by_cases same : r = r' <;> cases calls r' <;> simp [same]

/-- Only a call that waits changes. -/
theorem answered_eq_of_ne_waiting (calls : Nat → Call F I M C) (es : List (Event M)) {r : Nat}
    (busy : calls r ≠ .waiting) : answered calls es r = calls r := by
  rw [answered]
  cases call : calls r with
  | waiting => exact absurd call busy
  | _ => rfl

variable [F32 F] [Message M]

/-- What a call has been answered, the bus has just answered, or it had before. -/
theorem Move.answer_cases {d d' : Desk F I M C} {a : DeskAction F I M C} {es : List (Event M)}
    (move : Move d a d' es) {r id : Nat} (answer : d'.calls r = .replied id ∨ d'.calls r = .received id) :
    (d.calls r = .replied id ∨ d.calls r = .received id) ∨ Event.replied r id ∈ es := by
  rcases move.call_cases r with same | ⟨consumer, dims, -, -, now⟩ | ⟨-, -, now⟩ | ⟨id', -, was, now⟩ |
    ⟨-, -, now⟩ | ⟨-, -, now⟩ | ⟨id', -, replied, now⟩
  · rw [same] at answer
    exact Or.inl answer
  · rcases answer with answer | answer <;> cases now.symm.trans answer
  · rcases answer with answer | answer <;> cases now.symm.trans answer
  · rcases answer with answer | answer <;> cases now.symm.trans answer
    exact Or.inl (Or.inl was)
  · rcases answer with answer | answer <;> cases now.symm.trans answer
  · rcases answer with answer | answer <;> cases now.symm.trans answer
  · rcases answer with answer | answer <;> cases now.symm.trans answer
    exact Or.inr replied

/-! ## What is queued -/

/-- A queued `Register` carries the consumer of its own call; each call has one at
most, and waits for the answer or has been dropped. -/
structure Tidy (d : Desk F I M C) : Prop where
  stamped : ∀ consumer dims r, BusCmd.register consumer dims r ∈ d.world.bus.cmdRx.buf →
    consumer.call = some r
  apart : d.asked.Nodup
  suspended : d.closed = false → ∀ r ∈ d.asked, d.calls r = .waiting ∨ d.calls r = .dropped

omit [F32 F] [Message M] in
/-- Fewer calls are queued, and these are as before. -/
theorem Tidy.shrink {d d' : Desk F I M C} (tidy : Tidy d) (live : d.closed = false)
    (commands : ∀ cmd ∈ d'.world.bus.cmdRx.buf,
      cmd ∈ d.world.bus.cmdRx.buf ∨ ∃ id, cmd = .deregister id)
    (fewer : List.Sublist d'.asked d.asked) (same : ∀ r ∈ d'.asked, d'.calls r = d.calls r) : Tidy d' where
  stamped consumer dims r queued := by
    rcases commands _ queued with old | ⟨id, other⟩
    · exact tidy.stamped _ _ _ old
    · cases other
  apart := tidy.apart.sublist fewer
  suspended _ r queued := by
    rw [same r queued]
    exact tidy.suspended live r (fewer.subset queued)

omit [F32 F] [Message M] in
/-- A call that is not queued may change as it likes, one that is may be dropped. -/
theorem Tidy.setCall {d : Desk F I M C} (tidy : Tidy d) {r : Nat} {call : Call F I M C}
    (allowed : d.closed = false → r ∈ d.asked → call = .waiting ∨ call = .dropped) : Tidy (d.setCall r call) := by
  refine ⟨tidy.stamped, tidy.apart, ?_⟩
  intro live r' queued
  rw [setCall_calls]
  split
  · rename_i same
    exact allowed live (same ▸ queued)
  · exact tidy.suspended live r' queued

omit [F32 F] [Message M] in
/-- A call that is neither waiting nor dropped is not queued. -/
theorem Tidy.not_asked {d : Desk F I M C} (tidy : Tidy d) (live : d.closed = false) {r : Nat}
    (busy : ¬ (d.calls r = .waiting ∨ d.calls r = .dropped)) : r ∉ d.asked :=
  fun queued => busy (tidy.suspended live r queued)

omit [F32 F] [Message M] in
/-- A call sends its command. -/
theorem Tidy.submitted {d : Desk F I M C} (tidy : Tidy d) {r : Nat} {consumer : C}
    {dims : List (DimSpec F I (Stamped M))} {cmdRx : Channel (BusCmd F I (Stamped M) (Boxed C))}
    (sending : d.calls r = .sending consumer dims) (live : d.closed = false)
    (queued : cmdRx.buf = d.world.bus.cmdRx.buf ++ [.register ⟨some r, consumer⟩ dims r]) :
    Tidy ({ d with world := { d.world with bus := { d.world.bus with cmdRx := cmdRx } } }.setCall r .waiting) := by
  have notQueued : r ∉ d.asked := tidy.not_asked live (by simp [sending])
  have nowAsked : cmdRx.buf.filterMap BusCmd.reply? = d.asked ++ [r] := by
    rw [queued, List.filterMap_append]
    rfl
  refine ⟨?_, ?_, ?_⟩
  · intro consumer' dims' r' member
    have member : BusCmd.register consumer' dims' r' ∈ cmdRx.buf := member
    rw [queued] at member
    rcases List.mem_append.mp member with old | new
    · exact tidy.stamped _ _ _ old
    · cases List.mem_singleton.mp new
      rfl
  · show (cmdRx.buf.filterMap BusCmd.reply?).Nodup
    rw [nowAsked, List.nodup_append_comm]
    exact List.nodup_cons.mpr ⟨notQueued, tidy.apart⟩
  · intro _ r' member
    have member : r' ∈ cmdRx.buf.filterMap BusCmd.reply? := member
    rw [nowAsked] at member
    rw [setCall_calls]
    by_cases same : r' = r
    · simp [same]
    · rw [if_neg same]
      rcases List.mem_append.mp member with old | new
      · exact tidy.suspended live r' old
      · exact absurd (List.mem_singleton.mp new) same

/-- The bus works: it applies the front command, or gets one that is nobody's call. -/
theorem Tidy.worked {d : Desk F I M C} (tidy : Tidy d) {a : Action F I M (Boxed C)}
    {world : World F I M (Boxed C)} {es : List (Event M)} (live : d.closed = false) (plain : a.plain = true)
    (stepped : d.world.step a = some (world, es)) :
    Tidy { d with world := world, calls := answered d.calls es } := by
  rcases (World.move_of_step stepped).command_cases with ⟨sameBuf, silent⟩ | ⟨cmd, rfl, queued, rfl, -⟩ |
    ⟨consumer, dims, r, front, rfl, -⟩ | ⟨id, front, rfl, -⟩
  · apply tidy.shrink live
    · intro cmd member
      rw [show (Desk.world _).bus.cmdRx.buf = _ from sameBuf] at member
      exact Or.inl member
    · simp [asked, sameBuf]
    · intro r _
      exact congrFun (answered_of_silent d.calls silent) r
  · cases cmd with
    | register consumer dims r => cases plain
    | deregister id =>
        apply tidy.shrink live
        · intro cmd member
          rw [show (Desk.world _).bus.cmdRx.buf = _ from queued] at member
          rcases List.mem_append.mp member with old | new
          · exact Or.inl old
          · exact Or.inr ⟨id, List.mem_singleton.mp new⟩
        · simp [asked, queued, BusCmd.reply?]
        · intro r _
          exact congrFun (answered_of_silent d.calls (by simp [BusCmd.returned])) r
  · have wasAsked : d.asked = r :: world.bus.cmdRx.buf.filterMap BusCmd.reply? := by
      rw [asked, front]
      rfl
    have apart := tidy.apart
    rw [wasAsked] at apart
    apply tidy.shrink live
    · intro cmd member
      rw [front]
      exact Or.inl (List.mem_cons_of_mem _ member)
    · rw [wasAsked]
      exact List.sublist_cons_self _ _
    · intro r' queued
      have other : r ≠ r' := by
        rintro rfl
        exact (List.nodup_cons.mp apart).1 queued
      show answered d.calls _ r' = d.calls r'
      rw [answered_replied]
      cases d.calls r' <;> simp [other]
  · apply tidy.shrink live
    · intro cmd member
      rw [front]
      exact Or.inl (List.mem_cons_of_mem _ member)
    · rw [asked, asked, front]
      exact .refl _
    · intro r _
      exact congrFun (answered_of_silent d.calls (by simp)) r

theorem Tidy.step {d d' : Desk F I M C} {a : DeskAction F I M C} {es : List (Event M)} (tidy : Tidy d)
    (move : Move d a d' es) : Tidy d' := by
  cases move with
  | @called r consumer dims fresh =>
      exact tidy.setCall fun live queued => absurd queued (tidy.not_asked live (by simp [fresh]))
  | submitted sending live sent queued => exact tidy.submitted sending live queued
  | @received r id answer =>
      exact tidy.setCall fun live queued => absurd queued (tidy.not_asked live (by simp [answer]))
  | failed suspended closed =>
      apply tidy.setCall
      intro live
      cases closed.symm.trans live
  | abandoned suspended => exact tidy.setCall fun _ _ => Or.inr rfl
  | worked live plain stepped => exact tidy.worked live plain stepped
  | closed idle live =>
      refine ⟨tidy.stamped, tidy.apart, ?_⟩
      intro stillLive
      cases stillLive

/-- A consumer with a call's stamp was registered before, or the call's command is applied now. -/
theorem Move.stamped_cases {d d' : Desk F I M C} {a : DeskAction F I M C} {es : List (Event M)}
    (move : Move d a d' es) (tidy : Tidy d) (sound : World.ResumeSound d.world)
    {entry : RegistrationEntry F I (Stamped M) (Boxed C)} (member : entry ∈ d'.world.bus.registry.entries)
    {r : Nat} (stamped : entry.consumer.call = some r) :
    (∃ old ∈ d.world.bus.registry.entries, old.id = entry.id ∧ old.consumer.call = some r) ∨
      ∃ dims rest, a = .world .takeCmd ∧ d.world.bus.cmdRx.buf = .register entry.consumer dims r :: rest ∧
        (d.calls r = .waiting ∧ d'.calls r = .replied entry.id ∨ d.calls r = .dropped ∧ d'.calls r = .dropped) := by
  cases move with
  | @worked a world es live plain stepped =>
      rcases (World.move_of_step stepped).entry_cases sound member with ⟨old, inEntries, sameId, sameConsumer⟩ |
        ⟨dims, rfl⟩ | ⟨dims, r', rest, rfl, front, rfl⟩
      · exact Or.inl ⟨old, inEntries, sameId.symm, sameConsumer ▸ stamped⟩
      · -- the owner's own consumers bear no stamp
        rw [Action.plain, stamped] at plain
        cases plain
      · have inQueue : BusCmd.register entry.consumer dims r' ∈ d.world.bus.cmdRx.buf := by
          rw [front]
          exact List.mem_cons_self ..
        cases stamped.symm.trans (tidy.stamped _ _ _ inQueue)
        refine Or.inr ⟨dims, rest, rfl, front, ?_⟩
        show _ ∧ answered d.calls _ r = _ ∨ _ ∧ answered d.calls _ r = _
        rw [answered_replied]
        rcases tidy.suspended live r (List.mem_filterMap.mpr ⟨_, inQueue, rfl⟩) with was | was <;> simp [was]
  | submitted sending live sent queued => exact Or.inl ⟨entry, member, rfl, stamped⟩
  | _ => exact Or.inl ⟨entry, member, rfl, stamped⟩

/-! ## Who has the id -/

/-- Whoever registered a consumer through a command has its id, or can still receive it. -/
def Undoable (d : Desk F I M C) : Prop :=
  ∀ entry ∈ d.world.bus.registry.entries, ∀ r, entry.consumer.call = some r →
    d.calls r = .replied entry.id ∨ d.calls r = .received entry.id

/-- If this step applies the request of a call that was dropped, the registry stays as it was. -/
def GoneUnregistered (d d' : Desk F I M C) (a : DeskAction F I M C) : Prop :=
  ∀ consumer dims r rest, a = .world .takeCmd →
    d.world.bus.cmdRx.buf = .register consumer dims r :: rest → d.calls r = .dropped →
      d'.world.bus.registry = d.world.bus.registry

/-- No request of a call that was dropped is applied, and no call is dropped with its
answer in the oneshot while its consumer is registered. -/
def Attended (d : Desk F I M C) (_ : List (Event M)) (a : DeskAction F I M C) : Prop :=
  (∀ consumer dims r rest, a = .world .takeCmd →
      d.world.bus.cmdRx.buf = .register consumer dims r :: rest → d.calls r ≠ .dropped) ∧
    ∀ r id, a = .abandon r → d.calls r = .replied id →
      ∀ entry ∈ d.world.bus.registry.entries, entry.consumer.call ≠ some r

/-- The consumer of call `r`, if it is registered, is known by its id to the call, or the
id can still be received. -/
def Known (d : Desk F I M C) (r : Nat) : Prop :=
  ∀ entry ∈ d.world.bus.registry.entries, entry.consumer.call = some r →
    d.calls r = .replied entry.id ∨ d.calls r = .received entry.id

theorem Known.step {d d' : Desk F I M C} {a : DeskAction F I M C} {es : List (Event M)} {r : Nat}
    (known : Known d r) (tidy : Tidy d) (sound : World.ResumeSound d.world)
    (there : ∀ consumer dims rest, a = .world .takeCmd →
      d.world.bus.cmdRx.buf = .register consumer dims r :: rest → d.calls r ≠ .dropped)
    (abandoned : ∀ id, a = .abandon r → d.calls r = .replied id →
      ∀ entry ∈ d.world.bus.registry.entries, entry.consumer.call ≠ some r)
    (move : Move d a d' es) : Known d' r := by
  -- a call with a registered consumer keeps its answer, or returns it
  have change : ∀ (r' : Nat) (call : Call F I M C),
      (r' = r → ∀ entry ∈ d.world.bus.registry.entries, entry.consumer.call = some r →
        call = .replied entry.id ∨ call = .received entry.id) → Known (d.setCall r' call) r := by
    intro r' call answer entry member stamped
    rw [setCall_calls]
    split
    · rename_i same
      exact answer same.symm entry member stamped
    · exact known entry member stamped
  cases move with
  | @called r' consumer dims fresh =>
      apply change
      rintro rfl entry member stamped
      rcases known entry member stamped with answer | answer <;> rw [fresh] at answer <;> cases answer
  | @submitted r' consumer dims cmdRx sending live sent queued =>
      apply change
      rintro rfl entry member stamped
      rcases known entry member stamped with answer | answer <;> rw [sending] at answer <;> cases answer
  | @received r' id answer =>
      apply change
      rintro rfl entry member stamped
      rcases known entry member stamped with answer' | answer'
      · rw [answer] at answer'
        cases answer'
        exact Or.inr rfl
      · rw [answer] at answer'
        cases answer'
  | @failed r' suspended closed =>
      apply change
      rintro rfl entry member stamped
      rcases suspended with ⟨consumer, dims, busy⟩ | busy <;>
        rcases known entry member stamped with answer | answer <;> rw [busy] at answer <;> cases answer
  | @abandoned r' suspended =>
      apply change
      rintro rfl entry member stamped
      rcases known entry member stamped with answer | answer
      · exact absurd stamped (abandoned _ rfl answer entry member)
      · rcases suspended with ⟨consumer, dims, busy⟩ | busy | ⟨id, busy⟩ <;> rw [busy] at answer <;> cases answer
  | @worked a world es live plain stepped =>
      intro entry member stamped
      rcases (Move.worked live plain stepped).stamped_cases tidy sound member stamped with
        ⟨old, inEntries, sameId, stamped⟩ | ⟨dims, rest, isTake, front, ⟨-, now⟩ | ⟨gone, -⟩⟩
      · -- an answer that was given stays
        show answered d.calls es r = _ ∨ answered d.calls es r = _
        have answer := known old inEntries stamped
        rw [answered_eq_of_ne_waiting, ← sameId]
        · exact answer
        · rcases answer with answer | answer <;> rw [answer] <;> simp
      · exact Or.inl now
      · exact absurd gone (there _ _ _ isTake front)
  | closed idle live => exact known

theorem Undoable.step {d d' : Desk F I M C} {a : DeskAction F I M C} {t es : List (Event M)}
    (undoable : Undoable d) (tidy : Tidy d) (sound : World.ResumeSound d.world)
    (allowed : Attended d t a) (move : Move d a d' es) : Undoable d' := by
  intro entry member r stamped
  have known : Known d r := fun entry member => undoable entry member r
  exact known.step tidy sound (fun consumer dims rest => allowed.1 consumer dims r rest) (allowed.2 r) move
    entry member stamped

/-! ## One call, one id -/

/-- A call whose command is queued was so before, or has just sent it and waits for the answer. -/
theorem Move.asked_cases {d d' : Desk F I M C} {a : DeskAction F I M C} {es : List (Event M)}
    (move : Move d a d' es) {r : Nat} (asked : r ∈ d'.asked) :
    r ∈ d.asked ∨ (∃ consumer dims, d.calls r = .sending consumer dims) ∧ d'.calls r = .waiting := by
  obtain ⟨cmd, queued, isCall⟩ := List.mem_filterMap.mp asked
  cases move with
  | @submitted r' consumer dims cmdRx sending live sent added =>
      have queued : cmd ∈ cmdRx.buf := queued
      rw [added] at queued
      rcases List.mem_append.mp queued with old | new
      · exact Or.inl (List.mem_filterMap.mpr ⟨cmd, old, isCall⟩)
      · cases List.mem_singleton.mp new
        cases isCall
        exact Or.inr ⟨⟨consumer, dims, sending⟩, by simp⟩
  | @worked a world es live plain stepped =>
      have queued : cmd ∈ world.bus.cmdRx.buf := queued
      left
      apply List.mem_filterMap.mpr
      rcases (World.move_of_step stepped).command_cases with ⟨same, -⟩ | ⟨cmd', rfl, added, -⟩ |
        ⟨consumer, dims, r', front, -⟩ | ⟨id, front, -⟩
      · exact ⟨cmd, same ▸ queued, isCall⟩
      · rw [added] at queued
        rcases List.mem_append.mp queued with old | new
        · exact ⟨cmd, old, isCall⟩
        · cases List.mem_singleton.mp new
          cases cmd with
          | register consumer dims r' => cases plain
          | deregister id => cases isCall
      · exact ⟨cmd, front ▸ List.mem_cons_of_mem _ queued, isCall⟩
      · exact ⟨cmd, front ▸ List.mem_cons_of_mem _ queued, isCall⟩
  | _ => exact Or.inl (List.mem_filterMap.mpr ⟨cmd, queued, isCall⟩)

/-- A queued `Deregister` stays, or no consumer has its id any more. -/
theorem Move.dismissal_stays {d d' : Desk F I M C} {a : DeskAction F I M C} {es : List (Event M)}
    (move : Move d a d' es) {id : Nat} (queued : BusCmd.deregister id ∈ d.world.bus.cmdRx.buf) :
    BusCmd.deregister id ∈ d'.world.bus.cmdRx.buf ∨
      ∀ entry ∈ d'.world.bus.registry.entries, entry.id ≠ id := by
  cases move with
  | @submitted r consumer dims cmdRx sending live sent added =>
      left
      show _ ∈ cmdRx.buf
      rw [added]
      exact List.mem_append_left _ queued
  | @worked a world es live plain stepped =>
      show _ ∈ world.bus.cmdRx.buf ∨ ∀ entry ∈ world.bus.registry.entries, entry.id ≠ id
      rcases (World.move_of_step stepped).command_cases with ⟨same, -⟩ | ⟨cmd, -, added, -⟩ |
        ⟨consumer, dims, r, front, -⟩ | ⟨id', front, -, removed⟩
      · exact Or.inl (same ▸ queued)
      · rw [added]
        exact Or.inl (List.mem_append_left _ queued)
      · rw [front] at queued
        rcases List.mem_cons.mp queued with isFront | rest
        · cases isFront
        · exact Or.inl rest
      · rw [front] at queued
        rcases List.mem_cons.mp queued with isFront | rest
        · cases isFront
          right
          intro entry member
          rw [removed] at member
          exact ((Registry.mem_deregister ..).mp member).2
        · exact Or.inl rest
  | _ => exact Or.inl queued

/-! ## Whole runs -/

variable {ok : Desk F I M C → List (Event M) → DeskAction F I M C → Prop} {capacity cap : Nat}
  {router : Router} {d : Desk F I M C} {t : List (Event M)}

theorem tidy (runs : Runs step ok (init capacity router cap) d t) : Tidy d := by
  apply runs.invariant (P := fun d _ => Tidy d)
  · exact ⟨by simp [init, World.init, Bus.withRouter, Bus.capPending, Channel.new], .nil, by
      simp [asked, init, World.init, Bus.withRouter, Bus.capPending, Channel.new]⟩
  · intro d t a d' es ih _ stepped
    exact ih.step (move_of_step stepped)

/-- A call has only the answer that the bus has given it. -/
theorem replied_of_answer (runs : Runs step ok (init capacity router cap) d t) :
    ∀ r id, d.calls r = .replied id ∨ d.calls r = .received id → Event.replied r id ∈ t := by
  apply runs.invariant (P := fun d t =>
    ∀ r id, d.calls r = .replied id ∨ d.calls r = .received id → Event.replied r id ∈ t)
  · rintro r id (answer | answer) <;> cases answer
  · intro d t a d' es ih _ stepped r id answer
    rcases (move_of_step stepped).answer_cases answer with before | now
    · exact List.mem_append_left _ (ih r id before)
    · exact List.mem_append_right _ now

/-- A consumer has only the stamp of a call that has sent its command. -/
theorem sent_of_stamped (runs : Runs step ok (init capacity router cap) d t) :
    ∀ entry ∈ d.world.bus.registry.entries, ∀ r, entry.consumer.call = some r →
      d.calls r ≠ .unused ∧ ∀ consumer dims, d.calls r ≠ .sending consumer dims := by
  apply runs.invariant_reached (P := fun d _ => ∀ entry ∈ d.world.bus.registry.entries, ∀ r,
    entry.consumer.call = some r → d.calls r ≠ .unused ∧ ∀ consumer dims, d.calls r ≠ .sending consumer dims)
  · intro entry member
    cases member
  · intro d t a d' es before ih _ stepped entry member r stamped
    have move := move_of_step stepped
    rcases move.stamped_cases (tidy before) (World.resumeSound (world_runs before)) member stamped with
      ⟨old, inEntries, -, stamped⟩ | ⟨dims, rest, -, -, ⟨-, now⟩ | ⟨-, now⟩⟩
    · have sent := ih old inEntries r stamped
      rcases move.call_cases r with same | ⟨consumer, dims, -, unused, -⟩ | ⟨-, -, now⟩ | ⟨id, -, -, now⟩ |
        ⟨-, -, now⟩ | ⟨-, -, now⟩ | ⟨id, -, -, now⟩
      · rwa [same]
      · exact absurd unused sent.1
      all_goals simp [now]
    · simp [now]
    · simp [now]

/-- The consumer with the id a call was answered with is the call's. -/
theorem stamped_of_replied (runs : Runs step ok (init capacity router cap) d t)
    (few : (t.filterMap Event.registered?).length < 2 ^ 64) :
    ∀ r id, Event.replied r id ∈ t → ∀ entry ∈ d.world.bus.registry.entries, entry.id = id →
      entry.consumer.call = some r := by
  revert few
  apply runs.invariant_reached (P := fun d t => (t.filterMap Event.registered?).length < 2 ^ 64 →
    ∀ r id, Event.replied r id ∈ t → ∀ entry ∈ d.world.bus.registry.entries, entry.id = id →
      entry.consumer.call = some r)
  · intro _ r id replied
    cases replied
  · intro d t a d' es before ih _ stepped few r id replied entry member named
    rw [List.filterMap_append, List.length_append] at few
    have earlier := ih (by omega)
    obtain ⟨given, sound⟩ := World.idsSound (world_runs before) (by omega)
    have below : ∀ r, Event.replied r id ∈ t → id < d.world.bus.registry.nextId := by
      intro r replied
      rw [← List.mem_range, ← given]
      exact (World.replies_among (world_runs before)).subset
        (List.mem_map.mpr ⟨(r, id), Event.mem_filterMap_replied.mpr replied, rfl⟩)
    cases move_of_step stepped with
    | @worked a world es live plain worked =>
        have moved := World.move_of_step worked
        have next : ∀ r, Event.replied r id ∈ es → id = d.world.bus.registry.nextId := by
          intro r replied
          have among := moved.replies_sublist.subset
            (List.mem_map.mpr ⟨(r, id), Event.mem_filterMap_replied.mpr replied, rfl⟩)
          rcases moved.registry_cases (World.resumeSound (world_runs before)) with ⟨one, -⟩ | ⟨none, -⟩
          · rw [one] at among
            exact List.mem_singleton.mp among
          · rw [none] at among
            cases among
        have old : ∀ old ∈ d.world.bus.registry.entries, entry.id = old.id → entry.consumer = old.consumer →
            entry.consumer.call = some r := by
          intro old inEntries sameId sameConsumer
          rcases List.mem_append.mp replied with was | now
          · rw [sameConsumer]
            exact earlier r id was old inEntries (sameId.symm.trans named)
          · have notNew := sound.below old inEntries
            rw [← sameId, named, next r now] at notNew
            exact absurd notNew (Nat.lt_irrefl _)
        rcases moved.entry_cases (World.resumeSound (world_runs before)) member with
          ⟨was, inEntries, sameId, sameConsumer⟩ | ⟨dims, rfl⟩ | ⟨dims, r', rest, rfl, front, rfl⟩
        · exact old was inEntries sameId sameConsumer
        · -- what the owner registers gets the next id, which no call was answered with
          cases moved with
          | handles same sameCmds handle => simp at handle
          | registered idle =>
              have member : entry ∈ (d.world.bus.registry.registerWith _ dims).registry.entries := member
              rw [Registry.registerWith_entries] at member
              rcases List.mem_append.mp member with was | new
              · exact old entry was rfl rfl
              · rw [List.mem_singleton.mp new] at named
                rcases List.mem_append.mp replied with was | now
                · have given := below r was
                  rw [← named] at given
                  exact absurd given (Nat.lt_irrefl _)
                · simp at now
        · rcases List.mem_append.mp replied with was | now
          · have isNext := next r' (by rw [← named]; simp)
            have given := below r was
            rw [isNext] at given
            exact absurd given (Nat.lt_irrefl _)
          · have same : r = r' := by simpa [named] using now
            rw [same]
            exact (tidy before).stamped _ _ _ (by rw [front]; exact List.mem_cons_self ..)
    | submitted sending live sent queued => exact earlier r id (by simpa using replied) entry member named
    | _ => exact earlier r id (by simpa using replied) entry member named

theorem undoable (runs : Runs step Attended (init capacity router cap) d t) : Undoable d := by
  apply runs.invariant_reached (P := fun d _ => Undoable d)
  · intro entry member
    cases member
  · intro d t a d' es before ih allowed stepped
    exact ih.step (tidy before) (World.resumeSound (world_runs before)) allowed (move_of_step stepped)

/-- **A registration can be undone by its requester, as long as no call is dropped
between the sending of its command and its return.**  In every interleaving of
register calls with the bus in which no request of a dropped call is applied, and
no call is dropped with its answer in the oneshot while its consumer is registered:
every consumer registered through a command is known by its id to its call, or the
id can still be received.  And of the steps possible there, exactly those meeting
the condition keep this and change no registry for a call that is gone. -/
theorem registrations_undoable (runs : Runs step Attended (init capacity router cap) d t) :
    Undoable d ∧ ∀ a d' es, d.step a = some (d', es) →
      (Attended d t a ↔ Undoable d' ∧ GoneUnregistered d d' a) := by
  have now := undoable runs
  refine ⟨now, ?_⟩
  intro a d' es stepped
  constructor
  · intro allowed
    refine ⟨undoable (runs.step allowed stepped), ?_⟩
    intro consumer dims r rest isTake front gone
    exact absurd gone (allowed.1 consumer dims r rest isTake front)
  · rintro ⟨after, unregistered⟩
    constructor
    · rintro consumer dims r rest rfl front gone
      have unchanged := unregistered consumer dims r rest rfl front gone
      cases move_of_step stepped with
      | worked live plain worked =>
          have longer := congrArg (fun registry => registry.entries.length) unchanged
          cases World.move_of_step worked with
          | appliedRegister running commands front' =>
              simp at longer
          | appliedDeregister running commands front' =>
              rw [front] at front'
              cases front'
          | handles same sameCmds handle => simp at handle
    · rintro r id rfl answer entry member stamped
      have gone : d'.calls r = .dropped ∧ entry ∈ d'.world.bus.registry.entries := by
        cases move_of_step stepped with
        | abandoned suspended => exact ⟨by simp, member⟩
      rcases after entry gone.2 r stamped with known | known <;> rw [gone.1] at known <;> cases known

/-! ## Gone before the answer -/

/-- The call is dropped while its command is queued. -/
def hangUp : List (DeskAction ℚ Unit BaseMessage String) :=
  [.call 0 "listener" [], .submit 0, .abandon 0, .world .dispatch]

def hungUp : Desk ℚ Unit BaseMessage String × List (Event BaseMessage) :=
  outcome step (init 4 .affinity 8) hangUp

/-- The request of a call that is gone is applied, and its consumer stays. -/
theorem gone_call_registers :
    Runs step anyStep (init 4 .affinity 8) hungUp.1 hungUp.2 ∧
      ∃ d' es, hungUp.1.step (.world .takeCmd) = some (d', es) ∧ ¬ Undoable d' ∧
        ¬ GoneUnregistered hungUp.1 d' (.world .takeCmd) := by
  refine ⟨runs_outcome_any hangUp rfl, _, _, rfl, ?_, ?_⟩
  · intro undoable
    rcases undoable _ (List.mem_singleton.mpr rfl) 0 rfl with known | known <;> cases known
  · intro unregistered
    have unchanged := unregistered ⟨some 0, "listener"⟩ [] 0 [] rfl rfl rfl
    have longer := congrArg (fun registry => registry.entries.length) unchanged
    cases longer

/-- The call waits for its answer and returns it. -/
def patiently : List (DeskAction ℚ Unit BaseMessage String) :=
  [.call 0 "listener" [], .submit 0, .world .dispatch, .world .takeCmd, .receive 0]

def served : Desk ℚ Unit BaseMessage String × List (Event BaseMessage) :=
  outcome step (init 4 .affinity 8) patiently

/-- A step that applies no command and drops no call, or applies the request of a call that waits. -/
def stays (d : Desk F I M C) (_ : List (Event M)) (a : DeskAction F I M C) : Bool :=
  match a with
  | .world .takeCmd => d.asked.all fun r => match d.calls r with
      | .waiting => true
      | _ => false
  | .abandon _ => false
  | _ => true

omit [F32 F] [Message M] in
theorem attended_of_stays (d : Desk F I M C) (t : List (Event M)) (a : DeskAction F I M C)
    (passes : stays d t a = true) : Attended d t a := by
  constructor
  · rintro consumer dims r rest rfl front gone
    have queued : r ∈ d.asked := List.mem_filterMap.mpr ⟨_, front ▸ List.mem_cons_self .., rfl⟩
    have waits := List.all_eq_true.mp passes r queued
    rw [gone] at waits
    cases waits
  · rintro r id rfl
    cases passes

theorem registrations_undoable_served : Undoable served.1 := by
  have runs : Runs step Attended (init 4 .affinity 8) served.1 served.2 :=
    runs_outcome patiently stays attended_of_stays rfl rfl
  exact (registrations_undoable runs).1

end Desk

end Jackfield
