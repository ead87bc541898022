/-
# Jackfield.Bus.Stranding -- envelopes left behind by `dispatch`

`drain` offers every pending envelope to the registry again.  `dispatch` never
looks at the pending queue: an envelope that goes there stays until the next
`drain`.  So with answers that do not change and built-in dimensions, which judge
alike whatever their state, a pending envelope has a taker exactly if one was
registered after it: when a `Register` command is applied, or when `dispatch` is
called with one already there.  `Timely` steps do neither, and
`dispatch_strands_nobody` says that it takes just this.
-/
import Jackfield.Bus.Registrations
import Jackfield.Router.BuiltIn

namespace Jackfield

set_option autoImplicit false

variable {F I M C : Type} [F32 F]

namespace World

open Machine

variable [Inhabited I] [Message M]

/-! ## Setting and condition -/

/-- The consumers answer as `consumer` throughout, and only built-in dimensions are registered. -/
def Setting (consumer : Consumer (Stamped M) C) : Action F I M C → Prop
  | .takeEnvelope answers => answers = consumer
  | .registerConsumer _ dims => ∀ d ∈ dims, d.1.BuiltIn
  | .sendCmd (.register _ dims _) => ∀ d ∈ dims, d.1.BuiltIn
  | _ => True

/-- Nobody registered would take a pending envelope. -/
def NoneStranded (consumer : Consumer (Stamped M) C) (w : World F I M C) : Prop :=
  ∀ e ∈ w.bus.pending, ∀ entry ∈ w.bus.registry.entries, ¬ Eligible consumer e entry

/-- No consumer comes too late for a pending envelope: `dispatch` is not called while
one is registered that would take it, and applies no command that registers one. -/
def Timely (consumer : Consumer (Stamped M) C) (w : World F I M C) : Action F I M C → Prop
  | .dispatch => NoneStranded consumer w
  | .takeCmd => w.control = .running .dispatch → ∀ c dims reply rest,
      w.bus.cmdRx.buf = .register c dims reply :: rest → ∀ e ∈ w.bus.pending,
        ¬ Eligible consumer e ⟨w.bus.registry.nextId, c, dims.map DimSpec.entry⟩
  | _ => True

/-- A `dispatch` call is running. -/
def InDispatch (w : World F I M C) : Prop :=
  w.control = .running .dispatch ∨ ∃ resume, w.control = .consuming .dispatch resume

/-- The dimensions registered, and those in waiting commands, are built-in. -/
structure AllBuiltIn (w : World F I M C) : Prop where
  entries : ∀ entry ∈ w.bus.registry.entries, entry.BuiltIn
  queued : ∀ consumer dims reply, .register consumer dims reply ∈ w.bus.cmdRx.buf → ∀ d ∈ dims, d.1.BuiltIn

theorem registered_builtIn {dims : List (DimSpec F I (Stamped M))} (builtIn : ∀ d ∈ dims, d.1.BuiltIn)
    (id : Nat) (consumer : C) : RegistrationEntry.BuiltIn ⟨id, consumer, dims.map DimSpec.entry⟩ := by
  intro de member
  obtain ⟨d, inDims, rfl⟩ := List.mem_map.mp member
  unfold DimSpec.entry
  split <;> exact builtIn d inDims

theorem registerWith_builtIn {r : Registry F I (Stamped M) C} (old : ∀ entry ∈ r.entries, entry.BuiltIn)
    {dims : List (DimSpec F I (Stamped M))} (builtIn : ∀ d ∈ dims, d.1.BuiltIn) (consumer : C) :
    ∀ entry ∈ (r.registerWith consumer dims).registry.entries, entry.BuiltIn := by
  intro entry member
  rw [Registry.registerWith_entries] at member
  rcases List.mem_append.mp member with inOld | new
  · exact old entry inOld
  · rw [List.mem_singleton.mp new]
    exact registered_builtIn builtIn _ _

theorem Move.allBuiltIn {w w' : World F I M C} {a : Action F I M C} {es : List (Event M)}
    {consumer : Consumer (Stamped M) C} (move : Move w a w' es) (setting : Setting consumer a)
    (sound : ResumeSound w) (builtIn : AllBuiltIn w) : AllBuiltIn w' := by
  obtain ⟨entries, queued⟩ := builtIn
  cases move with
  | @commanded cmd cmdRx queue =>
      refine ⟨entries, ?_⟩
      intro c dims reply member
      rw [queue] at member
      rcases List.mem_append.mp member with waiting | new
      · exact queued c dims reply waiting
      · rw [← List.mem_singleton.mp new] at setting
        exact setting
  | handles same sameCmds handle =>
      exact ⟨entries, fun c dims reply member => queued c dims reply (sameCmds ▸ member)⟩
  | @registered c dims idle => exact ⟨registerWith_builtIn entries setting c, queued⟩
  | @deregistered id idle =>
      exact ⟨fun entry member => entries entry ((Registry.deregister_sublist _ id).subset member), queued⟩
  | @appliedRegister loop c dims reply cmdRx running commands front =>
      rw [front] at queued
      exact ⟨registerWith_builtIn entries (queued c dims reply (List.mem_cons_self ..)) c,
        fun c' dims' reply' member => queued c' dims' reply' (List.mem_cons_of_mem _ member)⟩
  | @appliedDeregister loop id cmdRx running commands front =>
      rw [front] at queued
      exact ⟨fun entry member => entries entry ((Registry.deregister_sublist _ id).subset member),
        fun c' dims' reply' member => queued c' dims' reply' (List.mem_cons_of_mem _ member)⟩
  | @handed answers e bus loop entry resume taken member eligible shape =>
      obtain ⟨sameCmds, -, sameRegistry, -, -⟩ := next_frame taken
      refine ⟨?_, ?_⟩
      · show ∀ entry ∈ bus.registry.entries, entry.BuiltIn
        rw [sameRegistry]
        exact entries
      · show ∀ c dims reply, _ ∈ bus.cmdRx.buf → _
        rw [sameCmds]
        exact queued
  | @returned answers e bus loop registry taken shape nobody =>
      obtain ⟨sameCmds, -, -, -, -⟩ := next_frame taken
      refine ⟨builtIn_sameShape entries shape, ?_⟩
      show ∀ c dims reply, _ ∈ bus.cmdRx.buf → _
      rw [sameCmds]
      exact queued
  | resumed consuming => exact ⟨builtIn_sameShape entries (sound _ _ consuming _), queued⟩
  | _ => exact ⟨entries, queued⟩

/-! ## One step -/

theorem noneStranded_sameShape {consumer : Consumer (Stamped M) C} {pending : List (Parcel M)}
    {r r' : Registry F I (Stamped M) C} (builtIn : ∀ entry ∈ r.entries, entry.BuiltIn)
    (shape : r.SameShape r') (none : ∀ e ∈ pending, ∀ entry ∈ r.entries, ¬ Eligible consumer e entry) :
    ∀ e ∈ pending, ∀ entry ∈ r'.entries, ¬ Eligible consumer e entry := by
  intro e inPending
  exact ineligible_sameShape builtIn shape (none e inPending)

omit [F32 F] [Inhabited I] [Message M] in
theorem not_inDispatch_of_idle {w : World F I M C} (idle : w.control = .idle) : ¬ InDispatch w := by
  rintro (waiting | ⟨resume, consuming⟩)
  · cases idle.symm.trans waiting
  · cases idle.symm.trans consuming

omit [Inhabited I] [Message M] in
/-- A `dispatch` call was running before the step already, or the step is the call. -/
theorem Move.inDispatch_before {w w' : World F I M C} {a : Action F I M C} {es : List (Event M)}
    (move : Move w a w' es) (inDispatch : InDispatch w') : a = .dispatch ∨ InDispatch w := by
  cases move with
  | dispatch idle => exact Or.inl rfl
  | handed taken member eligible shape =>
      rcases inDispatch with waiting | ⟨resume', consuming⟩
      · cases waiting
      · cases consuming
        exact Or.inr (Or.inl (running_of_next_dispatch taken))
  | returned taken shape nobody =>
      rcases inDispatch with waiting | ⟨resume', consuming⟩
      · cases waiting
        exact Or.inr (Or.inl (running_of_next_dispatch taken))
      · cases consuming
  | resumed consuming =>
      rcases inDispatch with waiting | ⟨resume', consuming'⟩
      · cases waiting
        exact Or.inr (Or.inr ⟨_, consuming⟩)
      · cases consuming'
  | drain idle => exact absurd inDispatch (by simp [InDispatch])
  | tookPending running empty => exact absurd inDispatch (by simp [InDispatch])
  | pendingDone running => exact absurd inDispatch (by simp [InDispatch])
  | finished running done => exact absurd inDispatch (not_inDispatch_of_idle rfl)
  | dropped suspended => exact absurd inDispatch (not_inDispatch_of_idle rfl)
  | _ => exact Or.inr inDispatch

/-- **In a `dispatch` call, a step strands nobody exactly if it is timely.** -/
theorem Move.noneStranded_iff {w w' : World F I M C} {a : Action F I M C} {es : List (Event M)}
    {consumer : Consumer (Stamped M) C} (move : Move w a w' es) (setting : Setting consumer a)
    (sound : ResumeSound w) (builtIn : AllBuiltIn w) (before : InDispatch w → NoneStranded consumer w)
    (inDispatch : InDispatch w') : NoneStranded consumer w' ↔ Timely consumer w a := by
  rcases move.inDispatch_before inDispatch with rfl | here
  · -- the call itself: nothing is registered or pending that was not before
    cases move with
    | handles same sameCmds handle => simp at handle
    | dispatch idle => exact Iff.rfl
  have none := before here
  cases move with
  | handles same sameCmds handle =>
      refine iff_of_true none ?_
      rcases handle with rfl | rfl | rfl | rfl <;> trivial
  | registered idle => exact absurd here (not_inDispatch_of_idle idle)
  | dispatch idle => exact Iff.rfl
  | @deregistered id idle =>
      refine iff_of_true ?_ trivial
      intro e inPending entry member
      exact none e inPending entry ((Registry.deregister_sublist _ id).subset member)
  | @appliedRegister loop c dims reply cmdRx running commands front =>
      have waiting : w.control = .running .dispatch := by
        rcases here with waiting | ⟨resume, consuming⟩
        · exact waiting
        · cases running.symm.trans consuming
      have split : ∀ e, (∀ entry ∈ (w.bus.registry.registerWith c dims).registry.entries,
          ¬ Eligible consumer e entry) ↔ (∀ entry ∈ w.bus.registry.entries, ¬ Eligible consumer e entry) ∧
            ¬ Eligible consumer e ⟨w.bus.registry.nextId, c, dims.map DimSpec.entry⟩ := by
        intro e
        rw [Registry.registerWith_entries, List.forall_mem_append, List.forall_mem_singleton]
      constructor
      · intro none' _ c' dims' reply' rest sameFront e inPending
        rw [front] at sameFront
        cases sameFront
        exact ((split e).mp (none' e inPending)).2
      · intro timely e inPending
        exact (split e).mpr ⟨none e inPending, timely waiting c dims reply cmdRx.buf front e inPending⟩
  | @appliedDeregister loop id cmdRx running commands front =>
      refine iff_of_true ?_ ?_
      · intro e inPending entry member
        exact none e inPending entry ((Registry.deregister_sublist _ id).subset member)
      · intro _ c dims reply rest sameFront
        rw [front] at sameFront
        cases sameFront
  | @handed answers e bus loop entry resume taken member eligible shape =>
      obtain ⟨-, -, sameRegistry, samePending, -⟩ := next_frame taken
      refine iff_of_true ?_ trivial
      show ∀ e ∈ bus.pending, ∀ entry ∈ bus.registry.entries, ¬ Eligible consumer e entry
      rw [samePending, sameRegistry]
      exact none
  | @returned answers e bus loop registry taken shape nobody =>
      obtain ⟨-, -, -, samePending, -⟩ := next_frame taken
      -- nobody takes the envelope that is pushed, with the answers it was refused with
      cases setting
      refine iff_of_true (noneStranded_sameShape builtIn.entries shape ?_) trivial
      intro e' inPending entry member
      rcases EvictingQueue.mem_of_mem_push inPending with old | rfl
      · exact none e' (samePending ▸ old) entry member
      · exact nobody entry member
  | tookPending running empty =>
      refine iff_of_true ?_ trivial
      intro e inPending
      cases inPending
  | resumed consuming =>
      exact iff_of_true (noneStranded_sameShape builtIn.entries (sound _ _ consuming _) none) trivial
  | _ => exact iff_of_true none trivial

/-! ## Whole runs -/

variable {capacity cap : Nat} {router : Router} {w : World F I M C} {t : List (Event M)}
  {consumer : Consumer (Stamped M) C}

/-- Steps in the setting, and timely. -/
def InTime (consumer : Consumer (Stamped M) C) (w : World F I M C) (_ : List (Event M))
    (a : Action F I M C) : Prop :=
  Setting consumer a ∧ Timely consumer w a

theorem inTime_invariant (runs : Runs step (InTime consumer) (init capacity router cap) w t) :
    AllBuiltIn w ∧ (InDispatch w → NoneStranded consumer w) := by
  apply runs.invariant_reached
  · refine ⟨⟨?_, ?_⟩, ?_⟩
    · intro entry member
      cases member
    · intro consumer dims reply member
      cases member
    · intro _ e member
      cases member
  · intro w t a w' es before ih inTime stepped
    have move := move_of_step stepped
    have sound := resumeSound before
    refine ⟨move.allBuiltIn inTime.1 sound ih.1, ?_⟩
    intro inDispatch
    exact (move.noneStranded_iff inTime.1 sound ih.1 ih.2 inDispatch).mpr inTime.2

/-- **`dispatch` strands nobody exactly as long as no taker comes too late.**  With
answers that do not change and built-in dimensions: in every state of a `dispatch`
call that timely steps lead to -- waiting or not -- nobody registered would take a
pending envelope; and of the steps possible there exactly the timely ones keep it so. -/
theorem dispatch_strands_nobody
    (runs : Runs step (InTime consumer) (init capacity router cap) w t) :
    (InDispatch w → NoneStranded consumer w) ∧
      ∀ a w' es, Setting consumer a → w.step a = some (w', es) → InDispatch w' →
        (NoneStranded consumer w' ↔ Timely consumer w a) := by
  obtain ⟨builtIn, none⟩ := inTime_invariant runs
  refine ⟨none, ?_⟩
  intro a w' es setting stepped inDispatch
  exact (move_of_step stepped).noneStranded_iff setting (resumeSound runs) builtIn none inDispatch

/-- A message goes to the pending queue; then its taker registers; and `dispatch`
waits with both channels empty. -/
theorem dispatch_strands :
    ∃ w t, Runs step (fun _ _ a => Setting obliging a)
        (init 4 .affinity 8 : World ℚ Unit BaseMessage String) w t ∧
      w.control = .running .dispatch ∧ w.bus.rx.buf = [] ∧ w.bus.cmdRx.buf = [] ∧
        ¬ NoneStranded obliging w := by
  have fresh : Runs step (fun _ _ a => Setting obliging a)
      (init 4 .affinity 8 : World ℚ Unit BaseMessage String) _ _ := .start
  have first := fresh.act .dispatch trivial rfl
  have second := first.act (.send ⟨"radio"⟩ ping) trivial rfl
  have third := second.act (.takeEnvelope obliging) rfl rfl
  have fourth := third.act (.sendCmd (.register "listener" [] 0)) (fun _ => by simp) rfl
  have fifth := fourth.act .takeCmd trivial rfl
  refine ⟨_, _, fifth, rfl, rfl, rfl, ?_⟩
  intro none
  exact none _ (List.mem_singleton.mpr rfl) _ (List.mem_singleton.mpr rfl) ⟨rfl, rfl, rfl⟩

/-- The same message, and nobody registers. -/
theorem dispatch_strands_nobody_alone :
    ∃ w t, Runs step (InTime obliging) (init 4 .affinity 8 : World ℚ Unit BaseMessage String) w t ∧
      w.bus.pending ≠ [] ∧ NoneStranded obliging w := by
  have fresh : Runs step (InTime obliging)
      (init 4 .affinity 8 : World ℚ Unit BaseMessage String) _ _ := .start
  have first := fresh.act .dispatch ⟨trivial, fun _ member => by cases member⟩ rfl
  have second := first.act (.send ⟨"radio"⟩ ping) ⟨trivial, trivial⟩ rfl
  have third := second.act (.takeEnvelope obliging) ⟨rfl, trivial⟩ rfl
  exact ⟨_, _, third, List.cons_ne_nil _ _, (dispatch_strands_nobody third).1 (Or.inl rfl)⟩

end World

end Jackfield
