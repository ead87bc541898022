/-
# Jackfield.Bus.Deregistration -- envelopes sent after a consumer was dismissed

`BusCmdHandle::deregister` returns when its command is in the command channel.  An
envelope sent after that travels in the other channel, and `select!` may take it
first; or it arrives while `drain`, which applies commands only at its beginning,
is still emptying the channel.  Either way the consumer is still registered.

So it takes a command that is still queued when the envelope is routed.  Where no
envelope overtakes a command that would have removed a consumer eligible for it
(`NotOvertaking`), none is handed to a consumer dismissed before it was sent:
`dismissed_gets_nothing`.
-/
import Jackfield.Bus.Cancellation
import Jackfield.Bus.Registrations

namespace Jackfield

set_option autoImplicit false

variable {F I M C : Type}

open Machine

/-- `id` was given out, and later a `deregister(id)` returned. -/
def Dismissed (t : List (Event M)) (id : Nat) : Prop :=
  List.Sublist [Event.registered id, Event.deregisterReturned id] t

/-- `id` was given out, later a `deregister(id)` returned, and later a send of `e`. -/
def SentAfter (t : List (Event M)) (id : Nat) (e : Parcel M) : Prop :=
  List.Sublist [Event.registered id, Event.deregisterReturned id, Event.accepted e] t

theorem SentAfter.dismissed {t : List (Event M)} {id : Nat} {e : Parcel M} (after : SentAfter t id e) :
    Dismissed t id :=
  (List.sublist_append_left [Event.registered id, Event.deregisterReturned id] [Event.accepted e]).trans after

theorem SentAfter.append {t es : List (Event M)} {id : Nat} {e : Parcel M}
    (after : SentAfter (t ++ es) id e) : SentAfter t id e ∨ Event.accepted e ∈ es :=
  sublist_concat_append (l := [Event.registered id, Event.deregisterReturned id]) after

theorem Dismissed.append {t es : List (Event M)} {id : Nat} (dismissed : Dismissed (t ++ es) id) :
    Dismissed t id ∨ Event.deregisterReturned id ∈ es :=
  sublist_concat_append (l := [Event.registered id]) dismissed

theorem Dismissed.registered {t : List (Event M)} {id : Nat} (dismissed : Dismissed t id) :
    Event.registered id ∈ t :=
  dismissed.subset (List.mem_cons_self ..)

namespace World

/-- No consumer is registered under `id`. -/
def Absent (w : World F I M C) (id : Nat) : Prop := ∀ entry ∈ w.bus.registry.entries, entry.id ≠ id

variable [F32 F]

/-! ## One step -/

/-- An id given out and no longer present does not come back. -/
theorem Move.stays_absent {w w' : World F I M C} {a : Action F I M C} {es : List (Event M)}
    (move : Move w a w' es) (sound : ResumeSound w) {id : Nat} (given : id < w.bus.registry.nextId)
    (absent : Absent w id) : Absent w' id := by
  intro entry member
  rcases move.registry_cases sound with ⟨-, consumer, dims, same⟩ | ⟨-, ⟨id', same⟩ | shape⟩
  · rw [same, Registry.registerWith_entries] at member
    rcases List.mem_append.mp member with old | new
    · exact absent entry old
    · rw [List.mem_singleton.mp new]
      show w.bus.registry.nextId ≠ id
      omega
  · rw [same] at member
    exact absent entry ((Registry.deregister_sublist _ id').subset member)
  · obtain ⟨old, inEntries, same⟩ := shape.mem member
    rw [Registry.id_of_skeleton same]
    exact absent old inEntries

/-- A queued `Deregister` stays queued, or is applied and leaves nobody under its id. -/
theorem Move.queued_or_absent {w w' : World F I M C} {a : Action F I M C} {es : List (Event M)}
    (move : Move w a w' es) {id : Nat} (queued : BusCmd.deregister id ∈ w.bus.cmdRx.buf) :
    BusCmd.deregister id ∈ w'.bus.cmdRx.buf ∨ Absent w' id := by
  cases move with
  | commanded queue =>
      left
      rw [queue]
      exact List.mem_append_left _ queued
  | handles same sameCmds handle =>
      left
      rw [sameCmds]
      exact queued
  | appliedRegister running commands front =>
      rw [front] at queued
      exact Or.inl ((List.mem_cons.mp queued).resolve_left (by simp))
  | @appliedDeregister loop id' cmdRx running commands front =>
      rw [front] at queued
      rcases List.mem_cons.mp queued with same | behind
      · cases same
        right
        intro entry member
        exact ((Registry.mem_deregister _ id entry).mp member).2
      · exact Or.inl behind
  | handed taken member eligible shape =>
      obtain ⟨sameCmds, -, -, -, -⟩ := next_frame taken
      left
      show _ ∈ (Bus.cmdRx _).buf
      rw [sameCmds]
      exact queued
  | returned taken shape nobody =>
      obtain ⟨sameCmds, -, -, -, -⟩ := next_frame taken
      left
      show _ ∈ (Bus.cmdRx _).buf
      rw [sameCmds]
      exact queued
  | _ => exact Or.inl queued

theorem Move.returned_queued {w w' : World F I M C} {a : Action F I M C} {es : List (Event M)}
    (move : Move w a w' es) {id : Nat} (returned : Event.deregisterReturned id ∈ es) :
    BusCmd.deregister id ∈ w'.bus.cmdRx.buf := by
  cases move with
  | @commanded cmd cmdRx queue =>
      rw [queue]
      cases cmd with
      | register consumer dims reply => simp [BusCmd.returned] at returned
      | deregister id' =>
          have same : id = id' := by simpa [BusCmd.returned] using returned
          rw [same]
          simp
  | dropped suspended => simp at returned
  | returned taken shape nobody => simp at returned
  | _ => simp at returned

/-- The iterator gains envelopes only when `drain` has found the command channel empty. -/
theorem Move.rest_cases {w w' : World F I M C} {a : Action F I M C} {es : List (Event M)}
    (move : Move w a w' es) {e : Parcel M} (inHand : e ∈ w'.control.rest) :
    e ∈ w.control.rest ∨ w.bus.cmdRx.buf = [] := by
  cases move with
  | tookPending running empty => exact Or.inr empty
  | handed taken member eligible shape => exact Or.inl (mem_rest_of_next taken inHand)
  | returned taken shape nobody => exact Or.inl (mem_rest_of_next taken inHand)
  | resumed consuming =>
      rw [consuming]
      exact Or.inl inHand
  | drain idle => cases inHand
  | dispatch idle => cases inHand
  | pendingDone running => cases inHand
  | finished running done => cases inHand
  | dropped suspended => cases inHand
  | _ => exact Or.inl inHand

/-! ## Whole runs -/

variable [Message M]

/-- The envelope this step takes out of the channel, if any, has overtaken no command
that would have removed a consumer eligible for it. -/
def NotOvertaking (w : World F I M C) (t : List (Event M)) (a : Action F I M C) : Prop :=
  ∀ consumer e bus loop, a = .takeEnvelope consumer → w.next = some (e, bus, loop) →
    e ∉ w.control.rest → ∀ id, SentAfter t id e → BusCmd.deregister id ∈ w.bus.cmdRx.buf →
      ∀ entry ∈ w.bus.registry.entries, entry.id = id → ¬ Eligible consumer e entry

/-- A dismissed id is gone, or its command is queued; it is gone as soon as `drain`
holds, in its iterator, an envelope sent later; and no such envelope is handed to it. -/
structure Dismissals (w : World F I M C) (t : List (Event M)) : Prop where
  queuedOrAbsent : ∀ id, Dismissed t id → BusCmd.deregister id ∈ w.bus.cmdRx.buf ∨ Absent w id
  inHand : ∀ id e, SentAfter t id e → e ∈ w.control.rest → Absent w id
  unheard : ∀ id e, SentAfter t id e → Event.handed id e ∉ t

variable {ok : World F I M C → List (Event M) → Action F I M C → Prop} {capacity cap : Nat}
  {router : Router} {w w' : World F I M C} {t es : List (Event M)} {a : Action F I M C}

/-- What is accepted in a step was not there before. -/
theorem not_handed_of_accepted (runs : Runs step ok (init capacity router cap) w t)
    (move : Move w a w' es) {id : Nat} {e : Parcel M} (accepted : Event.accepted e ∈ es) :
    Event.handed id e ∉ t := by
  intro handed
  obtain ⟨balance, stamped⟩ := conserved runs
  have earlier : e ∈ t.filterMap Event.accepted? := by
    rw [← Multiset.mem_coe, ← balance, settled, Multiset.mem_add, Multiset.mem_add, Multiset.mem_add]
    right; left; left
    have recorded := Event.mem_filterMap_handed.mpr handed
    exact List.mem_map_of_mem (f := Prod.snd) recorded
  have below : e.serial < w.sent := by
    rw [← List.mem_range, ← stamped]
    exact List.mem_map_of_mem earlier
  have member := Event.mem_filterMap_accepted.mpr accepted
  rcases move.stamps with ⟨none, -⟩ | ⟨e', one, serial, -⟩
  · rw [none] at member
    cases member
  · rw [one] at member
    rw [List.mem_singleton.mp member, serial] at below
    omega

theorem Dismissals.step (runs : Runs step NotOvertaking (init capacity router cap) w t)
    (few : (t.filterMap Event.registered?).length < 2 ^ 64) (dismissals : Dismissals w t)
    (allowed : NotOvertaking w t a) (stepped : w.step a = some (w', es)) : Dismissals w' (t ++ es) := by
  have move := move_of_step stepped
  have sound := resumeSound runs
  have given : ∀ id, Dismissed t id → id < w.bus.registry.nextId := by
    intro id dismissed
    rw [← List.mem_range, ← (idsSound runs few).1]
    exact Event.mem_filterMap_registered.mpr dismissed.registered
  refine ⟨?_, ?_, ?_⟩
  · intro id dismissed
    rcases dismissed.append with earlier | returned
    · rcases dismissals.queuedOrAbsent id earlier with queued | absent
      · exact move.queued_or_absent queued
      · exact Or.inr (move.stays_absent sound (given id earlier) absent)
    · exact Or.inl (move.returned_queued returned)
  · intro id e after inHand
    rcases after.append with earlier | accepted
    · have absent : Absent w id := by
        rcases move.rest_cases inHand with wasInHand | empty
        · exact dismissals.inHand id e earlier wasInHand
        · rcases dismissals.queuedOrAbsent id earlier.dismissed with queued | absent
          · rw [empty] at queued
            cases queued
          · exact absent
      exact move.stays_absent sound (given id earlier.dismissed) absent
    · -- just accepted, it is in the channel and nowhere else
      have distinct := nodup_held (runs.step allowed stepped)
      rw [held, Multiset.nodup_add] at distinct
      have inChannel := (move.accepted_cases accepted).2
      exact absurd inHand (Multiset.disjoint_left.mp distinct.2.2 (Multiset.mem_add.mpr (Or.inl inChannel)))
  · intro id e after handed
    rcases after.append with earlier | accepted
    · rcases List.mem_append.mp handed with old | now
      · exact dismissals.unheard id e earlier old
      · obtain ⟨consumer, bus, loop, routing, taken, -, entry, member, named, eligible⟩ :=
          move.handed_cases now
        by_cases inHand : e ∈ w.control.rest
        · exact dismissals.inHand id e earlier inHand entry member named
        · rcases dismissals.queuedOrAbsent id earlier.dismissed with queued | absent
          · exact allowed consumer e bus loop routing taken inHand id earlier queued entry member named
              eligible
          · exact absent entry member named
    · rcases List.mem_append.mp handed with old | now
      · exact not_handed_of_accepted runs move accepted old
      · rw [(move.accepted_cases accepted).1] at now
        simp at now

theorem dismissals (runs : Runs step NotOvertaking (init capacity router cap) w t)
    (few : (t.filterMap Event.registered?).length < 2 ^ 64) : Dismissals w t := by
  revert few
  apply runs.invariant_reached
  · intro _
    exact ⟨by simp [Dismissed], by simp [SentAfter], by simp⟩
  · intro w t a w' es before ih allowed stepped few
    have fewBefore : (t.filterMap Event.registered?).length < 2 ^ 64 := by
      rw [List.filterMap_append, List.length_append] at few
      omega
    exact (ih fewBefore).step before fewBefore allowed stepped

/-- **A dismissed consumer gets nothing sent later, as long as nothing overtakes its
dismissal.**  In every interleaving, with fewer than `2 ^ 64` registrations, in
which no envelope is taken from the channel while a `Deregister` that returned
before it was sent is still queued for a consumer eligible for it: no envelope
sent after `deregister(id)` returned is handed to the consumer under `id`. -/
theorem dismissed_gets_nothing (runs : Runs step NotOvertaking (init capacity router cap) w t)
    (few : (t.filterMap Event.registered?).length < 2 ^ 64) (id : Nat) (e : Parcel M)
    (after : SentAfter t id e) : Event.handed id e ∉ t :=
  (dismissals runs few).unheard id e after

/-! ## Overtaken -/

/-- `select!` takes the envelope first. -/
def overtakenAtDispatch : List (Action ℚ Unit BaseMessage String) :=
  [.registerConsumer "listener" [], .dispatch, .sendCmd (.deregister 0), .send ⟨"radio"⟩ ping,
    .takeEnvelope obliging]

/-- `drain` has applied the commands and is about to empty the channel. -/
def overtakenAtDrain : List (Action ℚ Unit BaseMessage String) :=
  [.registerConsumer "listener" [], .drain, .advance, .advance, .sendCmd (.deregister 0),
    .send ⟨"radio"⟩ ping, .takeEnvelope obliging]

/-- The envelope sent after `deregister(0)` returned is handed to consumer `0`. -/
theorem dismissed_gets_later_message :
    (∃ w t, Runs step anyStep (init 4 .affinity 8 : World ℚ Unit BaseMessage String) w t ∧
        SentAfter t 0 ⟨⟨"radio"⟩, ⟨0, ping⟩⟩ ∧ Event.handed 0 ⟨⟨"radio"⟩, ⟨0, ping⟩⟩ ∈ t) ∧
      ∃ w t, Runs step anyStep (init 4 .affinity 8 : World ℚ Unit BaseMessage String) w t ∧
        SentAfter t 0 ⟨⟨"radio"⟩, ⟨0, ping⟩⟩ ∧ Event.handed 0 ⟨⟨"radio"⟩, ⟨0, ping⟩⟩ ∈ t := by
  constructor
  · refine ⟨_, _, runs_outcome_any overtakenAtDispatch rfl, ?_, ?_⟩
    · unfold SentAfter
      decide +kernel
    · decide +kernel
  · refine ⟨_, _, runs_outcome_any overtakenAtDrain rfl, ?_, ?_⟩
    · unfold SentAfter
      decide +kernel
    · decide +kernel

/-- The command is taken first; the envelope finds nobody. -/
def inOrder : List (Action ℚ Unit BaseMessage String) :=
  [.registerConsumer "listener" [], .dispatch, .sendCmd (.deregister 0), .send ⟨"radio"⟩ ping, .takeCmd,
    .takeEnvelope obliging]

def orderly : World ℚ Unit BaseMessage String × List (Event BaseMessage) :=
  outcome step (init 4 .affinity 8) inOrder

/-- A step that finds no command queued overtakes none. -/
def noCommands (w : World F I M C) (_ : List (Event M)) (a : Action F I M C) : Bool :=
  match a with
  | .takeEnvelope _ => w.bus.cmdRx.buf.isEmpty
  | _ => true

omit [F32 F] [Message M] in
theorem notOvertaking_of_noCommands (w : World F I M C) (t : List (Event M)) (a : Action F I M C)
    (passes : noCommands w t a = true) : NotOvertaking w t a := by
  rintro consumer e bus loop rfl _ _ id _ queued
  rw [List.isEmpty_iff.mp passes] at queued
  cases queued

theorem dismissed_gets_nothing_in_order : Event.handed 0 ⟨⟨"radio"⟩, ⟨0, ping⟩⟩ ∉ orderly.2 := by
  have runs : Runs step NotOvertaking (init 4 .affinity 8) orderly.1 orderly.2 :=
    runs_outcome inOrder noCommands notOvertaking_of_noCommands rfl rfl
  have after : SentAfter orderly.2 0 ⟨⟨"radio"⟩, ⟨0, ping⟩⟩ := by
    unfold SentAfter
    decide +kernel
  exact dismissed_gets_nothing runs (by decide +kernel) 0 _ after

end World

end Jackfield
