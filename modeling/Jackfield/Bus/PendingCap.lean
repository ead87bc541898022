/-
# Jackfield.Bus.PendingCap -- the cap of the pending queue

`push_pending` makes room and then pushes, so a queue at a positive cap stays at
it; at cap zero there is nothing to drop and the envelope just pushed stays.  The
queue grows only by an envelope that nobody takes, so the cap is kept exactly as
long as it is positive or every envelope routed is taken (`Roomy`).
-/
import Jackfield.Bus.Conservation

namespace Jackfield

set_option autoImplicit false

variable {F I M C : Type} [F32 F]

namespace World

open Machine

/-- The envelope this step routes, if any, goes to a consumer, or the cap is positive. -/
def Roomy (w : World F I M C) (_ : List (Event M)) (a : Action F I M C) : Prop :=
  ∀ consumer e bus loop, a = .takeEnvelope consumer → w.next = some (e, bus, loop) →
    1 ≤ w.bus.maxPending ∨ ∃ entry ∈ w.bus.registry.entries, Eligible consumer e entry

omit [F32 F] in
theorem roomy_of_ne {w : World F I M C} {t : List (Event M)} {a : Action F I M C}
    (other : ∀ consumer, a ≠ .takeEnvelope consumer) : Roomy w t a := by
  intro consumer e bus loop same
  exact absurd same (other consumer)

/-- **One step keeps the cap exactly when it is roomy.** -/
theorem Move.pending_le_iff {w w' : World F I M C} {a : Action F I M C} {es t : List (Event M)}
    (move : Move w a w' es) (within : w.bus.pending.length ≤ w.bus.maxPending) :
    w'.bus.pending.length ≤ w.bus.maxPending ↔ Roomy w t a := by
  cases move with
  | @handed consumer e bus loop entry resume taken member eligible shape =>
      obtain ⟨-, -, -, samePending, -⟩ := next_frame taken
      constructor
      · intro _ consumer' e' bus' loop' same taken'
        cases same
        rw [taken] at taken'
        cases taken'
        exact Or.inr ⟨entry, member, eligible⟩
      · intro _
        show bus.pending.length ≤ _
        rw [samePending]
        exact within
  | @returned consumer e bus loop registry taken shape nobody =>
      obtain ⟨-, -, -, samePending, sameMax⟩ := next_frame taken
      have pushed : (EvictingQueue.push bus.maxPending bus.pending e).length ≤ bus.maxPending ↔
          1 ≤ bus.maxPending :=
        EvictingQueue.length_push_le_iff (by rw [samePending, sameMax]; exact within) e
      rw [sameMax] at pushed
      rw [Bus.pushPending_pending]
      show (EvictingQueue.push bus.maxPending bus.pending e).length ≤ _ ↔ _
      rw [sameMax, pushed]
      constructor
      · intro positive consumer' e' bus' loop' _ _
        exact Or.inl positive
      · intro roomy
        rcases roomy consumer e bus loop rfl taken with positive | ⟨entry, member, eligible⟩
        · exact positive
        · exact absurd eligible (nobody entry member)
  | tookPending running empty =>
      exact iff_of_true (Nat.zero_le _) (roomy_of_ne (by rintro _ ⟨⟩))
  | handles same sameCmds handle =>
      refine iff_of_true within (roomy_of_ne ?_)
      rcases handle with rfl | rfl | rfl | rfl <;> rintro _ ⟨⟩
  | _ => exact iff_of_true within (roomy_of_ne (by rintro _ ⟨⟩))

variable [Message M] {capacity cap : Nat} {router : Router} {w : World F I M C} {t : List (Event M)}

/-- At a positive cap every step is roomy. -/
theorem roomy_of_pos {ok : World F I M C → List (Event M) → Action F I M C → Prop} (positive : 1 ≤ cap)
    (runs : Runs step ok (init capacity router cap) w t) :
    Runs step Roomy (init capacity router cap) w t := by
  apply runs.mono_reached
  intro w t a reached _ consumer e bus loop _ _
  left
  rw [(fixed reached).1]
  exact positive

theorem pending_le (runs : Runs step Roomy (init capacity router cap) w t) :
    w.bus.pending.length ≤ w.bus.maxPending := by
  apply runs.invariant
  · exact Nat.zero_le _
  · intro w t a w' es ih roomy stepped
    have move := move_of_step stepped
    rw [move.fixed.1]
    exact (move.pending_le_iff ih).mpr roomy

/-- **The pending queue respects its cap as long as it is positive, or every
envelope routed is taken.**  In every state that roomy steps lead to, the queue is
within the cap, and of the steps possible there exactly the roomy ones keep it so. -/
theorem pending_within_cap (runs : Runs step Roomy (init capacity router cap) w t) :
    w.bus.pending.length ≤ cap ∧
      ∀ a w' es, w.step a = some (w', es) → (w'.bus.pending.length ≤ cap ↔ Roomy w t a) := by
  have within := pending_le runs
  rw [← (fixed runs).1]
  refine ⟨within, ?_⟩
  intro a w' es stepped
  exact (move_of_step stepped).pending_le_iff within

/-- Nobody is registered; the one message stays. -/
def unwanted : List (Action ℚ Unit BaseMessage String) :=
  [.send ⟨"radio"⟩ ping, .drain, .advance, .advance, .takeEnvelope obliging, .advance]

/-- At cap zero, one `drain` call leaves one envelope in the pending queue. -/
theorem pending_exceeds_cap_zero :
    ∃ w t, Runs step anyStep (init 4 .affinity 0 : World ℚ Unit BaseMessage String) w t ∧
      w.control = .idle ∧ w.bus.maxPending = 0 ∧ ¬ w.bus.pending.length ≤ 0 :=
  ⟨_, _, runs_outcome_any unwanted rfl, rfl, rfl, by decide⟩

/-- The same schedule at cap one. -/
def kept : World ℚ Unit BaseMessage String × List (Event BaseMessage) :=
  outcome step (init 4 .affinity 1) unwanted

theorem pending_within_cap_unwanted : kept.1.bus.pending.length ≤ 1 := by
  have runs : Runs step anyStep (init 4 .affinity 1) kept.1 kept.2 := runs_outcome_any unwanted rfl
  exact (pending_within_cap (roomy_of_pos (by decide) runs)).1

end World

end Jackfield
