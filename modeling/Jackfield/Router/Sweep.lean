/-
# Jackfield.Router.Sweep -- routing envelopes one after another

A `drain` routes a list of envelopes in order, each with the registry the one before
it left.  `Router.sweep` is that, given what each routing meets: who was handed what,
which envelopes came back, and the registry in the end.

With built-in dimensions and answers that stay the same, an envelope that came back
would come back again: nobody is eligible for it in the registry the sweep leaves
(`sweep_back_ineligible`), and a sweep of such envelopes hands nothing to anybody
(`sweep_of_ineligible`).
-/
import Jackfield.Router.BuiltIn

namespace Jackfield

set_option autoImplicit false

variable {F I M C : Type}

/-- What one routing meets: the answers of the consumers, and the latency it measures. -/
structure Turn (M C : Type) where
  consumer : Consumer M C
  latency : Nat

structure Swept (F I M C : Type) where
  /-- Who was handed what, by registration id. -/
  handed : List (Nat × Envelope M)
  /-- What the router handed back. -/
  back : List (Envelope M)
  registry : Registry F I M C

variable [F32 F] [Message M]

namespace Router

def sweep (router : Router) : List (Envelope M × Turn M C) → Registry F I M C → Swept F I M C
  | [], r => ⟨[], [], r⟩
  | (e, turn) :: rest, r =>
      match router.route turn.consumer r e with
      | .consuming _ entry resume =>
          let swept := router.sweep rest (resume turn.latency)
          { swept with handed := (entry.id, e) :: swept.handed }
      | .unhandled r' back =>
          let swept := router.sweep rest r'
          { swept with back := back :: swept.back }

variable {router : Router} {turn : Turn M C} {r : Registry F I M C} {e : Envelope M}
  {rest : List (Envelope M × Turn M C)}

theorem sweep_consuming {i : Nat} {entry : RegistrationEntry F I M C} {resume : Nat → Registry F I M C}
    (routed : router.route turn.consumer r e = .consuming i entry resume) :
    router.sweep ((e, turn) :: rest) r =
      { router.sweep rest (resume turn.latency) with
        handed := (entry.id, e) :: (router.sweep rest (resume turn.latency)).handed } := by
  rw [sweep, routed]

theorem sweep_unhandled {r' : Registry F I M C} {back : Envelope M}
    (routed : router.route turn.consumer r e = .unhandled r' back) :
    router.sweep ((e, turn) :: rest) r =
      { router.sweep rest r' with back := back :: (router.sweep rest r').back } := by
  rw [sweep, routed]

/-- What came back is part of what was routed, in that order. -/
theorem sweep_back_sublist (router : Router) (l : List (Envelope M × Turn M C)) (r : Registry F I M C) :
    List.Sublist (router.sweep l r).back (l.map Prod.fst) := by
  induction l generalizing r with
  | nil => exact .slnil
  | cons head rest ih =>
      obtain ⟨e, turn⟩ := head
      rcases router.route_cases turn.consumer r e with
        ⟨i, entry, resume, routed, -, -, -⟩ | ⟨r', routed, -, -⟩
      · rw [sweep_consuming routed]
        exact (ih _).cons e
      · rw [sweep_unhandled routed]
        exact (ih r').cons_cons e

theorem sweep_sameShape (router : Router) (l : List (Envelope M × Turn M C)) (r : Registry F I M C) :
    r.SameShape (router.sweep l r).registry := by
  induction l generalizing r with
  | nil => exact .refl r
  | cons head rest ih =>
      obtain ⟨e, turn⟩ := head
      rcases router.route_cases turn.consumer r e with
        ⟨i, entry, resume, routed, -, -, shape⟩ | ⟨r', routed, shape, -⟩
      · rw [sweep_consuming routed]
        exact (shape turn.latency).trans (ih _)
      · rw [sweep_unhandled routed]
        exact shape.trans (ih r')

/-! ## Answers that stay the same -/

variable [Inhabited I] {consumer : Consumer M C}

/-- **What came back would come back again.** -/
theorem sweep_back_ineligible {l : List (Envelope M × Turn M C)}
    (same : ∀ p ∈ l, p.2.consumer = consumer) (builtIn : ∀ entry ∈ r.entries, entry.BuiltIn) :
    ∀ e ∈ (router.sweep l r).back, ∀ entry ∈ (router.sweep l r).registry.entries,
      ¬ Eligible consumer e entry := by
  induction l generalizing r with
  | nil =>
      intro e member
      cases member
  | cons head rest ih =>
      obtain ⟨e, turn⟩ := head
      have answers : turn.consumer = consumer := same (e, turn) (by simp)
      have later : ∀ p ∈ rest, p.2.consumer = consumer := fun p member => same p (by simp [member])
      rcases router.route_cases turn.consumer r e with
        ⟨i, entry, resume, routed, -, -, shape⟩ | ⟨r', routed, shape, nobody⟩
      · rw [sweep_consuming routed]
        exact ih later (builtIn_sameShape builtIn (shape turn.latency))
      · rw [sweep_unhandled routed]
        intro e' member
        rcases List.mem_cons.mp member with rfl | inTail
        · rw [answers] at nobody
          exact ineligible_sameShape builtIn (shape.trans (router.sweep_sameShape rest r')) nobody
        · exact ih later (builtIn_sameShape builtIn shape) e' inTail

/-- A sweep of envelopes nobody is eligible for hands them all back. -/
theorem sweep_of_ineligible {l : List (Envelope M × Turn M C)}
    (same : ∀ p ∈ l, p.2.consumer = consumer) (builtIn : ∀ entry ∈ r.entries, entry.BuiltIn)
    (nobody : ∀ p ∈ l, ∀ entry ∈ r.entries, ¬ Eligible consumer p.1 entry) :
    (router.sweep l r).handed = [] ∧ (router.sweep l r).back = l.map Prod.fst := by
  induction l generalizing r with
  | nil => exact ⟨rfl, rfl⟩
  | cons head rest ih =>
      obtain ⟨e, turn⟩ := head
      have answers : turn.consumer = consumer := same (e, turn) (by simp)
      rcases router.route_cases turn.consumer r e with
        ⟨i, entry, resume, routed, found, eligible, -⟩ | ⟨r', routed, shape, -⟩
      · rw [answers] at eligible
        exact absurd eligible (nobody (e, turn) (by simp) entry (List.mem_of_getElem? found))
      · rw [sweep_unhandled routed]
        obtain ⟨none, all⟩ := ih (fun p member => same p (by simp [member]))
          (builtIn_sameShape builtIn shape)
          (fun p member => ineligible_sameShape builtIn shape (nobody p (by simp [member])))
        exact ⟨none, by rw [all]; rfl⟩

end Router

end Jackfield
