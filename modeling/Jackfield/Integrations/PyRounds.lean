/-
# Jackfield.Integrations.PyRounds -- how a drain serves the consumers

`Round` is the invariant of one `drain`: the consumers before the `n`-th have had their
turns (`Done`), those behind it have not, and the error kept is that of the first one
whose callback raised.  A turn is `Served`: the whole batch goes to the callback, or all
of it up to a message that raises, which is put back with what follows it.  So a callback
that raises ends its own turn and no other.

`work` is what a `drain` has left to do at the callbacks; each of its steps there takes
something off it, so that it comes to its end whatever the callbacks answer.
-/
import Jackfield.Integrations.PyDelivery
import Mathlib.Algebra.BigOperators.Intervals

namespace Jackfield

set_option autoImplicit false

variable {F I Err : Type}

open Machine

namespace PyMessageBus

/-! ## One drain -/

/-- A batch, the calls it led to, and what of it was put back: all of it was accepted, or all
up to a message that raised. -/
def Served (batch : List (Stamped Parts)) (calls : List (Stamped BaseMessage × Option Err))
    (left : List (Stamped Parts)) : Prop :=
  ∃ done, batch = done ++ left ∧
    (left = [] ∧ calls = done.map (fun p => (p.whole, none)) ∨
      ∃ m rest e, left = m :: rest ∧ calls = done.map (fun p => (p.whole, none)) ++ [(m.whole, some e)])

/-- What the callback of the `i`-th consumer raised. -/
def failureOf (l : List (PyEvent Err)) (i : Nat) : Option Err :=
  (l.filterMap (PyEvent.callOf i)).findSome? Prod.snd

theorem findSome?_accepted (done : List (Stamped Parts)) :
    (done.map fun p => (p.whole, (none : Option Err))).findSome? Prod.snd = none := by
  induction done with
  | nil => rfl
  | cons p rest ih => simp

theorem failureOf_eq_none_iff {l : List (PyEvent Err)} {i : Nat} :
    failureOf l i = none ↔ ∀ m e, PyEvent.called i m (some e) ∉ l := by
  rw [failureOf, List.findSome?_eq_none_iff]
  constructor
  · intro silent m e raised
    cases silent _ (PyEvent.mem_callOf.mpr raised)
  · rintro silent ⟨m, error⟩ call
    cases error with
    | none => rfl
    | some e => exact absurd (PyEvent.mem_callOf.mp call) (silent m e)

theorem Served.silent_iff {l : List (PyEvent Err)} {i : Nat} {batch left : List (Stamped Parts)}
    (served : Served batch (l.filterMap (PyEvent.callOf i)) left) : failureOf l i = none ↔ left = [] := by
  obtain ⟨done, -, ⟨rfl, calls⟩ | ⟨m, rest, e, rfl, calls⟩⟩ := served
  · simp [failureOf, calls, findSome?_accepted]
  · simp [failureOf, calls, List.findSome?_append, findSome?_accepted]

/-- The `i`-th consumer has had its turn. -/
def Done (queues : Nat → List (Stamped Parts)) (l : List (PyEvent Err)) (i : Nat) : Prop :=
  ∃ batch, l.filterMap (PyEvent.takenFrom i) = [batch] ∧ Served batch (l.filterMap (PyEvent.callOf i)) (queues i)

def NotYet (l : List (PyEvent Err)) (i : Nat) : Prop :=
  l.filterMap (PyEvent.takenFrom i) = [] ∧ l.filterMap (PyEvent.callOf i) = []

/-- The consumers before the `n`-th have had their turns, and those behind it have not. -/
structure Stage (queues : Nat → List (Stamped Parts)) (l : List (PyEvent Err)) (n : Nat)
    (firstErr : Option Err) : Prop where
  done : ∀ i < n, Done queues l i
  notYet : ∀ i > n, NotYet l i
  error : firstErr = (List.range n).findSome? (failureOf l)

/-- How the consumers stand, `l` being what the latest `drain` has done for them. -/
def Round (call : PyCall Err) (queues : Nat → List (Stamped Parts)) (l : List (PyEvent Err)) : Prop :=
  match call with
  | .idle => ∀ i, queues i = [] ↔ failureOf l i = none
  | .draining => l = []
  | .between n firstErr => Stage queues l n firstErr ∧ NotYet l n
  | .calling n msgs firstErr =>
      Stage queues l n firstErr ∧
        ∃ done, l.filterMap (PyEvent.takenFrom n) = [done ++ msgs] ∧
          l.filterMap (PyEvent.callOf n) = done.map fun p => (p.whole, none)

/-- What happens at the turn of the `n`-th consumer concerns no other. -/
theorem Stage.elsewhere {queues queues' : Nat → List (Stamped Parts)} {l : List (PyEvent Err)} {n : Nat}
    {firstErr : Option Err} (stage : Stage queues l n firstErr) {e : PyEvent Err}
    (none : ∀ i ≠ n, e.takenFrom i = none ∧ e.callOf i = none) (same : ∀ i ≠ n, queues' i = queues i) :
    Stage queues' (l ++ [e]) n firstErr := by
  have takes : ∀ i ≠ n, (l ++ [e]).filterMap (PyEvent.takenFrom i) = l.filterMap (PyEvent.takenFrom i) := by
    intro i other
    rw [List.filterMap_append, List.filterMap_cons_none (none i other).1, List.filterMap_nil, List.append_nil]
  have calls : ∀ i ≠ n, (l ++ [e]).filterMap (PyEvent.callOf i) = l.filterMap (PyEvent.callOf i) := by
    intro i other
    rw [List.filterMap_append, List.filterMap_cons_none (none i other).2, List.filterMap_nil, List.append_nil]
  refine ⟨fun i before => ?_, fun i behind => ?_, ?_⟩
  · have other : i ≠ n := by omega
    rw [Done, takes i other, calls i other, same i other]
    exact stage.done i before
  · have other : i ≠ n := by omega
    rw [NotYet, takes i other, calls i other]
    exact stage.notYet i behind
  · have failures : (List.range n).map (failureOf (l ++ [e])) = (List.range n).map (failureOf l) := by
      apply List.map_congr_left
      intro i member
      have before := List.mem_range.mp member
      rw [failureOf, failureOf, calls i (by omega)]
    have read (l : List (PyEvent Err)) :
        (List.range n).findSome? (failureOf l) = ((List.range n).map (failureOf l)).findSome? id := by
      rw [List.findSome?_map]
      rfl
    rw [stage.error, read, read, failures]

/-- The turn passes on. -/
theorem Stage.next {queues : Nat → List (Stamped Parts)} {l : List (PyEvent Err)} {n : Nat}
    {firstErr : Option Err} (stage : Stage queues l n firstErr) (done : Done queues l n) :
    Stage queues l (n + 1) (firstErr.or (failureOf l n)) ∧ NotYet l (n + 1) := by
  refine ⟨⟨fun i before => ?_, fun i behind => stage.notYet i (by omega), ?_⟩, stage.notYet _ (by omega)⟩
  · by_cases last : i = n
    · rw [last]
      exact done
    · exact stage.done i (by omega)
  · rw [List.range_succ, List.findSome?_append, ← stage.error]
    simp

/-! ### One turn -/

section Turn

variable {queues : Nat → List (Stamped Parts)} {l : List (PyEvent Err)} {n : Nat} {firstErr : Option Err}

/-- A turn begins: the consumer's list is taken out. -/
theorem Round.takes (round : Round (.between n firstErr) queues l) :
    Round (.calling n (queues n) firstErr) (Function.update queues n []) (l ++ [.taken n (queues n)]) := by
  obtain ⟨stage, noBatch, noCall⟩ := round
  refine ⟨stage.elsewhere (fun i other => ⟨if_neg (Ne.symm other), rfl⟩)
    (fun i other => Function.update_of_ne other ..), [], ?_, ?_⟩
  · rw [List.filterMap_append, noBatch]
    simp [PyEvent.takenFrom]
  · rw [List.filterMap_append, noCall]
    rfl

/-- A callback returns. -/
theorem Round.accepts {m : Stamped Parts} {rest : List (Stamped Parts)}
    (round : Round (.calling n (m :: rest) firstErr) queues l) :
    Round (.calling n rest firstErr) queues (l ++ [.called n m.whole none]) := by
  obtain ⟨stage, done, batch, calls⟩ := round
  refine ⟨stage.elsewhere (fun i other => ⟨rfl, if_neg (Ne.symm other)⟩) (fun i other => rfl),
    done ++ [m], ?_, ?_⟩
  · rw [List.filterMap_append, batch, List.filterMap_cons_none rfl]
    simp
  · rw [List.filterMap_append, calls]
    simp [PyEvent.callOf]

/-- A callback raises: what is left goes back, and the turn is over. -/
theorem Round.raises {m : Stamped Parts} {rest : List (Stamped Parts)} {e : Err} (emptied : queues n = [])
    (round : Round (.calling n (m :: rest) firstErr) queues l) :
    Round (.between (n + 1) (firstErr.or (some e))) (Function.update queues n (queues n ++ m :: rest))
      (l ++ [.called n m.whole (some e)]) := by
  obtain ⟨stage, done, batch, calls⟩ := round
  have calls' : (l ++ [PyEvent.called n m.whole (some e)]).filterMap (PyEvent.callOf n) =
      done.map (fun p => (p.whole, none)) ++ [(m.whole, some e)] := by
    rw [List.filterMap_append, calls]
    simp [PyEvent.callOf]
  have raised : failureOf (l ++ [PyEvent.called n m.whole (some e)]) n = some e := by
    rw [failureOf, calls', List.findSome?_append, findSome?_accepted]
    rfl
  have after : Stage (Function.update queues n (queues n ++ m :: rest)) (l ++ [PyEvent.called n m.whole (some e)])
      n firstErr :=
    stage.elsewhere (fun i other => ⟨rfl, if_neg (Ne.symm other)⟩) (fun i other => Function.update_of_ne other ..)
  have turn := after.next ⟨done ++ m :: rest, by
    rw [List.filterMap_append, batch, List.filterMap_cons_none rfl]
    simp, done, by simp [emptied], Or.inr ⟨m, rest, e, by simp [emptied], calls'⟩⟩
  rw [raised] at turn
  exact turn

/-- Nothing is left, and the turn is over. -/
theorem Round.usesUp (emptied : queues n = []) (round : Round (.calling n [] firstErr) queues l) :
    Round (.between (n + 1) firstErr) queues l := by
  obtain ⟨stage, done, batch, calls⟩ := round
  have turn := stage.next ⟨done ++ [], batch, done, by rw [emptied], Or.inl ⟨emptied, calls⟩⟩
  have silent : failureOf l n = none := by
    rw [failureOf, calls, findSome?_accepted]
  rw [silent, Option.or_none] at turn
  exact turn

/-- All have had their turns. -/
theorem Round.finishes (unused : ∀ i, n ≤ i → queues i = []) (round : Round (.between n firstErr) queues l) :
    Round .idle queues l := by
  obtain ⟨stage, noBatch, noCall⟩ := round
  intro i
  by_cases before : i < n
  · obtain ⟨batch, -, served⟩ := stage.done i before
    exact served.silent_iff.symm
  · have silent : NotYet l i := by
      rcases Nat.lt_or_eq_of_le (Nat.le_of_not_lt before) with behind | rfl
      · exact stage.notYet i behind
      · exact ⟨noBatch, noCall⟩
    simp [unused i (by omega), failureOf, silent.2]

end Turn

variable [F32 F] [Inhabited I]

omit [F32 F] [Inhabited I] in
theorem latest_bus (t : List (PyEvent Err)) (es : List (Event BaseMessage)) :
    PyEvent.latest (t ++ es.map .bus) = PyEvent.latest t := by
  rw [PyEvent.latest_append, PyEvent.record_bus]

theorem Round.step {s s' : PyMessageBus F I Err} {a : PyAction F Err} {t es : List (PyEvent Err)}
    (round : Round s.call s.queues (PyEvent.latest t)) (orderly : Orderly s) (move : Move s a s' es) :
    Round s'.call s'.queues (PyEvent.latest (t ++ es)) := by
  cases move with
  | registered idle stepped =>
      rw [latest_bus]
      simp only [Round, idle] at round ⊢
      intro i
      by_cases new : i = s.consumers
      · subst new
        rw [Function.update_self, ← round, orderly.unused _ (Nat.le_refl _)]
      · rw [Function.update_of_ne new]
        exact round i
  | @sent producerName msg world handles es refusal schedule only ran isRefusal =>
      have unchanged : PyEvent.latest (t ++ (es.map .bus ++ refusal)) = PyEvent.latest t := by
        rw [← List.append_assoc, PyEvent.latest_append, latest_bus]
        rcases isRefusal with rfl | rfl <;> rfl
      rw [unchanged]
      exact round
  | started idle stepped =>
      rw [PyEvent.latest_append, List.foldl_cons, PyEvent.record_bus]
      rfl
  | returned draining stepped nobody =>
      rw [latest_bus]
      exact round
  | pushed draining stepped chosen =>
      rw [← List.append_assoc, PyEvent.latest_append, latest_bus]
      rw [draining] at round ⊢
      exact round
  | resumed draining stepped =>
      rw [latest_bus]
      exact round
  | advanced draining stepped goesOn =>
      rw [latest_bus]
      rw [draining] at round
      exact round
  | drained draining stepped ended =>
      rw [latest_bus]
      simp only [Round, draining] at round
      rw [round]
      exact ⟨⟨fun i before => absurd before (Nat.not_lt_zero i), fun i _ => ⟨rfl, rfl⟩, rfl⟩, rfl, rfl⟩
  | @taken n firstErr between more =>
      rw [PyEvent.latest_append]
      rw [between] at round
      exact round.takes
  | @accepted n m rest firstErr calling =>
      rw [PyEvent.latest_append]
      rw [calling] at round
      exact round.accepts
  | @failed n m rest firstErr e calling =>
      rw [PyEvent.latest_append]
      have emptied := (orderly.serving n _ _ calling).2
      rw [calling] at round
      exact round.raises emptied
  | @usedUp n firstErr calling =>
      rw [List.append_nil]
      have emptied := (orderly.serving n _ _ calling).2
      rw [calling] at round
      exact round.usesUp emptied
  | @finished n firstErr between last =>
      have unchanged : PyEvent.latest (t ++ [.returned firstErr]) = PyEvent.latest t := by
        rw [PyEvent.latest_append]
        rfl
      rw [unchanged]
      rw [between] at round
      exact round.finishes fun i behind => orderly.unused i (by omega)

variable {ok : PyMessageBus F I Err → List (PyEvent Err) → PyAction F Err → Prop}
  {s : PyMessageBus F I Err} {t : List (PyEvent Err)}

/-- **How the consumers stand**, in any state reached. -/
theorem round (runs : Runs step ok (new : PyMessageBus F I Err) s t) :
    Round s.call s.queues (PyEvent.latest t) := by
  apply runs.invariant_reached (P := fun s t => Round s.call s.queues (PyEvent.latest t))
  · intro i
    exact ⟨fun _ => rfl, fun _ => rfl⟩
  · intro s t a s' es reached ih allowed stepped
    exact ih.step (orderly reached) (move_of_step stepped)

/-! ## What a drain returns -/

/-- The calls that did not raise led through the batch, up to what was put back. -/
theorem Served.accepted {batch left : List (Stamped Parts)} {calls : List (Stamped BaseMessage × Option Err)}
    (served : Served batch calls left) :
    batch.map Stamped.whole =
      (calls.filterMap fun c => if c.2.isNone then some c.1 else none) ++ left.map Stamped.whole := by
  have took (done : List (Stamped Parts)) :
      (done.map fun p => (p.whole, (none : Option Err))).filterMap
        (fun c => if c.2.isNone then some c.1 else none) = done.map Stamped.whole := by
    induction done with
    | nil => rfl
    | cons p rest ih => simp
  obtain ⟨done, rfl, ⟨rfl, rfl⟩ | ⟨m, rest, e, rfl, rfl⟩⟩ := served
  · rw [took, List.append_nil, List.map_nil, List.append_nil]
  · rw [List.filterMap_append, took, List.map_append, List.filterMap_cons_none rfl, List.filterMap_nil,
      List.append_nil]

/-- A callback that raised is not called again in its turn. -/
theorem Served.failure_iff {l : List (PyEvent Err)} {i : Nat} {batch left : List (Stamped Parts)}
    (served : Served batch (l.filterMap (PyEvent.callOf i)) left) (e : Err) :
    failureOf l i = some e ↔ ∃ m, PyEvent.called i m (some e) ∈ l := by
  obtain ⟨done, -, ⟨-, calls⟩ | ⟨m, rest, e', -, calls⟩⟩ := served
  · simp [failureOf, calls, findSome?_accepted, ← PyEvent.mem_callOf]
  · simp [failureOf, calls, List.findSome?_append, findSome?_accepted, ← PyEvent.mem_callOf, eq_comm]

theorem findSome?_range {f : Nat → Option Err} {n : Nat} {e : Err} :
    (List.range n).findSome? f = some e ↔ ∃ i < n, f i = some e ∧ ∀ j < i, f j = none := by
  induction n with
  | zero => simp
  | succ n ih =>
      rw [List.range_succ, List.findSome?_append, Option.or_eq_some_iff, ih]
      constructor
      · rintro (⟨i, before, found, first⟩ | ⟨silent, found⟩)
        · exact ⟨i, by omega, found, first⟩
        · refine ⟨n, by omega, by simpa using found, fun j before => ?_⟩
          exact List.findSome?_eq_none_iff.mp silent j (List.mem_range.mpr before)
      · rintro ⟨i, before, found, first⟩
        by_cases last : i = n
        · subst last
          refine Or.inr ⟨List.findSome?_eq_none_iff.mpr fun j member => first j (List.mem_range.mp member), ?_⟩
          simpa using found
        · exact Or.inl ⟨i, by omega, found, first⟩

/-- The callbacks that raised are those of consumers that have had their turn. -/
theorem Stage.raised_iff {queues : Nat → List (Stamped Parts)} {l : List (PyEvent Err)} {n : Nat}
    {firstErr : Option Err} (stage : Stage queues l n firstErr) (last : NotYet l n) (i : Nat) (e : Err) :
    (∃ m, PyEvent.called i m (some e) ∈ l) ↔ i < n ∧ failureOf l i = some e := by
  constructor
  · rintro ⟨m, raised⟩
    by_cases before : i < n
    · obtain ⟨batch, -, served⟩ := stage.done i before
      exact ⟨before, (served.failure_iff e).mpr ⟨m, raised⟩⟩
    · have silent : NotYet l i := by
        rcases Nat.lt_or_eq_of_le (Nat.le_of_not_lt before) with behind | rfl
        · exact stage.notYet i behind
        · exact last
      have called := PyEvent.mem_callOf.mpr raised
      rw [silent.2] at called
      cases called
  · rintro ⟨before, found⟩
    obtain ⟨batch, -, served⟩ := stage.done i before
    exact (served.failure_iff e).mp found

/-- With every consumer served, the error is that of the first one whose callback raised. -/
theorem Stage.error_iff {queues : Nat → List (Stamped Parts)} {l : List (PyEvent Err)} {n : Nat}
    {firstErr : Option Err} (stage : Stage queues l n firstErr) (last : NotYet l n) (e : Err) :
    firstErr = some e ↔ ∃ i m, PyEvent.called i m (some e) ∈ l ∧
      ∀ j < i, ∀ m' e', PyEvent.called j m' (some e') ∉ l := by
  have raised := stage.raised_iff last
  rw [stage.error, findSome?_range]
  constructor
  · rintro ⟨i, before, found, first⟩
    obtain ⟨m, called⟩ := (raised i e).mpr ⟨before, found⟩
    refine ⟨i, m, called, fun j earlier m' e' called' => ?_⟩
    have found' := ((raised j e').mp ⟨m', called'⟩).2
    rw [first j earlier] at found'
    cases found'
  · rintro ⟨i, m, called, first⟩
    obtain ⟨before, found⟩ := (raised i e).mp ⟨m, called⟩
    refine ⟨i, before, found, fun j earlier => ?_⟩
    by_contra some
    obtain ⟨e', found'⟩ := Option.ne_none_iff_exists'.mp some
    obtain ⟨m', called'⟩ := (raised j e').mpr ⟨by omega, found'⟩
    exact first j earlier m' e' called'

theorem Stage.no_error_iff {queues : Nat → List (Stamped Parts)} {l : List (PyEvent Err)} {n : Nat}
    {firstErr : Option Err} (stage : Stage queues l n firstErr) (last : NotYet l n) :
    firstErr = none ↔ ∀ i m e, PyEvent.called i m (some e) ∉ l := by
  have raised := stage.raised_iff last
  rw [stage.error, List.findSome?_eq_none_iff]
  constructor
  · intro silent i m e called
    obtain ⟨before, found⟩ := (raised i e).mp ⟨m, called⟩
    rw [silent i (List.mem_range.mpr before)] at found
    cases found
  · intro silent i member
    by_contra some
    obtain ⟨e, found⟩ := Option.ne_none_iff_exists'.mp some
    obtain ⟨m, called⟩ := (raised i e).mpr ⟨List.mem_range.mp member, found⟩
    exact silent i m e called

/-! ## The end of a drain -/

/-- What is left to do for the consumers, in steps. -/
def work (s : PyMessageBus F I Err) : Nat :=
  match s.call with
  | .between i _ => 1 + ∑ j ∈ Finset.Ico i s.consumers, ((s.queues j).length + 3)
  | .calling i msgs _ => 2 + msgs.length + ∑ j ∈ Finset.Ico (i + 1) s.consumers, ((s.queues j).length + 3)
  | _ => 0

/-- The bus has drained, and the callbacks are being called. -/
def Serving (s : PyMessageBus F I Err) : Prop := s.call ≠ .idle ∧ s.call ≠ .draining

omit [F32 F] [Inhabited I] in
/-- The turn of a consumer changes nothing for those behind it. -/
theorem work_behind (queues : Nat → List (Stamped Parts)) (msgs : List (Stamped Parts)) (i n : Nat) :
    ∑ j ∈ Finset.Ico (i + 1) n, ((Function.update queues i msgs j).length + 3) =
      ∑ j ∈ Finset.Ico (i + 1) n, ((queues j).length + 3) := by
  apply Finset.sum_congr rfl
  intro j member
  have behind : j ≠ i := by
    have above := (Finset.mem_Ico.mp member).1
    omega
  rw [Function.update_of_ne behind]

/-- **Each step of a `drain` at the callbacks brings it closer to its end**, and a send
changes nothing. -/
theorem Move.works {s s' : PyMessageBus F I Err} {a : PyAction F Err} {es : List (PyEvent Err)}
    (move : Move s a s' es) (serving : Serving s) :
    s'.work < s.work ∨ s'.work = s.work ∧ ∃ producerName msg, a = .send producerName msg := by
  cases move with
  | registered idle stepped => exact absurd idle serving.1
  | sent only ran isRefusal => exact Or.inr ⟨rfl, _, _, rfl⟩
  | started idle stepped => exact absurd idle serving.1
  | returned draining stepped nobody => exact absurd draining serving.2
  | pushed draining stepped chosen => exact absurd draining serving.2
  | resumed draining stepped => exact absurd draining serving.2
  | advanced draining stepped goesOn => exact absurd draining serving.2
  | drained draining stepped ended => exact absurd draining serving.2
  | @taken i firstErr between more =>
      left
      simp only [work, between]
      rw [work_behind, Finset.sum_eq_sum_Ico_succ_bot more]
      omega
  | @accepted i m rest firstErr calling =>
      left
      simp only [work, calling, List.length_cons]
      omega
  | @failed i m rest firstErr e calling =>
      left
      simp only [work, calling, List.length_cons]
      rw [work_behind]
      omega
  | @usedUp i firstErr calling =>
      left
      simp only [work, calling, List.length_nil]
      omega
  | @finished i firstErr between last =>
      left
      simp only [work, between]
      omega

/-- Whatever a callback answers, the `drain` goes on. -/
theorem serving_goes_on {s : PyMessageBus F I Err} (serving : Serving s) (answer : Option Err) :
    ∃ a ∈ ([.take, .callback answer, .next, .finish] : List (PyAction F Err)), (s.step a).isSome := by
  cases now : s.call with
  | idle => exact absurd now serving.1
  | draining => exact absurd now serving.2
  | between i firstErr =>
      by_cases more : i < s.consumers
      · exact ⟨.take, by simp, by simp [step, now, more]⟩
      · exact ⟨.finish, by simp, by simp [step, now, more]⟩
  | calling i msgs firstErr =>
      cases msgs with
      | nil => exact ⟨.next, by simp, by simp [step, now]⟩
      | cons m rest =>
          refine ⟨.callback answer, by simp, ?_⟩
          cases answer <;> simp [step, now]

/-- **Python delivery**, for any consumers, sends and drains, and any answers of the callbacks.
Whenever no `drain` runs, the messages a callback has accepted and those pending for it are
together the messages its wrapper was handed, in that order.  A `drain` that returns has
taken everything pending for each consumer, all that was handed to it and not accepted by the
`drain`s before, and called its callback with one after the other up to the first that raised.
It raises the error of the first consumer whose callback raised, and nothing if none did; and it
does return, since a step of its own is always enabled and each lowers `work`. -/
theorem callbacks_get_everything (runs : Runs step anyStep (new : PyMessageBus F I Err) s t) :
    (s.call = .idle → ∀ i, t.filterMap (PyEvent.acceptedBy i) ++ (s.queues i).map Stamped.whole =
        (t.filterMap (PyEvent.pushedTo i)).map fun e => e.message) ∧
      (∀ s' es, s.step .finish = some (s', es) → ∃ error, es = [.returned error] ∧
        (∀ i < s.consumers, ∃ before batch,
          t.filterMap (PyEvent.acceptedBy i) =
              before ++ (PyEvent.latest t).filterMap (PyEvent.acceptedBy i) ∧
            before ++ batch.map Stamped.whole =
              ((t.filterMap (PyEvent.pushedTo i)).map fun e => e.message) ∧
            (PyEvent.latest t).filterMap (PyEvent.takenFrom i) = [batch] ∧
            Served batch ((PyEvent.latest t).filterMap (PyEvent.callOf i)) (s.queues i)) ∧
        (error = none ↔ ∀ i m e, PyEvent.called i m (some e) ∉ PyEvent.latest t) ∧
        ∀ e, error = some e ↔ ∃ i m, PyEvent.called i m (some e) ∈ PyEvent.latest t ∧
          ∀ j < i, ∀ m' e', PyEvent.called j m' (some e') ∉ PyEvent.latest t) ∧
      (Serving s →
        (∀ answer, ∃ a ∈ ([.take, .callback answer, .next, .finish] : List (PyAction F Err)), (s.step a).isSome) ∧
          ∀ a s' es, s.step a = some (s', es) →
            s'.work < s.work ∨ s'.work = s.work ∧ ∃ producerName msg, a = .send producerName msg) := by
  refine ⟨fun idle i => ?_, fun s' es returns => ?_, fun serving => ⟨serving_goes_on serving, ?_⟩⟩
  · have whole := balanced runs i
    rwa [waiting_of_idle idle] at whole
  · have now := round runs
    have tidy := orderly runs
    cases move_of_step returns with
    | @finished n firstErr between last =>
        simp only [Round, between] at now
        obtain ⟨stage, nobody⟩ := now
        refine ⟨firstErr, rfl, fun i registered => ?_, stage.no_error_iff nobody, stage.error_iff nobody⟩
        obtain ⟨batch, taken, served⟩ := stage.done i (by omega)
        obtain ⟨before, cut⟩ := PyEvent.accepted_latest i t
        have whole := balanced runs i
        have none : s.inHand i = [] := by simp [inHand, between]
        refine ⟨before, batch, cut, ?_, taken, served⟩
        rw [served.accepted, ← PyEvent.filterMap_acceptedBy, ← whole, waiting, none, cut, List.append_assoc,
          List.nil_append]
  · intro a s' es stepped
    exact (move_of_step stepped).works serving

/-- Two listeners, a message for each; the first callback raises. -/
def mixedAnswers : List (PyAction ℚ String) :=
  [.registerConsumer (some "radio") none none, .registerConsumer (some "sensor") none none,
    .send "radio" World.ping, .send "sensor" World.ping, .drain, .advance, .advance, .route, .resume 1,
    .route, .resume 1, .advance, .take, .callback (some "no"), .take, .callback none, .next]

def answered : PyMessageBus ℚ Unit String × List (PyEvent String) := outcome step new mixedAnswers

theorem callbacks_get_everything_answered :
    (∃ before batch, before ++ batch.map Stamped.whole = [(⟨1, World.ping⟩ : Stamped BaseMessage)] ∧
      (PyEvent.latest answered.2).filterMap (PyEvent.takenFrom 1) = [batch] ∧
      Served batch ((PyEvent.latest answered.2).filterMap (PyEvent.callOf 1)) (answered.1.queues 1)) ∧
    ∃ i m, PyEvent.called i m (some "no") ∈ PyEvent.latest answered.2 := by
  have runs : Runs step anyStep (new : PyMessageBus ℚ Unit String) answered.1 answered.2 :=
    runs_outcome_any mixedAnswers rfl
  have returns : answered.1.step .finish =
      some ({ answered.1 with call := .idle }, [.returned (some "no")]) := rfl
  obtain ⟨error, isError, turns, -, which⟩ := (callbacks_get_everything runs).2.1 _ _ returns
  constructor
  · obtain ⟨before, batch, -, whole, taken, served⟩ := turns 1 (by decide +kernel)
    refine ⟨before, batch, whole.trans ?_, taken, served⟩
    decide +kernel
  · cases isError
    obtain ⟨i, m, raised, -⟩ := (which "no").mp rfl
    exact ⟨i, m, raised⟩

end PyMessageBus

end Jackfield
