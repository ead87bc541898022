/-
# Jackfield.Lib.Machine -- runs of a labelled machine with an observable trace

A machine is a partial function `step : S → A → Option (S × List E)`: in state
`s` the action `a` is either refused (`none`) or yields the next state and the
events an observer sees.  Every interleaving of the parties of a system is a
list of actions, so a property of every interleaving is a property of `Runs`.

`Runs step ok s₀ s t` says that `s` is reached from `s₀` by enabled actions that
each met `ok` -- a predicate on the state *and the history* before the step --
and that `t` is the trace so far.  The rules are

* `Runs.invariant`: what holds at the start and is kept by every step holds
  throughout; an invariant may speak about the history, and the step lemma of
  `Runs.invariant_reached` also about how the state was reached;
* `Runs.mono_reached`: a side condition may be replaced by one that is weaker on
  the reached states;
* `Runs.append`: two runs, end to end;
* `logged`: the same machine with its schedule for a trace;
* `Runs.within_potential`: how many steps a potential pays for;
* `exec`, `outcome` and `runs_outcome`: a concrete schedule evaluates to a run;
* `Runs.simulated`: a machine built on another one, each of whose steps is a
  schedule of the other, has only runs of the other underneath; by `Runs.simulated_within`
  and `Runs.simulated_allowed` these take only the actions that the schedules take.
-/
import Mathlib.Data.List.Basic

namespace Machine

set_option autoImplicit false

universe u v w

variable {S : Type u} {A : Type v} {E : Type w}

/-- `s` is reached from `s₀` with trace `t`, every step having met `ok`. -/
inductive Runs (step : S → A → Option (S × List E)) (ok : S → List E → A → Prop) (s₀ : S) :
    S → List E → Prop
  | start : Runs step ok s₀ s₀ []
  | step {s s' : S} {t es : List E} {a : A} :
      Runs step ok s₀ s t → ok s t a → step s a = some (s', es) → Runs step ok s₀ s' (t ++ es)

/-- The side condition that excludes no step. -/
def anyStep (_ : S) (_ : List E) (_ : A) : Prop := True

namespace Runs

variable {step : S → A → Option (S × List E)} {ok ok' : S → List E → A → Prop} {s₀ s s' : S}
  {t t' : List E}

/-- One more action, named. -/
theorem act (before : Runs step ok s₀ s t) (a : A) {es : List E} (allowed : ok s t a)
    (stepped : step s a = some (s', es)) : Runs step ok s₀ s' (t ++ es) :=
  .step before allowed stepped

/-- Invariant induction: `P` may read the history. -/
theorem invariant {P : S → List E → Prop} (init : P s₀ [])
    (keep : ∀ s t a s' es, P s t → ok s t a → step s a = some (s', es) → P s' (t ++ es))
    (runs : Runs step ok s₀ s t) : P s t := by
  induction runs with
  | start => exact init
  | step _ allowed stepped ih => exact keep _ _ _ _ _ ih allowed stepped

/-- An invariant whose step lemma may use that the state is reached. -/
theorem invariant_reached {P : S → List E → Prop} (init : P s₀ [])
    (keep : ∀ s t a s' es, Runs step ok s₀ s t → P s t → ok s t a → step s a = some (s', es) →
      P s' (t ++ es))
    (runs : Runs step ok s₀ s t) : P s t := by
  induction runs with
  | start => exact init
  | step before allowed stepped ih => exact keep _ _ _ _ _ before ih allowed stepped

/-- A side condition that reachable states make no stronger may replace another. -/
theorem mono_reached (weaker : ∀ s t a, Runs step ok s₀ s t → ok s t a → ok' s t a)
    (runs : Runs step ok s₀ s t) : Runs step ok' s₀ s t := by
  induction runs with
  | start => exact .start
  | step before allowed stepped ih => exact .step ih (weaker _ _ _ before allowed) stepped

/-- Two runs end to end; the second may have been judged on its own history. -/
theorem append (first : Runs step ok s₀ s t)
    (shift : ∀ s u a, ok' s u a → ok s (t ++ u) a) (second : Runs step ok' s s' t') :
    Runs step ok s₀ s' (t ++ t') := by
  induction second with
  | start => simpa using first
  | step _ allowed stepped ih =>
      rw [← List.append_assoc]
      exact .step ih (shift _ _ _ allowed) stepped

end Runs

/-- A subsequence of a trace that went on ended before, or ends with a new event. -/
theorem sublist_concat_append {l t es : List E} {e : E} (seen : List.Sublist (l ++ [e]) (t ++ es)) :
    List.Sublist (l ++ [e]) t ∨ e ∈ es := by
  obtain ⟨l₁, l₂, cut, old, new⟩ := List.sublist_append_iff.mp seen
  rcases List.eq_nil_or_concat l₂ with rfl | ⟨front, last, rfl⟩
  · rw [List.append_nil] at cut
    exact Or.inl (cut ▸ old)
  · have same : e = last := by simpa using congrArg List.getLast? cut
    rw [same]
    exact Or.inr (new.subset (by simp))

/-- The same machine, its trace being the actions it took. -/
def logged (step : S → A → Option (S × List E)) (s : S) (a : A) : Option (S × List A) :=
  (step s a).map fun next => (next.1, [a])

/-- Run a schedule, refusing as soon as one action is refused. -/
def exec (step : S → A → Option (S × List E)) : S → List A → Option (S × List E)
  | s, [] => some (s, [])
  | s, a :: rest =>
      match step s a with
      | none => none
      | some (s', es) => (exec step s' rest).map fun r => (r.1, es ++ r.2)

/-- A schedule that evaluates begins with a step. -/
theorem exec_cons {step : S → A → Option (S × List E)} {s s' : S} {a : A} {rest : List A} {t : List E}
    (evaluates : exec step s (a :: rest) = some (s', t)) :
    ∃ s₁ es u, step s a = some (s₁, es) ∧ exec step s₁ rest = some (s', u) ∧ t = es ++ u := by
  rw [exec] at evaluates
  split at evaluates
  · cases evaluates
  · rename_i s₁ es stepped
    obtain ⟨⟨s₂, u⟩, tail, same⟩ := Option.map_eq_some_iff.mp evaluates
    cases same
    exact ⟨s₁, es, u, stepped, tail, rfl⟩

/-- Each action of a schedule, with the state and the history it meets. -/
def visits (step : S → A → Option (S × List E)) : S → List E → List A → List (S × List E × A)
  | _, _, [] => []
  | s, t, a :: rest =>
      (s, t, a) ::
        match step s a with
        | none => []
        | some (s', es) => visits step s' (t ++ es) rest

/-- A run goes on along a schedule whose actions are enabled and allowed. -/
theorem Runs.exec {step : S → A → Option (S × List E)} {ok : S → List E → A → Prop} {s₀ s s' : S}
    {t u : List E} (before : Runs step ok s₀ s t) (schedule : List A)
    (allowed : ∀ v ∈ visits step s t schedule, ok v.1 v.2.1 v.2.2)
    (evaluates : Machine.exec step s schedule = some (s', u)) : Runs step ok s₀ s' (t ++ u) := by
  induction schedule generalizing s t u with
  | nil =>
      simp only [Machine.exec, Option.some.injEq, Prod.mk.injEq] at evaluates
      obtain ⟨rfl, rfl⟩ := evaluates
      rw [List.append_nil]
      exact before
  | cons a rest ih =>
      obtain ⟨s₁, es, v, stepped, tail, rfl⟩ := exec_cons evaluates
      rw [visits, stepped] at allowed
      have first : Runs step ok s₀ s₁ (t ++ es) :=
        before.step (allowed (s, t, a) (List.mem_cons_self ..)) stepped
      rw [← List.append_assoc]
      exact ih first (fun v member => allowed v (List.mem_cons_of_mem _ member)) tail

theorem exec_singleton (step : S → A → Option (S × List E)) (s : S) (a : A) :
    exec step s [a] = step s a := by
  simp only [exec]
  cases step s a with
  | none => rfl
  | some next => simp

theorem exec_append {step : S → A → Option (S × List E)} {s s' s'' : S} {schedule rest : List A} {t u : List E}
    (first : exec step s schedule = some (s', t)) (second : exec step s' rest = some (s'', u)) :
    exec step s (schedule ++ rest) = some (s'', t ++ u) := by
  induction schedule generalizing s t with
  | nil =>
      cases first
      exact second
  | cons a schedule ih =>
      obtain ⟨s₁, es, v, stepped, tail, rfl⟩ := exec_cons first
      simp only [List.cons_append, exec, stepped, ih tail, Option.map_some, List.append_assoc]

/-- A schedule is visited action by action. -/
theorem mem_of_mem_visits {step : S → A → Option (S × List E)} {s : S} {t : List E} {schedule : List A}
    {v : S × List E × A} (visited : v ∈ visits step s t schedule) : v.2.2 ∈ schedule := by
  induction schedule generalizing s t with
  | nil => cases visited
  | cons a rest ih =>
      rw [visits] at visited
      rcases List.mem_cons.mp visited with rfl | later
      · exact List.mem_cons_self ..
      · split at later
        · cases later
        · exact List.mem_cons_of_mem _ (ih later)

/-- **Simulation**: `proj` is the other machine's part of the state, and `read` finds
its events among those of the upper machine.  What holds `now` held before, and as long as it
does, the schedules keep to the actions `within`. -/
theorem Runs.simulated_while {S' A' E' : Type*} {step : S → A → Option (S × List E)}
    {step' : S' → A' → Option (S' × List E')} {ok : S → List E → A → Prop} {s₀ s : S} {t : List E}
    (proj : S → S') (read : E → Option E') (within : A' → Prop) (now : S → List E → Prop)
    (simulates : ∀ s t a s' es, Runs step ok s₀ s t → ok s t a → step s a = some (s', es) → now s' (t ++ es) →
      now s t ∧ ∃ schedule, (∀ b ∈ schedule, within b) ∧
        Machine.exec step' (proj s) schedule = some (proj s', es.filterMap read))
    (runs : Runs step ok s₀ s t) (holds : now s t) :
    Runs step' (fun _ _ b => within b) (proj s₀) (proj s) (t.filterMap read) := by
  induction runs with
  | start => exact .start
  | step before allowed stepped ih =>
      obtain ⟨held, schedule, keeps, evaluates⟩ := simulates _ _ _ _ _ before allowed stepped holds
      rw [List.filterMap_append]
      exact (ih held).exec schedule (fun v visited => keeps _ (mem_of_mem_visits visited)) evaluates

/-- The same, where the schedules of the allowed steps do. -/
theorem Runs.simulated_allowed {S' A' E' : Type*} {step : S → A → Option (S × List E)}
    {step' : S' → A' → Option (S' × List E')} {ok : S → List E → A → Prop} {s₀ s : S} {t : List E}
    (proj : S → S') (read : E → Option E') (within : A' → Prop)
    (simulates : ∀ s t a s' es, ok s t a → step s a = some (s', es) →
      ∃ schedule, (∀ b ∈ schedule, within b) ∧
        Machine.exec step' (proj s) schedule = some (proj s', es.filterMap read))
    (runs : Runs step ok s₀ s t) :
    Runs step' (fun _ _ b => within b) (proj s₀) (proj s) (t.filterMap read) :=
  runs.simulated_while proj read within (fun _ _ => True)
    (fun s t a s' es _ allowed stepped _ => ⟨trivial, simulates s t a s' es allowed stepped⟩) trivial

/-- The same, where the schedules of all steps do. -/
theorem Runs.simulated_within {S' A' E' : Type*} {step : S → A → Option (S × List E)}
    {step' : S' → A' → Option (S' × List E')} {ok : S → List E → A → Prop} {s₀ s : S} {t : List E}
    (proj : S → S') (read : E → Option E') (within : A' → Prop)
    (simulates : ∀ s a s' es, step s a = some (s', es) →
      ∃ schedule, (∀ b ∈ schedule, within b) ∧
        Machine.exec step' (proj s) schedule = some (proj s', es.filterMap read))
    (runs : Runs step ok s₀ s t) :
    Runs step' (fun _ _ b => within b) (proj s₀) (proj s) (t.filterMap read) :=
  runs.simulated_allowed proj read within fun s _ a s' es _ stepped => simulates s a s' es stepped

/-- The same, with any schedules. -/
theorem Runs.simulated {S' A' E' : Type*} {step : S → A → Option (S × List E)}
    {step' : S' → A' → Option (S' × List E')} {ok : S → List E → A → Prop} {s₀ s : S} {t : List E}
    (proj : S → S') (read : E → Option E')
    (simulates : ∀ s a s' es, step s a = some (s', es) →
      ∃ schedule, Machine.exec step' (proj s) schedule = some (proj s', es.filterMap read))
    (runs : Runs step ok s₀ s t) : Runs step' anyStep (proj s₀) (proj s) (t.filterMap read) := by
  have within := runs.simulated_within proj read (fun _ => True) fun s a s' es stepped => by
    obtain ⟨schedule, evaluates⟩ := simulates s a s' es stepped
    exact ⟨schedule, fun _ _ => trivial, evaluates⟩
  exact within

/-- **Potential**: if every step keeps `P`, and those of `own` pay one for themselves out of `weight`,
which none of the others raises, then there are at most as many of them as `weight` was. -/
theorem Runs.within_potential {step : S → A → Option (S × List E)} {s₀ s : S} {log : List A} (P : S → Prop)
    (weight : S → Nat) (own : A → Bool) (init : P s₀)
    (pays : ∀ s a s' es, P s → step s a = some (s', es) → P s' ∧ weight s' + (if own a then 1 else 0) ≤ weight s)
    (runs : Runs (logged step) anyStep s₀ s log) : P s ∧ log.countP own + weight s ≤ weight s₀ := by
  apply runs.invariant (P := fun s log => P s ∧ log.countP own + weight s ≤ weight s₀)
  · exact ⟨init, by simp⟩
  · intro s log a s' es ih _ stepped
    obtain ⟨⟨next, below⟩, taken, same⟩ := Option.map_eq_some_iff.mp stepped
    cases same
    obtain ⟨keeps, paid⟩ := pays s a next below ih.1 taken
    have before := ih.2
    refine ⟨keeps, ?_⟩
    rw [List.countP_append, List.countP_singleton]
    show _ + weight next ≤ _
    omega

/-- The state and the trace a schedule leads to; the start, if an action is refused. -/
def outcome (step : S → A → Option (S × List E)) (s₀ : S) (schedule : List A) : S × List E :=
  (exec step s₀ schedule).getD (s₀, [])

theorem exec_eq_outcome {step : S → A → Option (S × List E)} {s₀ : S} {schedule : List A}
    (enabled : (exec step s₀ schedule).isSome) : exec step s₀ schedule = some (outcome step s₀ schedule) := by
  obtain ⟨next, evaluates⟩ := Option.isSome_iff_exists.mp enabled
  rw [outcome, evaluates]
  rfl

/-- A schedule that evaluates, and passes a test at each of its actions, is a run. -/
theorem runs_outcome {step : S → A → Option (S × List E)} {ok : S → List E → A → Prop} {s₀ : S}
    (schedule : List A) (test : S → List E → A → Bool) (sound : ∀ s t a, test s t a = true → ok s t a)
    (passes : (visits step s₀ [] schedule).all (fun v => test v.1 v.2.1 v.2.2) = true)
    (enabled : (exec step s₀ schedule).isSome) :
    Runs step ok s₀ (outcome step s₀ schedule).1 (outcome step s₀ schedule).2 := by
  obtain ⟨⟨s, t⟩, evaluates⟩ := Option.isSome_iff_exists.mp enabled
  rw [outcome, evaluates]
  apply Runs.start.exec schedule _ evaluates
  intro v member
  exact sound _ _ _ (List.all_eq_true.mp passes v member)

/-- The same, where the condition is on the actions alone. -/
theorem runs_outcome_within {step : S → A → Option (S × List E)} {within : A → Prop} {s₀ : S} (schedule : List A)
    (keeps : ∀ a ∈ schedule, within a) (enabled : (exec step s₀ schedule).isSome) :
    Runs step (fun _ _ a => within a) s₀ (outcome step s₀ schedule).1 (outcome step s₀ schedule).2 := by
  obtain ⟨⟨s, t⟩, evaluates⟩ := Option.isSome_iff_exists.mp enabled
  rw [outcome, evaluates]
  exact Runs.start.exec schedule (fun v visited => keeps _ (mem_of_mem_visits visited)) evaluates

/-- Without a side condition, it only has to evaluate. -/
theorem runs_outcome_any {step : S → A → Option (S × List E)} {s₀ : S} (schedule : List A)
    (enabled : (exec step s₀ schedule).isSome) :
    Runs step anyStep s₀ (outcome step s₀ schedule).1 (outcome step s₀ schedule).2 :=
  runs_outcome schedule (fun _ _ _ => true) (fun _ _ _ _ => trivial) (by simp) enabled

end Machine
