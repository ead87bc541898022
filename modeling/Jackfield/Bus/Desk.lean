/-
# Jackfield.Bus.Desk -- the bus and the register calls made on it

`BusCmdHandle::register` spans two channels: it waits for room in the command
channel, and once the command is sent, for the answer on a oneshot made for this
call.  A `Desk` is a world with the state of every such call.  A call's future may
be dropped while it is suspended, and once the bus itself is dropped
(`shutdown`), a call that has no answer yet fails.

Calls are numbered, and the number stands for the call's oneshot.  A consumer
registered by a call is stamped with its number.  The program does not have the
stamp: it tells whose registration an entry of the registry is, also after the
`u64` ids have wrapped round.
-/
import Mathlib.Logic.Function.Basic
import Jackfield.Bus.Moves

namespace Jackfield

set_option autoImplicit false

/-- A boxed consumer, with the call that registers it, if one does. -/
structure Boxed (C : Type) where
  call : Option Nat
  consumer : C
  deriving DecidableEq

/-- One `register` call. -/
inductive Call (F I M C : Type) where
  /-- Not made yet. -/
  | unused
  /-- Suspended in `cmd_tx.send`. -/
  | sending (consumer : C) (dims : List (DimSpec F I (Stamped M)))
  /-- The command is sent; suspended in `reply_rx`. -/
  | waiting
  /-- The answer is in the oneshot. -/
  | replied (id : Nat)
  /-- Returned `Ok(id)`. -/
  | received (id : Nat)
  /-- Returned `Err(ChannelClosed)`. -/
  | failed
  /-- The future was dropped before it returned. -/
  | dropped

/-- Its future has not returned yet. -/
def Call.Suspended {F I M C : Type} (call : Call F I M C) : Prop :=
  (∃ consumer dims, call = .sending consumer dims) ∨ call = .waiting ∨ ∃ id, call = .replied id

structure Desk (F I M C : Type) where
  world : World F I M (Boxed C)
  calls : Nat → Call F I M C
  /-- The bus, and with it both receivers, has been dropped. -/
  closed : Bool

namespace Desk

variable {F I M C : Type}

def init (capacity : Nat) (router : Router) (cap : Nat) : Desk F I M C where
  world := .init capacity router cap
  calls _ := .unused
  closed := false

def setCall (d : Desk F I M C) (r : Nat) (call : Call F I M C) : Desk F I M C :=
  { d with calls := Function.update d.calls r call }

@[simp] theorem setCall_world (d : Desk F I M C) (r : Nat) (call : Call F I M C) :
    (d.setCall r call).world = d.world := rfl

@[simp] theorem setCall_closed (d : Desk F I M C) (r : Nat) (call : Call F I M C) :
    (d.setCall r call).closed = d.closed := rfl

@[simp] theorem setCall_calls (d : Desk F I M C) (r r' : Nat) (call : Call F I M C) :
    (d.setCall r call).calls r' = if r' = r then call else d.calls r' := by
  simp [setCall, Function.update_apply]

end Desk

inductive DeskAction (F I M C : Type) where
  /-- `register` is called: its command waits for room. -/
  | call (r : Nat) (consumer : C) (dims : List (DimSpec F I (Stamped M)))
  /-- Its command is sent. -/
  | submit (r : Nat)
  /-- It receives the answer and returns it. -/
  | receive (r : Nat)
  /-- It finds a channel closed. -/
  | fail (r : Nat)
  /-- Its future is dropped. -/
  | abandon (r : Nat)
  /-- Anything else that happens to the bus. -/
  | world (a : Action F I M (Boxed C))
  | shutdown

/-- The call whose answer a command asks for. -/
def BusCmd.reply? {F I M C : Type} : BusCmd F I M C → Option Nat
  | .register _ _ reply => some reply
  | .deregister _ => none

/-- Registrations by command belong to a call, and no other consumer bears a call's stamp. -/
def Action.plain {F I M C : Type} : Action F I M (Boxed C) → Bool
  | .sendCmd (.register _ _ _) => false
  | .registerConsumer consumer _ => consumer.call.isNone
  | _ => true

/-- The answer an event puts in the oneshot of call `r`. -/
def Event.answer {M : Type} (r : Nat) : Event M → Option Nat
  | .replied r' id => if r' = r then some id else none
  | _ => none

namespace Desk

variable {F I M C : Type}

/-- The calls once the bus has answered: a call that waits gets its answer, any other
has no receiver left. -/
def answered (calls : Nat → Call F I M C) (es : List (Event M)) (r : Nat) : Call F I M C :=
  match calls r, es.findSome? (Event.answer r) with
  | .waiting, some id => .replied id
  | call, _ => call

/-- The calls whose commands are queued, front first. -/
def asked (d : Desk F I M C) : List Nat := d.world.bus.cmdRx.buf.filterMap BusCmd.reply?

variable [F32 F] [Message M]

def step (d : Desk F I M C) : DeskAction F I M C → Option (Desk F I M C × List (Event M))
  | .call r consumer dims =>
      match d.calls r with
      | .unused => some (d.setCall r (.sending consumer dims), [])
      | _ => none
  | .submit r =>
      match d.calls r with
      | .sending consumer dims =>
          if d.closed then none
          else
            (d.world.step (.sendCmd (.register ⟨some r, consumer⟩ dims r))).map fun (world, es) =>
              ({ d with world := world }.setCall r .waiting, es)
      | _ => none
  | .receive r =>
      match d.calls r with
      | .replied id => some (d.setCall r (.received id), [])
      | _ => none
  | .fail r =>
      match d.calls r with
      | .sending _ _ => if d.closed then some (d.setCall r .failed, []) else none
      | .waiting => if d.closed then some (d.setCall r .failed, []) else none
      | _ => none
  | .abandon r =>
      match d.calls r with
      | .sending _ _ => some (d.setCall r .dropped, [])
      | .waiting => some (d.setCall r .dropped, [])
      | .replied _ => some (d.setCall r .dropped, [])
      | _ => none
  | .world a =>
      if d.closed || !a.plain then none
      else
        (d.world.step a).map fun (world, es) =>
          ({ d with world := world, calls := answered d.calls es }, es)
  | .shutdown =>
      -- a call of `drain` or `dispatch` borrows the bus
      match d.world.control with
      | .idle => if d.closed then none else some ({ d with closed := true }, [])
      | _ => none

/-! ## Moves -/

inductive Move : Desk F I M C → DeskAction F I M C → Desk F I M C → List (Event M) → Prop
  | called {d : Desk F I M C} {r : Nat} {consumer : C} {dims : List (DimSpec F I (Stamped M))}
      (fresh : d.calls r = .unused) :
      Move d (.call r consumer dims) (d.setCall r (.sending consumer dims)) []
  | submitted {d : Desk F I M C} {r : Nat} {consumer : C} {dims : List (DimSpec F I (Stamped M))}
      {cmdRx : Channel (BusCmd F I (Stamped M) (Boxed C))} (sending : d.calls r = .sending consumer dims)
      (live : d.closed = false)
      (sent : d.world.step (.sendCmd (.register ⟨some r, consumer⟩ dims r)) =
        some ({ d.world with bus := { d.world.bus with cmdRx := cmdRx } }, []))
      (queued : cmdRx.buf = d.world.bus.cmdRx.buf ++ [.register ⟨some r, consumer⟩ dims r]) :
      Move d (.submit r)
        ({ d with world := { d.world with bus := { d.world.bus with cmdRx := cmdRx } } }.setCall r .waiting) []
  | received {d : Desk F I M C} {r id : Nat} (answer : d.calls r = .replied id) :
      Move d (.receive r) (d.setCall r (.received id)) []
  | failed {d : Desk F I M C} {r : Nat}
      (suspended : (∃ consumer dims, d.calls r = .sending consumer dims) ∨ d.calls r = .waiting)
      (closed : d.closed = true) : Move d (.fail r) (d.setCall r .failed) []
  | abandoned {d : Desk F I M C} {r : Nat}
      (suspended : (∃ consumer dims, d.calls r = .sending consumer dims) ∨ d.calls r = .waiting ∨
        ∃ id, d.calls r = .replied id) : Move d (.abandon r) (d.setCall r .dropped) []
  | worked {d : Desk F I M C} {a : Action F I M (Boxed C)} {world : World F I M (Boxed C)}
      {es : List (Event M)} (live : d.closed = false) (plain : a.plain = true)
      (stepped : d.world.step a = some (world, es)) :
      Move d (.world a) { d with world := world, calls := answered d.calls es } es
  | closed {d : Desk F I M C} (idle : d.world.control = .idle) (live : d.closed = false) :
      Move d .shutdown { d with closed := true } []

/-- **Every step is one of these moves.** -/
theorem move_of_step {d d' : Desk F I M C} {a : DeskAction F I M C} {es : List (Event M)}
    (stepped : d.step a = some (d', es)) : Move d a d' es := by
  cases a with
  | call r consumer dims =>
      simp only [step] at stepped
      split at stepped
      · rename_i fresh
        cases stepped
        exact .called fresh
      · cases stepped
  | submit r =>
      simp only [step] at stepped
      split at stepped
      · rename_i consumer dims sending
        split at stepped
        · cases stepped
        · rename_i live
          obtain ⟨⟨world, es'⟩, sent, same⟩ := Option.map_eq_some_iff.mp stepped
          obtain ⟨cmdRx, queued, isWorld⟩ := Option.map_eq_some_iff.mp sent
          cases isWorld
          cases same
          exact .submitted sending (by simpa using live) sent (Channel.send_buf queued)
      · cases stepped
  | receive r =>
      simp only [step] at stepped
      split at stepped
      · rename_i id answer
        cases stepped
        exact .received answer
      · cases stepped
  | fail r =>
      simp only [step] at stepped
      split at stepped
      · rename_i consumer dims sending
        split at stepped
        · rename_i closed
          cases stepped
          exact .failed (Or.inl ⟨consumer, dims, sending⟩) closed
        · cases stepped
      · rename_i waiting
        split at stepped
        · rename_i closed
          cases stepped
          exact .failed (Or.inr waiting) closed
        · cases stepped
      · cases stepped
  | abandon r =>
      simp only [step] at stepped
      split at stepped
      · rename_i consumer dims sending
        cases stepped
        exact .abandoned (Or.inl ⟨consumer, dims, sending⟩)
      · rename_i waiting
        cases stepped
        exact .abandoned (Or.inr (Or.inl waiting))
      · rename_i id answer
        cases stepped
        exact .abandoned (Or.inr (Or.inr ⟨id, answer⟩))
      · cases stepped
  | world a =>
      simp only [step] at stepped
      split at stepped
      · cases stepped
      · rename_i guard
        obtain ⟨live, plain⟩ : d.closed = false ∧ a.plain = true := by simpa using guard
        obtain ⟨⟨world, es'⟩, worked, same⟩ := Option.map_eq_some_iff.mp stepped
        cases same
        exact .worked live plain worked
  | shutdown =>
      simp only [step] at stepped
      split at stepped
      · rename_i idle
        split at stepped
        · cases stepped
        · rename_i live
          cases stepped
          exact .closed idle (by simpa using live)
      · cases stepped

/-- What happens to the bus is a step of its world. -/
theorem world_step {d d' : Desk F I M C} {a : Action F I M (Boxed C)} {es : List (Event M)}
    (stepped : d.step (.world a) = some (d', es)) :
    d.closed = false ∧ d.world.step a = some (d'.world, es) ∧ d'.calls = answered d.calls es ∧
      d'.closed = false := by
  cases move_of_step stepped with
  | worked live plain worked => exact ⟨live, worked, rfl, live⟩

/-! ## What becomes of a call -/

omit [F32 F] [Message M] in
/-- The answer puts in the oneshots what the bus has sent, and only for calls that wait. -/
theorem answered_cases (calls : Nat → Call F I M C) (es : List (Event M)) (r : Nat) :
    answered calls es r = calls r ∨
      ∃ id, calls r = .waiting ∧ Event.replied r id ∈ es ∧ answered calls es r = .replied id := by
  unfold answered
  split
  · rename_i id waiting found
    obtain ⟨event, member, gives⟩ := List.exists_of_findSome?_eq_some found
    cases event with
    | replied r' id' =>
        simp only [Event.answer, Option.ite_none_right_eq_some, Option.some.injEq] at gives
        obtain ⟨rfl, rfl⟩ := gives
        exact Or.inr ⟨id', waiting, member, rfl⟩
    | _ => cases gives
  · exact Or.inl rfl

/-- **What a step does to one call**: nothing, or the call's next step. -/
theorem Move.call_cases {d d' : Desk F I M C} {a : DeskAction F I M C} {es : List (Event M)}
    (move : Move d a d' es) (r : Nat) :
    d'.calls r = d.calls r ∨
      (∃ consumer dims, a = .call r consumer dims ∧ d.calls r = .unused ∧ d'.calls r = .sending consumer dims) ∨
      (a = .submit r ∧ (∃ consumer dims, d.calls r = .sending consumer dims) ∧ d'.calls r = .waiting) ∨
      (∃ id, a = .receive r ∧ d.calls r = .replied id ∧ d'.calls r = .received id) ∨
      (a = .fail r ∧ (d.calls r).Suspended ∧ d'.calls r = .failed) ∨
      (a = .abandon r ∧ (d.calls r).Suspended ∧ d'.calls r = .dropped) ∨
      ∃ id, d.calls r = .waiting ∧ Event.replied r id ∈ es ∧ d'.calls r = .replied id := by
  -- the other calls stay
  have other : ∀ {r' : Nat} {call : Call F I M C}, r ≠ r' → (d.setCall r' call).calls r = d.calls r := by
    intro r' call apart
    rw [setCall_calls, if_neg apart]
  have own : ∀ {call : Call F I M C}, (d.setCall r call).calls r = call := by simp
  cases move with
  | @called r' consumer dims fresh =>
      by_cases same : r = r'
      · subst same
        exact Or.inr (Or.inl ⟨consumer, dims, rfl, fresh, own⟩)
      · exact Or.inl (other same)
  | @submitted r' consumer dims cmdRx sending live sent queued =>
      by_cases same : r = r'
      · subst same
        exact Or.inr (Or.inr (Or.inl ⟨rfl, ⟨consumer, dims, sending⟩, own⟩))
      · exact Or.inl (other same)
  | @received r' id answer =>
      by_cases same : r = r'
      · subst same
        exact Or.inr (Or.inr (Or.inr (Or.inl ⟨id, rfl, answer, own⟩)))
      · exact Or.inl (other same)
  | @failed r' suspended closed =>
      by_cases same : r = r'
      · subst same
        refine Or.inr (Or.inr (Or.inr (Or.inr (Or.inl ⟨rfl, ?_, own⟩))))
        rcases suspended with sending | waiting
        · exact Or.inl sending
        · exact Or.inr (Or.inl waiting)
      · exact Or.inl (other same)
  | @abandoned r' suspended =>
      by_cases same : r = r'
      · subst same
        exact Or.inr (Or.inr (Or.inr (Or.inr (Or.inr (Or.inl ⟨rfl, suspended, own⟩)))))
      · exact Or.inl (other same)
  | @worked a world es live plain stepped =>
      rcases answered_cases d.calls es r with same | answer
      · exact Or.inl same
      · exact Or.inr (Or.inr (Or.inr (Or.inr (Or.inr (Or.inr answer)))))
  | closed idle live => exact Or.inl rfl

/-- A call that has returned its id stays so. -/
theorem Move.received_stays {d d' : Desk F I M C} {a : DeskAction F I M C} {es : List (Event M)}
    (move : Move d a d' es) {r id : Nat} (returned : d.calls r = .received id) : d'.calls r = .received id := by
  rcases move.call_cases r with same | ⟨consumer, dims, -, was, -⟩ | ⟨-, ⟨consumer, dims, was⟩, -⟩ |
    ⟨id', -, was, -⟩ | ⟨-, was, -⟩ | ⟨-, was, -⟩ | ⟨id', was, -⟩
  · exact same.trans returned
  all_goals
    rw [returned] at was
    simp [Call.Suspended] at was

/-- A call that has returned its id had, or takes the answer now. -/
theorem Move.received_cases {d d' : Desk F I M C} {a : DeskAction F I M C} {es : List (Event M)}
    (move : Move d a d' es) {r id : Nat} (returned : d'.calls r = .received id) :
    d.calls r = .received id ∨ a = .receive r ∧ d.calls r = .replied id := by
  rcases move.call_cases r with same | ⟨consumer, dims, -, -, now⟩ | ⟨-, -, now⟩ | ⟨id', isReceive, replied, now⟩ |
    ⟨-, -, now⟩ | ⟨-, -, now⟩ | ⟨id', -, -, now⟩
  · exact Or.inl (same.symm.trans returned)
  · cases now.symm.trans returned
  · cases now.symm.trans returned
  · cases now.symm.trans returned
    exact Or.inr ⟨isReceive, replied⟩
  · cases now.symm.trans returned
  · cases now.symm.trans returned
  · cases now.symm.trans returned

/-- A call that is dropped was, or is abandoned now. -/
theorem Move.dropped_cases {d d' : Desk F I M C} {a : DeskAction F I M C} {es : List (Event M)}
    (move : Move d a d' es) {r : Nat} (dropped : d'.calls r = .dropped) :
    d.calls r = .dropped ∨ a = .abandon r := by
  rcases move.call_cases r with same | ⟨consumer, dims, -, -, now⟩ | ⟨-, -, now⟩ | ⟨id, -, -, now⟩ |
    ⟨-, -, now⟩ | ⟨isAbandon, -, -⟩ | ⟨id, -, -, now⟩
  · exact Or.inl (same.symm.trans dropped)
  · cases now.symm.trans dropped
  · cases now.symm.trans dropped
  · cases now.symm.trans dropped
  · cases now.symm.trans dropped
  · exact Or.inr isAbandon
  · cases now.symm.trans dropped

/-- A bus that is there has been there. -/
theorem Move.live_before {d d' : Desk F I M C} {a : DeskAction F I M C} {es : List (Event M)}
    (move : Move d a d' es) (live : d'.closed = false) : d.closed = false := by
  cases move with
  | closed idle live' => cases live
  | _ => exact live

/-! ## Runs -/

open Machine

/-- A step of a desk is a step of its world, or leaves that as it is. -/
theorem simulates {d d' : Desk F I M C} {a : DeskAction F I M C} {es : List (Event M)}
    (stepped : d.step a = some (d', es)) :
    ∃ schedule, exec World.step d.world schedule = some (d'.world, es.filterMap some) := by
  rw [List.filterMap_some]
  cases move_of_step stepped with
  | submitted sending live sent queued => exact ⟨[_], (exec_singleton ..).trans sent⟩
  | worked live plain worked => exact ⟨[_], (exec_singleton ..).trans worked⟩
  | _ => exact ⟨[], rfl⟩

/-- The bus is dropped while no call borrows it, and nothing happens to it any more. -/
theorem closed_idle {ok : Desk F I M C → List (Event M) → DeskAction F I M C → Prop} {capacity cap : Nat}
    {router : Router} {d : Desk F I M C} {t : List (Event M)}
    (runs : Runs step ok (init capacity router cap) d t) : d.closed = true → d.world.control = .idle := by
  apply runs.invariant (P := fun d _ => d.closed = true → d.world.control = .idle)
  · intro closed
    cases closed
  · intro d t a d' es ih _ stepped closed
    cases move_of_step stepped with
    | submitted sending live sent queued =>
        have closed : d.closed = true := closed
        rw [live] at closed
        cases closed
    | worked live plain worked =>
        have closed : d.closed = true := closed
        rw [live] at closed
        cases closed
    | closed idle live => exact idle
    | _ => exact ih closed

theorem world_runs {ok : Desk F I M C → List (Event M) → DeskAction F I M C → Prop} {capacity cap : Nat}
    {router : Router} {d : Desk F I M C} {t : List (Event M)}
    (runs : Runs step ok (init capacity router cap) d t) :
    Runs World.step anyStep (World.init capacity router cap) d.world t := by
  have below := runs.simulated (fun d => d.world) some (fun _ _ _ _ => simulates)
  rw [List.filterMap_some] at below
  exact below

end Desk

end Jackfield
