/-
# Jackfield.Bus.Termination -- `dispatch` never finds its channels closed

`select!` takes its `else` branch when both `recv` answer `None`, and `recv` answers
`None` when the channel is empty and has no sender left.  But the bus keeps the
first sender of each channel in its own fields, to hand out clones of it, and a
running `dispatch` borrows the bus.  So of the senders, one per handle and these
two (`Senders`), the last two never go, and once every handle is gone and the
channels are empty, `dispatch` waits for good: `dispatch_never_ends`.
-/
import Jackfield.Bus.Conservation

namespace Jackfield

set_option autoImplicit false

variable {F I M C : Type}

open Machine

/-- Producer handles given out, less those dropped. -/
def Action.handles : Action F I M C → Int
  | .makeHandle => 1
  | .dropHandle => -1
  | _ => 0

/-- Command handles given out, less those dropped. -/
def Action.cmdHandles : Action F I M C → Int
  | .makeCmdHandle => 1
  | .dropCmdHandle => -1
  | _ => 0

/-- The producer handles in existence after a schedule. -/
def handlesOut (schedule : List (Action F I M C)) : Int := (schedule.map Action.handles).sum

def cmdHandlesOut (schedule : List (Action F I M C)) : Int := (schedule.map Action.cmdHandles).sum

namespace World

/-- Who holds senders: the bus one of each channel, a producer handle one for
envelopes, a command handle one of each. -/
structure Senders (w : World F I M C) (schedule : List (Action F I M C)) : Prop where
  envelopes : (w.bus.rx.senders : Int) = 1 + handlesOut schedule + cmdHandlesOut schedule
  commands : (w.bus.cmdRx.senders : Int) = 1 + cmdHandlesOut schedule
  own : 1 ≤ w.bus.cmdRx.senders
  each : w.bus.cmdRx.senders ≤ w.bus.rx.senders

theorem Senders.change {w w' : World F I M C} {schedule : List (Action F I M C)} {a : Action F I M C}
    (senders : Senders w schedule)
    (envelopes : (w'.bus.rx.senders : Int) = w.bus.rx.senders + a.handles + a.cmdHandles)
    (commands : (w'.bus.cmdRx.senders : Int) = w.bus.cmdRx.senders + a.cmdHandles)
    (own : 1 ≤ w'.bus.cmdRx.senders) (each : w'.bus.cmdRx.senders ≤ w'.bus.rx.senders) :
    Senders w' (schedule ++ [a]) := by
  have out : handlesOut (schedule ++ [a]) = handlesOut schedule + a.handles := by simp [handlesOut]
  have cmdOut : cmdHandlesOut (schedule ++ [a]) = cmdHandlesOut schedule + a.cmdHandles := by
    simp [cmdHandlesOut]
  have before := senders.envelopes
  have cmdBefore := senders.commands
  refine ⟨?_, ?_, own, each⟩
  · omega
  · omega

/-- A step that neither makes nor drops a handle keeps the senders. -/
theorem Senders.keep {w w' : World F I M C} {schedule : List (Action F I M C)} {a : Action F I M C}
    (senders : Senders w schedule) (handles : a.handles = 0) (cmdHandles : a.cmdHandles = 0)
    (sameEnvelopes : w'.bus.rx.senders = w.bus.rx.senders)
    (sameCommands : w'.bus.cmdRx.senders = w.bus.cmdRx.senders) : Senders w' (schedule ++ [a]) := by
  have own := senders.own
  have each := senders.each
  apply senders.change <;> omega

variable [F32 F] [Message M]

theorem Senders.step {w w' : World F I M C} {schedule : List (Action F I M C)} {a : Action F I M C}
    {es : List (Event M)} (senders : Senders w schedule) (stepped : w.step a = some (w', es)) :
    Senders w' (schedule ++ [a]) := by
  cases a with
  | send origin message =>
      obtain ⟨rx, sent, same⟩ := Option.map_eq_some_iff.mp stepped
      cases same
      exact senders.keep rfl rfl (Channel.send_senders sent) rfl
  | sendCmd cmd =>
      obtain ⟨cmdRx, sent, same⟩ := Option.map_eq_some_iff.mp stepped
      cases same
      exact senders.keep rfl rfl rfl (Channel.send_senders sent)
  | makeHandle =>
      cases stepped
      have own := senders.own
      have each := senders.each
      apply senders.change <;> simp only [Action.handles, Action.cmdHandles, Channel.cloneSender] <;> omega
  | dropHandle =>
      simp only [World.step] at stepped
      split at stepped <;> cases stepped
      have own := senders.own
      apply senders.change <;> simp only [Action.handles, Action.cmdHandles, Channel.dropSender] <;> omega
  | makeCmdHandle =>
      cases stepped
      have own := senders.own
      have each := senders.each
      apply senders.change <;> simp only [Action.handles, Action.cmdHandles, Channel.cloneSender] <;> omega
  | dropCmdHandle =>
      simp only [World.step] at stepped
      split at stepped <;> cases stepped
      have each := senders.each
      apply senders.change <;> simp only [Action.handles, Action.cmdHandles, Channel.dropSender] <;> omega
  | registerConsumer consumer dims =>
      simp only [World.step] at stepped
      split at stepped <;> cases stepped
      exact senders.keep rfl rfl rfl rfl
  | deregisterConsumer id =>
      simp only [World.step] at stepped
      split at stepped <;> cases stepped
      exact senders.keep rfl rfl rfl rfl
  | drain =>
      simp only [World.step] at stepped
      split at stepped <;> cases stepped
      exact senders.keep rfl rfl rfl rfl
  | dispatch =>
      simp only [World.step] at stepped
      split at stepped <;> cases stepped
      exact senders.keep rfl rfl rfl rfl
  | takeCmd =>
      have applied : w.takeCmd = some (w', es) := by
        simp only [World.step] at stepped
        split at stepped <;> first | exact stepped | cases stepped
      obtain ⟨⟨cmd, cmdRx⟩, received, same⟩ := Option.map_eq_some_iff.mp applied
      have kept := Channel.tryRecv_senders received
      cases cmd <;> cases same <;> exact senders.keep rfl rfl rfl kept
  | takeEnvelope consumer =>
      obtain ⟨⟨e, bus, loop⟩, taken, same⟩ := Option.map_eq_some_iff.mp stepped
      have kept := next_senders taken
      have sameCommands := congrArg Channel.senders (next_frame taken).1
      simp only [routeFrom] at same
      split at same <;> cases same <;> exact senders.keep rfl rfl kept sameCommands
  | advance =>
      obtain ⟨next, advanced, same⟩ := Option.map_eq_some_iff.mp stepped
      cases same
      cases move_advance advanced with
      | handles sameBuf sameCmds handle => simp at handle
      | _ => exact senders.keep rfl rfl rfl rfl
  | resume latency =>
      simp only [World.step] at stepped
      split at stepped <;> cases stepped
      exact senders.keep rfl rfl rfl rfl
  | drop =>
      simp only [World.step] at stepped
      split at stepped <;> cases stepped <;> exact senders.keep rfl rfl rfl rfl

/-! ## Waiting for good -/

/-- `dispatch` runs, no handle is left, and both channels are empty. -/
structure Deserted (w : World F I M C) (schedule : List (Action F I M C)) : Prop where
  dispatching : w.control = .running .dispatch
  noHandle : handlesOut schedule = 0
  noCmdHandle : cmdHandlesOut schedule = 0
  noEnvelope : w.bus.rx.buf = []
  noCommand : w.bus.cmdRx.buf = []

variable {capacity cap : Nat} {router : Router} {w : World F I M C} {schedule : List (Action F I M C)}

theorem senders (runs : Runs (logged step) anyStep (init capacity router cap) w schedule) :
    Senders w schedule := by
  apply runs.invariant (P := fun w schedule => Senders w schedule)
  · exact ⟨rfl, rfl, Nat.le_refl 1, Nat.le_refl 1⟩
  · intro w schedule a w' log ih _ stepped
    obtain ⟨⟨next, es⟩, really, same⟩ := Option.map_eq_some_iff.mp stepped
    cases same
    exact ih.step really

/-- **`dispatch` never ends.**  In every reachable state in which `dispatch` runs, every
handle ever given out has been dropped and both channels are empty, the senders
left are the two of the bus, its loop is not about to break, and it can do nothing
else either. -/
theorem dispatch_never_ends (runs : Runs (logged step) anyStep (init capacity router cap) w schedule)
    (deserted : Deserted w schedule) :
    w.bus.rx.senders = 1 ∧ w.bus.cmdRx.senders = 1 ∧ w.step .advance = none ∧
      w.step .takeCmd = none ∧ (∀ consumer, w.step (.takeEnvelope consumer) = none) ∧
      ∀ latency, w.step (.resume latency) = none := by
  obtain ⟨dispatching, noHandle, noCmdHandle, noEnvelope, noCommand⟩ := deserted
  obtain ⟨envelopes, commands, own, each⟩ := senders runs
  rw [noHandle, noCmdHandle] at envelopes
  rw [noCmdHandle] at commands
  refine ⟨by omega, by omega, ?_, ?_, ?_, ?_⟩
  · have stillOpen : w.bus.cmdRx.closed = false := Channel.not_closed_of_senders own
    simp [World.step, World.advance, dispatching, stillOpen]
  · simp [World.step, World.takeCmd, dispatching, Channel.tryRecv_eq_none_iff.mpr noCommand]
  · intro consumer
    simp [World.step, World.next, dispatching, Channel.tryRecv_eq_none_iff.mpr noEnvelope]
  · intro latency
    simp [World.step, dispatching]

/-- One handle of each kind is made and dropped again. -/
def everybodyLeaves : List (Action ℚ Unit BaseMessage String) :=
  [.makeHandle, .makeCmdHandle, .dispatch, .dropHandle, .dropCmdHandle]

def left : World ℚ Unit BaseMessage String × List (Action ℚ Unit BaseMessage String) :=
  outcome (logged step) (init 4 .affinity 8) everybodyLeaves

theorem left_runs : Runs (logged step) anyStep (init 4 .affinity 8) left.1 left.2 :=
  runs_outcome_any everybodyLeaves rfl

theorem left_deserted : Deserted left.1 left.2 := ⟨rfl, rfl, rfl, rfl, rfl⟩

/-- Nobody is left, and the loop does not break. -/
theorem deserted_dispatch_goes_on :
    Runs (logged step) anyStep (init 4 .affinity 8) left.1 left.2 ∧ Deserted left.1 left.2 ∧
      left.1.step .advance = none :=
  ⟨left_runs, left_deserted, rfl⟩

theorem dispatch_never_ends_left : left.1.step .advance = none :=
  (dispatch_never_ends left_runs left_deserted).2.2.1

end World

end Jackfield
