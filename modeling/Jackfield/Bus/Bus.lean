/-
# Jackfield.Bus.Bus -- the bus between two suspensions

The bus owns the receiving ends of its two channels -- envelopes and commands --
the registry, the router and the pending queue.  Here is everything it does
without suspending; how these pieces run, and are interleaved with the tasks that
hold the sending ends, is `Jackfield.Bus.Task`.

The bus holds a sender of each channel itself, which is why a fresh channel counts
one.  A oneshot `reply` is named by a number.
-/
import Jackfield.Lib.Channel
import Jackfield.Lib.EvictingQueue
import Jackfield.Router.Selection

namespace Jackfield

set_option autoImplicit false

inductive BusCmd (F I M C : Type) where
  | register (consumer : C) (dims : List (DimSpec F I M)) (reply : Nat)
  | deregister (id : Nat)

structure Bus (F I M C : Type) where
  rx : Channel (Envelope M)
  cmdRx : Channel (BusCmd F I M C)
  router : Router
  registry : Registry F I M C
  pending : List (Envelope M)
  maxPending : Nat

namespace Bus

variable {F I M C : Type}

/-- `usize::MAX`. -/
def usizeMax : Nat := 2 ^ 64 - 1

/-- The source panics at capacity 0; here such a bus accepts nothing. -/
def withRouter (capacity : Nat) (router : Router) : Bus F I M C where
  rx := .new capacity
  cmdRx := .new 64
  router := router
  registry := .new
  pending := []
  maxPending := usizeMax

/-- The builder method `max_pending`. -/
def capPending (bus : Bus F I M C) (cap : Nat) : Bus F I M C := { bus with maxPending := cap }

def new (capacity : Nat) : Bus F I M C := withRouter capacity .affinity

/-- `Bus::default`. -/
def standard : Bus F I M C := (new 256).capPending 1024

/-- Make room at the front, then push at the back. -/
def pushPending (bus : Bus F I M C) (envelope : Envelope M) : Bus F I M C :=
  let pending := if bus.maxPending ≤ bus.pending.length then bus.pending.tail else bus.pending
  { bus with pending := pending ++ [envelope] }

theorem pushPending_pending (bus : Bus F I M C) (envelope : Envelope M) :
    (bus.pushPending envelope).pending = EvictingQueue.push bus.maxPending bus.pending envelope := rfl

def isEmpty (bus : Bus F I M C) : Bool := bus.rx.buf.isEmpty && bus.pending.isEmpty

def deregisterConsumer (bus : Bus F I M C) (id : Nat) : Bus F I M C × Bool :=
  let removed := bus.registry.deregister id
  ({ bus with registry := removed.1 }, removed.2)

section

variable [F32 F]

/-- `register_consumer` with the builder calls made on what it returns. -/
def registerConsumer (bus : Bus F I M C) (consumer : C) (dims : List (DimSpec F I M)) :
    Bus F I M C × Nat :=
  let builder := bus.registry.registerWith consumer dims
  ({ bus with registry := builder.registry }, builder.id)

/-- The bus after a command, and the answer sent on its oneshot. -/
def applyCmd (bus : Bus F I M C) (cmd : BusCmd F I M C) : Bus F I M C × Option (Nat × Nat) :=
  match cmd with
  | .register consumer dims reply =>
      let b := (bus.registry.register consumer).addDims dims
      ({ bus with registry := b.registry }, some (reply, b.id))
  | .deregister id => ({ bus with registry := (bus.registry.deregister id).1 }, none)

end

end Bus

end Jackfield
