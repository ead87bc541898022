/-
# Jackfield.Registry.Registry -- the consumer registry

The registry is a vector of entries, each a consumer with its dimensions, and the
counter that names the next one.  `plan` scores every entry against an envelope
and ranks those no required dimension rejects; `observe` and `observeConsumed`
tell the dimensions what became of the dispatch.

`C` is the type of boxed consumers: an identity, since what a consumer answers
may change from call to call.

Vector indices are taken as the source takes them.  Where it indexes, the model
looks up and leaves an index out of range without effect, where the source would
panic; `Jackfield.Router.Outcome` proves that no index is ever out of range.
-/
import Mathlib.Data.List.Sort
import Jackfield.Router.Dimension

namespace Jackfield

set_option autoImplicit false

structure DimEntry (F I M : Type) where
  dim : Dimension F I M
  state : DimState F I
  rejectOnMiss : Bool

structure RegistrationEntry (F I M C : Type) where
  id : Nat
  consumer : C
  dims : List (DimEntry F I M)

structure Registry (F I M C : Type) where
  entries : List (RegistrationEntry F I M C)
  nextId : Nat

/-- The builder borrows the registry; it holds the one being built. -/
structure RegistrationBuilder (F I M C : Type) where
  id : Nat
  registry : Registry F I M C
  idx : Nat

/-- What a chain of `require` and `prefer` calls, or a `Register` command, lists
for one dimension: the dimension, whether it is required, and its weight. -/
abbrev DimSpec (F I M : Type) := Dimension F I M × Bool × F

/-- One candidate of a plan: the triple (score, registration id, index). -/
structure Candidate (F : Type) where
  score : F
  id : Nat
  idx : Nat
  deriving DecidableEq

/-- The comparator of the sort: higher score first, then lower registration id. -/
def Candidate.before {F : Type} [F32 F] (a b : Candidate F) : Prop :=
  b.score < a.score ∨ (b.score = a.score ∧ a.id ≤ b.id)

instance {F : Type} [F32 F] (a b : Candidate F) : Decidable (a.before b) := by
  unfold Candidate.before; infer_instance

structure RoutePlan (F : Type) where
  eventMeta : EventMeta
  qualified : List (Candidate F)

section Builder

variable {F I M C : Type}

/-- Push a dimension entry on the entry being built. -/
def RegistrationBuilder.pushDim (b : RegistrationBuilder F I M C) (entry : DimEntry F I M) :
    RegistrationBuilder F I M C :=
  { b with
    registry := { b.registry with
      entries := b.registry.entries.modify b.idx fun e => { e with dims := e.dims ++ [entry] } } }

variable [F32 F]

def RegistrationBuilder.requireBoxed (b : RegistrationBuilder F I M C) (dim : Dimension F I M) :
    RegistrationBuilder F I M C :=
  b.pushDim { dim := dim, state := dim.newState (F32.lit 1), rejectOnMiss := true }

def RegistrationBuilder.preferBoxed (b : RegistrationBuilder F I M C) (dim : Dimension F I M)
    (weight : F) : RegistrationBuilder F I M C :=
  b.pushDim { dim := dim, state := dim.newState weight, rejectOnMiss := false }

/-- Each listed dimension in turn, required or preferred. -/
def RegistrationBuilder.addDims (b : RegistrationBuilder F I M C) (dims : List (DimSpec F I M)) :
    RegistrationBuilder F I M C :=
  dims.foldl (fun b d => if d.2.1 then b.requireBoxed d.1 else b.preferBoxed d.1 d.2.2) b

end Builder

namespace Registry

variable {F I M C : Type}

def new : Registry F I M C := ⟨[], 0⟩

/-- The counter is a `u64`. -/
def register (r : Registry F I M C) (consumer : C) : RegistrationBuilder F I M C :=
  let entries := r.entries ++ [{ id := r.nextId, consumer := consumer, dims := [] }]
  { id := r.nextId
    registry := { entries := entries, nextId := (r.nextId + 1) % 2 ^ 64 }
    idx := entries.length - 1 }

def deregister (r : Registry F I M C) (id : Nat) : Registry F I M C × Bool :=
  let before := r.entries.length
  let entries := r.entries.filter fun e => e.id ≠ id
  ({ r with entries := entries }, decide (entries.length < before))

/-! ## Planning -/

section Plan

variable [F32 F]

/-- The scoring loop over one entry's dimensions, from the running total;
`none` when a required dimension rejects, where the source breaks off. -/
def scoreDims (envelope : Envelope M) : List (DimEntry F I M) → F → Option F
  | [], total => some total
  | de :: rest, total =>
      match de.dim.evaluate envelope de.state with
      | .reject => if de.rejectOnMiss then none else scoreDims envelope rest total
      | .score s => scoreDims envelope rest (total + de.state.weight * s)

/-- Non-finite totals are clamped to `0.0`. -/
def clamp (total : F) : F := if F32.isFinite total then total else F32.lit 0

def candidate (envelope : Envelope M) (entry : RegistrationEntry F I M C) (i : Nat) :
    Option (Candidate F) :=
  (scoreDims envelope entry.dims (F32.lit 0)).map fun total => ⟨clamp total, entry.id, i⟩

/-- The source's `sort_by` is a stable sort, as insertion sort is. -/
def plan [Message M] (r : Registry F I M C) (envelope : Envelope M) : RoutePlan F where
  eventMeta := .fromEnvelope envelope
  qualified :=
    (r.entries.zipIdx.filterMap fun e => candidate envelope e.1 e.2).insertionSort Candidate.before

end Plan

/-! ## Feedback -/

/-- Every dimension of an entry hears one event. -/
def observeEntry (event : DispatchEvent) (entry : RegistrationEntry F I M C) :
    RegistrationEntry F I M C :=
  { entry with
    dims := entry.dims.map fun de => { de with state := de.dim.observe event de.state } }

/-- Deliver one event to every dimension of the entry at an index. -/
def deliver (r : Registry F I M C) (delivery : Nat × DispatchEvent) : Registry F I M C :=
  { r with entries := r.entries.modify delivery.1 (observeEntry delivery.2) }

/-- The `events` vector of `observe`: what was tried before the winner, then every
candidate ranked after it. -/
def events (plan : RoutePlan F) (winnerIdx : Option Nat) (preWinner : List (Nat × Bool)) :
    List (Nat × DispatchEvent) :=
  let tried := preWinner.map fun p =>
    (p.1, if p.2 then DispatchEvent.busy plan.eventMeta else .vetoed plan.eventMeta)
  let skipped := match winnerIdx with
    | none => []
    | some w =>
        match plan.qualified.findIdx? fun c => c.idx == w with
        | none => []
        | some pos =>
            (plan.qualified.drop (pos + 1)).map fun c => (c.idx, .skipped plan.eventMeta)
  tried ++ skipped

def observe (r : Registry F I M C) (plan : RoutePlan F) (winnerIdx : Option Nat)
    (preWinner : List (Nat × Bool)) : Registry F I M C :=
  (events plan winnerIdx preWinner).foldl deliver r

def observeConsumed (r : Registry F I M C) (idx : Nat) (eventMeta : EventMeta) (latency : Nat) :
    Registry F I M C :=
  r.deliver (idx, .consumed eventMeta latency)

end Registry

end Jackfield
