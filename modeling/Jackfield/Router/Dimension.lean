/-
# Jackfield.Router.Dimension -- routing dimensions

A dimension judges an envelope (`evaluate`: reject it, or score it) and hears
afterwards what became of it (`observe`).  Its state is a weight and an inner
value of its own; `I` is the type those inner values are drawn from, whose
default stands for the empty box of a dimension that keeps none.

The built-in dimensions match on the origin, the labels and the size.  All three
ignore their state when they judge, score `1.0` or reject, and share
`adjustWeight` (`BuiltIn`).
-/
import Jackfield.Lib.Float32
import Jackfield.Message

namespace Jackfield

set_option autoImplicit false

inductive Verdict (F : Type) where
  | reject
  | score (s : F)

/-- `matches!(verdict, Verdict::Reject)`. -/
def Verdict.isReject {F : Type} : Verdict F → Bool
  | .reject => true
  | .score _ => false

structure DimState (F I : Type) where
  weight : F
  inner : I

structure EventMeta where
  origin : ProducerId
  labels : List String
  size : Nat
  deriving DecidableEq

def EventMeta.fromEnvelope {M : Type} [Message M] (env : Envelope M) : EventMeta where
  origin := env.origin
  labels := Message.getLabels env.message
  size := (Message.getBytes env.message).length

/-- What a dimension hears after a dispatch; `latency` is in nanoseconds. -/
inductive DispatchEvent where
  | vetoed (eventMeta : EventMeta)
  | consumed (eventMeta : EventMeta) (latency : Nat)
  | busy (eventMeta : EventMeta)
  | skipped (eventMeta : EventMeta)
  deriving DecidableEq

/-- A boxed dimension: the methods of the trait. -/
structure Dimension (F I M : Type) where
  evaluate : Envelope M → DimState F I → Verdict F
  observe : DispatchEvent → DimState F I → DimState F I
  newState : F → DimState F I

section Adjust

variable {F I : Type} [F32 F]

/-- Consumed is rewarded (×1.1, cap 100.0); busy (×0.8) and vetoed (×0.9) are
penalised with floor 0.001; skipped changes nothing. -/
def adjustWeight (event : DispatchEvent) (state : DimState F I) : DimState F I :=
  match event with
  | .consumed _ _ =>
      { state with weight := F32.fmin (state.weight * F32.lit (11 / 10)) (F32.lit 100) }
  | .busy _ =>
      { state with weight := F32.fmax (state.weight * F32.lit (8 / 10)) (F32.lit (1 / 1000)) }
  | .vetoed _ =>
      { state with weight := F32.fmax (state.weight * F32.lit (9 / 10)) (F32.lit (1 / 1000)) }
  | .skipped _ => state

end Adjust

/-! ## The built-in dimensions -/

inductive Matcher where
  | anyOf (list : List String)
  | noneOf (list : List String)
  deriving DecidableEq

def Matcher.matches (m : Matcher) (value : String) : Bool :=
  match m with
  | .anyOf list => list.any fun s => s == value
  | .noneOf list => !list.any fun s => s == value

structure ProducerDim where
  matcher : Matcher
  deriving DecidableEq

def ProducerDim.only (name : String) : ProducerDim := ⟨.anyOf [name]⟩
def ProducerDim.anyOf (names : List String) : ProducerDim := ⟨.anyOf names⟩
def ProducerDim.noneOf (names : List String) : ProducerDim := ⟨.noneOf names⟩

inductive LabelMatcher where
  | anyOf (labels : List String)
  | allOf (labels : List String)
  | noneOf (labels : List String)
  deriving DecidableEq

structure LabelDim where
  matcher : LabelMatcher
  deriving DecidableEq

def LabelDim.anyOf (labels : List String) : LabelDim := ⟨.anyOf labels⟩
def LabelDim.allOf (labels : List String) : LabelDim := ⟨.allOf labels⟩
def LabelDim.noneOf (labels : List String) : LabelDim := ⟨.noneOf labels⟩

structure SizeDim where
  min : Option Nat
  max : Option Nat
  deriving DecidableEq

def SizeDim.atMost (maxBytes : Nat) : SizeDim := ⟨none, some maxBytes⟩
def SizeDim.atLeast (minBytes : Nat) : SizeDim := ⟨some minBytes, none⟩
def SizeDim.between (min max : Nat) : SizeDim := ⟨some min, some max⟩

section BuiltIn

variable {F I M : Type} [F32 F] [Inhabited I] [Message M]

/-- The trait's default `new_state`: the given weight and an empty inner value. -/
def Dimension.defaultState (initialWeight : F) : DimState F I := ⟨initialWeight, default⟩

def ProducerDim.evaluate (d : ProducerDim) (env : Envelope M) (_ : DimState F I) : Verdict F :=
  if d.matcher.matches env.origin.name then .score (F32.lit 1) else .reject

def LabelDim.evaluate (d : LabelDim) (env : Envelope M) (_ : DimState F I) : Verdict F :=
  let msgLabels := Message.getLabels env.message
  let matched := match d.matcher with
    | .anyOf l => l.any fun label => msgLabels.contains label
    | .allOf l => l.all fun label => msgLabels.contains label
    | .noneOf l => !l.any fun label => msgLabels.contains label
  if matched then .score (F32.lit 1) else .reject

def SizeDim.evaluate (d : SizeDim) (env : Envelope M) (_ : DimState F I) : Verdict F :=
  let size := (Message.getBytes env.message).length
  let tooSmall := (d.min.map fun m => decide (size < m)).getD false
  let tooLarge := (d.max.map fun m => decide (m < size)).getD false
  if tooSmall || tooLarge then .reject else .score (F32.lit 1)

def ProducerDim.toDimension (d : ProducerDim) : Dimension F I M where
  evaluate := d.evaluate
  observe := adjustWeight
  newState := Dimension.defaultState

def LabelDim.toDimension (d : LabelDim) : Dimension F I M where
  evaluate := d.evaluate
  observe := adjustWeight
  newState := Dimension.defaultState

def SizeDim.toDimension (d : SizeDim) : Dimension F I M where
  evaluate := d.evaluate
  observe := adjustWeight
  newState := Dimension.defaultState

/-- One of the three dimensions the crate ships. -/
inductive Dimension.BuiltIn : Dimension F I M → Prop
  | producer (d : ProducerDim) : BuiltIn d.toDimension
  | label (d : LabelDim) : BuiltIn d.toDimension
  | size (d : SizeDim) : BuiltIn d.toDimension

namespace Dimension.BuiltIn

variable {d : Dimension F I M}

/-- A built-in dimension rejects or scores one, whatever its state. -/
theorem evaluate_cases (builtIn : d.BuiltIn) (env : Envelope M) :
    (∀ state, d.evaluate env state = .reject) ∨ (∀ state, d.evaluate env state = .score (F32.lit 1)) := by
  cases builtIn with
  | producer d =>
      simp only [ProducerDim.toDimension, ProducerDim.evaluate]
      split <;> simp
  | label d =>
      simp only [LabelDim.toDimension, LabelDim.evaluate]
      split <;> split <;> simp
  | size d =>
      simp only [SizeDim.toDimension, SizeDim.evaluate]
      split <;> simp

theorem observe_eq (builtIn : d.BuiltIn) : d.observe = adjustWeight := by
  cases builtIn <;> rfl

theorem newState_weight (builtIn : d.BuiltIn) (w : F) : (d.newState w).weight = w := by
  cases builtIn <;> rfl

end Dimension.BuiltIn

end BuiltIn

end Jackfield
