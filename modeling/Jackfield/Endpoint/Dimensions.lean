/-
# Jackfield.Endpoint.Dimensions -- the dimensions a client asks for

A client names its dimensions in a JSON text.  `parseDimensions` reads at most one of
each kind, all of them required with weight one; an empty text asks for none.  The
JSON parser is a parameter; `Json` is the value it returns.
-/
import Jackfield.Registry.Registration

namespace Jackfield

set_option autoImplicit false

/-! ## Status -/

inductive Code where
  | internal
  | invalidArgument
  | failedPrecondition
  | notFound
  deriving DecidableEq

/-- The error of an RPC. -/
structure Status where
  code : Code
  message : String
  deriving DecidableEq

/-! ## JSON values -/

inductive JsonNumber where
  | posInt (n : UInt64)
  | negInt (n : Int64)
  | float (bits : UInt64)
  deriving DecidableEq

inductive Json where
  | null
  | bool (b : Bool)
  | number (n : JsonNumber)
  | string (s : String)
  | array (items : List Json)
  | object (fields : List (String × Json))

namespace Json

/-- The value under a key; only an object has any. -/
def get (v : Json) (key : String) : Option Json :=
  match v with
  | .object fields => (fields.find? fun field => field.1 == key).map Prod.snd
  | _ => none

def asStr : Json → Option String
  | .string s => some s
  | _ => none

def asU64 : Json → Option Nat
  | .number (.posInt n) => some n.toNat
  | _ => none

def asArray : Json → Option (List Json)
  | .array items => some items
  | _ => none

/-- The strings of an array; what is no string is left out, what is no array gives none. -/
def strVec (a : Json) : List String := (a.asArray.map fun items => items.filterMap asStr).getD []

end Json

/-! ## The three kinds -/

def parseLabelDim (v : Json) : Option LabelDim :=
  match v.get "all_of" with
  | some a => some (.allOf a.strVec)
  | none =>
      match v.get "any_of" with
      | some a => some (.anyOf a.strVec)
      | none => (v.get "none_of").map fun a => .noneOf a.strVec

def parseProducerDim (v : Json) : Option ProducerDim :=
  match (v.get "only").bind Json.asStr with
  | some s => some (.only s)
  | none =>
      match v.get "any_of" with
      | some a => some (.anyOf a.strVec)
      | none => (v.get "none_of").map fun a => .noneOf a.strVec

def parseSizeDim (v : Json) : Option SizeDim :=
  match (v.get "at_most").bind Json.asU64 with
  | some n => some (.atMost n)
  | none =>
      match (v.get "at_least").bind Json.asU64 with
      | some n => some (.atLeast n)
      | none =>
          match (v.get "between").bind Json.asArray with
          | some [a, b] => a.asU64.bind fun min => b.asU64.map fun max => .between min max
          | _ => none

section Parse

variable {F I M : Type} [F32 F] [Inhabited I] [Message M]

/-- The dimension under a key, if the key is there. -/
def parsePart (v : Json) (key : String) (parse : Json → Option (Dimension F I M)) (message : String) :
    Except Status (List (DimSpec F I M)) :=
  match v.get key with
  | none => .ok []
  | some part =>
      match parse part with
      | none => .error ⟨.invalidArgument, message⟩
      | some d => .ok [(d, true, F32.lit 1)]

def parseDimensions (fromStr : String → Except String Json) (json : String) :
    Except Status (List (DimSpec F I M)) :=
  if json.isEmpty then .ok []
  else
    match fromStr json with
    | .error e => .error ⟨.invalidArgument, "dimensions_json: " ++ e⟩
    | .ok v => do
        let labels ← parsePart v "labels" (fun l => (parseLabelDim l).map LabelDim.toDimension)
          "invalid labels dimension"
        let producer ← parsePart v "producer" (fun p => (parseProducerDim p).map ProducerDim.toDimension)
          "invalid producer dimension"
        let size ← parsePart v "size" (fun s => (parseSizeDim s).map SizeDim.toDimension)
          "invalid size dimension"
        return labels ++ producer ++ size

end Parse

end Jackfield
