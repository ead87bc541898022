/-
# Jackfield.Endpoint.Parsing -- the filter in a client's JSON text

`Json.filter` is what a JSON value says as a filter, and `Json.WellTyped` that it says
so in the right shapes.  The parser agrees where no kind has two constraints
(`filters_mean_what_they_say`).  Elsewhere it does not:

* of two constraints of a kind it drops one, and says nothing.  What is dropped is enforced
  only if the one it keeps implies it (`every_constraint_enforced_iff`);
* it reads a value of the wrong shape as no constraint, or as one without strings, and refuses a
  text only if a kind that is there comes to nothing (`malformed_refused_iff`).

What is registered stays registered as it is, so in every run the parsed filter decides, until
the consumer leaves (`World.filter_enforced`).
-/
import Jackfield.Bus.Registrations
import Jackfield.Codec
import Jackfield.Endpoint.Dimensions
import Jackfield.Endpoint.Filter

namespace Jackfield

set_option autoImplicit false

/-! ## Reading strictly -/

namespace Json

/-- An array of strings, and nothing else. -/
def strings (v : Json) : Option (List String) := v.asArray.bind fun items => items.mapM asStr

def u64 : Json → Option UInt64
  | .number (.posInt n) => some n
  | _ => none

/-- A pair of bounds. -/
def pair (v : Json) : Option (UInt64 × UInt64) :=
  match v.asArray with
  | some [a, b] => a.u64.bind fun min => b.u64.map fun max => (min, max)
  | _ => none

theorem asU64_eq (v : Json) : v.asU64 = v.u64.map UInt64.toNat := by
  cases v with
  | number n => cases n <;> rfl
  | _ => rfl

theorem strVec_eq {v : Json} {l : List String} (isStrings : v.strings = some l) : v.strVec = l := by
  obtain ⟨items, isArray, all⟩ := Option.bind_eq_some_iff.mp isStrings
  rw [strVec, isArray]
  show items.filterMap asStr = l
  clear isArray isStrings
  induction items generalizing l with
  | nil => simpa using all
  | cons item items ih =>
      simp only [List.mapM_cons, Option.bind_eq_bind, Option.bind_eq_some_iff, Option.pure_def] at all
      obtain ⟨s, isStr, rest, restAll, same⟩ := all
      rw [List.filterMap_cons_some isStr, ih restAll]
      exact Option.some.inj same

/-- If the key is there, its value has the shape that `read` asks for. -/
def Typed {α : Type} (v : Json) (key : String) (read : Json → Option α) : Prop :=
  ∀ a, v.get key = some a → read a ≠ none

end Json

def LabelFilter.read (l : Json) : LabelFilter where
  allOf := (l.get "all_of").bind Json.strings
  anyOf := (l.get "any_of").bind Json.strings
  noneOf := (l.get "none_of").bind Json.strings

def ProducerFilter.read (p : Json) : ProducerFilter where
  only := (p.get "only").bind Json.asStr
  anyOf := (p.get "any_of").bind Json.strings
  noneOf := (p.get "none_of").bind Json.strings

def SizeFilter.read (s : Json) : SizeFilter where
  atMost := (s.get "at_most").bind Json.u64
  atLeast := (s.get "at_least").bind Json.u64
  between := (s.get "between").bind Json.pair

namespace Json

/-- What a JSON value says. -/
def filter (v : Json) : ClientFilter where
  labels := ((v.get "labels").map LabelFilter.read).getD ⟨none, none, none⟩
  producer := ((v.get "producer").map ProducerFilter.read).getD ⟨none, none, none⟩
  size := ((v.get "size").map SizeFilter.read).getD ⟨none, none, none⟩

def IsObject (v : Json) : Prop := ∃ fields, v = .object fields

/-- An object, and so is each kind that is there; and the constraints that are there have the right shape. -/
structure WellTyped (v : Json) : Prop where
  object : v.IsObject
  labels : ∀ l, v.get "labels" = some l →
    l.IsObject ∧ l.Typed "all_of" strings ∧ l.Typed "any_of" strings ∧ l.Typed "none_of" strings
  producer : ∀ p, v.get "producer" = some p →
    p.IsObject ∧ p.Typed "only" asStr ∧ p.Typed "any_of" strings ∧ p.Typed "none_of" strings
  size : ∀ s, v.get "size" = some s →
    s.IsObject ∧ s.Typed "at_most" u64 ∧ s.Typed "at_least" u64 ∧ s.Typed "between" pair

/-- A value of the right shape is read. -/
theorem Typed.cases {α : Type} {v : Json} {key : String} {read : Json → Option α} (typed : v.Typed key read) :
    v.get key = none ∧ (v.get key).bind read = none ∨
      ∃ a x, v.get key = some a ∧ read a = some x ∧ (v.get key).bind read = some x := by
  cases there : v.get key with
  | none => exact Or.inl ⟨rfl, rfl⟩
  | some a =>
      obtain ⟨x, isRead⟩ := Option.ne_none_iff_exists'.mp (typed a there)
      exact Or.inr ⟨a, x, rfl, isRead, isRead⟩

theorem Typed.of_map {α : Type} {v : Json} {key : String} {read : Json → Option α} {x : Option α} {write : α → Json}
    (written : v.get key = x.map write) (readsBack : ∀ a, read (write a) = some a) : v.Typed key read := by
  intro a there
  rw [written] at there
  obtain ⟨b, -, rfl⟩ := Option.map_eq_some_iff.mp there
  rw [readsBack]
  exact Option.some_ne_none b

end Json

/-! ## The parser keeps the first -/

theorem parseLabelDim_eq {l : Json} (allOf : l.Typed "all_of" Json.strings) (anyOf : l.Typed "any_of" Json.strings)
    (noneOf : l.Typed "none_of" Json.strings) : parseLabelDim l = (LabelFilter.read l).dim? := by
  unfold parseLabelDim LabelFilter.read
  rcases allOf.cases with ⟨absent, isNone⟩ | ⟨a, x, there, isStrings, isSome⟩
  · rcases anyOf.cases with ⟨absent', isNone'⟩ | ⟨a, x, there, isStrings, isSome⟩
    · rcases noneOf.cases with ⟨absent'', isNone''⟩ | ⟨a, x, there, isStrings, isSome⟩
      · rw [absent, absent', absent'']
        rfl
      · rw [absent, absent', isSome, there]
        simp only [LabelFilter.dim?, Option.bind_none, Option.map_some, Json.strVec_eq isStrings]
    · rw [absent, isSome, there]
      simp only [LabelFilter.dim?, Option.bind_none, Json.strVec_eq isStrings]
  · rw [isSome, there]
    simp only [LabelFilter.dim?, Json.strVec_eq isStrings]

theorem parseProducerDim_eq {p : Json} (anyOf : p.Typed "any_of" Json.strings)
    (noneOf : p.Typed "none_of" Json.strings) : parseProducerDim p = (ProducerFilter.read p).dim? := by
  unfold parseProducerDim ProducerFilter.read
  cases only : (p.get "only").bind Json.asStr with
  | some s => rfl
  | none =>
      rcases anyOf.cases with ⟨absent, isNone⟩ | ⟨a, x, there, isStrings, isSome⟩
      · rcases noneOf.cases with ⟨absent', isNone'⟩ | ⟨a, x, there, isStrings, isSome⟩
        · rw [absent, absent']
          rfl
        · rw [absent, isSome, there]
          simp only [ProducerFilter.dim?, Option.bind_none, Option.map_some, Json.strVec_eq isStrings]
      · rw [isSome, there]
        simp only [ProducerFilter.dim?, Json.strVec_eq isStrings]

theorem parseLabelDim_none_iff (l : Json) :
    parseLabelDim l = none ↔ l.get "all_of" = none ∧ l.get "any_of" = none ∧ l.get "none_of" = none := by
  unfold parseLabelDim
  cases l.get "all_of" <;> cases l.get "any_of" <;> simp

theorem parseProducerDim_none_iff (p : Json) :
    parseProducerDim p = none ↔
      (p.get "only").bind Json.asStr = none ∧ p.get "any_of" = none ∧ p.get "none_of" = none := by
  unfold parseProducerDim
  cases (p.get "only").bind Json.asStr <;> cases p.get "any_of" <;> simp

theorem Json.pair_eq (v : Json) :
    (v.pair.map fun ab => SizeDim.between ab.1.toNat ab.2.toNat) =
      match v.asArray with
      | some [a, b] => a.asU64.bind fun min => b.asU64.map fun max => .between min max
      | _ => none := by
  unfold pair
  split
  · rename_i a b isArray
    simp only [asU64_eq]
    cases a.u64 <;> cases b.u64 <;> rfl
  · rfl

theorem parseSizeDim_eq (s : Json) : parseSizeDim s = (SizeFilter.read s).dim? := by
  have bound : ∀ key, (s.get key).bind Json.asU64 = ((s.get key).bind Json.u64).map UInt64.toNat := by
    intro key
    cases s.get key with
    | none => rfl
    | some a => exact a.asU64_eq
  unfold parseSizeDim SizeFilter.read
  rw [bound, bound]
  cases (s.get "at_most").bind Json.u64 with
  | some n => rfl
  | none =>
      cases (s.get "at_least").bind Json.u64 with
      | some n => rfl
      | none =>
          cases s.get "between" with
          | none => rfl
          | some a => exact a.pair_eq.symm

theorem parseSizeDim_none_iff (s : Json) :
    parseSizeDim s = none ↔
      (s.get "at_most").bind Json.u64 = none ∧ (s.get "at_least").bind Json.u64 = none ∧
        (s.get "between").bind Json.pair = none := by
  rw [parseSizeDim_eq, SizeFilter.read]
  cases (s.get "at_most").bind Json.u64 <;> cases (s.get "at_least").bind Json.u64 <;> simp [SizeFilter.dim?]

namespace Json

/-- A kind is there, and nothing in it can be taken for a constraint. -/
def Refused (v : Json) : Prop :=
  (∃ l, v.get "labels" = some l ∧ l.get "all_of" = none ∧ l.get "any_of" = none ∧ l.get "none_of" = none) ∨
    (∃ p, v.get "producer" = some p ∧
      (p.get "only").bind asStr = none ∧ p.get "any_of" = none ∧ p.get "none_of" = none) ∨
    ∃ s, v.get "size" = some s ∧
      (s.get "at_most").bind u64 = none ∧ (s.get "at_least").bind u64 = none ∧ (s.get "between").bind pair = none

variable {v : Json}

theorem refused_iff :
    v.Refused ↔ (∃ l, v.get "labels" = some l ∧ parseLabelDim l = none) ∨
      (∃ p, v.get "producer" = some p ∧ parseProducerDim p = none) ∨
        ∃ s, v.get "size" = some s ∧ parseSizeDim s = none := by
  simp only [parseLabelDim_none_iff, parseProducerDim_none_iff, parseSizeDim_none_iff, Refused]

theorem WellTyped.labels_dim (typed : v.WellTyped) :
    v.filter.labels.dim? = (v.get "labels").bind parseLabelDim := by
  cases there : v.get "labels" with
  | none => simp [filter, there, LabelFilter.dim?]
  | some l =>
      obtain ⟨-, allOf, anyOf, noneOf⟩ := typed.labels l there
      simp [filter, there, parseLabelDim_eq allOf anyOf noneOf]

theorem WellTyped.producer_dim (typed : v.WellTyped) :
    v.filter.producer.dim? = (v.get "producer").bind parseProducerDim := by
  cases there : v.get "producer" with
  | none => simp [filter, there, ProducerFilter.dim?]
  | some p =>
      obtain ⟨-, -, anyOf, noneOf⟩ := typed.producer p there
      simp [filter, there, parseProducerDim_eq anyOf noneOf]

theorem size_dim (v : Json) : v.filter.size.dim? = (v.get "size").bind parseSizeDim := by
  cases there : v.get "size" with
  | none => simp [filter, there, SizeFilter.dim?]
  | some s => simp [filter, there, parseSizeDim_eq]

end Json

/-! ## The JSON form of a filter -/

namespace Json

def ofStrings (l : List String) : Json := .array (l.map .string)

def ofU64 (n : UInt64) : Json := .number (.posInt n)

def ofPair (bounds : UInt64 × UInt64) : Json := .array [ofU64 bounds.1, ofU64 bounds.2]

/-- A field for a kind that has constraints. -/
def kind (key : String) (fields : List (String × Json)) : List (String × Json) :=
  if fields.isEmpty then [] else [(key, .object fields)]

/-- What is written of a kind is read back. -/
theorem read_kind {α : Type} {read : Json → α} {fields : List (String × Json)} {nothing f : α}
    (isNothing : fields = [] ↔ f = nothing) (readsBack : read (.object fields) = f) :
    ((if fields.isEmpty then none else some (.object fields)).map read).getD nothing = f := by
  split
  · rename_i empty
    exact (isNothing.mp (List.isEmpty_iff.mp empty)).symm
  · exact readsBack

@[simp] theorem strings_ofStrings (l : List String) : (ofStrings l).strings = some l := by
  show (l.map Json.string).mapM asStr = some l
  induction l with
  | nil => rfl
  | cons s l ih => simp [asStr, ih]

@[simp] theorem u64_ofU64 (n : UInt64) : (ofU64 n).u64 = some n := rfl

@[simp] theorem pair_ofPair (bounds : UInt64 × UInt64) : (ofPair bounds).pair = some bounds := rfl

end Json

/-- The constraints, in the order of their keys. -/
def LabelFilter.fields (f : LabelFilter) : List (String × Json) :=
  (f.allOf.map fun l => ("all_of", Json.ofStrings l)).toList ++
    (f.anyOf.map fun l => ("any_of", Json.ofStrings l)).toList ++
      (f.noneOf.map fun l => ("none_of", Json.ofStrings l)).toList

def ProducerFilter.fields (f : ProducerFilter) : List (String × Json) :=
  (f.anyOf.map fun l => ("any_of", Json.ofStrings l)).toList ++
    (f.noneOf.map fun l => ("none_of", Json.ofStrings l)).toList ++
      (f.only.map fun s => ("only", Json.string s)).toList

def SizeFilter.fields (f : SizeFilter) : List (String × Json) :=
  (f.atLeast.map fun n => ("at_least", Json.ofU64 n)).toList ++
    (f.atMost.map fun n => ("at_most", Json.ofU64 n)).toList ++
      (f.between.map fun ab => ("between", Json.ofPair ab)).toList

def ClientFilter.toJson (f : ClientFilter) : Json :=
  .object (Json.kind "labels" f.labels.fields ++ Json.kind "producer" f.producer.fields ++
    Json.kind "size" f.size.fields)

namespace LabelFilter

variable (f : LabelFilter)

theorem get_fields :
    (Json.object f.fields).get "all_of" = f.allOf.map Json.ofStrings ∧
      (Json.object f.fields).get "any_of" = f.anyOf.map Json.ofStrings ∧
      (Json.object f.fields).get "none_of" = f.noneOf.map Json.ofStrings := by
  obtain ⟨allOf, anyOf, noneOf⟩ := f
  cases allOf <;> cases anyOf <;> cases noneOf <;> simp [fields, Json.get]

@[simp] theorem read_fields : read (.object f.fields) = f := by
  obtain ⟨all, any, none⟩ := f.get_fields
  simp [read, all, any, none, Option.bind_map]

theorem fields_eq_nil : f.fields = [] ↔ f = ⟨none, none, none⟩ := by
  obtain ⟨allOf, anyOf, noneOf⟩ := f
  simp [fields]

end LabelFilter

namespace ProducerFilter

variable (f : ProducerFilter)

theorem get_fields :
    (Json.object f.fields).get "only" = f.only.map Json.string ∧
      (Json.object f.fields).get "any_of" = f.anyOf.map Json.ofStrings ∧
      (Json.object f.fields).get "none_of" = f.noneOf.map Json.ofStrings := by
  obtain ⟨only, anyOf, noneOf⟩ := f
  cases only <;> cases anyOf <;> cases noneOf <;> simp [fields, Json.get]

@[simp] theorem read_fields : read (.object f.fields) = f := by
  obtain ⟨only, any, none⟩ := f.get_fields
  simp [read, only, any, none, Option.bind_map, Function.comp_def, Json.asStr]

theorem fields_eq_nil : f.fields = [] ↔ f = ⟨none, none, none⟩ := by
  obtain ⟨only, anyOf, noneOf⟩ := f
  simp [fields, and_comm, and_left_comm]

end ProducerFilter

namespace SizeFilter

variable (f : SizeFilter)

theorem get_fields :
    (Json.object f.fields).get "at_most" = f.atMost.map Json.ofU64 ∧
      (Json.object f.fields).get "at_least" = f.atLeast.map Json.ofU64 ∧
      (Json.object f.fields).get "between" = f.between.map Json.ofPair := by
  obtain ⟨atMost, atLeast, between⟩ := f
  cases atMost <;> cases atLeast <;> cases between <;> simp [fields, Json.get]

@[simp] theorem read_fields : read (.object f.fields) = f := by
  obtain ⟨most, least, within⟩ := f.get_fields
  simp [read, most, least, within, Option.bind_map, Function.comp_def]

theorem fields_eq_nil : f.fields = [] ↔ f = ⟨none, none, none⟩ := by
  obtain ⟨atMost, atLeast, between⟩ := f
  simp [fields, and_left_comm]

end SizeFilter

namespace ClientFilter

variable (f : ClientFilter)

theorem get_toJson :
    f.toJson.get "labels" = (if f.labels.fields.isEmpty then none else some (.object f.labels.fields)) ∧
      f.toJson.get "producer" = (if f.producer.fields.isEmpty then none else some (.object f.producer.fields)) ∧
      f.toJson.get "size" = (if f.size.fields.isEmpty then none else some (.object f.size.fields)) := by
  unfold toJson Json.kind
  cases f.labels.fields.isEmpty <;> cases f.producer.fields.isEmpty <;> cases f.size.fields.isEmpty <;>
    simp [Json.get]

@[simp] theorem filter_toJson : f.toJson.filter = f := by
  obtain ⟨labels, producer, size⟩ := f.get_toJson
  have sameLabels := Json.read_kind f.labels.fields_eq_nil f.labels.read_fields
  have sameProducer := Json.read_kind f.producer.fields_eq_nil f.producer.read_fields
  have sameSize := Json.read_kind f.size.fields_eq_nil f.size.read_fields
  rw [Json.filter, labels, producer, size, sameLabels, sameProducer, sameSize]

theorem toJson_wellTyped : f.toJson.WellTyped := by
  obtain ⟨labels, producer, size⟩ := f.get_toJson
  refine ⟨⟨_, rfl⟩, ?_, ?_, ?_⟩
  · intro l there
    obtain ⟨-, rfl⟩ : _ ∧ Json.object f.labels.fields = l := by simpa [labels] using there
    obtain ⟨all, any, none⟩ := f.labels.get_fields
    exact ⟨⟨_, rfl⟩, .of_map all Json.strings_ofStrings, .of_map any Json.strings_ofStrings,
      .of_map none Json.strings_ofStrings⟩
  · intro p there
    obtain ⟨-, rfl⟩ : _ ∧ Json.object f.producer.fields = p := by simpa [producer] using there
    obtain ⟨only, any, none⟩ := f.producer.get_fields
    exact ⟨⟨_, rfl⟩, .of_map only fun _ => rfl, .of_map any Json.strings_ofStrings,
      .of_map none Json.strings_ofStrings⟩
  · intro s there
    obtain ⟨-, rfl⟩ : _ ∧ Json.object f.size.fields = s := by simpa [size] using there
    obtain ⟨most, least, within⟩ := f.size.get_fields
    exact ⟨⟨_, rfl⟩, .of_map most Json.u64_ofU64, .of_map least Json.u64_ofU64, .of_map within Json.pair_ofPair⟩

/-- The parser takes it: a kind that is there has a constraint. -/
theorem toJson_accepted : ¬f.toJson.Refused := by
  obtain ⟨labels, producer, size⟩ := f.get_toJson
  rintro (⟨l, there, nothing⟩ | ⟨p, there, nothing⟩ | ⟨s, there, nothing⟩)
  · obtain ⟨nonempty, rfl⟩ : _ ∧ Json.object f.labels.fields = l := by simpa [labels] using there
    obtain ⟨all, any, none⟩ := f.labels.get_fields
    simp only [all, any, none, Option.map_eq_none_iff] at nothing
    exact nonempty (f.labels.fields_eq_nil.mpr (LabelFilter.ext nothing.1 nothing.2.1 nothing.2.2))
  · obtain ⟨nonempty, rfl⟩ : _ ∧ Json.object f.producer.fields = p := by simpa [producer] using there
    obtain ⟨only, any, none⟩ := f.producer.get_fields
    simp only [only, any, none, Option.bind_map, Function.comp_def, Json.asStr, Option.bind_fun_some,
      Option.map_eq_none_iff] at nothing
    exact nonempty (f.producer.fields_eq_nil.mpr (ProducerFilter.ext nothing.1 nothing.2.1 nothing.2.2))
  · obtain ⟨nonempty, rfl⟩ : _ ∧ Json.object f.size.fields = s := by simpa [size] using there
    obtain ⟨most, least, within⟩ := f.size.get_fields
    simp only [most, least, within, Option.bind_map, Function.comp_def, Json.u64_ofU64, Json.pair_ofPair,
      Option.bind_fun_some] at nothing
    exact nonempty (f.size.fields_eq_nil.mpr (SizeFilter.ext nothing.1 nothing.2.1 nothing.2.2))

end ClientFilter

section Parse

variable {F I M : Type} [F32 F] [Inhabited I] [Message M]

omit [Inhabited I] [Message M] in
theorem parsePart_ok_iff (v : Json) (key : String) (parse : Json → Option (Dimension F I M)) (message : String)
    (dims : List (DimSpec F I M)) :
    parsePart v key parse message = .ok dims ↔
      (∀ part, v.get key = some part → parse part ≠ none) ∧
        dims = ((v.get key).bind parse).toList.map fun d => (d, true, F32.lit 1) := by
  unfold parsePart
  cases v.get key with
  | none => simp [eq_comm]
  | some part =>
      cases parsed : parse part with
      | none => simp [parsed]
      | some d => simp [parsed, eq_comm]

omit [F32 F] [Inhabited I] [Message M] in
theorem parts_ok_iff (x y z : Except Status (List (DimSpec F I M))) (dims : List (DimSpec F I M)) :
    (do
        let a ← x
        let b ← y
        let c ← z
        return a ++ b ++ c) = .ok dims ↔
      ∃ a b c, x = .ok a ∧ y = .ok b ∧ z = .ok c ∧ dims = a ++ b ++ c := by
  cases x <;> cases y <;> cases z <;> simp [bind, Except.bind, pure, Except.pure, eq_comm]

variable {fromStr : String → Except String Json} {text : String} {v : Json}

/-- **What the parser returns for a JSON value**: a dimension for each kind, unless one is refused. -/
theorem parseDimensions_ok_iff (nonempty : text ≠ "") (isJson : fromStr text = .ok v)
    (dims : List (DimSpec F I M)) :
    parseDimensions fromStr text = .ok dims ↔
      ¬v.Refused ∧
        dims = ((((v.get "labels").bind parseLabelDim).map LabelDim.toDimension).toList ++
          (((v.get "producer").bind parseProducerDim).map ProducerDim.toDimension).toList ++
            (((v.get "size").bind parseSizeDim).map SizeDim.toDimension).toList).map
              fun d => (d, true, F32.lit 1) := by
  have isText : text.isEmpty = false := by simpa using nonempty
  rw [parseDimensions, isText, isJson]
  refine (parts_ok_iff ..).trans ?_
  simp only [parsePart_ok_iff, Json.refused_iff]
  constructor
  · rintro ⟨labels, producer, size, ⟨someLabels, rfl⟩, ⟨someProducer, rfl⟩, ⟨someSize, rfl⟩, rfl⟩
    refine ⟨?_, ?_⟩
    · rintro (⟨l, there, isNone⟩ | ⟨p, there, isNone⟩ | ⟨s, there, isNone⟩)
      · exact someLabels l there (by rw [isNone]; rfl)
      · exact someProducer p there (by rw [isNone]; rfl)
      · exact someSize s there (by rw [isNone]; rfl)
    · simp only [List.map_append, Option.map_bind, Function.comp_def]
  · rintro ⟨accepted, rfl⟩
    refine ⟨_, _, _, ⟨?_, rfl⟩, ⟨?_, rfl⟩, ⟨?_, rfl⟩, ?_⟩
    · intro l there isNone
      exact accepted (Or.inl ⟨l, there, Option.map_eq_none_iff.mp isNone⟩)
    · intro p there isNone
      exact accepted (Or.inr (Or.inl ⟨p, there, Option.map_eq_none_iff.mp isNone⟩))
    · intro s there isNone
      exact accepted (Or.inr (Or.inr ⟨s, there, Option.map_eq_none_iff.mp isNone⟩))
    · simp only [List.map_append, Option.map_bind, Function.comp_def]

theorem parseDimensions_error_iff (nonempty : text ≠ "") :
    (∃ status, (parseDimensions fromStr text : Except Status (List (DimSpec F I M))) = .error status) ↔
      (∃ e, fromStr text = .error e) ∨ ∃ v, fromStr text = .ok v ∧ v.Refused := by
  cases isJson : fromStr text with
  | error e =>
      have isText : text.isEmpty = false := by simpa using nonempty
      refine iff_of_true ⟨⟨.invalidArgument, "dimensions_json: " ++ e⟩, ?_⟩ (Or.inl ⟨e, rfl⟩)
      rw [parseDimensions, isText, isJson]
      rfl
  | ok v =>
      simp only [reduceCtorEq, exists_const, false_or, Except.ok.injEq, exists_eq_left']
      constructor
      · rintro ⟨status, refused⟩
        by_contra accepted
        have parsed := (parseDimensions_ok_iff (F := F) (I := I) (M := M) nonempty isJson _).mpr ⟨accepted, rfl⟩
        rw [refused] at parsed
        cases parsed
      · intro refused
        cases parsed : (parseDimensions fromStr text : Except Status (List (DimSpec F I M))) with
        | error status => exact ⟨status, rfl⟩
        | ok dims => exact absurd refused ((parseDimensions_ok_iff nonempty isJson dims).mp parsed).1

/-- Of a value of the right shape, the parser makes the dimensions of its filter. -/
theorem Json.WellTyped.parseDimensions_iff (typed : v.WellTyped) (nonempty : text ≠ "")
    (isJson : fromStr text = .ok v) (dims : List (DimSpec F I M)) :
    parseDimensions fromStr text = .ok dims ↔ ¬v.Refused ∧ dims = v.filter.dims := by
  rw [parseDimensions_ok_iff nonempty isJson, ClientFilter.dims, typed.labels_dim, typed.producer_dim, v.size_dim]

end Parse

/-! ## Constraints that are dropped -/

section Dropped

variable {F I M C : Type} [F32 F] [Inhabited I] [BoxedMessage M] {fromStr : String → Except String Json}
  {text : String} {v : Json}

omit [Inhabited I] [BoxedMessage M] in
theorem Registry.first_found (consumer : C) (dims : List (DimSpec F I M)) :
    ((Registry.new.registerWith consumer dims).registry).entries[0]? =
      some ⟨0, consumer, dims.map DimSpec.entry⟩ := by
  simp [Registry.new]

/-- **When every constraint is enforced.**  A consumer was registered with what the parser made of
a JSON text of the right shape, and no message is longer than `limit`.  It qualifies only for
envelopes that meet all that is written if and only if what the parser keeps is met by nothing, or
implies, in each kind, what it drops. -/
theorem every_constraint_enforced_iff (nonempty : text ≠ "") (isJson : fromStr text = .ok v) (typed : v.WellTyped)
    {dims : List (DimSpec F I M)} (parsed : parseDimensions fromStr text = .ok dims) (consumer : C) (limit : Nat) :
    (∀ (r : Registry F I M C) (i : Nat) (entry : RegistrationEntry F I M C) (envelope : Envelope M),
        r.entries[i]? = some entry → entry.RegisteredWith dims →
          (Message.getBytes envelope.message).length ≤ limit → r.Qualifies envelope i →
            v.filter.Holds (.fromEnvelope envelope)) ↔
      v.filter.Never limit ∨ v.filter.Covered limit := by
  obtain ⟨-, rfl⟩ := (typed.parseDimensions_iff nonempty isJson dims).mp parsed
  rw [← ClientFilter.kept_suffices_iff]
  constructor
  · intro enforced eventMeta small holds
    -- a consumer that has just been registered, and a message with these labels and of this size
    let r := ((.new : Registry F I M C).registerWith consumer v.filter.dims).registry
    let data : List UInt8 := List.replicate eventMeta.size 0
    let envelope : Envelope M := ⟨eventMeta.origin, BoxedMessage.box (.new none (some eventMeta.labels) (some data))⟩
    have described : EventMeta.fromEnvelope envelope = eventMeta := by
      simp [EventMeta.fromEnvelope, envelope, data, BoxedMessage.getLabels_box, BoxedMessage.getBytes_box,
        BaseMessage.new]
    have found := Registry.first_found consumer (v.filter.dims : List (DimSpec F I M))
    have registered := registeredWith_new 0 consumer (v.filter.dims : List (DimSpec F I M))
    rw [← described] at small holds ⊢
    exact enforced r 0 _ envelope found registered small ((v.filter.qualifies_iff found registered envelope).mpr holds)
  · intro suffices' r i entry envelope found registered small qualified
    exact suffices' _ small ((v.filter.qualifies_iff found registered envelope).mp qualified)

end Dropped

/-- A parser that knows one text. -/
def readsOnly (text : String) (v : Json) (other : String) : Except String Json :=
  if other = text then .ok v else .error "expected value at line 1 column 1"

theorem readsOnly_text (text : String) (v : Json) : readsOnly text v text = .ok v := if_pos rfl

/-- Of this filter, `none_of` is dropped. -/
def publicOnly : ClientFilter :=
  ⟨⟨some ["telemetry"], none, some ["private"]⟩, ⟨none, none, none⟩, ⟨none, none, none⟩⟩

def publicOnlyText : String :=
  "\x7b\"labels\":\x7b\"all_of\":[\"telemetry\"],\"none_of\":[\"private\"]\x7d\x7d"

/-- What it was to keep out. -/
def confidential : Envelope BaseMessage := ⟨⟨"sensor"⟩, .new none (some ["telemetry", "private"]) (some [7])⟩

theorem written_constraint_dropped :
    ∃ dims : List (DimSpec ℚ Unit BaseMessage),
      parseDimensions (readsOnly publicOnlyText publicOnly.toJson) publicOnlyText = .ok dims ∧
        publicOnly.toJson.WellTyped ∧
        ((Registry.new.registerWith "listener" dims).registry).Qualifies confidential 0 ∧
        ¬publicOnly.toJson.filter.Holds (.fromEnvelope confidential) := by
  have typed := publicOnly.toJson_wellTyped
  refine ⟨publicOnly.dims, ?_, typed, ?_, ?_⟩
  · rw [typed.parseDimensions_iff (by decide) (readsOnly_text ..), publicOnly.filter_toJson]
    exact ⟨publicOnly.toJson_accepted, rfl⟩
  · rw [publicOnly.qualifies_iff (Registry.first_found ..) (registeredWith_new ..)]
    decide +kernel
  · rw [publicOnly.filter_toJson]
    decide +kernel

/-- Of this filter, `any_of` is dropped, and nothing is lost. -/
def telemetryFirst : ClientFilter :=
  ⟨⟨some ["telemetry"], some ["telemetry", "alarm"], none⟩, ⟨none, none, none⟩, ⟨none, none, none⟩⟩

def telemetryFirstText : String :=
  "\x7b\"labels\":\x7b\"all_of\":[\"telemetry\"],\"any_of\":[\"telemetry\",\"alarm\"]\x7d\x7d"

theorem every_constraint_enforced_covered : telemetryFirst.toJson.filter.Holds (.fromEnvelope confidential) := by
  have typed := telemetryFirst.toJson_wellTyped
  have parsed : parseDimensions (readsOnly telemetryFirstText telemetryFirst.toJson) telemetryFirstText =
      .ok (telemetryFirst.dims : List (DimSpec ℚ Unit BaseMessage)) := by
    rw [typed.parseDimensions_iff (by decide) (readsOnly_text ..), telemetryFirst.filter_toJson]
    exact ⟨telemetryFirst.toJson_accepted, rfl⟩
  have covered : telemetryFirst.toJson.filter.Covered 1024 := by
    rw [telemetryFirst.filter_toJson]
    simp [telemetryFirst, ClientFilter.Covered, LabelFilter.Covered, ProducerFilter.Covered, SizeFilter.Covered]
  have found := Registry.first_found "listener" (telemetryFirst.dims : List (DimSpec ℚ Unit BaseMessage))
  have registered := registeredWith_new 0 "listener" (telemetryFirst.dims : List (DimSpec ℚ Unit BaseMessage))
  have qualified := (telemetryFirst.qualifies_iff found registered confidential).mpr (by decide +kernel)
  exact (every_constraint_enforced_iff (by decide) (readsOnly_text ..) typed parsed "listener" 1024).mpr
    (Or.inr covered) _ 0 _ confidential found registered (by decide +kernel) qualified

/-! ## Malformed texts -/

section Malformed

variable {F I M : Type} [F32 F] [Inhabited I] [Message M]

/-- **When a malformed text is refused.**  It is if it is no JSON at all, or if a kind that is there
comes to nothing. -/
theorem malformed_refused_iff (fromStr : String → Except String Json) {text : String} (nonempty : text ≠ "") :
    ((∀ v, fromStr text = .ok v → ¬v.WellTyped) →
        ∃ status, (parseDimensions fromStr text : Except Status (List (DimSpec F I M))) = .error status) ↔
      (∃ e, fromStr text = .error e) ∨ ∃ v, fromStr text = .ok v ∧ (v.WellTyped ∨ v.Refused) := by
  rw [parseDimensions_error_iff nonempty]
  cases fromStr text with
  | error e => exact iff_of_true (fun _ => Or.inl ⟨e, rfl⟩) (Or.inl ⟨e, rfl⟩)
  | ok v =>
      simp only [reduceCtorEq, exists_const, false_or, Except.ok.injEq, forall_eq', exists_eq_left']
      constructor
      · intro refused
        by_cases typed : v.WellTyped
        · exact Or.inl typed
        · exact Or.inr (refused typed)
      · rintro (typed | refused) malformed
        · exact absurd typed malformed
        · exact refused

/-- `all_of` is no list. -/
def misshapen : Json := .object [("labels", .object [("all_of", .string "telemetry")])]

def misshapenText : String := "\x7b\"labels\":\x7b\"all_of\":\"telemetry\"\x7d\x7d"

/-- It is taken for the empty list, and the consumer is sent everything.  A text that is no object is taken too. -/
theorem malformed_accepted :
    (¬misshapen.WellTyped ∧ ∃ dims : List (DimSpec ℚ Unit BaseMessage),
      parseDimensions (readsOnly misshapenText misshapen) misshapenText = .ok dims ∧
        ∀ envelope, ((Registry.new.registerWith "listener" dims).registry).Qualifies envelope 0) ∧
      ¬(Json.array []).WellTyped ∧
        parseDimensions (readsOnly "[]" (.array [])) "[]" = .ok ([] : List (DimSpec ℚ Unit BaseMessage)) := by
  refine ⟨⟨?_, ?_⟩, ?_, rfl⟩
  · intro typed
    exact (typed.labels _ rfl).2.1 _ rfl rfl
  · let everything : ClientFilter := ⟨⟨some [], none, none⟩, ⟨none, none, none⟩, ⟨none, none, none⟩⟩
    refine ⟨everything.dims, rfl, ?_⟩
    intro envelope
    rw [everything.qualifies_iff (Registry.first_found ..) (registeredWith_new ..)]
    refine ⟨⟨?_, nofun, nofun⟩, ⟨nofun, nofun, nofun⟩, nofun, nofun, nofun⟩
    intro l isEmpty x member
    cases isEmpty
    cases member
  · rintro ⟨⟨fields, isObject⟩, -⟩
    cases isObject

/-- A bound below zero is refused. -/
def belowZero : Json := .object [("size", .object [("at_most", .number (.negInt (-1)))])]

def belowZeroText : String := "\x7b\"size\":\x7b\"at_most\":-1\x7d\x7d"

theorem malformed_refused_belowZero :
    ∃ status, (parseDimensions (readsOnly belowZeroText belowZero) belowZeroText :
      Except Status (List (DimSpec ℚ Unit BaseMessage))) = .error status := by
  apply (malformed_refused_iff (readsOnly belowZeroText belowZero) (by decide)).mpr
  · exact Or.inr ⟨belowZero, readsOnly_text .., Or.inr (Or.inr (Or.inr ⟨_, rfl, rfl, rfl, rfl⟩))⟩
  · intro v isJson typed
    cases isJson
    exact (typed.size _ rfl).2.1 _ rfl rfl

end Malformed

/-! ## Well-formed filters -/

section WellFormed

variable {F I M C : Type} [F32 F] [Inhabited I] [Message M] {fromStr : String → Except String Json} {text : String}

/-- **A filter means what it says**, if no kind has two constraints: the parser makes required
dimensions of it, and a consumer registered with them qualifies for the envelopes that the filter
holds of, and is hard-rejected for the others. -/
theorem filters_mean_what_they_say {filter : ClientFilter} (single : filter.Single) (nonempty : text ≠ "")
    (readsBack : fromStr text = .ok filter.toJson) :
    ∃ dims : List (DimSpec F I M), parseDimensions fromStr text = .ok dims ∧ (∀ d ∈ dims, d.2.1 = true) ∧
      (∀ (bus : Bus F I M C) (consumer : C) (reply : Nat), ∃ entry : RegistrationEntry F I M C,
        (bus.applyCmd (.register consumer dims reply)).1.registry.entries = bus.registry.entries ++ [entry] ∧
          (bus.applyCmd (.register consumer dims reply)).2 = some (reply, entry.id) ∧
            entry.consumer = consumer ∧ entry.RegisteredWith dims) ∧
      ∀ (r : Registry F I M C) (i : Nat) (entry : RegistrationEntry F I M C) (envelope : Envelope M),
        r.entries[i]? = some entry → entry.RegisteredWith dims →
          (r.Qualifies envelope i ↔ filter.Holds (.fromEnvelope envelope)) ∧
            (BlindRouter.hardRejected envelope entry = false ↔ filter.Holds (.fromEnvelope envelope)) := by
  refine ⟨filter.dims, ?_, filter.required, ?_, ?_⟩
  · rw [filter.toJson_wellTyped.parseDimensions_iff nonempty readsBack, filter.filter_toJson]
    exact ⟨filter.toJson_accepted, rfl⟩
  · intro bus consumer reply
    exact ⟨⟨bus.registry.nextId, consumer, filter.dims.map DimSpec.entry⟩,
      bus.registry.registerWith_entries consumer filter.dims,
      congrArg (fun id => some (reply, id)) (bus.registry.registerWith_id consumer filter.dims), rfl,
      registeredWith_new _ consumer _⟩
  · intro r i entry envelope found registered
    have qualifies := filter.qualifies_iff found registered envelope
    have kept := filter.hardRejected_iff registered envelope
    rw [ClientFilter.kept_eq_self single] at qualifies kept
    exact ⟨qualifies, kept⟩

def bigReadings : ClientFilter :=
  ⟨⟨none, none, some ["private"]⟩, ⟨some "sensor", none, none⟩, ⟨none, none, some (1, 4096)⟩⟩

def bigReadingsText : String :=
  "\x7b\"labels\":\x7b\"none_of\":[\"private\"]\x7d,\"producer\":\x7b\"only\":\"sensor\"\x7d," ++
    "\"size\":\x7b\"between\":[1,4096]\x7d\x7d"

def mundane : Envelope BaseMessage := ⟨⟨"sensor"⟩, .new none (some ["telemetry"]) (some [7])⟩

theorem filters_mean_what_they_say_bigReadings :
    ∃ dims : List (DimSpec ℚ Unit BaseMessage),
      parseDimensions (readsOnly bigReadingsText bigReadings.toJson) bigReadingsText = .ok dims ∧
        let bus := ((Bus.new 4).applyCmd (.register "listener" dims 0)).1
        bus.registry.Qualifies mundane 0 ∧ ¬bus.registry.Qualifies confidential 0 := by
  obtain ⟨dims, parsed, -, registers, means⟩ :=
    filters_mean_what_they_say (F := ℚ) (I := Unit) (M := BaseMessage) (C := String)
      (by decide : bigReadings.Single) (by decide) (readsOnly_text bigReadingsText _)
  obtain ⟨entry, added, -, -, registered⟩ := registers (Bus.new 4) "listener" 0
  have found : ((Bus.new 4).applyCmd (.register "listener" dims 0)).1.registry.entries[0]? = some entry := by
    rw [added]
    rfl
  refine ⟨dims, parsed, ?_, ?_⟩
  · exact (means _ 0 entry mundane found registered).1.mpr (by decide +kernel)
  · intro qualifies
    exact absurd ((means _ 0 entry confidential found registered).1.mp qualifies) (by decide +kernel)

end WellFormed

/-! ## A registration, in a run -/

namespace World

open Machine

variable {F I M C : Type}

/-- Who is registered under `id` is `consumer`, with `dims`. -/
def Keeps (w : World F I M C) (id : Nat) (consumer : C) (dims : List (DimSpec F I (Stamped M))) : Prop :=
  ∀ entry ∈ w.bus.registry.entries, entry.id = id → entry.consumer = consumer ∧ entry.RegisteredWith dims

variable [F32 F]

theorem Move.keeps {w w' : World F I M C} {a : Action F I M C} {es : List (Event M)} (move : Move w a w' es)
    (sound : ResumeSound w) {id : Nat} {consumer : C} {dims : List (DimSpec F I (Stamped M))}
    (given : id < w.bus.registry.nextId) (keeps : Keeps w id consumer dims) : Keeps w' id consumer dims := by
  intro entry member same
  rcases move.registry_cases sound with ⟨-, consumer', dims', built⟩ | ⟨-, ⟨id', removed⟩ | shape⟩
  · rw [built, Registry.registerWith_entries] at member
    rcases List.mem_append.mp member with old | new
    · exact keeps entry old same
    · rw [List.mem_singleton.mp new] at same
      change w.bus.registry.nextId = id at same
      omega
  · rw [removed] at member
    exact keeps entry ((Registry.deregister_sublist _ id').subset member) same
  · obtain ⟨old, inEntries, alike⟩ := shape.mem member
    obtain ⟨isConsumer, registered⟩ := keeps old inEntries (Registry.id_of_skeleton alike ▸ same)
    have sameDims : entry.skeleton.2.2 = old.skeleton.2.2 := by rw [alike]
    exact ⟨(congrArg (fun s => s.2.1) alike).trans isConsumer, sameDims.trans registered⟩

/-- The entry that answers a command is the only one under its id. -/
theorem Move.keeps_applied {w w' : World F I M C} {es : List (Event M)} (move : Move w .takeCmd w' es) {consumer : C}
    {dims : List (DimSpec F I (Stamped M))} {reply : Nat} {rest : List (BusCmd F I (Stamped M) C)}
    (front : w.bus.cmdRx.buf = .register consumer dims reply :: rest) (sound : w.bus.registry.IdsSound) :
    Keeps w' w.bus.registry.nextId consumer dims ∧
      w'.bus.registry.nextId = (w.bus.registry.nextId + 1) % 2 ^ 64 ∧
      es.filterMap Event.registered? = [w.bus.registry.nextId] := by
  cases move with
  | handles same sameCmds handle => simp at handle
  | appliedRegister running commands isFront =>
      rw [front] at isFront
      cases isFront
      refine ⟨?_, Registry.registerWith_nextId .., rfl⟩
      intro entry member same
      rw [Registry.registerWith_entries] at member
      rcases List.mem_append.mp member with old | new
      · exact absurd same (Nat.ne_of_lt (sound.below entry old))
      · rw [List.mem_singleton.mp new]
        exact ⟨rfl, registeredWith_new _ consumer dims⟩
  | appliedDeregister running commands isFront =>
      rw [front] at isFront
      cases isFront

variable [Message M] {capacity cap : Nat} {router : Router} {w w₁ w₂ : World F I M C} {t es u : List (Event M)}

/-- **What a command registered stays as it was registered**, until it leaves. -/
theorem registration_kept (runs : Runs step anyStep (init capacity router cap) w t) {consumer : C}
    {dims : List (DimSpec F I (Stamped M))} {reply : Nat} {rest : List (BusCmd F I (Stamped M) C)}
    (front : w.bus.cmdRx.buf = .register consumer dims reply :: rest)
    (applied : w.step .takeCmd = some (w₁, es)) (later : Runs step anyStep w₁ w₂ u)
    (few : ((t ++ es ++ u).filterMap Event.registered?).length < 2 ^ 64) :
    Keeps w₂ w.bus.registry.nextId consumer dims := by
  have first : Runs step anyStep (init capacity router cap) w₁ (t ++ es) := runs.step trivial applied
  have throughout : ((t ++ es ++ u).filterMap Event.registered?).length < 2 ^ 64 →
      w.bus.registry.nextId < w₂.bus.registry.nextId ∧ Keeps w₂ w.bus.registry.nextId consumer dims := by
    apply later.invariant_reached (P := fun w' u => ((t ++ es ++ u).filterMap Event.registered?).length < 2 ^ 64 →
      w.bus.registry.nextId < w'.bus.registry.nextId ∧ Keeps w' w.bus.registry.nextId consumer dims)
    · intro few
      rw [List.append_nil, List.filterMap_append, List.length_append] at few
      obtain ⟨given, sound⟩ := idsSound runs (by omega)
      obtain ⟨keeps, next, one⟩ := (move_of_step applied).keeps_applied front sound
      rw [given, one, List.length_range, List.length_singleton] at few
      rw [next, Nat.mod_eq_of_lt few]
      exact ⟨Nat.lt_succ_self _, keeps⟩
    · intro w' u a w'' es' before ih _ stepped few
      have reached := first.append (fun _ _ _ _ => trivial) before
      rw [← List.append_assoc] at few
      obtain ⟨given', -⟩ := idsSound (reached.step trivial stepped) few
      rw [List.filterMap_append, List.length_append] at few
      obtain ⟨below, keeps⟩ := ih (by omega)
      obtain ⟨given, -⟩ := idsSound reached (by omega)
      refine ⟨?_, (move_of_step stepped).keeps (resumeSound reached) below keeps⟩
      -- the counter is the number of registrations
      have counted := congrArg List.length given'
      rw [List.filterMap_append, List.length_append, given, List.length_range, List.length_range] at counted
      omega
  exact (throughout few).2

/-- **A filter in a run.**  The consumer that a client registers with its filter qualifies, as long as it
is registered, for exactly the envelopes that meet what the parser kept of it. -/
theorem filter_enforced [Inhabited I] (runs : Runs step anyStep (init capacity router cap) w t)
    {fromStr : String → Except String Json} {text : String} {v : Json} (nonempty : text ≠ "")
    (isJson : fromStr text = .ok v) (typed : v.WellTyped) {consumer : C} {dims : List (DimSpec F I (Stamped M))}
    (parsed : parseDimensions fromStr text = .ok dims) {reply : Nat} {rest : List (BusCmd F I (Stamped M) C)}
    (front : w.bus.cmdRx.buf = .register consumer dims reply :: rest)
    (applied : w.step .takeCmd = some (w₁, es)) (later : Runs step anyStep w₁ w₂ u)
    (few : ((t ++ es ++ u).filterMap Event.registered?).length < 2 ^ 64) {i : Nat}
    {entry : RegistrationEntry F I (Stamped M) C} (found : w₂.bus.registry.entries[i]? = some entry)
    (same : entry.id = w.bus.registry.nextId) (envelope : Parcel M) :
    w₂.bus.registry.Qualifies envelope i ↔ v.filter.kept.Holds (.fromEnvelope envelope) := by
  obtain ⟨-, rfl⟩ := (typed.parseDimensions_iff nonempty isJson dims).mp parsed
  have kept := registration_kept runs front applied later few entry (List.mem_of_getElem? found) same
  exact v.filter.qualifies_iff found kept.2 envelope

end World

end Jackfield
