/-
# Jackfield.Registry.Registration -- what registering, deregistering and feedback change

One spec lemma per operation, so that nothing above unfolds them:

* `registerWith_entries`: a registration appends one entry, complete with its
  dimensions;
* `deregister_cases`: a deregistration removes the entry it names, and only it, or
  changes nothing;
* `deliver_sameShape`: feedback changes dimension states and nothing else.

`SameShape` is that last relation.  `IdsSound` is the invariant of the ids: they
increase along the vector and stay below the counter.
-/
import Jackfield.Registry.Registry

namespace Jackfield

set_option autoImplicit false

variable {F I M C : Type}

/-- The entry a registration makes of one listed dimension. -/
def DimSpec.entry [F32 F] (d : DimSpec F I M) : DimEntry F I M :=
  if d.2.1 then { dim := d.1, state := d.1.newState (F32.lit 1), rejectOnMiss := true }
  else { dim := d.1, state := d.1.newState d.2.2, rejectOnMiss := false }

/-- All of an entry but the states of its dimensions. -/
def RegistrationEntry.skeleton (e : RegistrationEntry F I M C) :
    Nat × C × List (Dimension F I M × Bool) :=
  (e.id, e.consumer, e.dims.map fun de => (de.dim, de.rejectOnMiss))

namespace Registry

/-! ## Registration -/

section Register

variable [F32 F]

/-- Register a consumer and list its dimensions, as a chain of builder calls or
one `Register` command does. -/
def registerWith (r : Registry F I M C) (consumer : C) (dims : List (DimSpec F I M)) :
    RegistrationBuilder F I M C :=
  (r.register consumer).addDims dims

theorem modify_last {α : Type} (l : List α) (a : α) (f : α → α) :
    (l ++ [a]).modify l.length f = l ++ [f a] := by
  simpa [List.modify] using List.modifyTailIdx_add (List.modifyHead f) 0 l [a]

theorem addDims_last (entries : List (RegistrationEntry F I M C)) (nextId id : Nat)
    (e : RegistrationEntry F I M C) (dims : List (DimSpec F I M)) :
    RegistrationBuilder.addDims ⟨id, ⟨entries ++ [e], nextId⟩, entries.length⟩ dims =
      ⟨id, ⟨entries ++ [{ e with dims := e.dims ++ dims.map DimSpec.entry }], nextId⟩,
        entries.length⟩ := by
  induction dims generalizing e with
  | nil => simp [RegistrationBuilder.addDims]
  | cons d rest ih =>
      have one : (if d.2.1
            then RegistrationBuilder.requireBoxed ⟨id, ⟨entries ++ [e], nextId⟩, entries.length⟩ d.1
            else RegistrationBuilder.preferBoxed ⟨id, ⟨entries ++ [e], nextId⟩, entries.length⟩ d.1 d.2.2) =
          ⟨id, ⟨entries ++ [{ e with dims := e.dims ++ [d.entry] }], nextId⟩, entries.length⟩ := by
        unfold DimSpec.entry
        split <;>
          simp [RegistrationBuilder.requireBoxed, RegistrationBuilder.preferBoxed,
            RegistrationBuilder.pushDim, modify_last]
      rw [RegistrationBuilder.addDims, List.foldl_cons, one]
      have tail := ih { e with dims := e.dims ++ [d.entry] }
      rw [RegistrationBuilder.addDims] at tail
      rw [tail]
      simp [List.append_assoc]

theorem registerWith_eq (r : Registry F I M C) (consumer : C) (dims : List (DimSpec F I M)) :
    r.registerWith consumer dims =
      ⟨r.nextId, ⟨r.entries ++ [⟨r.nextId, consumer, dims.map DimSpec.entry⟩],
        (r.nextId + 1) % 2 ^ 64⟩, r.entries.length⟩ := by
  have built := addDims_last r.entries ((r.nextId + 1) % 2 ^ 64) r.nextId
    ⟨r.nextId, consumer, []⟩ dims
  simpa [registerWith, register] using built

@[simp] theorem registerWith_id (r : Registry F I M C) (consumer : C) (dims : List (DimSpec F I M)) :
    (r.registerWith consumer dims).id = r.nextId := by
  rw [registerWith_eq]

@[simp] theorem registerWith_entries (r : Registry F I M C) (consumer : C)
    (dims : List (DimSpec F I M)) :
    (r.registerWith consumer dims).registry.entries =
      r.entries ++ [⟨r.nextId, consumer, dims.map DimSpec.entry⟩] := by
  rw [registerWith_eq]

@[simp] theorem registerWith_nextId (r : Registry F I M C) (consumer : C)
    (dims : List (DimSpec F I M)) :
    (r.registerWith consumer dims).registry.nextId = (r.nextId + 1) % 2 ^ 64 := by
  rw [registerWith_eq]

end Register

/-! ## Deregistration -/

theorem deregister_eq (r : Registry F I M C) (id : Nat) :
    r.deregister id =
      (⟨r.entries.filter fun e => decide (e.id ≠ id), r.nextId⟩,
        decide ((r.entries.filter fun e => decide (e.id ≠ id)).length < r.entries.length)) := rfl

theorem mem_deregister (r : Registry F I M C) (id : Nat) (e : RegistrationEntry F I M C) :
    e ∈ (r.deregister id).1.entries ↔ e ∈ r.entries ∧ e.id ≠ id := by
  simp [deregister]

theorem deregister_sublist (r : Registry F I M C) (id : Nat) :
    List.Sublist (r.deregister id).1.entries r.entries :=
  List.filter_sublist

/-- Of entries with distinct ids, a deregistration removes exactly the one it
names and says so, or changes nothing and says so. -/
theorem deregister_cases (r : Registry F I M C) (id : Nat)
    (distinct : (r.entries.map fun e => e.id).Nodup) :
    (∃ before e after, r.entries = before ++ e :: after ∧ e.id = id ∧
        r.deregister id = (⟨before ++ after, r.nextId⟩, true)) ∨
      ((∀ e ∈ r.entries, e.id ≠ id) ∧ r.deregister id = (r, false)) := by
  by_cases present : ∃ e ∈ r.entries, e.id = id
  · left
    obtain ⟨e, member, named⟩ := present
    obtain ⟨before, after, cut⟩ := List.append_of_mem member
    rw [cut] at distinct
    simp only [List.map_append, List.map_cons, List.nodup_append, List.nodup_cons, List.mem_map,
      List.mem_cons] at distinct
    obtain ⟨-, ⟨notAfter, -⟩, apart⟩ := distinct
    have keepBefore : ∀ x ∈ before, x.id ≠ id := by
      intro x inBefore same
      exact apart x.id ⟨x, inBefore, rfl⟩ e.id (Or.inl rfl) (same.trans named.symm)
    have keepAfter : ∀ x ∈ after, x.id ≠ id := by
      intro x inAfter same
      exact notAfter ⟨x, inAfter, same.trans named.symm⟩
    have rest : r.entries.filter (fun x => decide (x.id ≠ id)) = before ++ after := by
      rw [cut, List.filter_append, List.filter_cons_of_neg (by simp [named])]
      rw [List.filter_eq_self.mpr (by simpa using keepBefore),
        List.filter_eq_self.mpr (by simpa using keepAfter)]
    refine ⟨before, e, after, cut, named, ?_⟩
    have shorter : (before ++ after).length < r.entries.length := by
      rw [cut, List.length_append, List.length_append, List.length_cons]
      omega
    rw [deregister_eq, rest, decide_eq_true shorter]
  · right
    have absent : ∀ e ∈ r.entries, e.id ≠ id := by
      intro e member same
      exact present ⟨e, member, same⟩
    have rest : r.entries.filter (fun x => decide (x.id ≠ id)) = r.entries :=
      List.filter_eq_self.mpr (by simpa using absent)
    refine ⟨absent, ?_⟩
    rw [deregister_eq, rest, decide_eq_false (Nat.lt_irrefl _)]

/-! ## Feedback -/

/-- Same counter, same entries in the same order, up to dimension states. -/
def SameShape (r r' : Registry F I M C) : Prop :=
  r'.nextId = r.nextId ∧
    r'.entries.map RegistrationEntry.skeleton = r.entries.map RegistrationEntry.skeleton

theorem SameShape.refl (r : Registry F I M C) : SameShape r r := ⟨rfl, rfl⟩

theorem SameShape.trans {r r' r'' : Registry F I M C} (h : SameShape r r') (h' : SameShape r' r'') :
    SameShape r r'' :=
  ⟨h'.1.trans h.1, h'.2.trans h.2⟩

theorem SameShape.ids {r r' : Registry F I M C} (same : SameShape r r') :
    (r'.entries.map fun e => e.id) = r.entries.map fun e => e.id := by
  have := congrArg (List.map Prod.fst) same.2
  simpa [RegistrationEntry.skeleton, Function.comp_def] using this

/-- Every entry of a registry in the same shape stands for one of the original. -/
theorem SameShape.mem {r r' : Registry F I M C} (shape : SameShape r r')
    {entry' : RegistrationEntry F I M C} (member : entry' ∈ r'.entries) :
    ∃ entry ∈ r.entries, entry'.skeleton = entry.skeleton := by
  have listed : entry'.skeleton ∈ r'.entries.map RegistrationEntry.skeleton := List.mem_map_of_mem member
  rw [shape.2] at listed
  obtain ⟨entry, inEntries, same⟩ := List.mem_map.mp listed
  exact ⟨entry, inEntries, same.symm⟩

theorem id_of_skeleton {e e' : RegistrationEntry F I M C} (same : e'.skeleton = e.skeleton) :
    e'.id = e.id :=
  congrArg Prod.fst same

@[simp] theorem observeEntry_skeleton (event : DispatchEvent) (e : RegistrationEntry F I M C) :
    (observeEntry event e).skeleton = e.skeleton := by
  simp [observeEntry, RegistrationEntry.skeleton, Function.comp_def]

theorem deliver_sameShape (r : Registry F I M C) (delivery : Nat × DispatchEvent) :
    SameShape r (r.deliver delivery) := by
  refine ⟨rfl, ?_⟩
  apply List.ext_getElem?
  intro i
  simp only [deliver, List.getElem?_map, List.getElem?_modify]
  cases r.entries[i]? with
  | none => rfl
  | some e =>
      by_cases hit : delivery.1 = i <;> simp [hit]

theorem deliverAll_sameShape (deliveries : List (Nat × DispatchEvent)) (r : Registry F I M C) :
    SameShape r (deliveries.foldl deliver r) := by
  induction deliveries generalizing r with
  | nil => exact .refl r
  | cons delivery rest ih => exact (r.deliver_sameShape delivery).trans (ih _)

theorem observe_sameShape (r : Registry F I M C) (plan : RoutePlan F) (winnerIdx : Option Nat)
    (preWinner : List (Nat × Bool)) : SameShape r (r.observe plan winnerIdx preWinner) :=
  deliverAll_sameShape _ r

/-! ## The ids -/

/-- Ids increase along the vector, and the counter is above them all. -/
structure IdsSound (r : Registry F I M C) : Prop where
  increasing : (r.entries.map fun e => e.id).Pairwise (· < ·)
  below : ∀ e ∈ r.entries, e.id < r.nextId

namespace IdsSound

theorem new : IdsSound (Registry.new : Registry F I M C) := ⟨by simp [Registry.new], by simp [Registry.new]⟩

theorem nodup {r : Registry F I M C} (sound : r.IdsSound) : (r.entries.map fun e => e.id).Nodup := by
  apply sound.increasing.imp
  intro a b less
  omega

/-- The new entry carries the counter, which is above the ids of the others. -/
theorem increasing_registerWith [F32 F] {r : Registry F I M C} (sound : r.IdsSound) (consumer : C)
    (dims : List (DimSpec F I M)) :
    ((r.registerWith consumer dims).registry.entries.map fun e => e.id).Pairwise (· < ·) := by
  rw [registerWith_entries, List.map_append, List.pairwise_append]
  refine ⟨sound.increasing, by simp, ?_⟩
  intro a member b new
  obtain ⟨e, inEntries, rfl⟩ := List.mem_map.mp member
  have same : b = r.nextId := by simpa using new
  rw [same]
  exact sound.below e inEntries

theorem registerWith [F32 F] {r : Registry F I M C} (sound : r.IdsSound) (consumer : C)
    (dims : List (DimSpec F I M)) (room : r.nextId + 1 < 2 ^ 64) :
    (r.registerWith consumer dims).registry.IdsSound where
  increasing := sound.increasing_registerWith consumer dims
  below := by
    rw [registerWith_entries, registerWith_nextId, Nat.mod_eq_of_lt room]
    intro e member
    rcases List.mem_append.mp member with old | new
    · have := sound.below e old
      omega
    · rw [List.mem_singleton.mp new]
      show r.nextId < r.nextId + 1
      omega

theorem deregister {r : Registry F I M C} (sound : r.IdsSound) (id : Nat) :
    (r.deregister id).1.IdsSound where
  increasing := sound.increasing.sublist ((r.deregister_sublist id).map _)
  below e member := sound.below e ((r.deregister_sublist id).subset member)

theorem sameShape {r r' : Registry F I M C} (sound : r.IdsSound) (same : SameShape r r') :
    r'.IdsSound where
  increasing := by rw [same.ids]; exact sound.increasing
  below e member := by
    obtain ⟨e', inEntries, sameSkeleton⟩ := same.mem member
    rw [same.1, id_of_skeleton sameSkeleton]
    exact sound.below e' inEntries

end IdsSound

/-- Where the ids increase, position order is id order. -/
theorem id_lt_iff {r : Registry F I M C}
    (increasing : (r.entries.map fun e => e.id).Pairwise (· < ·)) {i j : Nat}
    {e e' : RegistrationEntry F I M C} (at_i : r.entries[i]? = some e) (at_j : r.entries[j]? = some e') :
    e.id < e'.id ↔ i < j := by
  have step : ∀ {i j : Nat} {e e' : RegistrationEntry F I M C}, r.entries[i]? = some e →
      r.entries[j]? = some e' → i < j → e.id < e'.id := by
    intro i j e e' at_i at_j less
    obtain ⟨hi, rfl⟩ := List.getElem?_eq_some_iff.mp at_i
    obtain ⟨hj, rfl⟩ := List.getElem?_eq_some_iff.mp at_j
    have := List.pairwise_iff_getElem.mp increasing i j (by simpa using hi) (by simpa using hj) less
    simpa using this
  constructor
  · intro less
    rcases Nat.lt_trichotomy i j with lt | rfl | gt
    · exact lt
    · rw [at_i] at at_j
      cases at_j
      omega
    · have := step at_j at_i gt
      omega
  · exact step at_i at_j

end Registry

end Jackfield
