/-
# Jackfield.Endpoint.Cleanup -- what a stream removes when it ends

A stream's cleanup removes whatever entry is at its address when it gets there, which
may be long after the stream was opened.  Deregister compares identifiers before it
removes an entry; the cleanup does not, and a client that has registered again in the
meantime loses its new entry.

`cleans_up_after_itself` says that this is the only way: if no Register call inserts
its entry where a stream opened from another one has still to clean up (`Settled`),
every cleanup that is to come is for the entry at its address (`Timely`).
-/
import Jackfield.Endpoint.GrpcMoves

namespace Jackfield

set_option autoImplicit false
set_option linter.unusedSectionVars false

variable {F I M L Addr : Type}

open Machine

namespace Grpc

/-- The entry at the address of a task that will remove it is the one its stream was
opened from. -/
structure Timely (s : Grpc F I M L Addr) : Prop where
  forward : ∀ m f entry, s.forwards m = some f → s.endpoints f.addr = some entry → entry.uuid = f.uuid
  inbound : ∀ m i entry, s.inbounds m = some i → i.cleanup = true → s.endpoints i.addr = some entry →
    entry.uuid = i.uuid

/-- A Register call inserts its entry only where no stream opened from another one has
still to clean up. -/
def Settled (s : Grpc F I M L Addr) (_ : List (GrpcEvent M Addr)) (a : GrpcAction F I M L Addr) : Prop :=
  ∀ n addr entry, a = .handler n .insert → s.handlers n = some (.inserting addr entry) →
    (∀ m f, s.forwards m = some f → f.addr = addr → entry.uuid = f.uuid) ∧
      ∀ m i, s.inbounds m = some i → i.cleanup = true → i.addr = addr → entry.uuid = i.uuid

variable [DecidableEq Addr] [F32 F] [Inhabited I] [BoxedMessage M] {service : GrpcService}
  {s s' : Grpc F I M L Addr} {a : GrpcAction F I M L Addr} {t es : List (GrpcEvent M Addr)}

/-- An entry other than a new one has the identifier of the entry before it. -/
theorem Move.entry_uuid (move : Move service s a s' es) {addr : Addr} {entry : EndpointEntry}
    (held : s'.endpoints addr = some entry) :
    (∃ old, s.endpoints addr = some old ∧ old.uuid = entry.uuid) ∨
      ∃ n, a = .handler n .insert ∧ s.handlers n = some (.inserting addr entry) := by
  rcases move.entry_cases held with was | ⟨m, old, -, was, rfl⟩ | new
  · exact Or.inl ⟨entry, was, rfl⟩
  · exact Or.inl ⟨old, was, rfl⟩
  · exact Or.inr new

/-- Insertions leave the tasks as they are. -/
theorem Move.tasks_of_insert {n : Nat} (move : Move service s (.handler n .insert) s' es) :
    s'.forwards = s.forwards ∧ s'.inbounds = s.inbounds ∧
      ∃ addr entry, s.handlers n = some (.inserting addr entry) ∧ s'.endpoints addr = some entry := by
  cases move with
  | @inserted n addr entry serving => exact ⟨rfl, rfl, addr, entry, serving, Function.update_self ..⟩

theorem Move.settled_iff (move : Move service s a s' es) (timely : Timely s) :
    Settled s t a ↔ Timely s' := by
  constructor
  · intro settled
    constructor
    · intro m f entry task held
      rcases move.forward_cases task with ⟨old, was, isOld, -⟩ | ⟨rfl, old, occupied, sameUuid, -⟩
      · have sameAddr : f.addr = old.addr := congrArg (fun f => f.addr) isOld
        have sameUuid : f.uuid = old.uuid := congrArg (fun f => f.uuid) isOld
        rw [sameAddr] at held
        rw [sameUuid]
        rcases move.entry_uuid held with ⟨before, occupied, same⟩ | ⟨n, isInsert, serving⟩
        · exact same ▸ timely.forward m old before was occupied
        · exact (settled n old.addr entry isInsert serving).1 m old was rfl
      · rcases move.entry_uuid held with ⟨before, occupied', same⟩ | ⟨n, isInsert, -⟩
        · cases occupied.symm.trans occupied'
          exact same.symm.trans sameUuid.symm
        · cases isInsert
    · intro m i entry task cleans held
      rcases move.inbound_cases task with ⟨old, was, isOld, -⟩ | ⟨rfl, old, occupied, sameUuid, -⟩
      · have sameAddr : i.addr = old.addr := congrArg (fun i => i.addr) isOld
        have sameUuid : i.uuid = old.uuid := congrArg (fun i => i.uuid) isOld
        have cleans : old.cleanup = true := (congrArg (fun i => i.cleanup) isOld).symm.trans cleans
        rw [sameAddr] at held
        rw [sameUuid]
        rcases move.entry_uuid held with ⟨before, occupied, same⟩ | ⟨n, isInsert, serving⟩
        · exact same ▸ timely.inbound m old before was cleans occupied
        · exact (settled n old.addr entry isInsert serving).2 m old was cleans rfl
      · rcases move.entry_uuid held with ⟨before, occupied', same⟩ | ⟨n, isInsert, -⟩
        · cases occupied.symm.trans occupied'
          exact same.symm.trans sameUuid.symm
        · cases isInsert
  · rintro timely' n addr entry rfl serving
    obtain ⟨sameForwards, sameInbounds, addr', entry', serving', held⟩ := move.tasks_of_insert
    cases serving.symm.trans serving'
    constructor
    · rintro m f task rfl
      exact timely'.forward m f entry (sameForwards ▸ task) held
    · rintro m i task cleans rfl
      exact timely'.inbound m i entry (sameInbounds ▸ task) cleans held

/-- What a cleanup removes is what is at the address of its task. -/
theorem Move.cleaned_cases (move : Move service s a s' es) {uuid : Uuid} {removed : Option EndpointEntry}
    (cleaned : GrpcEvent.cleaned uuid removed ∈ es) :
    (∃ m f, s.forwards m = some f ∧ f.uuid = uuid ∧ removed = s.endpoints f.addr) ∨
      ∃ m i, s.inbounds m = some i ∧ i.phase = .removing ∧ i.uuid = uuid ∧ removed = s.endpoints i.addr := by
  have nothing : ∀ {addr id relay below}, Commanded s addr id relay below → .cleaned uuid removed ∉ below :=
    fun sent => sent.silent (by simp) (by simp)
  cases move with
  | @forwardRemoved m f task phase =>
      cases List.mem_singleton.mp cleaned
      exact Or.inl ⟨m, f, task, rfl, rfl⟩
  | @inboundRemoved m i task phase =>
      cases List.mem_singleton.mp cleaned
      exact Or.inr ⟨m, i, task, phase, rfl, rfl⟩
  | commanded serving sent => exact absurd (by simpa using cleaned) (nothing sent)
  | forwardCommanded task phase sent => exact absurd cleaned (nothing sent)
  | _ => simp at cleaned

/-- An entry that goes away is removed by its identifier, or by a cleanup. -/
theorem Move.removed_cases (move : Move service s a s' es) {addr : Addr} {entry : EndpointEntry}
    (held : s.endpoints addr = some entry) (gone : s'.endpoints addr = none) :
    (∃ n bytes, a = .deregister n addr bytes ∧ Uuid.fromSlice bytes = some entry.uuid) ∨
      ∃ uuid, .cleaned uuid (some entry) ∈ es := by
  have here : ∀ addr', Function.update s.endpoints addr' none addr = none → addr = addr' := by
    intro addr' gone
    by_contra other
    rw [Function.update_of_ne other, held] at gone
    cases gone
  have filled : ∀ addr' new, Function.update s.endpoints addr' (some new) addr ≠ none := by
    intro addr' new gone
    rw [Function.update_apply] at gone
    split at gone
    · cases gone
    · cases held.symm.trans gone
  cases move with
  | opened connected free occupied => exact absurd gone (filled _ _)
  | inserted serving => exact absurd gone (filled _ _)
  | @deregistered n addr' bytes entry' unused occupied right producer =>
      cases here _ gone
      cases held.symm.trans occupied
      exact Or.inl ⟨n, bytes, rfl, right⟩
  | @deregistering n id addr' bytes entry' unused occupied right consumer =>
      cases here _ gone
      cases held.symm.trans occupied
      exact Or.inl ⟨n, bytes, rfl, right⟩
  | @forwardRemoved m f task phase =>
      cases here _ gone
      exact Or.inr ⟨f.uuid, by simp [held]⟩
  | @inboundRemoved m i task phase =>
      cases here _ gone
      exact Or.inr ⟨i.uuid, by simp [held]⟩
  | _ => cases held.symm.trans gone

/-! ## Runs -/

variable {ok : Grpc F I M L Addr → List (GrpcEvent M Addr) → GrpcAction F I M L Addr → Prop}
  {capacity cap : Nat} {router : Router}

/-- An inbound task removes an entry only if there was no forwarding task to do it. -/
theorem cleanup_of_removing (runs : Runs (step service) ok (init capacity router cap) s t) :
    ∀ m i, s.inbounds m = some i → i.phase = .removing → i.cleanup = true := by
  apply runs.invariant (P := fun s _ => ∀ m i, s.inbounds m = some i → i.phase = .removing → i.cleanup = true)
  · intro m i task
    cases task
  · intro s t a s' es ih _ stepped m i task removing
    rcases (move_of_step stepped).inbound_cases task with ⟨old, was, isOld, -, left⟩ |
      ⟨-, entry, -, -, -, -, reading⟩
    · rw [isOld]
      rcases left removing with before | cleans
      · exact ih m old was before
      · exact cleans
    · cases removing.symm.trans reading

/-- The tasks of a stream bear its number. -/
theorem tasks_numbered (runs : Runs (step service) ok (init capacity router cap) s t) {number : Nat}
    (only : ∀ s t m addr, ok s t (.stream m addr) → m = number) :
    (∀ m f, s.forwards m = some f → m = number) ∧ ∀ m i, s.inbounds m = some i → m = number := by
  apply runs.invariant (P := fun s _ =>
    (∀ m f, s.forwards m = some f → m = number) ∧ ∀ m i, s.inbounds m = some i → m = number)
  · constructor
    · intro m f task
      cases task
    · intro m i task
      cases task
  · intro s t a s' es ih allowed stepped
    constructor
    · intro m f task
      rcases (move_of_step stepped).forward_cases task with ⟨old, was, -⟩ | ⟨rfl, -⟩
      · exact ih.1 m old was
      · exact only s t m f.addr allowed
    · intro m i task
      rcases (move_of_step stepped).inbound_cases task with ⟨old, was, -⟩ | ⟨rfl, -⟩
      · exact ih.2 m old was
      · exact only s t m i.addr allowed

theorem timely (runs : Runs (step service) Settled (init capacity router cap) s t) : Timely s := by
  apply runs.invariant (P := fun s _ => Timely s)
  · constructor
    · intro m f entry task
      cases task
    · intro m i entry task
      cases task
  · intro s t a s' es ih settled stepped
    exact ((move_of_step stepped).settled_iff ih).mp settled

/-- **A stream cleans up only after itself, as long as no new entry is inserted before it
has.**  In every interleaving in which no Register call inserts its entry while a stream
opened from another entry has still to clean up at that address: a cleanup has removed
only the entry its stream was opened from, or nothing; and an entry goes away only by a
Deregister with its own identifier or by the cleanup of a stream opened from it.  And of
the steps possible there, exactly those meeting the condition leave no cleanup to come
that would remove another entry. -/
theorem cleans_up_after_itself (runs : Runs (step service) Settled (init capacity router cap) s t) :
    (∀ uuid entry, GrpcEvent.cleaned uuid (some entry) ∈ t → entry.uuid = uuid) ∧
      ∀ a s' es, s.step service a = some (s', es) →
        (Settled s t a ↔ Timely s') ∧
        ∀ addr entry, s.endpoints addr = some entry → s'.endpoints addr = none →
          (∃ n bytes, a = .deregister n addr bytes ∧ Uuid.fromSlice bytes = some entry.uuid) ∨
            .cleaned entry.uuid (some entry) ∈ es := by
  have own : ∀ {s s' : Grpc F I M L Addr} {t es : List (GrpcEvent M Addr)} {a : GrpcAction F I M L Addr},
      Runs (step service) Settled (init capacity router cap) s t → s.step service a = some (s', es) →
        ∀ uuid entry, GrpcEvent.cleaned uuid (some entry) ∈ es → entry.uuid = uuid := by
    intro s s' t es a before stepped uuid entry cleaned
    rcases (move_of_step stepped).cleaned_cases cleaned with
      ⟨m, f, task, rfl, there⟩ | ⟨m, i, task, removing, rfl, there⟩
    · exact (timely before).forward m f entry task there.symm
    · exact (timely before).inbound m i entry task (cleanup_of_removing before m i task removing) there.symm
  constructor
  · apply runs.invariant_reached
      (P := fun _ t => ∀ uuid entry, GrpcEvent.cleaned uuid (some entry) ∈ t → entry.uuid = uuid)
    · simp
    · intro s t a s' es before ih _ stepped uuid entry cleaned
      rcases List.mem_append.mp cleaned with old | new
      · exact ih uuid entry old
      · exact own before stepped uuid entry new
  · intro a s' es stepped
    refine ⟨(move_of_step stepped).settled_iff (timely runs), ?_⟩
    intro addr entry held gone
    rcases (move_of_step stepped).removed_cases held gone with byUuid | ⟨uuid, cleaned⟩
    · exact Or.inl byUuid
    · rw [own runs stepped uuid entry cleaned]
      exact Or.inr cleaned

/-! ## Registered again too soon -/

/-- What `new_v4` may draw, by the byte it repeats. -/
def drawn (b : UInt8) : Uuid := ⟨List.replicate 6 b ++ [0x40, b, 0x80] ++ List.replicate 7 b, rfl⟩

/-- A Register call from address 7 for a consumer, up to its return. -/
def registerCall (n : Nat) (uuid : Uuid) : List (GrpcAction ℚ Unit BaseMessage String Nat) :=
  [.register n 7 ⟨"listener", [EndpointType.consumer], ""⟩ uuid, .handler n .submit,
    .relay (.desk (.world .takeCmd)), .handler n .answered, .handler n .insert]

/-- A client registers, opens its stream and deregisters. -/
def visit : List (GrpcAction ℚ Unit BaseMessage String Nat) :=
  [.relay (.desk (.world .dispatch)), .connect 7] ++ registerCall 0 (drawn 1) ++
    [.stream 0 7, .deregister 1 7 (drawn 1).bytes, .handler 1 .deregister, .relay (.desk (.world .takeCmd))]

/-- The end of its stream, up to the cleanup; the command it sends finds nothing. -/
def streamEnd : List (GrpcAction ℚ Unit BaseMessage String Nat) :=
  [.forward 0 .leave, .forward 0 .deregister, .relay (.desk (.world .takeCmd)), .forward 0 .remove]

/-- It registers again before its stream has ended. -/
def hasty : Grpc ℚ Unit BaseMessage String Nat × List (GrpcEvent BaseMessage Nat) :=
  outcome (step .plain) (init 4 .affinity 8) (visit ++ registerCall 2 (drawn 2) ++ streamEnd)

/-- The stream of the first entry removes the second; the client is told that it has
never registered. -/
theorem new_entry_removed :
    Runs (step .plain) anyStep (init 4 .affinity 8) hasty.1 hasty.2 ∧
      (∃ entry, GrpcEvent.cleaned (drawn 1) (some entry) ∈ hasty.2 ∧ entry.uuid = drawn 2) ∧
      (hasty.1.step .plain (.stream 3 7)).map Prod.snd =
        some [.answered 3 (.error ⟨.failedPrecondition, "not registered; call Register first"⟩)] := by
  refine ⟨runs_outcome_any _ rfl, ⟨⟨drawn 2, some 1, some 2, none, 2, 0⟩, ?_, rfl⟩, rfl⟩
  decide +kernel

/-- A producer's stream breaks, and it registers again after the cleanup. -/
def patient : Grpc ℚ Unit BaseMessage String Nat × List (GrpcEvent BaseMessage Nat) :=
  outcome (step .plain) (init 4 .affinity 8)
    [.connect 7, .register 0 7 ⟨"meter", [EndpointType.producer], ""⟩ (drawn 1), .handler 0 .insert, .stream 0 7,
      .inbound 0 .leave, .inbound 0 .remove, .register 1 7 ⟨"meter", [EndpointType.producer], ""⟩ (drawn 2),
      .handler 1 .insert]

/-- One stream at a time, numbered 0, and none while an entry is inserted. -/
def quiet (s : Grpc F I M L Addr) (_ : List (GrpcEvent M Addr)) (a : GrpcAction F I M L Addr) : Bool :=
  match a with
  | .stream m _ => m == 0
  | .handler _ .insert => (s.forwards 0).isNone && (s.inbounds 0).isNone
  | _ => true

theorem cleans_up_after_itself_patient :
    ∃ uuid entry, GrpcEvent.cleaned uuid (some entry) ∈ patient.2 ∧ entry.uuid = uuid := by
  have quietly : Runs (step .plain) (fun s t a => quiet s t a = true) (init 4 .affinity 8) patient.1 patient.2 :=
    runs_outcome _ quiet (fun _ _ _ passes => passes) rfl rfl
  have runs : Runs (step .plain) Settled (init 4 .affinity 8) patient.1 patient.2 := by
    apply quietly.mono_reached
    rintro s t a before passes n addr entry rfl -
    have numbered := tasks_numbered before (fun _ _ _ _ passes => eq_of_beq passes)
    simp only [quiet, Bool.and_eq_true, Option.isNone_iff_eq_none] at passes
    constructor
    · intro m f task
      rw [numbered.1 m f task, passes.1] at task
      cases task
    · intro m i task
      rw [numbered.2 m i task, passes.2] at task
      cases task
  let entry : EndpointEntry := ⟨drawn 1, none, none, none, 0, 0⟩
  have cleaned : GrpcEvent.cleaned (drawn 1) (some entry) ∈ patient.2 := by decide +kernel
  exact ⟨drawn 1, entry, cleaned, (cleans_up_after_itself runs).1 (drawn 1) entry cleaned⟩

end Grpc

end Jackfield
