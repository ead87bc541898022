/-
# Jackfield.Endpoint.Provenance -- whose entry, whose channel, whose id

An entry, a handler and a forwarding task all stem from one Register call, and each
knows which: the entry by its field, a Register handler and a forwarding task by their
channel, which has the call's number.  `Provenance` says that what they hold is that
call's own: the caller's address, the channel, the id the bus answered it with, the
handle named after its identifier.  Nothing that happens later changes this, so it is
proved here once, for the results about single clients.
-/
import Jackfield.Endpoint.GrpcMoves

namespace Jackfield

set_option autoImplicit false
set_option linter.unusedSectionVars false

variable {F I M L Addr : Type}

open Machine

/-- A call that has returned its id stays so, whatever happens to the relay. -/
theorem Relay.Leads.received_stays [F32 F] [BoxedMessage M] {relay relay' : Relay F I M L} {below : List (RelayEvent M)}
    (leads : relay.Leads relay' below) {r id : Nat} (returned : relay.desk.calls r = .received id) :
    relay'.desk.calls r = .received id := by
  obtain ⟨schedule, evaluates⟩ := leads
  have runs : Runs Relay.step anyStep relay relay' ([] ++ below) :=
    Runs.start.exec schedule (fun _ _ => trivial) evaluates
  apply runs.invariant (P := fun relay _ => relay.desk.calls r = .received id) returned
  intro s t a s' es before _ stepped
  have runs : Runs Desk.step anyStep s.desk s'.desk ([] ++ _) :=
    Runs.start.exec _ (fun _ _ => trivial) (Relay.simulates stepped)
  apply runs.invariant (P := fun d _ => d.calls r = .received id) before
  intro d t a d' es before _ stepped
  exact (Desk.move_of_step stepped).received_stays before

/-- The entry that a Register call is going to insert. -/
def Handler.Brings (h : Handler Addr) (addr : Addr) (entry : EndpointEntry) : Prop :=
  h = .registering addr entry ∨ h = .inserting addr entry

namespace Grpc

/-- A Register call from `addr` has returned from the bus with `id`. -/
def GivenTo (s : Grpc F I M L Addr) (addr : Addr) (id : Nat) : Prop :=
  ∃ r, s.callers r = some addr ∧ s.relay.desk.calls r = .received id

/-- What the entry of a Register call from `addr` holds. -/
structure EntrySound (service : GrpcService) (s : Grpc F I M L Addr) (addr : Addr) (entry : EndpointEntry) :
    Prop where
  caller : s.callers entry.call = some addr
  regId : ∀ id, entry.consumerRegId = some id → s.relay.desk.calls entry.call = .received id
  channel : ∀ r, entry.consumerRx = some r → r = entry.call ∧ entry.consumerRegId.isSome
  handle : ∀ handle, entry.producerHandle = some handle → handle = service.producerId entry.uuid

/-- A channel is its own call's, so that of one client only. -/
theorem EntrySound.made {service : GrpcService} {s : Grpc F I M L Addr} {addr : Addr} {entry : EndpointEntry}
    (sound : EntrySound service s addr entry) {r : Nat} (holds : entry.consumerRx = some r) :
    s.callers r = some addr := (sound.channel r holds).1 ▸ sound.caller

structure Provenance (service : GrpcService) (s : Grpc F I M L Addr) : Prop where
  entry : ∀ addr entry, s.endpoints addr = some entry → EntrySound service s addr entry
  registering : ∀ n addr entry, s.handlers n = some (.registering addr entry) →
    EntrySound service s addr entry ∧ entry.call = n ∧ entry.consumerRegId = none
  inserting : ∀ n addr entry, s.handlers n = some (.inserting addr entry) →
    EntrySound service s addr entry ∧ entry.call = n
  deregistering : ∀ n addr uuid id, s.handlers n = some (.deregistering addr uuid id) →
    s.callers n = some addr ∧ s.GivenTo addr id
  forward : ∀ m f, s.forwards m = some f → s.callers f.rx = some f.addr ∧
    ∃ id, f.consumerRegId = some id ∧ s.relay.desk.calls f.rx = .received id
  leaving : ∀ m f id, s.forwards m = some f → f.phase = .deregistering id → f.consumerRegId = some id
  inbound : ∀ m i, s.inbounds m = some i → i.handle = service.producerId i.uuid

section Kept

variable [DecidableEq Addr] [F32 F] [Inhabited I] [BoxedMessage M] {service : GrpcService}
  {s s' : Grpc F I M L Addr} {a : GrpcAction F I M L Addr} {es : List (GrpcEvent M Addr)}

theorem unusedNumber_iff {n : Nat} :
    s.unusedNumber n = true ↔ s.callers n = none ∧ s.relay.desk.calls n = .unused := by
  unfold unusedNumber
  cases s.callers n <;> cases s.relay.desk.calls n <;> simp

/-- Who made a call stays. -/
theorem Move.caller_stays (move : Move service s a s' es) {n : Nat} {addr : Addr}
    (made : s.callers n = some addr) : s'.callers n = some addr := by
  have kept : ∀ n' addr', s.unusedNumber n' = true →
      Function.update s.callers n' (some addr') n = some addr := by
    intro n' addr' unused
    rw [Function.update_of_ne, made]
    rintro rfl
    rw [(unusedNumber_iff.mp unused).1] at made
    cases made
  cases move with
  | refused connected unused => exact kept _ _ unused
  | registering connected unused stepped => exact kept _ _ unused
  | producing connected unused => exact kept _ _ unused
  | rejected unused wrong => exact kept _ _ unused
  | deregistered unused occupied right producer => exact kept _ _ unused
  | deregistering unused occupied right consumer => exact kept _ _ unused
  | _ => exact made

theorem GivenTo.step {addr : Addr} {id : Nat} (given : s.GivenTo addr id)
    (stepped : s.step service a = some (s', es)) : s'.GivenTo addr id := by
  obtain ⟨r, made, returned⟩ := given
  exact ⟨r, (move_of_step stepped).caller_stays made, (simulates stepped).received_stays returned⟩

theorem EntrySound.step {addr : Addr} {entry : EndpointEntry} (sound : EntrySound service s addr entry)
    (stepped : s.step service a = some (s', es)) : EntrySound service s' addr entry where
  caller := (move_of_step stepped).caller_stays sound.caller
  regId id has := (simulates stepped).received_stays (sound.regId id has)
  channel := sound.channel
  handle := sound.handle

/-- The entry a call begins with holds nothing of the bus. -/
theorem newEntry_sound {n conn : Nat} {addr : Addr} {data : RegisterData} {uuid : Uuid}
    (made : s.callers n = some addr) : EntrySound service s addr (newEntry service n conn data uuid) where
  caller := made
  regId id has := by cases has
  channel r has := by cases has
  handle handle has := by
    simp only [newEntry, Option.ite_none_right_eq_some, Option.some.injEq] at has
    exact has.2.symm

/-- The call that arrives is the caller's from then on. -/
theorem Move.caller_of_register {n : Nat} {addr : Addr} {data : RegisterData} {uuid : Uuid}
    (move : Move service s (.register n addr data uuid) s' es) : s'.callers n = some addr := by
  cases move with
  | refused connected unused => exact Function.update_self ..
  | registering connected unused stepped => exact Function.update_self ..
  | producing connected unused => exact Function.update_self ..

theorem Move.caller_of_deregister {n : Nat} {addr : Addr} {bytes : List UInt8}
    (move : Move service s (.deregister n addr bytes) s' es) : s'.callers n = some addr := by
  cases move with
  | rejected unused wrong => exact Function.update_self ..
  | deregistered unused occupied right producer => exact Function.update_self ..
  | deregistering unused occupied right consumer => exact Function.update_self ..

/-- An entry is inserted by the last step of its call. -/
theorem Move.served_of_insert {n : Nat} (move : Move service s (.handler n .insert) s' es) :
    s'.handlers n = none := by
  cases move with
  | inserted serving => exact Function.update_self ..

/-- What a Register handler brings, it brought before its call was answered, or the call has just been made. -/
theorem Move.brings_cases (move : Move service s a s' es) {n : Nat} {h : Handler Addr} {addr : Addr}
    {entry : EndpointEntry} (serving : s'.handlers n = some h) (brings : h.Brings addr entry) :
    (∃ h' old, s.handlers n = some h' ∧ h'.Brings addr old ∧ entry.uuid = old.uuid ∧ entry.call = old.call ∧
        entry.conn = old.conn) ∨
      ∃ data uuid conn, a = .register n addr data uuid ∧ s.conns addr = some conn ∧
        entry = newEntry service n conn data uuid := by
  rcases move.handler_cases serving with was | ⟨addr', data, uuid, conn, isRegister, connected, isNew⟩ |
    ⟨addr', old, id, -, waits, -, rfl⟩ | ⟨addr', bytes, old, id, -, -, -, -, rfl⟩
  · exact Or.inl ⟨h, entry, was, brings, rfl, rfl, rfl⟩
  · have same : addr = addr' ∧ entry = newEntry service n conn data uuid := by
      rcases isNew with rfl | rfl <;> rcases brings with isEntry | isEntry <;> cases isEntry <;> exact ⟨rfl, rfl⟩
    obtain ⟨rfl, rfl⟩ := same
    exact Or.inr ⟨data, uuid, conn, isRegister, connected, rfl⟩
  · rcases brings with isEntry | isEntry <;> cases isEntry
    exact Or.inl ⟨_, old, waits, Or.inl rfl, rfl, rfl, rfl⟩
  · rcases brings with isEntry | isEntry <;> cases isEntry

/-- A handler goes on with the id the bus answered with. -/
theorem Move.received_of_answered {n id : Nat} (move : Move service s (.handler n .answered) s' es)
    (reply : s.relay.desk.calls n = .replied id) : s'.relay.desk.calls n = .received id := by
  cases move with
  | @answered n id' addr entry relay es serving reply' stepped =>
      cases Relay.move_of_step stepped with
      | aside apart received =>
          cases Desk.move_of_step received with
          | received answer =>
              cases reply.symm.trans answer
              simp [(Relay.after_desk ..).1]

/-- A handler serves a call that somebody has made. -/
theorem Provenance.made (known : Provenance service s) {n : Nat} {h : Handler Addr}
    (serving : s.handlers n = some h) : ∃ addr, s.callers n = some addr := by
  cases h with
  | registering addr entry =>
      obtain ⟨sound, isCall, -⟩ := known.registering n addr entry serving
      exact ⟨addr, isCall ▸ sound.caller⟩
  | inserting addr entry =>
      obtain ⟨sound, isCall⟩ := known.inserting n addr entry serving
      exact ⟨addr, isCall ▸ sound.caller⟩
  | deregistering addr uuid id => exact ⟨addr, (known.deregistering n addr uuid id serving).1⟩

theorem Provenance.step (known : Provenance service s) (stepped : s.step service a = some (s', es)) :
    Provenance service s' := by
  have move := move_of_step stepped
  constructor
  case entry =>
    intro addr entry held
    rcases move.entry_cases held with was | ⟨m, old, -, was, rfl⟩ | ⟨n, -, serving⟩
    · exact (known.entry addr entry was).step stepped
    · have sound := (known.entry addr old was).step stepped
      refine ⟨sound.caller, sound.regId, ?_, ?_⟩
      · intro r has
        cases has
      · intro handle has
        cases has
    · exact (known.inserting n addr entry serving).1.step stepped
  case registering =>
    intro n addr entry serving
    rcases move.handler_cases serving with was | ⟨addr', data, uuid, conn, rfl, -, isNew | isNew⟩ |
      ⟨addr', entry', id, -, -, -, isNew⟩ | ⟨addr', bytes, entry', id, -, -, -, -, isNew⟩
    · obtain ⟨sound, isCall, noId⟩ := known.registering n addr entry was
      exact ⟨sound.step stepped, isCall, noId⟩
    · cases isNew
      exact ⟨newEntry_sound move.caller_of_register, rfl, rfl⟩
    · cases isNew
    · cases isNew
    · cases isNew
  case inserting =>
    intro n addr entry serving
    rcases move.handler_cases serving with was | ⟨addr', data, uuid, conn, rfl, -, isNew | isNew⟩ |
      ⟨addr', entry', id, rfl, waits, reply, isNew⟩ | ⟨addr', bytes, entry', id, -, -, -, -, isNew⟩
    · obtain ⟨sound, isCall⟩ := known.inserting n addr entry was
      exact ⟨sound.step stepped, isCall⟩
    · cases isNew
    · cases isNew
      exact ⟨newEntry_sound move.caller_of_register, rfl⟩
    · cases isNew
      obtain ⟨sound, isCall, -⟩ := known.registering n addr entry' waits
      refine ⟨⟨move.caller_stays sound.caller, ?_, ?_, sound.handle⟩, isCall⟩
      · intro id' has
        cases has
        rw [isCall]
        exact move.received_of_answered reply
      · intro r has
        cases has
        exact ⟨isCall.symm, rfl⟩
    · cases isNew
  case deregistering =>
    intro n addr uuid id serving
    rcases move.handler_cases serving with was | ⟨addr', data, uuid, conn, -, -, isNew | isNew⟩ |
      ⟨addr', entry', id, -, -, -, isNew⟩ | ⟨addr', bytes, entry', id, rfl, occupied, -, has, isNew⟩
    · obtain ⟨made, given⟩ := known.deregistering n addr uuid id was
      exact ⟨move.caller_stays made, given.step stepped⟩
    · cases isNew
    · cases isNew
    · cases isNew
    · cases isNew
      have sound := (known.entry addr entry' occupied).step stepped
      exact ⟨move.caller_of_deregister, entry'.call, sound.caller, sound.regId _ has⟩
  case forward =>
    intro m f task
    rcases move.forward_cases task with ⟨old, was, isOld, -⟩ | ⟨-, entry, occupied, -, has, sameId, -⟩
    · obtain ⟨made, id, has, returned⟩ := known.forward m old was
      rw [isOld]
      exact ⟨move.caller_stays made, id, has, (simulates stepped).received_stays returned⟩
    · have sound := (known.entry f.addr entry occupied).step stepped
      obtain ⟨isCall, hasId⟩ := sound.channel f.rx has
      obtain ⟨id, isId⟩ := Option.isSome_iff_exists.mp hasId
      rw [isCall]
      exact ⟨sound.caller, id, sameId.trans isId, sound.regId id isId⟩
  case leaving =>
    intro m f id task phase
    rcases move.forward_cases task with ⟨old, was, isOld, own⟩ | ⟨-, entry, -, -, -, -, begins⟩
    · rw [isOld]
      rcases own id phase with before | now
      · exact known.leaving m old id was before
      · exact now
    · rw [phase] at begins
      cases begins
  case inbound =>
    intro m i task
    rcases move.inbound_cases task with ⟨old, was, isOld, -⟩ | ⟨-, entry, occupied, sameUuid, has, -⟩
    · rw [isOld]
      exact known.inbound m old was
    · rw [sameUuid]
      exact (known.entry i.addr entry occupied).handle i.handle has

end Kept

section Runs

variable [DecidableEq Addr] [F32 F] [Inhabited I] [BoxedMessage M] {service : GrpcService}
  {ok : Grpc F I M L Addr → List (GrpcEvent M Addr) → GrpcAction F I M L Addr → Prop}
  {capacity cap : Nat} {router : Router} {s : Grpc F I M L Addr} {t : List (GrpcEvent M Addr)}

theorem provenance (runs : Runs (step service) ok (init capacity router cap) s t) : Provenance service s := by
  apply runs.invariant (P := fun s _ => Provenance service s)
  · constructor
    · intro addr entry held
      cases held
    · intro n addr entry serving
      cases serving
    · intro n addr entry serving
      cases serving
    · intro n addr uuid id serving
      cases serving
    · intro m f task
      cases task
    · intro m f id task
      cases task
    · intro m i task
      cases task
  · intro s t a s' es known _ stepped
    exact known.step stepped

end Runs

end Grpc

end Jackfield
