/-
# Jackfield.Endpoint.Silence -- what an endpoint sends after Deregister

The handle an endpoint sends with is in its entry until its stream takes it out, and then
in the inbound task.  Deregister drops it with the entry, and through the bus it ends the
forwarding task; but nothing ends the inbound task, so an endpoint whose stream is open
goes on sending after its Deregister has returned `Ok`.

Identifiers are drawn once (`Drawn`), and once an entry has been removed by its identifier
nobody holds it (`Retired`).  So an endpoint is silent after Deregister if no inbound task
of it is left by then that could still send (`silent_after_deregister`).
-/
import Jackfield.Endpoint.Cleanup
import Jackfield.Endpoint.Provenance

namespace Jackfield

set_option autoImplicit false
set_option linter.unusedSectionVars false

variable {F I M L Addr : Type}

open Machine

/-! ## Who sends -/

theorem Relay.Move.send_of_accepted [F32 F] [BoxedMessage M] {s s' : Relay F I M L} {a : RelayAction F I M L}
    {es : List (RelayEvent M)} (move : Relay.Move s a s' es) {e : Parcel M}
    (accepted : RelayEvent.bus (.accepted e) ∈ es) : ∃ message, a = .desk (.world (.send e.origin message)) := by
  have deskSend : ∀ {d d' : Desk F I M (Plug L)} {b : DeskAction F I M (Plug L)} {below : List (Event M)},
      d.step b = some (d', below) → Event.accepted e ∈ below → ∃ message, b = .world (.send e.origin message) := by
    intro d d' b below stepped accepted
    cases Desk.move_of_step stepped with
    | worked live plain worked =>
        obtain ⟨message, rfl⟩ := (World.move_of_step worked).send_of_accepted accepted
        exact ⟨message, rfl⟩
    | _ => cases accepted
  -- no other step of the bus sends
  have other : ∀ {d d' : Desk F I M (Plug L)} {b : Action F I M (Boxed (Plug L))} {below : List (Event M)},
      d.step (.world b) = some (d', below) → (∀ message, b ≠ .send e.origin message) →
        Event.accepted e ∉ below := by
    intro d d' b below stepped apart accepted
    obtain ⟨message, same⟩ := deskSend stepped accepted
    cases same
    exact apart message rfl
  cases move with
  | @routed consumer desk send below stepped begun =>
      have member : Event.accepted e ∈ below := by cases send <;> simpa using accepted
      exact absurd member (other stepped (by simp))
  | resumed elsewhere stepped => exact absurd (by simpa using accepted) (other stepped (by simp))
  | delivered sending live sent stepped => exact absurd (by simpa using accepted) (other stepped (by simp))
  | refused sending gone stepped => exact absurd (by simpa using accepted) (other stepped (by simp))
  | @aside a desk below apart stepped =>
      have member : Event.accepted e ∈ below := by
        rw [← Relay.after_events s desk below]
        exact List.mem_filterMap.mpr ⟨_, accepted, rfl⟩
      obtain ⟨message, rfl⟩ := deskSend stepped member
      exact ⟨message, rfl⟩
  | _ => simp at accepted

namespace Grpc

variable [DecidableEq Addr] [F32 F] [Inhabited I] [BoxedMessage M] {service : GrpcService}
  {s s' : Grpc F I M L Addr} {a : GrpcAction F I M L Addr} {t es : List (GrpcEvent M Addr)}

/-- An envelope is sent by an inbound task, under its handle, or by somebody else. -/
theorem Move.accepted_cases (move : Move service s a s' es) {e : Parcel M}
    (accepted : GrpcEvent.relay (.bus (.accepted e)) ∈ es) :
    (∃ m i, a = .inbound m .send ∧ s.inbounds m = some i ∧ i.phase ≠ .removing ∧ e.origin = i.handle) ∨
      ∃ message, a = .relay (.desk (.world (.send e.origin message))) := by
  obtain ⟨c, relay, below, stepped, member, relayed⟩ := move.relay_cases accepted
  obtain ⟨message, isSend⟩ := (Relay.move_of_step stepped).send_of_accepted member
  cases relayed with
  | @sent m i item task phase =>
      injection isSend with isSend
      injection isSend with isSend
      injection isSend with isSend
      exact Or.inl ⟨m, i, rfl, task, by simp [phase], isSend.symm⟩
  | other others =>
      cases isSend
      exact Or.inr ⟨message, rfl⟩
  | _ => cases isSend

/-! ## Who holds an identifier -/

/-- The identifier is that of an entry, or of one a Register call is going to insert. -/
def Held (s : Grpc F I M L Addr) (uuid : Uuid) : Prop :=
  (∃ addr entry, s.endpoints addr = some entry ∧ entry.uuid = uuid) ∨
    ∃ n h addr entry, s.handlers n = some h ∧ h.Brings addr entry ∧ entry.uuid = uuid

/-- The identifier whose Deregister returns `Ok` in this step. -/
def returning? (s : Grpc F I M L Addr) : GrpcAction F I M L Addr → Option Uuid
  | .deregister _ addr bytes =>
      (s.endpoints addr).bind fun entry =>
        if Uuid.fromSlice bytes = some entry.uuid ∧ entry.consumerRegId = none then some entry.uuid else none
  | .handler n .deregister =>
      match s.handlers n with
      | some (.deregistering _ uuid _) => some uuid
      | _ => none
  | _ => none

/-- Every identifier belongs to one Register call, which has it in its handler or in its
entry, not in both. -/
structure Drawn (service : GrpcService) (s : Grpc F I M L Addr) (t : List (GrpcEvent M Addr)) : Prop where
  entry : ∀ addr entry, s.endpoints addr = some entry → .drew entry.call entry.uuid ∈ t
  brought : ∀ n h addr entry, s.handlers n = some h → h.Brings addr entry →
    entry.call = n ∧ .drew n entry.uuid ∈ t
  inbound : ∀ m i, s.inbounds m = some i → ∃ n, .drew n i.uuid ∈ t
  deregistering : ∀ n addr uuid id, s.handlers n = some (.deregistering addr uuid id) → ∃ n', .drew n' uuid ∈ t
  deregistered : ∀ uuid, .deregistered uuid ∈ t → ∃ n, .drew n uuid ∈ t
  called : ∀ n uuid, .drew n uuid ∈ t → ∃ addr, s.callers n = some addr
  apart : ∀ n n' uuid uuid', .drew n uuid ∈ t → .drew n' uuid' ∈ t →
    service.producerId uuid = service.producerId uuid' → n = n' ∧ uuid = uuid'
  single : ∀ addr entry h addr' entry', s.endpoints addr = some entry → s.handlers entry.call = some h →
    ¬ h.Brings addr' entry'

/-- What keeps an endpoint silent: `new_v4` draws no identifier twice, nobody else sends
under the name of an endpoint that has deregistered, and no Deregister returns `Ok` while
an inbound task opened from its entry could still send. -/
structure Quiet (service : GrpcService) (s : Grpc F I M L Addr) (t : List (GrpcEvent M Addr))
    (a : GrpcAction F I M L Addr) : Prop where
  fresh : ∀ n addr data uuid, a = .register n addr data uuid → ∀ n' uuid', .drew n' uuid' ∈ t →
    service.producerId uuid' ≠ service.producerId uuid
  ownName : ∀ origin message, a = .relay (.desk (.world (.send origin message))) →
    ∀ uuid, .deregistered uuid ∈ t → origin ≠ service.producerId uuid
  ended : ∀ uuid, s.returning? a = some uuid → ∀ m i, s.inbounds m = some i → i.uuid = uuid →
    i.phase = .removing

/-- A call draws its identifier when it arrives. -/
theorem Move.drew_iff (move : Move service s a s' es) {n : Nat} {uuid : Uuid} :
    GrpcEvent.drew n uuid ∈ es ↔ ∃ addr data, a = .register n addr data uuid := by
  have noCommand : ∀ {addr id relay below}, Commanded s addr id relay below → .drew n uuid ∉ below :=
    fun sent => sent.silent (by simp) (by simp)
  cases move with
  | commanded serving sent => simp [noCommand sent]
  | forwardCommanded task phase sent => simp [noCommand sent]
  | @refused n' conn addr data uuid' status connected unused => simp [eq_comm]
  | @registering n' conn addr data uuid' dims relay below connected unused stepped => simp [eq_comm]
  | @producing n' conn addr data uuid' connected unused => simp [eq_comm]
  | _ => simp

theorem Move.deregistered_returning (move : Move service s a s' es) {uuid : Uuid}
    (deregistered : GrpcEvent.deregistered uuid ∈ es) : s.returning? a = some uuid := by
  have noCommand : ∀ {addr id relay below}, Commanded s addr id relay below → .deregistered uuid ∉ below :=
    fun sent => sent.silent (by simp) (by simp)
  cases move with
  | @deregistered n addr bytes entry unused occupied right producer =>
      have same : uuid = entry.uuid := by simpa using deregistered
      simp [returning?, occupied, right, producer, same]
  | @commanded n id addr uuid' relay below serving sent =>
      have same : uuid = uuid' := by simpa [noCommand sent] using deregistered
      simp [returning?, serving, same]
  | forwardCommanded task phase sent => exact absurd deregistered (noCommand sent)
  | _ => simp at deregistered

theorem returning_cases {uuid : Uuid} (returning : s.returning? a = some uuid) :
    (∃ addr entry, s.endpoints addr = some entry ∧ entry.uuid = uuid) ∨
      ∃ n addr id, s.handlers n = some (.deregistering addr uuid id) := by
  unfold returning? at returning
  split at returning
  · rename_i n addr bytes
    obtain ⟨entry, occupied, chosen⟩ := Option.bind_eq_some_iff.mp returning
    simp only [Option.ite_none_right_eq_some, Option.some.injEq] at chosen
    exact Or.inl ⟨addr, entry, occupied, chosen.2⟩
  · rename_i n
    split at returning
    · rename_i addr uuid' id serving
      cases returning
      exact Or.inr ⟨n, addr, id, serving⟩
    · cases returning
  · cases returning

theorem Drawn.step (drawn : Drawn service s t) (known : Provenance service s)
    (fresh : ∀ n addr data uuid, a = .register n addr data uuid → ∀ n' uuid', .drew n' uuid' ∈ t →
      service.producerId uuid' ≠ service.producerId uuid)
    (unused : ∀ n addr data uuid, a = .register n addr data uuid → s.callers n = none)
    (move : Move service s a s' es) : Drawn service s' (t ++ es) where
  entry addr entry held := by
    rcases move.entry_cases held with was | ⟨m, old, -, was, rfl⟩ | ⟨n, -, serving⟩
    · exact List.mem_append_left _ (drawn.entry addr entry was)
    · exact List.mem_append_left _ (drawn.entry addr old was)
    · obtain ⟨isCall, drew⟩ := drawn.brought n _ addr entry serving (Or.inr rfl)
      rw [isCall]
      exact List.mem_append_left _ drew
  brought n h addr entry serving brings := by
    rcases move.brings_cases serving brings with ⟨h', old, was, brought, sameUuid, sameCall, -⟩ |
      ⟨data, uuid, conn, isRegister, -, rfl⟩
    · obtain ⟨isCall, drew⟩ := drawn.brought n h' addr old was brought
      rw [sameUuid, sameCall]
      exact ⟨isCall, List.mem_append_left _ drew⟩
    · exact ⟨rfl, List.mem_append_right _ (move.drew_iff.mpr ⟨addr, data, isRegister⟩)⟩
  inbound m i task := by
    rcases move.inbound_cases task with ⟨old, was, isOld, -⟩ | ⟨-, entry, occupied, sameUuid, -⟩
    · obtain ⟨n, drew⟩ := drawn.inbound m old was
      rw [isOld]
      exact ⟨n, List.mem_append_left _ drew⟩
    · rw [sameUuid]
      exact ⟨entry.call, List.mem_append_left _ (drawn.entry i.addr entry occupied)⟩
  deregistering n addr uuid id serving := by
    rcases move.handler_cases serving with was | ⟨addr', data, uuid', conn, -, -, isNew | isNew⟩ |
      ⟨addr', old, id', -, -, -, isNew⟩ | ⟨addr', bytes, entry, id', -, occupied, -, -, isNew⟩
    · obtain ⟨n', drew⟩ := drawn.deregistering n addr uuid id was
      exact ⟨n', List.mem_append_left _ drew⟩
    · cases isNew
    · cases isNew
    · cases isNew
    · cases isNew
      exact ⟨entry.call, List.mem_append_left _ (drawn.entry addr entry occupied)⟩
  deregistered uuid deregistered := by
    rcases List.mem_append.mp deregistered with old | new
    · obtain ⟨n, drew⟩ := drawn.deregistered uuid old
      exact ⟨n, List.mem_append_left _ drew⟩
    · rcases returning_cases (move.deregistered_returning new) with ⟨addr, entry, occupied, rfl⟩ | ⟨n, addr, id, serving⟩
      · exact ⟨entry.call, List.mem_append_left _ (drawn.entry addr entry occupied)⟩
      · obtain ⟨n', drew⟩ := drawn.deregistering n addr uuid id serving
        exact ⟨n', List.mem_append_left _ drew⟩
  called n uuid drew := by
    rcases List.mem_append.mp drew with old | new
    · obtain ⟨addr, made⟩ := drawn.called n uuid old
      exact ⟨addr, move.caller_stays made⟩
    · obtain ⟨addr, data, rfl⟩ := move.drew_iff.mp new
      exact ⟨addr, move.caller_of_register⟩
  apart n n' uuid uuid' drew drew' same := by
    rcases List.mem_append.mp drew with old | new <;> rcases List.mem_append.mp drew' with old' | new'
    · exact drawn.apart n n' uuid uuid' old old' same
    · obtain ⟨addr, data, isRegister⟩ := move.drew_iff.mp new'
      exact absurd same (fresh n' addr data uuid' isRegister n uuid old)
    · obtain ⟨addr, data, isRegister⟩ := move.drew_iff.mp new
      exact absurd same.symm (fresh n addr data uuid isRegister n' uuid' old')
    · obtain ⟨addr, data, isRegister⟩ := move.drew_iff.mp new
      obtain ⟨addr', data', isRegister'⟩ := move.drew_iff.mp new'
      cases isRegister.symm.trans isRegister'
      exact ⟨rfl, rfl⟩
  single addr entry h addr' entry' held serving brings := by
    -- the handler of an entry's call, before the step
    have before : ∀ old, s.endpoints addr = some old → old.call = entry.call → False := by
      intro old was sameCall
      rw [← sameCall] at serving
      rcases move.handler_cases serving with stays | ⟨addr'', data, uuid, conn, isRegister, -⟩ |
        ⟨addr'', waiting, id, -, waits, -⟩ | ⟨addr'', bytes, other, id, -, -, -, -, rfl⟩
      · exact drawn.single addr old h addr' entry' was stays brings
      · have none := unused _ _ _ _ isRegister
        rw [(known.entry addr old was).caller] at none
        cases none
      · exact drawn.single addr old _ addr'' waiting was waits (Or.inl rfl)
      · rcases brings with isEntry | isEntry <;> cases isEntry
    rcases move.entry_cases held with was | ⟨m, old, -, was, rfl⟩ | ⟨n, rfl, inserting⟩
    · exact before entry was rfl
    · exact before old was rfl
    · rw [(drawn.brought n _ addr entry inserting (Or.inr rfl)).1, move.served_of_insert] at serving
      cases serving

/-! ## Once an identifier is retired -/

/-- An entry was removed by this identifier. -/
def Retired (s : Grpc F I M L Addr) (t : List (GrpcEvent M Addr)) (uuid : Uuid) : Prop :=
  (∃ n addr id, s.handlers n = some (.deregistering addr uuid id)) ∨ .deregistered uuid ∈ t

/-- Who holds an identifier held it before, or has just drawn it. -/
theorem Move.held_before (move : Move service s a s' es) {uuid : Uuid} (held : s'.Held uuid) :
    s.Held uuid ∨ ∃ n addr data, a = .register n addr data uuid := by
  rcases held with ⟨addr, entry, occupied, rfl⟩ | ⟨n, h, addr, entry, serving, brings, rfl⟩
  · rcases move.entry_cases occupied with was | ⟨m, old, -, was, rfl⟩ | ⟨n, -, serving⟩
    · exact Or.inl (Or.inl ⟨addr, entry, was, rfl⟩)
    · exact Or.inl (Or.inl ⟨addr, old, was, rfl⟩)
    · exact Or.inl (Or.inr ⟨n, _, addr, entry, serving, Or.inr rfl, rfl⟩)
  · rcases move.brings_cases serving brings with ⟨h', old, was, brought, sameUuid, -, -⟩ |
      ⟨data, uuid, conn, rfl, -, rfl⟩
    · exact Or.inl (Or.inr ⟨n, h', addr, old, was, brought, sameUuid.symm⟩)
    · exact Or.inr ⟨n, addr, data, rfl⟩

/-- Once its entry is removed, nobody has it any more. -/
theorem Drawn.not_held (drawn : Drawn service s t) (known : Provenance service s) {addr : Addr}
    {entry : EndpointEntry} (occupied : s.endpoints addr = some entry)
    (others : ∀ addr' entry', s'.endpoints addr' = some entry' → addr' ≠ addr ∧ s.endpoints addr' = some entry')
    (handlers : ∀ n h addr' entry', s'.handlers n = some h → h.Brings addr' entry' → s.handlers n = some h) :
    ¬ s'.Held entry.uuid := by
  have drew := drawn.entry addr entry occupied
  rintro (⟨addr', entry', occupied', sameUuid⟩ | ⟨n, h, addr', entry', serving, brings, sameUuid⟩)
  · obtain ⟨elsewhere, was⟩ := others addr' entry' occupied'
    have drew' := drawn.entry addr' entry' was
    have sameCall := (drawn.apart _ _ _ _ drew' drew (congrArg _ sameUuid)).1
    have made := (known.entry addr' entry' was).caller
    rw [sameCall, (known.entry addr entry occupied).caller] at made
    exact elsewhere (Option.some.inj made).symm
  · have was := handlers n h addr' entry' serving brings
    obtain ⟨isCall, drew'⟩ := drawn.brought n h addr' entry' was brings
    have sameCall := (drawn.apart _ _ _ _ drew' drew (congrArg _ sameUuid)).1
    rw [sameCall] at was
    exact drawn.single addr entry h addr' entry' occupied was brings

/-- A Deregister that finds its entry removes the only one with the identifier. -/
theorem Move.retires (move : Move service s a s' es) (drawn : Drawn service s t) (known : Provenance service s)
    {uuid : Uuid} (retired : s'.Retired (t ++ es) uuid) : s.Retired t uuid ∨ ¬ s'.Held uuid := by
  have others : ∀ addr addr' entry', Function.update s.endpoints addr none addr' = some entry' →
      addr' ≠ addr ∧ s.endpoints addr' = some entry' := by
    intro addr addr' entry' held
    constructor
    · rintro rfl
      rw [Function.update_self] at held
      cases held
    · rcases cases_of_update held with ⟨-, new⟩ | was
      · cases new
      · exact was
  rcases retired with ⟨n, addr, id, serving⟩ | deregistered
  · rcases move.handler_cases serving with was | ⟨addr', data, uuid', conn, -, -, isNew | isNew⟩ |
      ⟨addr', old, id', -, -, -, isNew⟩ | ⟨addr', bytes, entry, id', rfl, occupied, right, has, isNew⟩
    · exact Or.inl (Or.inl ⟨n, addr, id, was⟩)
    · cases isNew
    · cases isNew
    · cases isNew
    · cases isNew
      right
      cases move with
      | rejected unused wrong => exact absurd right (wrong entry occupied)
      | deregistered unused occupied' right' producer =>
          cases occupied.symm.trans occupied'
          cases has.symm.trans producer
      | deregistering unused occupied' right' consumer =>
          cases occupied.symm.trans occupied'
          apply drawn.not_held known occupied (others addr)
          intro n' h addr' entry' serving' brings
          rcases cases_of_update serving' with ⟨-, new⟩ | was
          · cases new
            rcases brings with isEntry | isEntry <;> cases isEntry
          · exact was
  · rcases List.mem_append.mp deregistered with old | new
    · exact Or.inl (Or.inr old)
    · have returning := move.deregistered_returning new
      cases move with
      | @deregistered n addr bytes entry unused occupied right producer =>
          have same : uuid = entry.uuid := by simpa using new
          rw [same]
          right
          exact drawn.not_held known occupied (others addr) (fun _ _ _ _ was _ => was)
      | @commanded n id addr uuid' relay below serving sent =>
          have same : uuid' = uuid := by simpa [returning?, serving] using returning
          exact Or.inl (Or.inl ⟨n, addr, id, same ▸ serving⟩)
      | forwardCommanded task phase sent => cases sent <;> simp at new
      | _ => simp at new

/-- A retired identifier is nobody's, and those that have the handle are done with it. -/
structure Silent (s : Grpc F I M L Addr) (t : List (GrpcEvent M Addr)) : Prop where
  gone : ∀ uuid, s.Retired t uuid → ¬ s.Held uuid
  ended : ∀ uuid, .deregistered uuid ∈ t → ∀ m i, s.inbounds m = some i → i.uuid = uuid → i.phase = .removing

theorem Silent.step (silent : Silent s t) (drawn : Drawn service s t) (known : Provenance service s)
    (quiet : Quiet service s t a) (move : Move service s a s' es) : Silent s' (t ++ es) where
  gone uuid retired held := by
    rcases move.retires drawn known retired with before | gone
    · rcases move.held_before held with was | ⟨n, addr, data, isRegister⟩
      · exact silent.gone uuid before was
      · obtain ⟨n', drew⟩ : ∃ n', GrpcEvent.drew n' uuid ∈ t := by
          rcases before with ⟨n', addr', id, serving⟩ | deregistered
          · exact drawn.deregistering n' addr' uuid id serving
          · exact drawn.deregistered uuid deregistered
        exact quiet.fresh n addr data uuid isRegister n' uuid drew rfl
    · exact gone held
  ended uuid deregistered m i task isOwn := by
    have before : ∀ old, s.inbounds m = some old → old.uuid = uuid → old.phase = .removing := by
      intro old was isOwn
      rcases List.mem_append.mp deregistered with old' | new
      · exact silent.ended uuid old' m old was isOwn
      · exact quiet.ended uuid (move.deregistered_returning new) m old was isOwn
    rcases move.inbound_cases task with ⟨old, was, isOld, stays, -⟩ | ⟨rfl, entry, occupied, sameUuid, -⟩
    · exact stays (before old was ((congrArg (fun i => i.uuid) isOld).symm.trans isOwn))
    · -- no stream is opened from an entry that has been removed
      rcases List.mem_append.mp deregistered with old | new
      · exact absurd (Or.inl ⟨i.addr, entry, occupied, sameUuid.symm.trans isOwn⟩)
          (silent.gone uuid (Or.inr old))
      · cases move.deregistered_returning new

/-! ## Runs -/

variable {ok : Grpc F I M L Addr → List (GrpcEvent M Addr) → GrpcAction F I M L Addr → Prop}
  {capacity cap : Nat} {router : Router}

theorem Move.unused_of_register {n : Nat} {addr : Addr} {data : RegisterData} {uuid : Uuid}
    (move : Move service s (.register n addr data uuid) s' es) : s.callers n = none := by
  cases move with
  | refused connected unused => exact (unusedNumber_iff.mp unused).1
  | registering connected unused stepped => exact (unusedNumber_iff.mp unused).1
  | producing connected unused => exact (unusedNumber_iff.mp unused).1

theorem silent (runs : Runs (step service) (Quiet service) (init capacity router cap) s t) :
    Drawn service s t ∧ Silent s t := by
  apply runs.invariant_reached (P := fun s t => Drawn service s t ∧ Silent s t)
  · constructor
    · constructor
      · intro addr entry held
        cases held
      · intro n h addr entry serving
        cases serving
      · intro m i task
        cases task
      · intro n addr uuid id serving
        cases serving
      · intro uuid deregistered
        cases deregistered
      · intro n uuid drew
        cases drew
      · intro n n' uuid uuid' drew
        cases drew
      · intro addr entry h addr' entry' held
        cases held
    · constructor
      · rintro uuid (⟨n, addr, id, serving⟩ | deregistered)
        · cases serving
        · cases deregistered
      · intro uuid deregistered
        cases deregistered
  · intro s t a s' es before ⟨drawn, silent⟩ quiet stepped
    have move := move_of_step stepped
    have known := provenance before
    refine ⟨drawn.step known quiet.fresh ?_ move, silent.step drawn known quiet move⟩
    rintro n addr data uuid rfl
    exact move.unused_of_register

/-- **After Deregister an endpoint is silent, as long as it has ended its stream.**  In
every interleaving in which identifiers are not drawn twice, nobody else sends under the
name of a deregistered endpoint, and no Deregister returns `Ok` while an inbound task
opened from its entry could still send: once a Deregister has returned `Ok`, no envelope
under that endpoint's name is sent into the bus. -/
theorem silent_after_deregister (runs : Runs (step service) (Quiet service) (init capacity router cap) s t)
    {uuid : Uuid} {e : Parcel M}
    (after : List.Sublist [GrpcEvent.deregistered uuid, GrpcEvent.relay (.bus (.accepted e))] t) :
    e.origin ≠ service.producerId uuid := by
  revert after
  apply runs.invariant_reached (P := fun _ t =>
    List.Sublist [GrpcEvent.deregistered uuid, GrpcEvent.relay (.bus (.accepted e))] t →
      e.origin ≠ service.producerId uuid)
  · intro never
    cases never
  · intro s t a s' es before ih quiet stepped after isOwn
    have move := move_of_step stepped
    obtain ⟨drawn, silent⟩ := silent before
    rcases sublist_concat_append (l := [GrpcEvent.deregistered uuid]) after with old | accepted
    · exact ih old isOwn
    · have deregistered : GrpcEvent.deregistered uuid ∈ t := by
        rcases List.mem_append.mp (after.subset (List.mem_cons_self ..)) with old | new
        · exact old
        · have returning := move.deregistered_returning new
          rcases move.accepted_cases accepted with ⟨m, i, rfl, -⟩ | ⟨message, rfl⟩ <;> cases returning
      rcases move.accepted_cases accepted with ⟨m, i, rfl, task, sends, isHandle⟩ | ⟨message, rfl⟩
      · -- the handle is named after the task's own identifier
        have named := (provenance before).inbound m i task
        obtain ⟨n, drew⟩ := drawn.inbound m i task
        obtain ⟨n', drew'⟩ := drawn.deregistered uuid deregistered
        have same := (drawn.apart n n' i.uuid uuid drew drew' (named.symm.trans (isHandle.symm.trans isOwn))).2
        exact sends (silent.ended uuid deregistered m i task same)
      · exact quiet.ownName e.origin message rfl uuid deregistered isOwn

/-! ## A stream that is still open -/

/-- A producer registers, opens its stream and deregisters. -/
def producerVisit : List (GrpcAction ℚ Unit BaseMessage String Nat) :=
  [.connect 7, .register 0 7 ⟨"meter", [EndpointType.producer], ""⟩ (drawn 1), .handler 0 .insert, .stream 0 7,
    .deregister 1 7 (drawn 1).bytes]

def reading : BusableItem := ⟨[], [], []⟩

/-- It goes on sending. -/
def talkative : Grpc ℚ Unit BaseMessage String Nat × List (GrpcEvent BaseMessage Nat) :=
  outcome (step .plain) (init 4 .affinity 8) (producerVisit ++ [.inbound 0 (.read reading), .inbound 0 .send])

theorem sends_after_deregister :
    Runs (step .plain) anyStep (init 4 .affinity 8) talkative.1 talkative.2 ∧
      ∃ e, List.Sublist [GrpcEvent.deregistered (drawn 1), GrpcEvent.relay (.bus (.accepted e))] talkative.2 ∧
        e.origin = GrpcService.plain.producerId (drawn 1) := by
  refine ⟨runs_outcome_any _ rfl, ⟨GrpcService.plain.producerId (drawn 1), ⟨0, reading.toMessage⟩⟩, ?_, rfl⟩
  decide +kernel

open World (ping)

/-- It ends its stream first; others go on. -/
def departed : Grpc ℚ Unit BaseMessage String Nat × List (GrpcEvent BaseMessage Nat) :=
  outcome (step .plain) (init 4 .affinity 8) (producerVisit.take 4 ++
    [.inbound 0 (.read reading), .inbound 0 .send, .inbound 0 .leave, .deregister 1 7 (drawn 1).bytes,
      .relay (.desk (.world (.send ⟨"radio"⟩ ping)))])

/-- One Register call and one stream, which is over when a Deregister returns; and nobody
sends under a deregistered name. -/
def hushed (s : Grpc F I M L Addr) (t : List (GrpcEvent M Addr)) (a : GrpcAction F I M L Addr) : Bool :=
  match a with
  | .stream m _ => m == 0
  | .register _ _ _ _ => t.isEmpty
  | .relay (.desk (.world (.send origin _))) => t.all fun
      | .deregistered uuid => origin != GrpcService.plain.producerId uuid
      | _ => true
  | .deregister _ _ _ => (s.inbounds 0).all fun i => i.phase == .removing
  | .handler _ .deregister => false
  | _ => true

theorem silent_after_deregister_departed :
    (⟨"radio"⟩ : ProducerId) ≠ GrpcService.plain.producerId (drawn 1) := by
  have hush : Runs (step .plain) (fun s t a => hushed s t a = true) (init 4 .affinity 8) departed.1 departed.2 :=
    runs_outcome _ hushed (fun _ _ _ passes => passes) (by decide +kernel) rfl
  have runs : Runs (step .plain) (Quiet .plain) (init 4 .affinity 8) departed.1 departed.2 := by
    apply hush.mono_reached
    intro s t a before passes
    have numbered := (tasks_numbered before (fun _ _ _ _ passes => eq_of_beq passes)).2
    constructor
    · rintro n addr data uuid rfl n' uuid' drew
      rw [List.isEmpty_iff.mp passes] at drew
      cases drew
    · rintro origin message rfl uuid deregistered
      have apart := List.all_eq_true.mp passes _ deregistered
      simpa using apart
    · intro uuid returning m i task _
      cases numbered m i task
      cases a with
      | deregister n addr bytes =>
          simp only [hushed, task, Option.all_some] at passes
          exact eq_of_beq passes
      | handler n a =>
          cases a with
          | deregister => cases passes
          | _ => cases returning
      | _ => cases returning
  exact silent_after_deregister runs (e := ⟨⟨"radio"⟩, ⟨1, ping⟩⟩) (by decide +kernel)

end Grpc

end Jackfield
