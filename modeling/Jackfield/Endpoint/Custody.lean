/-
# Jackfield.Endpoint.Custody -- who will deregister a consumer

The id of a consumer that was registered for a client goes from its Register handler to
an entry, with the entry's channel to a forwarding task, and from there, or through a
Deregister handler, into a command.  Whoever has it last must send it to the bus, or the
consumer stays registered for good.

Three things lose it: an entry that still has its channel is dropped when another one is
inserted in its place, or when the cleanup of an earlier stream removes it; and a handler
that has the id, or waits for it, is dropped with its call.  `no_orphans` says that as long
as nothing is lost so (`Careful`), no consumer is left behind.
-/
import Jackfield.Endpoint.Cleanup
import Jackfield.Endpoint.Handovers

namespace Jackfield

set_option autoImplicit false
set_option linter.unusedSectionVars false

variable {F I M L Addr : Type}

open Machine

/-- The steps that drop an entry or a handler. -/
def GrpcAction.drops : GrpcAction F I M L Addr → Bool
  | .handler _ .insert => true
  | .handler _ .cancel => true
  | .forward _ .remove => true
  | .inbound _ .remove => true
  | _ => false

namespace Grpc

/-- The id is with somebody who will pass it on. -/
inductive InCustody (s : Grpc F I M L Addr) (id : Nat) : Prop
  | inserting {n : Nat} {addr : Addr} {entry : EndpointEntry}
      (serving : s.handlers n = some (.inserting addr entry)) (own : entry.consumerRegId = some id)
      (ready : entry.consumerRx ≠ none) : InCustody s id
  | registered {addr : Addr} {entry : EndpointEntry} (held : s.endpoints addr = some entry)
      (own : entry.consumerRegId = some id) (ready : entry.consumerRx ≠ none) : InCustody s id
  | forwarded {m : Nat} {f : Forward Addr} (task : s.forwards m = some f) (own : f.consumerRegId = some id)
      (running : f.phase ≠ .removing) : InCustody s id
  | deregistering {n : Nat} {addr : Addr} {uuid : Uuid}
      (serving : s.handlers n = some (.deregistering addr uuid id)) : InCustody s id
  | queued (command : BusCmd.deregister id ∈ s.relay.desk.world.bus.cmdRx.buf) : InCustody s id

/-- No consumer has the id. -/
def Unregistered (s : Grpc F I M L Addr) (id : Nat) : Prop :=
  ∀ entry ∈ s.relay.desk.world.bus.registry.entries, entry.id ≠ id

/-- Nothing is lost with the id: there is no bus, or no consumer has it, or it is also with
a forwarding task or in a command. -/
inductive Spared (s : Grpc F I M L Addr) (id : Nat) : Prop
  | gone (closed : s.relay.desk.closed = true) : Spared s id
  | unregistered (nobody : s.Unregistered id) : Spared s id
  | forwarded {m : Nat} {f : Forward Addr} (task : s.forwards m = some f) (own : f.consumerRegId = some id)
      (running : f.phase ≠ .removing) : Spared s id
  | queued (command : BusCmd.deregister id ∈ s.relay.desk.world.bus.cmdRx.buf) : Spared s id

/-- An entry can be dropped: it has no channel, or nothing is lost with its id. -/
def Spent (s : Grpc F I M L Addr) (entry : EndpointEntry) : Prop :=
  entry.consumerRx = none ∨ ∀ id, entry.consumerRegId = some id → s.Spared id

/-- A handler can be dropped: it has not sent its `Register` command, or nothing is lost
with the id it has or is answered with. -/
def Dismissible (s : Grpc F I M L Addr) (n : Nat) : Handler Addr → Prop
  | .registering _ _ => s.relay.desk.closed = true ∨
      (∃ consumer dims, s.relay.desk.calls n = .sending consumer dims) ∨
      ∃ id, s.relay.desk.calls n = .replied id ∧ s.Unregistered id
  | .inserting _ entry => ∀ id, entry.consumerRegId = some id → s.Spared id
  | .deregistering _ _ id => s.Spared id

/-- No id is lost: not with an entry that makes way for another one or is removed by a
cleanup, nor with a call that is cancelled. -/
structure Careful (s : Grpc F I M L Addr) (_ : List (GrpcEvent M Addr)) (a : GrpcAction F I M L Addr) :
    Prop where
  insert : ∀ n addr entry old, a = .handler n .insert → s.handlers n = some (.inserting addr entry) →
    s.endpoints addr = some old → s.Spent old
  forward : ∀ m f old, a = .forward m .remove → s.forwards m = some f → s.endpoints f.addr = some old →
    s.Spent old
  inbound : ∀ m i old, a = .inbound m .remove → s.inbounds m = some i → s.endpoints i.addr = some old →
    s.Spent old
  cancel : ∀ n h, a = .handler n .cancel → s.handlers n = some h → s.Dismissible n h

variable [DecidableEq Addr] [F32 F] [Inhabited I] [BoxedMessage M] {service : GrpcService}
  {s s' : Grpc F I M L Addr} {a : GrpcAction F I M L Addr} {t es : List (GrpcEvent M Addr)}

/-- A command that is sent is queued, while there is a bus. -/
theorem Commanded.queued {addr : Addr} {id : Nat} {relay : Relay F I M L}
    (sent : Commanded s addr id relay es) (live : relay.desk.closed = false) :
    BusCmd.deregister id ∈ relay.desk.world.bus.cmdRx.buf := by
  cases sent with
  | gone closed => cases closed.symm.trans live
  | sent _ stepped =>
      cases Relay.move_of_step stepped with
      | aside apart sent =>
          rw [(Relay.after_desk ..).1]
          obtain ⟨-, sent, -, -⟩ := Desk.world_step sent
          rw [World.sendCmd_queues sent]
          simp

/-- A forwarding task that has an id sends its command before it ends. -/
theorem Move.passed_on (move : Move service s a s' es) (known : Provenance service s)
    (live : s'.relay.desk.closed = false) {m id : Nat} {f : Forward Addr} (task : s.forwards m = some f)
    (own : f.consumerRegId = some id) (running : f.phase ≠ .removing) : InCustody s' id := by
  rcases move.forward_stays task with ⟨f', stays, sameId, why⟩ | ⟨-, removing⟩
  · by_cases running' : f'.phase = .removing
    · rcases why running' with removing | nothing | rfl
      · exact absurd removing running
      · cases own.symm.trans nothing
      · cases move with
        | forwardCommanded was phase sent =>
            cases task.symm.trans was
            cases own.symm.trans (known.leaving m f _ task phase)
            exact .queued (sent.queued live)
    · exact .forwarded stays (sameId.trans own) running'
  · exact absurd removing running

/-- A command stays queued until it is applied. -/
theorem Move.dismissed (move : Move service s a s' es) {id : Nat}
    (command : BusCmd.deregister id ∈ s.relay.desk.world.bus.cmdRx.buf) : InCustody s' id ∨ s'.Unregistered id := by
  rcases move.desk_cases with same | ⟨b, below, stepped, -⟩
  · exact Or.inl (.queued (same ▸ command))
  · rcases (Desk.move_of_step stepped).dismissal_stays command with stays | gone
    · exact Or.inl (.queued stays)
    · exact Or.inr gone

/-- Steps that drop an entry or a handler leave the bus as it is. -/
theorem Move.bus_of_drops (move : Move service s a s' es) (drops : a.drops = true) :
    s'.relay.desk.world = s.relay.desk.world ∧ s'.relay.desk.closed = s.relay.desk.closed := by
  have hungUp : ∀ rx, (s.relay.hangUp rx).desk.world = s.relay.desk.world ∧
      (s.relay.hangUp rx).desk.closed = s.relay.desk.closed := by
    intro rx
    rw [Relay.hangUp_desk]
    exact ⟨rfl, rfl⟩
  cases move with
  | inserted serving => exact hungUp _
  | cancelledInsert serving => exact hungUp _
  | cancelledRegister serving stepped =>
      cases Relay.move_of_step stepped with
      | aside isAside stepped' =>
          rw [Relay.hangUp_desk, (Relay.after_desk ..).1]
          cases Desk.move_of_step stepped' with
          | abandoned suspended => exact ⟨rfl, rfl⟩
  | cancelledDeregister serving => exact ⟨rfl, rfl⟩
  | forwardRemoved task phase =>
      rw [Relay.hangUp_desk]
      exact hungUp _
  | inboundRemoved task phase => exact hungUp _
  | _ => cases drops

/-- Nothing is lost with an id that is spared. -/
theorem Spared.step {id : Nat} (spared : Spared s id) (known : Provenance service s)
    (move : Move service s a s' es) (drops : a.drops = true) (live : s'.relay.desk.closed = false) :
    InCustody s' id ∨ s'.Unregistered id := by
  obtain ⟨same, sameClosed⟩ := move.bus_of_drops drops
  cases spared with
  | gone closed => cases (sameClosed.trans closed).symm.trans live
  | unregistered nobody =>
      right
      unfold Unregistered
      rwa [same]
  | forwarded task own running => exact Or.inl (move.passed_on known live task own running)
  | queued command => exact move.dismissed command

/-- **An id in custody stays there, until no consumer has it any more.** -/
theorem InCustody.step {id : Nat} (custody : InCustody s id) (known : Provenance service s)
    (careful : Careful s t a) (move : Move service s a s' es) (live : s'.relay.desk.closed = false) :
    InCustody s' id ∨ s'.Unregistered id := by
  cases custody with
  | @inserting n addr entry serving own ready =>
      rcases move.handler_stays known serving with stays | ⟨x, rfl, apart⟩
      · exact Or.inl (.inserting stays own ready)
      · rcases move.inserting_next apart serving with held | rfl
        · exact Or.inl (.registered held own ready)
        · exact (careful.cancel n _ rfl serving id own).step known move rfl live
  | @registered addr entry held own ready =>
      have spent : a.drops = true → s.Spent entry → InCustody s' id ∨ s'.Unregistered id := by
        rintro drops (nothing | spared)
        · exact absurd nothing ready
        · exact (spared id own).step known move drops live
      rcases move.entry_stays held with stays | ⟨m, -, opened⟩ | ⟨n, bytes, -, removed⟩ |
        ⟨n, new, rfl, serving⟩ | ⟨m, f, rfl, task, rfl⟩ | ⟨m, i, rfl, task, rfl⟩
      · exact Or.inl (.registered stays own ready)
      · obtain ⟨rx, isRx⟩ := Option.ne_none_iff_exists'.mp ready
        rw [isRx] at opened
        exact Or.inl (.forwarded opened own ForwardPhase.noConfusion)
      · exact Or.inl (.deregistering (removed id own))
      · exact spent rfl (careful.insert n addr new entry rfl serving held)
      · exact spent rfl (careful.forward m f entry rfl task held)
      · exact spent rfl (careful.inbound m i entry rfl task held)
  | forwarded task own running => exact Or.inl (move.passed_on known live task own running)
  | @deregistering n addr uuid serving =>
      rcases move.handler_stays known serving with stays | ⟨x, rfl, apart⟩
      · exact Or.inl (.deregistering stays)
      · rcases move.deregistering_next apart serving with ⟨below, sent⟩ | rfl
        · exact Or.inl (.queued (sent.queued live))
        · have spared : s.Spared id := careful.cancel n _ rfl serving
          exact spared.step known move rfl live
  | queued command => exact move.dismissed command

/-! ## Runs -/

variable {ok : Grpc F I M L Addr → List (GrpcEvent M Addr) → GrpcAction F I M L Addr → Prop}
  {capacity cap : Nat} {router : Router}

/-- The bus below is one that has run. -/
theorem desk_runs (runs : Runs (step service) ok (init capacity router cap) s t) :
    ∃ u, Runs Desk.step anyStep (Desk.init capacity router cap) s.relay.desk u :=
  ⟨_, Relay.desk_runs (relay_runs runs)⟩

/-- A call that arrives has not sent its command. -/
theorem Move.call_unsent (move : Move service s a s' es) {n : Nat} {addr : Addr} (new : s.callers n = none)
    (made : s'.callers n = some addr) : s'.relay.desk.calls n = .unused ∨
      ∃ consumer dims, s'.relay.desk.calls n = .sending consumer dims := by
  have unused := (move.call_begins new made).1
  rcases move.desk_cases with same | ⟨b, below, stepped, -⟩
  · exact Or.inl (same ▸ unused)
  · rcases (Desk.move_of_step stepped).call_cases n with same | ⟨consumer, dims, -, -, now⟩ |
      ⟨-, ⟨consumer, dims, was⟩, -⟩ | ⟨id, -, was, -⟩ | ⟨-, was, -⟩ | ⟨-, was, -⟩ | ⟨id, was, -⟩
    · exact Or.inl (same.trans unused)
    · exact Or.inr ⟨consumer, dims, now⟩
    all_goals
      rw [unused] at was
      simp [Call.Suspended] at was

/-- A call that is dropped carefully has not sent its command, or its consumer is gone. -/
theorem Careful.abandon {n : Nat} {x : HandlerAction} {addr : Addr} {entry : EndpointEntry}
    (careful : Careful s t a) (isAction : handlerActionOf (.abandon n : DeskAction F I M (Plug L)) = some x)
    (due : a = .handler n x) (serving : s.handlers n = some (.registering addr entry))
    (live : s.relay.desk.closed = false) :
    (∃ consumer dims, s.relay.desk.calls n = .sending consumer dims) ∨
      ∃ id, s.relay.desk.calls n = .replied id ∧ s.Unregistered id := by
  cases isAction
  rcases careful.cancel n _ due serving with closed | allowed
  · cases closed.symm.trans live
  · exact allowed

/-- A call that is dropped has no command queued. -/
theorem not_asked_of_dropped (runs : Runs (step service) Careful (init capacity router cap) s t) :
    s.relay.desk.closed = false → ∀ n addr, s.callers n = some addr → s.relay.desk.calls n = .dropped →
      n ∉ s.relay.desk.asked := by
  apply runs.invariant_reached (P := fun s _ => s.relay.desk.closed = false → ∀ n addr,
    s.callers n = some addr → s.relay.desk.calls n = .dropped → n ∉ s.relay.desk.asked)
  · intro _ n addr made
    cases made
  · intro s t a s' es before ih careful stepped live n addr made dropped queued
    have move := move_of_step stepped
    cases was : s.callers n with
    | none =>
        rcases move.call_unsent was made with unused | ⟨consumer, dims, sending⟩
        · cases unused.symm.trans dropped
        · cases sending.symm.trans dropped
    | some addr' =>
        rcases move.desk_cases with same | ⟨b, deskEvents, deskStepped, own⟩
        · rw [same] at live dropped queued
          exact ih live n addr' was dropped queued
        · have deskMove := Desk.move_of_step deskStepped
          have wasLive := deskMove.live_before live
          rcases deskMove.asked_cases queued with wasQueued | ⟨-, waits⟩
          · rcases deskMove.dropped_cases dropped with wasDropped | rfl
            · exact ih wasLive n addr' was wasDropped wasQueued
            · rcases own n rfl with others | ⟨x, addr, entry, isAction, due, serving⟩
              · cases others.symm.trans was
              · obtain ⟨u, below⟩ := desk_runs before
                rcases careful.abandon isAction due serving wasLive with ⟨consumer, dims, was⟩ | ⟨id, was, -⟩ <;>
                  rcases (Desk.tidy below).suspended wasLive n wasQueued with busy | busy <;>
                    cases busy.symm.trans was
          · cases waits.symm.trans dropped

/-- The id of a consumer registered for a call of the endpoint is with its call. -/
theorem known_of_careful (runs : Runs (step service) Careful (init capacity router cap) s t) :
    s.relay.desk.closed = false → ∀ n addr, s.callers n = some addr → Desk.Known s.relay.desk n := by
  apply runs.invariant_reached (P := fun s _ =>
    s.relay.desk.closed = false → ∀ n addr, s.callers n = some addr → Desk.Known s.relay.desk n)
  · intro _ n addr made
    cases made
  · intro s t a s' es before ih careful stepped live n addr made
    have move := move_of_step stepped
    cases was : s.callers n with
    | none =>
        intro entry member stamped
        obtain ⟨u, below⟩ := desk_runs (before.step careful stepped)
        obtain ⟨notUnused, notSending⟩ := Desk.sent_of_stamped below entry member n stamped
        rcases move.call_unsent was made with unused | ⟨consumer, dims, sending⟩
        · exact absurd unused notUnused
        · exact absurd sending (notSending consumer dims)
    | some addr' =>
        rcases move.desk_cases with same | ⟨b, deskEvents, deskStepped, own⟩
        · rw [same] at live ⊢
          exact ih live n addr' was
        · have deskMove := Desk.move_of_step deskStepped
          have wasLive := deskMove.live_before live
          have known := ih wasLive n addr' was
          obtain ⟨u, below⟩ := desk_runs before
          refine known.step (Desk.tidy below) (World.resumeSound (Desk.world_runs below)) ?_ ?_ deskMove
          · rintro consumer dims rest - front gone
            refine not_asked_of_dropped before wasLive n addr' was gone ?_
            exact List.mem_filterMap.mpr ⟨_, front ▸ List.mem_cons_self .., rfl⟩
          · rintro id rfl replied old member stamped
            rcases own n rfl with others | ⟨x, addr, entry, isAction, due, serving⟩
            · cases others.symm.trans was
            · have answer := known old member stamped
              rcases careful.abandon isAction due serving wasLive with ⟨consumer, dims, was⟩ | ⟨id, was, nobody⟩
              · cases was.symm.trans replied
              · rw [was] at answer
                rcases answer with answer | answer
                · cases answer
                  exact nobody old member rfl
                · cases answer

/-- The id of a consumer whose call has returned is in custody. -/
theorem custody (runs : Runs (step service) Careful (init capacity router cap) s t) :
    s.relay.desk.closed = false → ∀ n addr, s.callers n = some addr →
      ∀ entry ∈ s.relay.desk.world.bus.registry.entries, entry.consumer.call = some n →
        s.relay.desk.calls n = .received entry.id → InCustody s entry.id := by
  apply runs.invariant_reached (P := fun s _ => s.relay.desk.closed = false → ∀ n addr, s.callers n = some addr →
      ∀ entry ∈ s.relay.desk.world.bus.registry.entries, entry.consumer.call = some n →
        s.relay.desk.calls n = .received entry.id → InCustody s entry.id)
  · intro _ n addr made
    cases made
  · intro s t a s' es before ih careful stepped live n addr made entry member stamped returned
    have move := move_of_step stepped
    cases was : s.callers n with
    | none =>
        rcases move.call_unsent was made with unused | ⟨consumer, dims, sending⟩
        · cases unused.symm.trans returned
        · cases sending.symm.trans returned
    | some addr' =>
        have passed : InCustody s entry.id → InCustody s' entry.id := by
          intro custody
          rcases custody.step (provenance before) careful move live with stays | gone
          · exact stays
          · exact absurd rfl (gone entry member)
        rcases move.desk_cases with same | ⟨b, deskEvents, deskStepped, own⟩
        · rw [same] at live member returned
          exact passed (ih live n addr' was entry member stamped returned)
        · have deskMove := Desk.move_of_step deskStepped
          obtain ⟨u, below⟩ := desk_runs before
          have wasLive := deskMove.live_before live
          rcases deskMove.received_cases returned with before | ⟨rfl, replied⟩
          · rcases deskMove.stamped_cases (Desk.tidy below) (World.resumeSound (Desk.world_runs below)) member
              stamped with ⟨old, inEntries, sameId, stamped⟩ | ⟨dims, rest, -, -, ⟨waits, -⟩ | ⟨gone, -⟩⟩
            · rw [← sameId] at before passed
              exact sameId ▸ passed (ih wasLive n addr' was old inEntries stamped before)
            · cases waits.symm.trans before
            · cases gone.symm.trans before
          · rcases own n rfl with others | ⟨x, addr, entry', isAction, due, serving⟩
            · cases others.symm.trans was
            · cases isAction
              cases due
              exact .inserting (move.inserting_of_answered serving replied) rfl (Option.some_ne_none n)

/-- No handler and no cleanup is half-way, and every command that was sent has been applied. -/
structure AtRest (s : Grpc F I M L Addr) : Prop where
  live : s.relay.desk.closed = false
  applied : s.relay.desk.world.bus.cmdRx.buf = []
  handlers : ∀ n, s.handlers n = none
  forwards : ∀ m f, s.forwards m = some f → f.phase = .receiving ∨ ∃ item, f.phase = .sending item
  inbounds : ∀ m i, s.inbounds m = some i → i.phase ≠ .removing

/-- **No consumer of the endpoint is orphaned, as long as no entry is dropped with its
channel and no call with its id.**  In every interleaving of connections, Register, Stream
and Deregister calls, stream breaks, cleanups and bus in which no entry that still has its
channel makes way for another one or is removed by the cleanup of an earlier stream, and no
Register call is cancelled once its command is sent, nor a Deregister call before it has sent
its own (unless nothing is lost with the id): whenever no handler and no cleanup is half-way
and all commands are applied, the id of every consumer that was registered for a call of the
endpoint is that of an entry, or of a forwarding task that is still running. -/
theorem no_orphans (runs : Runs (step service) Careful (init capacity router cap) s t) (rest : AtRest s) :
    ∀ entry ∈ s.relay.desk.world.bus.registry.entries, ∀ n addr, entry.consumer.call = some n →
      s.callers n = some addr →
      (∃ addr held, s.endpoints addr = some held ∧ held.consumerRegId = some entry.id) ∨
        ∃ m f, s.forwards m = some f ∧ f.consumerRegId = some entry.id ∧
          (f.phase = .receiving ∨ ∃ item, f.phase = .sending item) := by
  intro entry member n addr stamped made
  have returned : s.relay.desk.calls n = .received entry.id := by
    rcases known_of_careful runs rest.live n addr made entry member stamped with waits | returned
    · -- the answer is still in the oneshot, for its handler
      have suspended : (s.relay.desk.calls n).Suspended := Or.inr (Or.inr ⟨entry.id, waits⟩)
      obtain ⟨addr', entry', serving⟩ := served_of_suspended runs n addr made suspended
      cases serving.symm.trans (rest.handlers n)
    · exact returned
  cases custody runs rest.live n addr made entry member stamped returned with
  | inserting serving own ready => cases serving.symm.trans (rest.handlers _)
  | registered held own ready => exact Or.inl ⟨_, _, held, own⟩
  | forwarded task own running => exact Or.inr ⟨_, _, task, own, rest.forwards _ _ task⟩
  | deregistering serving => cases serving.symm.trans (rest.handlers _)
  | queued command =>
      rw [rest.applied] at command
      cases command

/-! ## Registered twice -/

/-- A client registers a consumer twice, and opens no stream. -/
def twice : List (GrpcAction ℚ Unit BaseMessage String Nat) :=
  [.relay (.desk (.world .dispatch)), .connect 7] ++ registerCall 0 (drawn 1) ++ registerCall 1 (drawn 2)

def registeredTwice : Grpc ℚ Unit BaseMessage String Nat × List (GrpcEvent BaseMessage Nat) :=
  outcome (step .plain) (init 4 .affinity 8) twice

theorem atRest_registeredTwice : AtRest registeredTwice.1 where
  live := rfl
  applied := rfl
  handlers n := by
    match n with
    | 0 => rfl
    | 1 => rfl
    | _ + 2 => rfl
  forwards m f task := by cases task
  inbounds m i task := by cases task

/-- The first one stays registered, and nobody has its id. -/
theorem first_consumer_orphaned :
    Runs (step .plain) anyStep (init 4 .affinity 8) registeredTwice.1 registeredTwice.2 ∧
      AtRest registeredTwice.1 ∧
      ∃ entry ∈ registeredTwice.1.relay.desk.world.bus.registry.entries,
        entry.consumer.call = some 0 ∧ registeredTwice.1.callers 0 = some 7 ∧
          (∀ addr held, registeredTwice.1.endpoints addr = some held → held.consumerRegId ≠ some entry.id) ∧
          ∀ m, registeredTwice.1.forwards m = none := by
  refine ⟨runs_outcome_any _ rfl, atRest_registeredTwice, ⟨0, ⟨some 0, _⟩, _⟩, List.mem_cons_self .., rfl, rfl, ?_,
    fun _ => rfl⟩
  intro addr held occupied
  have only : registeredTwice.1.endpoints = Function.update
      (Function.update (fun _ => none) 7 _) 7 (some ⟨drawn 2, some 1, some 1, none, 1, 0⟩) := rfl
  rw [only, Function.update_idem] at occupied
  rcases cases_of_update occupied with ⟨-, isEntry⟩ | none
  · cases isEntry
    decide
  · cases none

/-- It opens its stream after the first. -/
def listening : Grpc ℚ Unit BaseMessage String Nat × List (GrpcEvent BaseMessage Nat) :=
  outcome (step .plain) (init 4 .affinity 8)
    ([.relay (.desk (.world .dispatch)), .connect 7] ++ registerCall 0 (drawn 1) ++ [.stream 0 7] ++
      registerCall 1 (drawn 2))

/-- Nothing is cancelled or cleaned up, and entries that make way have no channel. -/
def gentle (s : Grpc F I M L Addr) (_ : List (GrpcEvent M Addr)) (a : GrpcAction F I M L Addr) : Bool :=
  match a with
  | .handler n .insert =>
      match s.handlers n with
      | some (.inserting addr _) => (s.endpoints addr).all fun old => old.consumerRx.isNone
      | _ => true
  | .handler _ .cancel => false
  | .forward _ .remove => false
  | .inbound _ .remove => false
  | _ => true

omit [DecidableEq Addr] [F32 F] [Inhabited I] [BoxedMessage M] in
theorem careful_of_gentle (s : Grpc F I M L Addr) (t : List (GrpcEvent M Addr)) (a : GrpcAction F I M L Addr)
    (passes : gentle s t a = true) : Careful s t a where
  insert := by
    rintro n addr entry old rfl serving held
    simp only [gentle, serving, held, Option.all_some, Option.isNone_iff_eq_none] at passes
    exact Or.inl passes
  forward := by
    rintro m f old rfl
    cases passes
  inbound := by
    rintro m i old rfl
    cases passes
  cancel := by
    rintro n h rfl
    cases passes

/-- The stream has the id of its consumer, the entry that of the other one. -/
theorem no_orphans_listening :
    (∃ addr held, listening.1.endpoints addr = some held ∧ held.consumerRegId = some 0) ∨
      ∃ m f, listening.1.forwards m = some f ∧ f.consumerRegId = some 0 ∧
        (f.phase = .receiving ∨ ∃ item, f.phase = .sending item) := by
  have rest : AtRest listening.1 := by
    refine ⟨rfl, rfl, ?_, ?_, ?_⟩
    · intro n
      match n with
      | 0 => rfl
      | 1 => rfl
      | _ + 2 => rfl
    · intro m f task
      have only : listening.1.forwards = Function.update (fun _ => none) 0
          (some ⟨7, drawn 1, 0, some 0, .receiving⟩) := rfl
      rw [only] at task
      rcases cases_of_update task with ⟨-, isTask⟩ | none
      · cases isTask
        exact Or.inl rfl
      · cases none
    · intro m i task
      have only : listening.1.inbounds = Function.update (fun _ => none) 0 none := rfl
      rw [only, Function.update_eq_self] at task
      cases task
  exact no_orphans (runs_outcome _ gentle careful_of_gentle rfl rfl) rest ⟨0, ⟨some 0, .channel⟩, []⟩
    (List.mem_cons_self ..) 0 7 rfl rfl

end Grpc

end Jackfield
