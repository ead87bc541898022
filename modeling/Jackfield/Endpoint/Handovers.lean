/-
# Jackfield.Endpoint.Handovers -- where an entry, a handler or a task goes

`GrpcMoves` goes back from what is there after a step; this module goes forward.  An
entry stays, or its stream is opened, or it is removed by its identifier or by a cleanup,
or another one is inserted in its place; a handler stays, or takes its next step; a
forwarding task stays, or has removed the entry at its address.  And of the bus's register
calls, those of this endpoint go on only with their handlers (`Move.desk_cases`), so a
call that is suspended has one (`served_of_suspended`).
-/
import Jackfield.Endpoint.Provenance

namespace Jackfield

set_option autoImplicit false
set_option linter.unusedSectionVars false

variable {F I M L Addr : Type}

open Machine

/-! ## The bus underneath -/

@[simp] theorem Relay.hangUp_desk (s : Relay F I M L) (rx : Option Nat) : (s.hangUp rx).desk = s.desk := by
  unfold Relay.hangUp
  split
  · rfl
  · split <;> rfl

namespace Grpc

variable [DecidableEq Addr] [F32 F] [Inhabited I] [BoxedMessage M] {service : GrpcService}
  {s s' : Grpc F I M L Addr} {a : GrpcAction F I M L Addr} {t es : List (GrpcEvent M Addr)}

/-- The step of a handler in which its register call takes this one. -/
def handlerActionOf {C : Type} : DeskAction F I M C → Option HandlerAction
  | .submit _ => some .submit
  | .receive _ => some .answered
  | .fail _ => some .failed
  | .abandon _ => some .cancel
  | _ => none

/-- Call `n` is not one of this endpoint so far, or its handler takes this step of the desk. -/
def OnBehalf (s : Grpc F I M L Addr) (a : GrpcAction F I M L Addr) (n : Nat) (b : DeskAction F I M (Plug L)) : Prop :=
  s.callers n = none ∨ ∃ x addr entry, handlerActionOf b = some x ∧ a = .handler n x ∧
    s.handlers n = some (.registering addr entry)

/-- A step takes one of the desk, on behalf of the call it is about, or none. -/
theorem Move.desk_cases (move : Move service s a s' es) :
    s'.relay.desk = s.relay.desk ∨ ∃ b below, s.relay.desk.step b = some (s'.relay.desk, below) ∧
      ∀ n, b.number? = some n → s.OnBehalf a n b := by
  have through : ∀ {c : RelayAction F I M L} {relay : Relay F I M L} {below : List (RelayEvent M)},
      s.relay.step c = some (relay, below) → s'.relay.desk = relay.desk →
      (∀ r, c.number? = some r → s.callers r = none ∨ ∃ b, c = .desk b ∧ s.OnBehalf a r b) →
      s'.relay.desk = s.relay.desk ∨ ∃ b below, s.relay.desk.step b = some (s'.relay.desk, below) ∧
        ∀ n, b.number? = some n → s.OnBehalf a n b := by
    intro c relay below stepped same own
    rw [same]
    rcases (Relay.move_of_step stepped).desk_cases with unchanged | ⟨b, deskEvents, deskStepped, number⟩
    · exact Or.inl unchanged
    · refine Or.inr ⟨b, deskEvents, deskStepped, ?_⟩
      intro n isCall
      obtain ⟨isNumber, source⟩ := number n isCall
      rcases own n isNumber with others | ⟨b', isDesk, taken⟩
      · exact Or.inl others
      · rcases source with isDesk' | ⟨dims, isPlugIn⟩
        · cases isDesk.symm.trans isDesk'
          exact taken
        · cases isDesk.symm.trans isPlugIn
  cases move with
  | registering connected unused stepped =>
      apply through stepped rfl
      intro r isCall
      cases isCall
      exact Or.inl (unusedNumber_iff.mp unused).1
  | submitted serving stepped =>
      apply through stepped rfl
      intro r isCall
      cases isCall
      exact Or.inr ⟨_, rfl, Or.inr ⟨_, _, _, rfl, rfl, serving⟩⟩
  | answered serving reply stepped =>
      apply through stepped rfl
      intro r isCall
      cases isCall
      exact Or.inr ⟨_, rfl, Or.inr ⟨_, _, _, rfl, rfl, serving⟩⟩
  | failed serving stepped =>
      apply through stepped (Relay.hangUp_desk ..)
      intro r isCall
      cases isCall
      exact Or.inr ⟨_, rfl, Or.inr ⟨_, _, _, rfl, rfl, serving⟩⟩
  | cancelledRegister serving stepped =>
      apply through stepped (Relay.hangUp_desk ..)
      intro r isCall
      cases isCall
      exact Or.inr ⟨_, rfl, Or.inr ⟨_, _, _, rfl, rfl, serving⟩⟩
  | commanded serving sent =>
      cases sent with
      | gone closed => exact Or.inl rfl
      | sent live stepped => exact through stepped rfl (fun r none => by cases none)
  | forwardReceived task phase stepped =>
      cases Relay.move_of_step stepped with
      | received live front => exact Or.inl rfl
  | forwardCommanded task phase sent =>
      cases sent with
      | gone closed => exact Or.inl rfl
      | sent live stepped => exact through stepped rfl (fun r none => by cases none)
  | inboundSent task phase stepped => exact through stepped rfl (fun r none => by cases none)
  | relayed others stepped => exact through stepped rfl (fun r isCall => Or.inl (others r isCall))
  | deregistered unused occupied right producer => exact Or.inl (Relay.hangUp_desk ..)
  | deregistering unused occupied right consumer => exact Or.inl (Relay.hangUp_desk ..)
  | inserted serving => exact Or.inl (Relay.hangUp_desk ..)
  | cancelledInsert serving => exact Or.inl (Relay.hangUp_desk ..)
  | forwardRemoved task phase => exact Or.inl ((Relay.hangUp_desk ..).trans (Relay.hangUp_desk ..))
  | inboundRemoved task phase => exact Or.inl (Relay.hangUp_desk ..)
  | _ => exact Or.inl rfl

/-- An entry stays, hands its channel to a stream, is removed by its identifier or by a
cleanup, or makes way for another one. -/
theorem Move.entry_stays (move : Move service s a s' es) {addr : Addr} {entry : EndpointEntry}
    (held : s.endpoints addr = some entry) :
    s'.endpoints addr = some entry ∨
      (∃ m, a = .stream m addr ∧ s'.forwards m = entry.consumerRx.map fun rx =>
        ⟨addr, entry.uuid, rx, entry.consumerRegId, .receiving⟩) ∨
      (∃ n bytes, a = .deregister n addr bytes ∧ ∀ id, entry.consumerRegId = some id →
        s'.handlers n = some (.deregistering addr entry.uuid id)) ∨
      (∃ n new, a = .handler n .insert ∧ s.handlers n = some (.inserting addr new)) ∨
      (∃ m f, a = .forward m .remove ∧ s.forwards m = some f ∧ f.addr = addr) ∨
      ∃ m i, a = .inbound m .remove ∧ s.inbounds m = some i ∧ i.addr = addr := by
  have elsewhere : ∀ {addr' : Addr} {value : Option EndpointEntry}, addr ≠ addr' →
      Function.update s.endpoints addr' value addr = some entry := by
    intro addr' value other
    rw [Function.update_of_ne other, held]
  cases move with
  | @opened m conn addr' old connected free occupied =>
      by_cases same : addr = addr'
      · subst same
        cases held.symm.trans occupied
        exact Or.inr (Or.inl ⟨m, rfl, Function.update_self ..⟩)
      · exact Or.inl (elsewhere same)
  | @deregistered n addr' bytes old unused occupied right producer =>
      by_cases same : addr = addr'
      · subst same
        cases held.symm.trans occupied
        refine Or.inr (Or.inr (Or.inl ⟨n, bytes, rfl, ?_⟩))
        intro id has
        cases producer.symm.trans has
      · exact Or.inl (elsewhere same)
  | @deregistering n id addr' bytes old unused occupied right consumer =>
      by_cases same : addr = addr'
      · subst same
        cases held.symm.trans occupied
        refine Or.inr (Or.inr (Or.inl ⟨n, bytes, rfl, ?_⟩))
        intro id' has
        cases consumer.symm.trans has
        exact Function.update_self ..
      · exact Or.inl (elsewhere same)
  | @inserted n addr' new serving =>
      by_cases same : addr = addr'
      · subst same
        exact Or.inr (Or.inr (Or.inr (Or.inl ⟨n, new, rfl, serving⟩)))
      · exact Or.inl (elsewhere same)
  | @forwardRemoved m f task phase =>
      by_cases same : addr = f.addr
      · exact Or.inr (Or.inr (Or.inr (Or.inr (Or.inl ⟨m, f, rfl, task, same.symm⟩))))
      · exact Or.inl (elsewhere same)
  | @inboundRemoved m i task phase =>
      by_cases same : addr = i.addr
      · exact Or.inr (Or.inr (Or.inr (Or.inr (Or.inr ⟨m, i, rfl, task, same.symm⟩))))
      · exact Or.inl (elsewhere same)
  | _ => exact Or.inl held

/-- A handler stays, or takes a step in which it changes. -/
theorem Move.handler_stays (move : Move service s a s' es) (known : Provenance service s) {n : Nat}
    {h : Handler Addr} (serving : s.handlers n = some h) :
    s'.handlers n = some h ∨ ∃ x, a = .handler n x ∧ x ≠ .submit := by
  have changed : ∀ {n' : Nat} {x : HandlerAction} {value : Option (Handler Addr)}, a = .handler n' x →
      x ≠ .submit → Function.update s.handlers n' value n = some h ∨ ∃ x, a = .handler n x ∧ x ≠ .submit := by
    intro n' x value due apart
    by_cases same : n = n'
    · exact Or.inr ⟨x, same ▸ due, apart⟩
    · rw [Function.update_of_ne same]
      exact Or.inl serving
  have added : ∀ {n' : Nat} {value : Option (Handler Addr)}, s.unusedNumber n' = true →
      Function.update s.handlers n' value n = some h := by
    intro n' value unused
    rw [Function.update_of_ne, serving]
    rintro rfl
    obtain ⟨addr, made⟩ := known.made serving
    cases (unusedNumber_iff.mp unused).1.symm.trans made
  cases move with
  | registering connected unused stepped => exact Or.inl (added unused)
  | producing connected unused => exact Or.inl (added unused)
  | deregistering unused occupied right consumer => exact Or.inl (added unused)
  | answered was reply stepped => exact changed rfl HandlerAction.noConfusion
  | failed was stepped => exact changed rfl HandlerAction.noConfusion
  | inserted was => exact changed rfl HandlerAction.noConfusion
  | commanded was sent => exact changed rfl HandlerAction.noConfusion
  | cancelledRegister was stepped => exact changed rfl HandlerAction.noConfusion
  | cancelledInsert was => exact changed rfl HandlerAction.noConfusion
  | cancelledDeregister was => exact changed rfl HandlerAction.noConfusion
  | _ => exact Or.inl serving

/-- A handler that has its entry inserts it, or is dropped. -/
theorem Move.inserting_next {n : Nat} {x : HandlerAction} (move : Move service s (.handler n x) s' es)
    (apart : x ≠ .submit) {addr : Addr} {entry : EndpointEntry}
    (serving : s.handlers n = some (.inserting addr entry)) : s'.endpoints addr = some entry ∨ x = .cancel := by
  cases move with
  | submitted was stepped => exact absurd rfl apart
  | inserted was =>
      cases serving.symm.trans was
      exact Or.inl (Function.update_self ..)
  | cancelledInsert was => exact Or.inr rfl
  | answered was reply stepped => cases serving.symm.trans was
  | failed was stepped => cases serving.symm.trans was
  | commanded was sent => cases serving.symm.trans was
  | cancelledRegister was stepped => cases serving.symm.trans was
  | cancelledDeregister was => cases serving.symm.trans was

/-- A handler that has removed an entry sends its command, or is dropped. -/
theorem Move.deregistering_next {n id : Nat} {x : HandlerAction} (move : Move service s (.handler n x) s' es)
    (apart : x ≠ .submit) {addr : Addr} {uuid : Uuid}
    (serving : s.handlers n = some (.deregistering addr uuid id)) :
    (∃ below, Commanded s addr id s'.relay below) ∨ x = .cancel := by
  cases move with
  | submitted was stepped => exact absurd rfl apart
  | commanded was sent =>
      cases serving.symm.trans was
      exact Or.inl ⟨_, sent⟩
  | cancelledDeregister was => exact Or.inr rfl
  | answered was reply stepped => cases serving.symm.trans was
  | failed was stepped => cases serving.symm.trans was
  | inserted was => cases serving.symm.trans was
  | cancelledRegister was stepped => cases serving.symm.trans was
  | cancelledInsert was => cases serving.symm.trans was

/-- A forwarding task stays, in some phase, until it has removed the entry at its address. -/
theorem Move.forward_stays (move : Move service s a s' es) {m : Nat} {f : Forward Addr}
    (task : s.forwards m = some f) :
    (∃ f', s'.forwards m = some f' ∧ f'.consumerRegId = f.consumerRegId ∧
        (f'.phase = .removing → f.phase = .removing ∨ f.consumerRegId = none ∨ a = .forward m .deregister)) ∨
      a = .forward m .remove ∧ f.phase = .removing := by
  have moved : ∀ {m' : Nat} {old : Forward Addr} {phase : ForwardPhase}, s.forwards m' = some old →
      (phase = .removing → old.consumerRegId = none ∨ a = .forward m' .deregister) →
      ∃ f', Function.update s.forwards m' (some { old with phase := phase }) m = some f' ∧
        f'.consumerRegId = f.consumerRegId ∧
        (f'.phase = .removing → f.phase = .removing ∨ f.consumerRegId = none ∨ a = .forward m .deregister) := by
    intro m' old phase was why
    by_cases same : m = m'
    · subst same
      cases was.symm.trans task
      exact ⟨_, Function.update_self .., rfl, fun removing => Or.inr (why removing)⟩
    · exact ⟨f, by rw [Function.update_of_ne same, task], rfl, Or.inl⟩
  have stayed : ∃ f', s.forwards m = some f' ∧ f'.consumerRegId = f.consumerRegId ∧
      (f'.phase = .removing → f.phase = .removing ∨ f.consumerRegId = none ∨ a = .forward m .deregister) :=
    ⟨f, task, rfl, Or.inl⟩
  cases move with
  | @opened m' conn addr entry connected free occupied =>
      have other : m ≠ m' := by
        rintro rfl
        simp [freeStream, task] at free
      obtain ⟨f', was, rest⟩ := stayed
      exact Or.inl ⟨f', (Function.update_of_ne other ..).trans was, rest⟩
  | forwardReceived was phase stepped => exact Or.inl (moved was (fun none => by cases none))
  | forwardSent was phase sent => exact Or.inl (moved was (fun none => by cases none))
  | @forwardLeft m' old was looping =>
      apply Or.inl (moved was _)
      intro removing
      unfold Forward.over at removing
      split at removing
      · cases removing
      · rename_i nothing
        exact Or.inl nothing
  | forwardCommanded was phase sent => exact Or.inl (moved was (fun _ => Or.inr rfl))
  | @forwardRemoved m' old was phase =>
      by_cases same : m = m'
      · subst same
        cases was.symm.trans task
        exact Or.inr ⟨rfl, phase⟩
      · exact Or.inl ⟨f, (Function.update_of_ne same ..).trans task, rfl, Or.inl⟩
  | _ => exact Or.inl stayed

/-! ## Suspended calls -/

/-- A call that is suspended was, or has just been made. -/
theorem suspended_before {C : Type} {d d' : Desk F I M C} {b : DeskAction F I M C} {below : List (Event M)}
    (stepped : d.step b = some (d', below)) {r : Nat} (suspended : (d'.calls r).Suspended) :
    (d.calls r).Suspended ∨ ∃ consumer dims, b = .call r consumer dims := by
  rcases (Desk.move_of_step stepped).call_cases r with same | ⟨consumer, dims, isCall, -, -⟩ |
    ⟨-, sending, -⟩ | ⟨id, -, answer, -⟩ | ⟨-, was, -⟩ | ⟨-, was, -⟩ | ⟨id, waiting, -⟩
  · exact Or.inl (same ▸ suspended)
  · exact Or.inr ⟨consumer, dims, isCall⟩
  · exact Or.inl (Or.inl sending)
  · exact Or.inl (Or.inr (Or.inr ⟨id, answer⟩))
  · exact Or.inl was
  · exact Or.inl was
  · exact Or.inl (Or.inr (Or.inl waiting))

/-- When its handler goes on, the call has returned. -/
theorem Move.returned {n : Nat} {x : HandlerAction} (move : Move service s (.handler n x) s' es)
    (apart : x ≠ .submit) {addr : Addr} {entry : EndpointEntry}
    (serving : s.handlers n = some (.registering addr entry)) : ¬ (s'.relay.desk.calls n).Suspended := by
  have gone : ∀ {b : DeskAction F I M (Plug L)} {relay : Relay F I M L} {below : List (RelayEvent M)}
      (call : Call F I M (Plug L)), s.relay.step (.desk b) = some (relay, below) →
      (∀ d es, Desk.Move s.relay.desk b d es → d.calls n = call) → ¬ call.Suspended →
        ¬ (relay.desk.calls n).Suspended := by
    intro b relay below call stepped sets returned
    cases Relay.move_of_step stepped with
    | aside isAside stepped' =>
        rw [(Relay.after_desk ..).1, sets _ _ (Desk.move_of_step stepped')]
        exact returned
  cases move with
  | submitted was stepped => exact absurd rfl apart
  | @answered n id addr' entry' relay es was reply stepped =>
      refine gone (.received id) stepped ?_ (by simp [Call.Suspended])
      intro d es move
      cases move with
      | received answer =>
          cases reply.symm.trans answer
          simp
  | failed was stepped =>
      rw [Relay.hangUp_desk]
      refine gone .failed stepped ?_ (by simp [Call.Suspended])
      intro d es move
      cases move with
      | failed suspended closed => simp
  | cancelledRegister was stepped =>
      rw [Relay.hangUp_desk]
      refine gone .dropped stepped ?_ (by simp [Call.Suspended])
      intro d es move
      cases move with
      | abandoned suspended => simp
  | inserted was => cases serving.symm.trans was
  | commanded was sent => cases serving.symm.trans was
  | cancelledInsert was => cases serving.symm.trans was
  | cancelledDeregister was => cases serving.symm.trans was

/-- A handler whose call is answered has the id and the channel for its entry. -/
theorem Move.inserting_of_answered {n id : Nat} {addr : Addr} {entry : EndpointEntry}
    (move : Move service s (.handler n .answered) s' es) (serving : s.handlers n = some (.registering addr entry))
    (replied : s.relay.desk.calls n = .replied id) :
    s'.handlers n = some (.inserting addr { entry with consumerRegId := some id, consumerRx := some n }) := by
  cases move with
  | answered was reply stepped =>
      cases serving.symm.trans was
      cases replied.symm.trans reply
      exact Function.update_self ..

/-- A call that arrives calls the bus with its handler, or not at all. -/
theorem Move.call_begins (move : Move service s a s' es) {n : Nat} {addr : Addr} (new : s.callers n = none)
    (made : s'.callers n = some addr) :
    s.relay.desk.calls n = .unused ∧
      ((∃ addr entry, s'.handlers n = some (.registering addr entry)) ∨ s'.relay.desk = s.relay.desk) := by
  have arrived : ∀ {n' : Nat} {addr' : Addr}, Function.update s.callers n' (some addr') n = some addr → n = n' := by
    intro n' addr' made
    rcases cases_of_update made with ⟨same, -⟩ | was
    · exact same
    · cases new.symm.trans was
  cases move with
  | refused connected unused =>
      cases arrived made
      exact ⟨(unusedNumber_iff.mp unused).2, Or.inr rfl⟩
  | @registering n' conn addr' data uuid dims relay es connected unused stepped =>
      cases arrived made
      exact ⟨(unusedNumber_iff.mp unused).2, Or.inl ⟨addr', _, Function.update_self ..⟩⟩
  | producing connected unused =>
      cases arrived made
      exact ⟨(unusedNumber_iff.mp unused).2, Or.inr rfl⟩
  | rejected unused wrong =>
      cases arrived made
      exact ⟨(unusedNumber_iff.mp unused).2, Or.inr rfl⟩
  | deregistered unused occupied right producer =>
      cases arrived made
      exact ⟨(unusedNumber_iff.mp unused).2, Or.inr (Relay.hangUp_desk ..)⟩
  | deregistering unused occupied right consumer =>
      cases arrived made
      exact ⟨(unusedNumber_iff.mp unused).2, Or.inr (Relay.hangUp_desk ..)⟩
  | _ => cases new.symm.trans made

variable {ok : Grpc F I M L Addr → List (GrpcEvent M Addr) → GrpcAction F I M L Addr → Prop}
  {capacity cap : Nat} {router : Router}

/-- A `register` call of this endpoint that has not returned has a Register handler. -/
theorem served_of_suspended (runs : Runs (step service) ok (init capacity router cap) s t) :
    ∀ n addr, s.callers n = some addr → (s.relay.desk.calls n).Suspended →
      ∃ addr entry, s.handlers n = some (.registering addr entry) := by
  apply runs.invariant_reached (P := fun s _ => ∀ n addr, s.callers n = some addr →
    (s.relay.desk.calls n).Suspended → ∃ addr entry, s.handlers n = some (.registering addr entry))
  · intro n addr made
    cases made
  · intro s t a s' es before ih _ stepped n addr made suspended
    have move := move_of_step stepped
    cases was : s.callers n with
    | none =>
        obtain ⟨unused, ⟨addr', entry, serving⟩ | sameDesk⟩ := move.call_begins was made
        · exact ⟨addr', entry, serving⟩
        · rw [sameDesk, unused] at suspended
          simp [Call.Suspended] at suspended
    | some addr' =>
        have suspendedBefore : (s.relay.desk.calls n).Suspended := by
          rcases move.desk_cases with same | ⟨b, below, deskStepped, own⟩
          · rwa [same] at suspended
          · rcases suspended_before deskStepped suspended with before | ⟨consumer, dims, rfl⟩
            · exact before
            · rcases own n rfl with others | ⟨x, -, -, isAction, -⟩
              · cases was.symm.trans others
              · cases isAction
        obtain ⟨addr'', entry, serving⟩ := ih n addr' was suspendedBefore
        rcases move.handler_stays (provenance before) serving with stays | ⟨x, rfl, apart⟩
        · exact ⟨addr'', entry, stays⟩
        · exact absurd suspended (move.returned apart serving)

end Grpc

end Jackfield
