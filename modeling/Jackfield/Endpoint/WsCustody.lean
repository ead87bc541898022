/-
# Jackfield.Endpoint.WsCustody -- who will deregister a consumer of a connection

Over gRPC an id can be lost with an entry or with a call that is cancelled.  A WebSocket
connection keeps the id of its consumer in its own handler, which is a task of its own and
is never dropped, so it cannot lose it: `connections_keep_consumers` needs no condition.
Nor does a connection ever deregister the consumer of another one (`deregisters_own`), until
the ids come round after `2^64` registrations.
-/
import Jackfield.Endpoint.WsConduct

namespace Jackfield

set_option autoImplicit false
set_option linter.unusedSectionVars false

variable {F I M L : Type}

open Machine

/-- A consumer's connection does not end with its frames. -/
theorem WsService.inboundFrame_ne_done [BoxedMessage M] (service : WsService) (id : Nat)
    (producerHandle : Option ProducerId) (f : Option Frame) :
    (service.inboundFrame (some id) producerHandle f : WsPhase M) ≠ .done := by
  match f with
  | none => simp [inboundFrame]
  | some .close => simp [inboundFrame]
  | some .error => simp [inboundFrame]
  | some .other => simp [inboundFrame]
  | some (.binary b) =>
      cases producerHandle with
      | none => simp [inboundFrame]
      | some handle => cases decoded : service.decodeItem b <;> simp [inboundFrame, decoded]

namespace WsServer

open WsEvent (actedBy socketOf)

variable [F32 F] [Inhabited I] [BoxedMessage M] {endpoint : WsEndpoint} {s s' : WsServer F I M L}
  {a : WsServerAction F I M L} {t es : List (WsEvent F I M)}

/-- A connection begins before its call. -/
theorem Move.begins (move : Move endpoint s a s' es) {k : Nat} {phase : WsPhase M} (new : s.phases k = none)
    (connected : s'.phases k = some phase) : phase = .accepting ∧ s'.relay.desk.calls k = .unused := by
  have own : a.handler? = some k := by
    by_contra other
    rw [(move.elsewhere other).1, new] at connected
    cases connected
  cases move with
  | accepted fresh unused =>
      cases own
      rw [setPhase_phases, if_pos rfl] at connected
      cases connected
      exact ⟨rfl, unused⟩
  | forwardReceived task stepped => cases own
  | forwardSent task held sent => cases own
  | forwardFailed task gone => cases own
  | forwardOver task empty noSender => cases own
  | writerReceived task front => cases own
  | wrote task => cases own
  | writerFailed task => cases own
  | writerOver task empty noSender => cases own
  | relayed others stepped => cases own
  | _ was =>
      cases own
      cases new.symm.trans was

/-- Nobody drops the call of a connection. -/
theorem Follows.not_dropped {call : Call F I M (Plug L)} {socket : Option (List Frame)}
    {acts : List (WsAction F I M)} {phase : WsPhase M} (follows : Follows endpoint call socket acts (some phase)) :
    call ≠ .dropped := by
  rintro rfl
  have notThere : ∀ {id : Option Nat}, (.dropped : Call F I M (Plug L)) ≠ callOf id := by
    intro id
    cases id <;> simp [callOf]
  cases phase with
  | accepting => cases follows.1
  | awaiting => cases follows.1
  | registering reg =>
      obtain ⟨frames, dims, -, -, -, -, ⟨wrong, -⟩ | ⟨wrong | ⟨id, wrong⟩, -⟩⟩ := follows <;> cases wrong
  | reading id producerHandle => exact notThere follows.1
  | sending id handle message => exact notThere follows.1
  | leaving id => exact notThere follows.1
  | done => rcases follows.1 with wrong | wrong | ⟨id, wrong⟩ <;> cases wrong

/-- A command that is sent is queued, while there is a bus. -/
theorem Bussed.queued {id : Nat} {relay : Relay F I M L} {below : List (RelayEvent M)}
    (bussed : Bussed s (.sendCmd (.deregister id)) relay below) (live : relay.desk.closed = false) :
    BusCmd.deregister id ∈ relay.desk.world.bus.cmdRx.buf := by
  cases bussed with
  | gone closed => cases closed.symm.trans live
  | stepped _ stepped =>
      obtain ⟨deskEvents, sent⟩ := Relay.desk_step stepped
      obtain ⟨-, sent, -, -⟩ := Desk.world_step sent
      rw [World.sendCmd_queues sent]
      exact List.mem_append_right _ (List.mem_singleton.mpr rfl)

/-! ## Runs -/

variable {ok : WsServer F I M L → List (WsEvent F I M) → WsServerAction F I M L → Prop} {capacity cap : Nat}
  {router : Router}

theorem desk_runs (runs : Runs (step endpoint) ok (init capacity router cap) s t) :
    Runs Desk.step anyStep (Desk.init capacity router cap) s.relay.desk
      ((t.filterMap WsEvent.relay?).filterMap RelayEvent.bus?) :=
  Relay.desk_runs (relay_runs runs)

theorem follows_of_connected (runs : Runs (step endpoint) ok (init capacity router cap) s t) {k : Nat}
    {phase : WsPhase M} (connected : s.phases k = some phase) :
    Follows endpoint (s.relay.desk.calls k) (socketOf k t) (t.filterMap (actedBy k)) (some phase) :=
  connected ▸ conducts runs k

/-- The id of a consumer registered for a connection is with its call. -/
theorem known_of_connected (runs : Runs (step endpoint) ok (init capacity router cap) s t) :
    s.relay.desk.closed = false → ∀ k phase, s.phases k = some phase → Desk.Known s.relay.desk k := by
  apply runs.invariant_reached (P := fun s _ =>
    s.relay.desk.closed = false → ∀ k phase, s.phases k = some phase → Desk.Known s.relay.desk k)
  · intro _ k phase connected
    cases connected
  · intro s t a s' es before ih allowed stepped live k phase connected
    have move := move_of_step stepped
    cases was : s.phases k with
    | none =>
        intro entry member stamped
        have sent := Desk.sent_of_stamped (desk_runs (before.step allowed stepped)) entry member k stamped
        exact absurd (move.begins was connected).2 sent.1
    | some phase' =>
        rcases move.desk_cases with same | ⟨b, below, deskStepped, own⟩
        · rw [same] at live ⊢
          exact ih live k phase' was
        · have deskMove := Desk.move_of_step deskStepped
          have deskRuns := desk_runs before
          refine (ih (deskMove.live_before live) k phase' was).step (Desk.tidy deskRuns)
            (World.resumeSound (Desk.world_runs deskRuns)) ?_ ?_ deskMove
          · intro _ _ _ _ _
            exact (follows_of_connected before was).not_dropped
          · rintro id rfl
            cases own k rfl with
            | others unknown => cases unknown.symm.trans was

/-- When a connection ends, its command is queued, if it has a consumer. -/
theorem Move.ends (move : Move endpoint s a s' es) {k id : Nat} {phase : WsPhase M} (was : s.phases k = some phase)
    (follows : Follows endpoint (s.relay.desk.calls k) (socketOf k t) (t.filterMap (actedBy k)) (some phase))
    (still : phase ≠ .done) (ended : s'.phases k = some .done) (live : s'.relay.desk.closed = false)
    (received : s'.relay.desk.calls k = .received id) :
    BusCmd.deregister id ∈ s'.relay.desk.world.bus.cmdRx.buf := by
  by_cases own : a.handler? = some k
  swap
  · rw [(move.elsewhere own).1, was] at ended
    cases ended
    exact absurd rfl still
  have whole := move
  cases move with
  | accepted fresh unused =>
      cases own
      cases fresh.symm.trans was
  | shook phase =>
      cases own
      cases was.symm.trans phase
      cases follows.1.symm.trans received
  | skipped phase skips =>
      cases own
      cases phase.symm.trans ended
  | turnedAway phase refused =>
      cases own
      cases was.symm.trans phase
      cases follows.1.symm.trans received
  | registering phase decoded valid consumer stepped =>
      cases own
      simp at ended
  | admitted phase decoded valid noConsumer =>
      cases own
      simp at ended
  | @read k f uuid id' producerHandle phase =>
      cases own
      cases was.symm.trans phase
      -- only a connection without a consumer ends here
      have isCall : (callOf id' : Call F I M (Plug L)) = .received id := follows.1.symm.trans received
      cases id' with
      | none => cases isCall
      | some id' =>
          rw [setPhase_phases, if_pos rfl] at ended
          exact absurd (Option.some.inj ended) (endpoint.inboundFrame_ne_done id' producerHandle f)
  | submitted phase sending stepped =>
      cases own
      cases phase.symm.trans ended
  | answered phase reply stepped =>
      cases own
      simp at ended
  | @failed k reg relay below phase stepped =>
      cases own
      obtain ⟨deskEvents, deskStepped⟩ := Relay.desk_step stepped
      simp only [setPhase_relay, Relay.dropReceiver, Relay.hangUp_desk] at received
      have moved := Desk.move_of_step deskStepped
      generalize relay.desk = after at moved received
      cases moved with
      | failed suspended closed => simp at received
  | sent phase bussed =>
      cases own
      simp at ended
  | @deregistered k id' relay below phase bussed =>
      cases own
      cases was.symm.trans phase
      have isCall : s.relay.desk.calls k = .received id' := follows.1
      have stays := whole.call_stays phase (Or.inr rfl) (by rw [isCall]; simp)
      cases (stays.trans isCall).symm.trans received
      exact bussed.queued live
  | forwardReceived task stepped => cases own
  | forwardSent task held sent => cases own
  | forwardFailed task gone => cases own
  | forwardOver task empty noSender => cases own
  | writerReceived task front => cases own
  | wrote task => cases own
  | writerFailed task => cases own
  | writerOver task empty noSender => cases own
  | relayed others stepped => cases own

/-- A connection that is over has sent its command. -/
theorem dismissed (runs : Runs (step endpoint) ok (init capacity router cap) s t) :
    s.relay.desk.closed = false → ∀ k, s.phases k = some .done →
      ∀ entry ∈ s.relay.desk.world.bus.registry.entries, entry.consumer.call = some k →
        BusCmd.deregister entry.id ∈ s.relay.desk.world.bus.cmdRx.buf := by
  apply runs.invariant_reached (P := fun s _ => s.relay.desk.closed = false → ∀ k, s.phases k = some .done →
    ∀ entry ∈ s.relay.desk.world.bus.registry.entries, entry.consumer.call = some k →
      BusCmd.deregister entry.id ∈ s.relay.desk.world.bus.cmdRx.buf)
  · intro _ k ended
    cases ended
  · intro s t a s' es before ih allowed stepped live k ended entry member stamped
    have move := move_of_step stepped
    have now := before.step allowed stepped
    cases was : s.phases k with
    | none => cases (move.begins was ended).1
    | some phase =>
        have follows := follows_of_connected before was
        by_cases wasOver : phase = .done
        · subst wasOver
          rcases move.desk_cases with same | ⟨b, below, deskStepped, -⟩
          · rw [same] at live member ⊢
            exact ih live k was entry member stamped
          · have deskMove := Desk.move_of_step deskStepped
            have deskRuns := desk_runs before
            rcases deskMove.stamped_cases (Desk.tidy deskRuns) (World.resumeSound (Desk.world_runs deskRuns)) member
              stamped with ⟨old, inEntries, sameId, stamped⟩ | ⟨dims, rest, -, -, ⟨waits, -⟩ | ⟨gone, -⟩⟩
            · have queued := ih (deskMove.live_before live) k was old inEntries stamped
              rw [sameId] at queued
              rcases deskMove.dismissal_stays queued with stays | gone
              · exact stays
              · exact absurd rfl (gone entry member)
            · rcases follows.1 with wrong | wrong | ⟨id, wrong⟩ <;> cases waits.symm.trans wrong
            · exact absurd gone follows.not_dropped
        · have settled := (follows_of_connected now ended).1
          have received : s'.relay.desk.calls k = .received entry.id := by
            rcases known_of_connected now live k _ ended entry member stamped with waits | received
            · rcases settled with wrong | wrong | ⟨id, wrong⟩ <;> cases waits.symm.trans wrong
            · exact received
          exact move.ends was follows wasOver ended live received

/-- **A connection never loses its consumer.**  In every interleaving, with any frames and
failures and with other users of the bus: as long as there is a bus, a consumer registered
for a connection is one whose id the connection has -- it is about to get it, serves its
client with it, or is about to deregister it -- or the `Deregister` command is on its way.  So
when all commands are applied, no connection that is over has a consumer registered. -/
theorem connections_keep_consumers (runs : Runs (step endpoint) anyStep (init capacity router cap) s t)
    (live : s.relay.desk.closed = false) :
    ∀ entry ∈ s.relay.desk.world.bus.registry.entries, ∀ k phase, entry.consumer.call = some k →
      s.phases k = some phase →
      (∃ reg, phase = .registering reg ∧ s.relay.desk.calls k = .replied entry.id) ∨
        (∃ producerHandle, phase = .reading (some entry.id) producerHandle) ∨
        (∃ handle message, phase = .sending (some entry.id) handle message) ∨
        phase = .leaving entry.id ∨
        phase = .done ∧ BusCmd.deregister entry.id ∈ s.relay.desk.world.bus.cmdRx.buf := by
  intro entry member k phase stamped connected
  have follows := follows_of_connected runs connected
  have known := known_of_connected runs live k phase connected entry member stamped
  have isId : ∀ {id : Option Nat}, s.relay.desk.calls k = callOf id → id = some entry.id := by
    intro id isCall
    rw [isCall] at known
    cases id with
    | none => rcases known with wrong | wrong <;> cases wrong
    | some id =>
        rcases known with wrong | same
        · cases wrong
        · cases same
          rfl
  cases phase with
  | accepting => rcases known with wrong | wrong <;> cases follows.1.symm.trans wrong
  | awaiting => rcases known with wrong | wrong <;> cases follows.1.symm.trans wrong
  | registering reg =>
      rcases known with replied | received
      · exact Or.inl ⟨reg, rfl, replied⟩
      · obtain ⟨frames, dims, -, -, -, -, ⟨wrong, -⟩ | ⟨wrong | ⟨id, wrong⟩, -⟩⟩ := follows <;>
          cases received.symm.trans wrong
  | reading id producerHandle =>
      cases isId follows.1
      exact Or.inr (Or.inl ⟨producerHandle, rfl⟩)
  | sending id handle message =>
      cases isId follows.1
      exact Or.inr (Or.inr (Or.inl ⟨handle, message, rfl⟩))
  | leaving id =>
      have isCall : s.relay.desk.calls k = callOf (some id) := follows.1
      cases isId isCall
      exact Or.inr (Or.inr (Or.inr (Or.inl rfl)))
  | done => exact Or.inr (Or.inr (Or.inr (Or.inr ⟨rfl, dismissed runs live k connected entry member stamped⟩)))

/-- The connection that is over has sent its command. -/
theorem connections_keep_consumers_visited :
    BusCmd.deregister 1 ∈ visited.1.relay.desk.world.bus.cmdRx.buf := by
  have member : ⟨1, ⟨some 0, .channel⟩, []⟩ ∈ visited.1.relay.desk.world.bus.registry.entries :=
    List.mem_cons_of_mem _ (List.mem_cons_self ..)
  rcases connections_keep_consumers visited_runs rfl _ member 0 .done rfl rfl with
    ⟨reg, wrong, -⟩ | ⟨producerHandle, wrong⟩ | ⟨handle, message, wrong⟩ | wrong | ⟨-, queued⟩
  · cases wrong
  · cases wrong
  · cases wrong
  · cases wrong
  · exact queued

/-! ## Whose consumer goes -/

/-- A connection deregisters the id its call was answered with. -/
theorem answered_of_deregister {ws : Option (List Frame)} {answer : RegisterAnswer} {uuid : Uuid} {id : Nat}
    (does : .deregister id ∈ (endpoint.handleConnection ws answer uuid : List (WsAction F I M))) :
    answer = .answered id := by
  have command : .inr id ∈ (endpoint.handleConnection ws answer uuid : List (WsAction F I M)).filterMap
      WsAction.command? := List.mem_filterMap.mpr ⟨_, does, rfl⟩
  have noCommand (handle : Option ProducerId) (frames : List Frame) :=
    endpoint.inboundLoop_commands (F := F) (I := I) (M := M) handle frames
  rcases endpoint.handleConnection_cases (F := F) (I := I) (M := M) ws answer uuid with
    ⟨frames, reg, rest, dims, -, -, ⟨-, handled⟩ | ⟨id', answered, handled⟩⟩ | ⟨-, handled | ⟨dims, -, handled⟩⟩
  · rw [handled, noCommand] at command
    cases command
  · rw [handled, List.filterMap_cons_some (f := WsAction.command?) rfl, List.filterMap_append, noCommand] at command
    have same : id = id' := by simpa [WsAction.command?] using command
    rw [answered, same]
  · rw [handled] at command
    cases command
  · rw [handled] at command
    simp [WsAction.command?] at command

/-- What the trace tells of the bus. -/
def busTrace (t : List (WsEvent F I M)) : List (Event M) := (t.filterMap WsEvent.relay?).filterMap RelayEvent.bus?

/-- **A connection deregisters its own consumer only.**  In every interleaving: the id in a
`Deregister` command of connection `k` is the one its own `register` call returned; and while
fewer than `2^64` ids have been given out, a consumer that has this id, now or whenever the
command is applied, is the one `k` has registered. -/
theorem deregisters_own (runs : Runs (step endpoint) anyStep (init capacity router cap) s t) {k id : Nat}
    (acted : WsEvent.acted k (.deregister id) ∈ t) :
    s.relay.desk.calls k = .received id ∧
      (((busTrace t).filterMap Event.registered?).length < 2 ^ 64 →
        ∀ entry ∈ s.relay.desk.world.bus.registry.entries, entry.id = id → entry.consumer.call = some k) := by
  have received : s.relay.desk.calls k = .received id := by
    obtain ⟨whole, ⟨answer, uuid, rfl, known⟩, begins⟩ := (conducts runs k).begins
    have own : .deregister id ∈ t.filterMap (actedBy k) :=
      List.mem_filterMap.mpr ⟨_, acted, by rw [actedBy, if_pos rfl]⟩
    exact (known id).mpr (answered_of_deregister (begins.subset own))
  refine ⟨received, ?_⟩
  intro few entry member named
  have replied := Desk.replied_of_answer (desk_runs runs) k id (Or.inr received)
  exact Desk.stamped_of_replied (desk_runs runs) few k id replied entry member named

theorem deregisters_own_visited :
    visited.1.relay.desk.calls 0 = .received 1 ∧
      ∀ entry ∈ visited.1.relay.desk.world.bus.registry.entries, entry.id = 1 → entry.consumer.call = some 0 := by
  obtain ⟨received, own⟩ := deregisters_own visited_runs (k := 0) (List.mem_of_getLast? rfl)
  exact ⟨received, own (by decide +kernel)⟩

end WsServer

end Jackfield
