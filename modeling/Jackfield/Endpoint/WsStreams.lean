/-
# Jackfield.Endpoint.WsStreams -- what a connection writes

Of the two tasks of a consumer's connection, the first takes items from its channel and
sends them, encoded, to the second, which writes them on the socket.  While the second one
runs, what was received is what was written and, behind it, what the tasks and the channel
between them hold (`Passing`).  Nothing is received before there are tasks, and by nobody
else.

So the frames written are the messages that the bus handed to the consumer, encoded, in
their order (`frames_in_order`).  How the tasks end is in `WsEnding`.
-/
import Jackfield.Endpoint.WsCustody
import Jackfield.Endpoint.Pipes

namespace Jackfield

set_option autoImplicit false
set_option linter.unusedSectionVars false

variable {F I M L : Type}

open Machine
open RelayEvent (itemsOn received? handedTo)

/-! ## Reading a trace -/

def WsEvent.writtenBy (k : Nat) : WsEvent F I M → Option (List UInt8)
  | .wrote k' bytes => if k' = k then some bytes else none
  | _ => none

/-- What the task has in its hand. -/
def WsForward.inHand : WsForward → List (List UInt8)
  | .receiving => []
  | .sending bytes => [bytes]

def WsWriter.inHand : WsWriter → List (List UInt8)
  | .receiving => []
  | .writing bytes => [bytes]

/-- What is on its way to the socket, the oldest first. -/
def WsOutbound.held (out : WsOutbound) : List (List UInt8) :=
  out.writer.toList.flatMap WsWriter.inHand ++ out.bytes.buf ++ out.forward.toList.flatMap WsForward.inHand

/-- The connection whose tasks are spawned by this step, or take it. -/
def WsServerAction.task? : WsServerAction F I M L → Option Nat
  | .answered k _ => some k
  | .forward k _ => some k
  | .writer k _ => some k
  | _ => none

namespace WsServer

/-- The frames that connection `k` has written. -/
def writtenOn (k : Nat) (t : List (WsEvent F I M)) : List (List UInt8) := t.filterMap (WsEvent.writtenBy k)

/-- The items received from channel `k`. -/
def receivedOn (k : Nat) (t : List (WsEvent F I M)) : List BusableItem :=
  itemsOn k received? (t.filterMap WsEvent.relay?)

/-- The messages the bus handed to the consumer of connection `k`. -/
def handedOn (k : Nat) (t : List (WsEvent F I M)) : List (Stamped M) := handedTo k (t.filterMap WsEvent.relay?)

@[simp] theorem writtenOn_append (k : Nat) (t es : List (WsEvent F I M)) :
    writtenOn k (t ++ es) = writtenOn k t ++ writtenOn k es := List.filterMap_append ..

@[simp] theorem receivedOn_append (k : Nat) (t es : List (WsEvent F I M)) :
    receivedOn k (t ++ es) = receivedOn k t ++ receivedOn k es := by
  simp only [receivedOn, List.filterMap_append, RelayEvent.itemsOn_append]

theorem receivedOn_eq_nil {k : Nat} {es : List (WsEvent F I M)} (none : ∀ item, .relay (.received k item) ∉ es) :
    receivedOn k es = [] := by
  rw [receivedOn, itemsOn, List.filterMap_filterMap, List.filterMap_filterMap, List.filterMap_eq_nil_iff]
  intro e member
  cases e with
  | relay below =>
      cases below with
      | received k' item =>
          apply onChannel_of_ne
          rintro rfl
          exact none item member
      | _ => rfl
  | _ => rfl

theorem writtenOn_eq_nil {k : Nat} {es : List (WsEvent F I M)} (none : ∀ bytes, .wrote k bytes ∉ es) :
    writtenOn k es = [] := by
  rw [writtenOn, List.filterMap_eq_nil_iff]
  intro e member
  cases e with
  | wrote k' bytes =>
      apply if_neg
      rintro rfl
      exact none bytes member
  | _ => rfl

/-! ## Who changes what -/

variable [F32 F] [Inhabited I] [BoxedMessage M] {endpoint : WsEndpoint} {s s' : WsServer F I M L}
  {a : WsServerAction F I M L} {t es : List (WsEvent F I M)}

/-- An item of a connection is received by its own task. -/
theorem Move.received_cases (move : Move endpoint s a s' es) {k : Nat} {item : BusableItem}
    (received : WsEvent.relay (.received k item) ∈ es) : a = .forward k .receive ∨ s.phases k = none := by
  have told : ∀ {below : List (RelayEvent M)},
      WsEvent.relay (.received k item) ∈ (below.map .relay : List (WsEvent F I M)) →
        RelayEvent.received k item ∈ below := by
    intro below member
    obtain ⟨e, member, same⟩ := List.mem_map.mp member
    cases same
    exact member
  have beforeOne : ∀ {below : List (RelayEvent M)} {j : Nat} {b : WsAction F I M},
      WsEvent.relay (.received k item) ∈ below.map .relay ++ [.acted j b] → RelayEvent.received k item ∈ below := by
    intro below j b member
    rcases List.mem_append.mp member with inBelow | isAct
    · exact told inBelow
    · cases List.mem_singleton.mp isAct
  have notDesk : ∀ {b : DeskAction F I M (Plug L)} {relay : Relay F I M L} {below : List (RelayEvent M)},
      s.relay.step (.desk b) = some (relay, below) → RelayEvent.received k item ∉ below := by
    intro b relay below stepped member
    cases (Relay.move_of_step stepped).receive_of_received member
  have notBussed : ∀ {b : Action F I M (Boxed (Plug L))} {relay : Relay F I M L} {below : List (RelayEvent M)},
      Bussed s b relay below → RelayEvent.received k item ∉ below := by
    intro b relay below bussed member
    cases bussed with
    | gone closed => cases member
    | stepped live stepped => exact notDesk stepped member
  cases move with
  | submitted phase sending stepped => exact absurd (beforeOne received) (notDesk stepped)
  | answered phase reply stepped => exact absurd (told received) (notDesk stepped)
  | failed phase stepped => exact absurd (told received) (notDesk stepped)
  | sent phase bussed => exact absurd (beforeOne received) (notBussed bussed)
  | deregistered phase bussed => exact absurd (beforeOne received) (notBussed bussed)
  | forwardReceived task stepped =>
      cases List.mem_singleton.mp received
      exact Or.inl rfl
  | relayed others stepped =>
      have isReceive := (Relay.move_of_step stepped).receive_of_received (told received)
      exact Or.inr (others k (by rw [isReceive]; rfl))
  | _ => simp at received

/-- The tasks of the other connections rest. -/
theorem Move.tasks_stay (move : Move endpoint s a s' es) {k : Nat} (other : a.task? ≠ some k) :
    s'.outbounds k = s.outbounds k ∧ writtenOn k es = [] := by
  have apart : ∀ {j : Nat}, (some j : Option Nat) ≠ some k → k ≠ j := by
    rintro j different rfl
    exact different rfl
  have unwritten : ∀ (below : List (RelayEvent M)), writtenOn k (below.map .relay : List (WsEvent F I M)) = [] := by
    intro below
    apply writtenOn_eq_nil
    intro bytes member
    obtain ⟨e, -, wrong⟩ := List.mem_map.mp member
    cases wrong
  have andOne : ∀ (below : List (RelayEvent M)) (j : Nat) (b : WsAction F I M),
      writtenOn k (below.map .relay ++ [.acted j b]) = [] := by
    intro below j b
    rw [writtenOn_append, unwritten]
    rfl
  cases move with
  | submitted phase sending stepped => exact ⟨rfl, andOne _ _ _⟩
  | answered phase reply stepped => exact ⟨by simp [apart other], unwritten _⟩
  | failed phase stepped => exact ⟨rfl, unwritten _⟩
  | sent phase bussed => exact ⟨rfl, andOne _ _ _⟩
  | deregistered phase bussed => exact ⟨rfl, andOne _ _ _⟩
  | forwardReceived task stepped => exact ⟨by simp [apart other], rfl⟩
  | forwardSent task held sent => exact ⟨by simp [apart other], rfl⟩
  | forwardFailed task gone => exact ⟨by simp [apart other], rfl⟩
  | forwardOver task empty noSender => exact ⟨by simp [apart other], rfl⟩
  | writerReceived task front => exact ⟨by simp [apart other], rfl⟩
  | @wrote j b task =>
      refine ⟨by simp [apart other], writtenOn_eq_nil ?_⟩
      intro bytes member
      cases List.mem_singleton.mp member
      exact other rfl
  | writerFailed task => exact ⟨by simp [apart other], rfl⟩
  | writerOver task empty noSender => exact ⟨by simp [apart other], rfl⟩
  | relayed others stepped => exact ⟨rfl, unwritten _⟩
  | _ => exact ⟨rfl, rfl⟩

/-- A connection does not become unknown. -/
theorem Move.stays_connected (move : Move endpoint s a s' es) {k : Nat} {phase : WsPhase M}
    (connected : s.phases k = some phase) : s'.phases k ≠ none := by
  by_cases own : a.handler? = some k
  swap
  · rw [(move.elsewhere own).1, connected]
    exact Option.some_ne_none phase
  cases move with
  | skipped phase skips =>
      cases own
      simp [phase]
  | submitted phase sending stepped =>
      cases own
      simp [phase]
  | forwardReceived task stepped => cases own
  | forwardSent task held sent => cases own
  | forwardFailed task gone => cases own
  | forwardOver task empty noSender => cases own
  | writerReceived task front => cases own
  | wrote task => cases own
  | writerFailed task => cases own
  | writerOver task empty noSender => cases own
  | relayed others stepped => cases own
  | _ =>
      cases own
      simp

/-- A connection keeps an answer it has received. -/
theorem Move.answer_stays (move : Move endpoint s a s' es) {k id : Nat} {phase : WsPhase M}
    (connected : s.phases k = some phase) (received : s.relay.desk.calls k = .received id) :
    s'.relay.desk.calls k = .received id := by
  rcases move.call_cases connected with same | ⟨b, uuid, dims, rfl, rfl, -⟩ | ⟨rfl, -⟩ |
    ⟨id', uuid, rfl, was, -⟩ | ⟨rfl, was, -⟩ | ⟨id', was, -⟩
  · exact same.trans received
  · cases move with
    | registering was decoded valid consumer stepped =>
        cases Relay.move_of_step stepped with
        | pluggedIn fresh => cases fresh.symm.trans received
    | _ => assumption
  · cases move with
    | submitted was sending stepped => cases sending.symm.trans received
  · cases was.symm.trans received
  · simp [received, Call.Suspended] at was
  · cases was.symm.trans received

/-! ## From the channel to the socket -/

/-- What connection `k` has received of its channel is on the socket, or on its way. -/
structure Passing (endpoint : WsEndpoint) (s : WsServer F I M L) (t : List (WsEvent F I M)) (k : Nat) : Prop where
  idle : s.phases k = none → s.outbounds k = .unspawned
  resting : s.phases k ≠ none → (∀ id, s.relay.desk.calls k ≠ .received id) →
    s.outbounds k = .unspawned ∧ receivedOn k t = []
  whole : (s.outbounds k).writer ≠ none →
    writtenOn k t ++ (s.outbounds k).held = (receivedOn k t).map endpoint.encodeItem
  behind : writtenOn k t <+: (receivedOn k t).map endpoint.encodeItem

omit [F32 F] [Inhabited I] [BoxedMessage M] in
/-- A connection with tasks is one whose call has returned. -/
theorem Passing.spawned {k : Nat} (passing : Passing endpoint s t k) (spawned : s.outbounds k ≠ .unspawned) :
    ∃ phase id, s.phases k = some phase ∧ s.relay.desk.calls k = .received id := by
  obtain ⟨phase, connected⟩ := Option.ne_none_iff_exists'.mp fun none => spawned (passing.idle none)
  by_contra neither
  refine spawned (passing.resting (by simp [connected]) ?_).1
  intro id received
  exact neither ⟨phase, id, connected, received⟩

/-- The connection's tasks do not take the step. -/
theorem Passing.elsewhere {k : Nat} (passing : Passing endpoint s t k) (move : Move endpoint s a s' es)
    (other : a.task? ≠ some k)
    (unread : s'.relay.desk.calls k = .unused → receivedOn k (t ++ es) = []) : Passing endpoint s' (t ++ es) k := by
  obtain ⟨same, noneWritten⟩ := move.tasks_stay other
  have quiet : s.phases k ≠ none → receivedOn k es = [] := by
    intro connected
    apply receivedOn_eq_nil
    intro item received
    rcases move.received_cases received with rfl | nobody
    · exact other rfl
    · exact connected nobody
  constructor
  case idle =>
    intro nobody
    rw [same]
    apply passing.idle
    by_contra connected
    obtain ⟨phase, connected⟩ := Option.ne_none_iff_exists'.mp connected
    exact move.stays_connected connected nobody
  case resting =>
    intro connected unanswered
    rw [same]
    cases was : s.phases k with
    | none =>
        obtain ⟨phase, connected⟩ := Option.ne_none_iff_exists'.mp connected
        exact ⟨passing.idle was, unread (move.begins was connected).2⟩
    | some phase =>
        have before := passing.resting (by simp [was]) fun id received =>
          unanswered id (move.answer_stays was received)
        rw [receivedOn_append, before.2, quiet (by simp [was])]
        exact ⟨before.1, rfl⟩
  case whole =>
    intro running
    rw [same] at running ⊢
    have connected : s.phases k ≠ none := by
      intro none
      rw [passing.idle none] at running
      exact running rfl
    rw [writtenOn_append, noneWritten, receivedOn_append, quiet connected, List.append_nil, List.append_nil]
    exact passing.whole running
  case behind =>
    rw [writtenOn_append, noneWritten, receivedOn_append, List.append_nil, List.map_append]
    exact passing.behind.trans (List.prefix_append _ _)

omit [F32 F] [Inhabited I] [BoxedMessage M] in
/-- Its tasks do. -/
theorem Passing.own {k : Nat} (passing : Passing endpoint s t k) (spawned : s.outbounds k ≠ .unspawned)
    (samePhase : s'.phases k = s.phases k) (sameCall : s'.relay.desk.calls k = s.relay.desk.calls k)
    (whole : (s'.outbounds k).writer ≠ none →
      writtenOn k (t ++ es) ++ (s'.outbounds k).held = (receivedOn k (t ++ es)).map endpoint.encodeItem)
    (behind : writtenOn k (t ++ es) <+: (receivedOn k (t ++ es)).map endpoint.encodeItem) :
    Passing endpoint s' (t ++ es) k := by
  obtain ⟨phase, id, connected, received⟩ := passing.spawned spawned
  refine ⟨?_, ?_, whole, behind⟩
  · intro nobody
    cases (samePhase.trans connected).symm.trans nobody
  · intro _ unanswered
    exact absurd (sameCall.trans received) (unanswered id)

/-- **What was received is written or on its way, step by step.** -/
theorem Passing.step {k : Nat} (passing : Passing endpoint s t k) (move : Move endpoint s a s' es)
    (unread : s'.relay.desk.calls k = .unused → receivedOn k (t ++ es) = []) : Passing endpoint s' (t ++ es) k := by
  by_cases own : a.task? = some k
  swap
  · exact passing.elsewhere move own unread
  have whole := move
  have further : ∀ more : List BusableItem, writtenOn k t <+: (receivedOn k t ++ more).map endpoint.encodeItem := by
    intro more
    rw [List.map_append]
    exact passing.behind.trans (List.prefix_append _ _)
  have spawned : (s.outbounds k).forward ≠ none ∨ (s.outbounds k).writer ≠ none → s.outbounds k ≠ .unspawned := by
    rintro running nothing
    rw [nothing] at running
    rcases running with wrong | wrong <;> exact wrong rfl
  cases move with
  | @answered k id uuid reg relay below phase reply stepped =>
      cases own
      have before := passing.resting (by simp [phase]) (by simp [reply])
      have unwritten := passing.behind
      rw [before.2, List.map_nil, List.prefix_nil] at unwritten
      have quiet : receivedOn k (below.map .relay : List (WsEvent F I M)) = [] := by
        apply receivedOn_eq_nil
        intro item received
        rcases whole.received_cases received with wrong | nobody
        · cases wrong
        · cases phase.symm.trans nobody
      have silent : writtenOn k (below.map .relay : List (WsEvent F I M)) = [] := by
        apply writtenOn_eq_nil
        intro bytes member
        obtain ⟨e, -, wrong⟩ := List.mem_map.mp member
        cases wrong
      have returned : relay.desk.calls k = .received id := by
        obtain ⟨deskEvents, deskStepped⟩ := Relay.desk_step stepped
        have moved := Desk.move_of_step deskStepped
        generalize relay.desk = after at moved
        cases moved with
        | received answer =>
            cases reply.symm.trans answer
            simp
      refine ⟨?_, ?_, ?_, ?_⟩
      · simp
      · intro _ unanswered
        exact absurd returned (unanswered id)
      · intro _
        rw [writtenOn_append, receivedOn_append, unwritten, silent, before.2, quiet]
        simp [WsOutbound.held, WsOutbound.spawned, WsForward.inHand, WsWriter.inHand, Channel.new]
      · rw [writtenOn_append, unwritten, silent]
        exact List.nil_prefix
  | @forwardReceived k item relay task stepped =>
      cases own
      have sameDesk : relay.desk = s.relay.desk := by
        cases Relay.move_of_step stepped with
        | received live front => rfl
      have told : receivedOn k [(.relay (.received k item) : WsEvent F I M)] = [item] := by
        simp [receivedOn, itemsOn, WsEvent.relay?, received?]
      refine passing.own (spawned (Or.inl (by simp [task]))) rfl (congrArg (fun d => d.calls k) sameDesk) ?_ ?_
      · intro running
        have before := passing.whole (by simpa using running)
        simp only [setOutbound_outbounds, if_true, writtenOn_append, receivedOn_append, told, List.map_append]
        rw [← before]
        simp [WsOutbound.held, task, WsForward.inHand, writtenOn, WsEvent.writtenBy]
      · have silent : writtenOn k [(.relay (.received k item) : WsEvent F I M)] = [] := rfl
        rw [writtenOn_append, silent, List.append_nil, receivedOn_append]
        exact further _
  | @forwardSent k b bytes task held sent =>
      cases own
      refine passing.own (spawned (Or.inl (by simp [task]))) rfl rfl ?_ ?_
      · intro running
        have before := passing.whole (by simpa using running)
        rw [List.append_nil, ← before]
        simp [WsOutbound.held, task, WsForward.inHand, Channel.send_buf sent]
      · rw [List.append_nil]
        exact passing.behind
  | @forwardFailed k b task gone =>
      cases own
      refine passing.own (spawned (Or.inl (by simp [task]))) rfl
        (congrArg (fun d => d.calls k) (Relay.hangUp_desk s.relay (some k))) ?_ ?_
      · intro running
        simp [gone] at running
      · rw [List.append_nil]
        exact passing.behind
  | @forwardOver k task empty noSender =>
      cases own
      refine passing.own (spawned (Or.inl (by simp [task]))) rfl
        (congrArg (fun d => d.calls k) (Relay.hangUp_desk s.relay (some k))) ?_ ?_
      · intro running
        have before := passing.whole (by simpa using running)
        rw [List.append_nil, ← before]
        simp [WsOutbound.held, task, WsForward.inHand]
      · rw [List.append_nil]
        exact passing.behind
  | @writerReceived k b bytes task front =>
      cases own
      refine passing.own (spawned (Or.inr (by simp [task]))) rfl rfl ?_ ?_
      · intro _
        have before := passing.whole (by simp [task])
        rw [List.append_nil, ← before]
        simp [WsOutbound.held, task, WsWriter.inHand, Channel.tryRecv_buf front]
      · rw [List.append_nil]
        exact passing.behind
  | @wrote k b task =>
      cases own
      have before := passing.whole (by simp [task])
      have told : writtenOn k [(.wrote k b : WsEvent F I M)] = [b] := by simp [writtenOn, WsEvent.writtenBy]
      have unread : receivedOn k [(.wrote k b : WsEvent F I M)] = [] := rfl
      refine passing.own (spawned (Or.inr (by simp [task]))) rfl rfl ?_ ?_
      · intro _
        rw [writtenOn_append, told, receivedOn_append, unread, List.append_nil, ← before]
        simp [WsOutbound.held, task, WsWriter.inHand]
      · rw [writtenOn_append, told, receivedOn_append, unread, List.append_nil, ← before]
        simp [WsOutbound.held, task, WsWriter.inHand]
  | @writerFailed k b task =>
      cases own
      refine passing.own (spawned (Or.inr (by simp [task]))) rfl rfl ?_ ?_
      · intro running
        simp at running
      · rw [List.append_nil]
        exact passing.behind
  | @writerOver k task empty noSender =>
      cases own
      refine passing.own (spawned (Or.inr (by simp [task]))) rfl rfl ?_ ?_
      · intro running
        simp at running
      · rw [List.append_nil]
        exact passing.behind
  | accepted fresh unused => cases own
  | shook phase => cases own
  | skipped phase skips => cases own
  | turnedAway phase refused => cases own
  | registering phase decoded valid consumer stepped => cases own
  | admitted phase decoded valid noConsumer => cases own
  | read phase => cases own
  | submitted phase sending stepped => cases own
  | failed phase stepped => cases own
  | sent phase bussed => cases own
  | deregistered phase bussed => cases own
  | relayed others stepped => cases own

/-! ## Runs -/

variable {ok : WsServer F I M L → List (WsEvent F I M) → WsServerAction F I M L → Prop} {capacity cap : Nat}
  {router : Router}

theorem passing (runs : Runs (step endpoint) ok (init capacity router cap) s t) (k : Nat) :
    Passing endpoint s t k := by
  apply runs.invariant_reached (P := fun s t => Passing endpoint s t k)
  · exact ⟨fun _ => rfl, fun _ _ => ⟨rfl, rfl⟩, fun running => absurd rfl running, List.nil_prefix⟩
  · intro s t a s' es before ih allowed stepped
    exact ih.step (move_of_step stepped) fun unused =>
      Relay.received_of_unused (relay_runs (before.step allowed stepped)) unused

/-- The channel between the tasks holds 256 frames, so with them at most 258 are on their way. -/
theorem bytes_capacity (runs : Runs (step endpoint) ok (init capacity router cap) s t) :
    ∀ k, (s.outbounds k).bytes.capacity = 256 := by
  apply runs.invariant (P := fun s _ => ∀ k, (s.outbounds k).bytes.capacity = 256)
  · exact fun _ => rfl
  · intro s t a s' es ih _ stepped k
    have move := move_of_step stepped
    by_cases own : a.task? = some k
    swap
    · rw [(move.tasks_stay own).1]
      exact ih k
    cases move with
    | forwardSent task held sent =>
        cases own
        simpa [Channel.send_capacity sent] using ih k
    | writerReceived task front =>
        cases own
        simpa [Channel.tryRecv_capacity front] using ih k
    | answered phase reply stepped =>
        cases own
        simp [WsOutbound.spawned, Channel.new]
    | forwardReceived task stepped =>
        cases own
        simpa using ih k
    | forwardFailed task gone =>
        cases own
        simpa using ih k
    | forwardOver task empty noSender =>
        cases own
        simpa using ih k
    | wrote task =>
        cases own
        simpa using ih k
    | writerFailed task =>
        cases own
        simp [Channel.new]
    | writerOver task empty noSender =>
        cases own
        simpa using ih k
    | _ => cases own

/-- The frames written are messages handed over, in their order. -/
theorem written_sublist (runs : Runs (step endpoint) ok (init capacity router cap) s t) (k : Nat) :
    List.Sublist (writtenOn k t) ((handedOn k t).map fun e => endpoint.encodeItem (.ofMessage e)) := by
  have received := (Relay.received_of_handed (relay_runs runs) k).1.map endpoint.encodeItem
  rw [List.map_map] at received
  exact (passing runs k).behind.sublist.trans received

/-- A client is in, and the bus hands it two messages; the first is written, the second is about
to be. -/
def reception : List (WsServerAction ℚ Unit BaseMessage String) :=
  let message : List (WsServerAction ℚ Unit BaseMessage String) :=
    [.relay (.desk (.world (.send ⟨"radio"⟩ World.ping))), .relay (.takeEnvelope World.obliging), .relay (.resume 7)]
  [.relay (.desk (.world .dispatch)), .accept 0, .handshake 0 true,
    .frame 0 (some (.binary WsService.probeBytes)) .nil, .submit 0, .relay (.desk (.world .takeCmd)),
    .answered 0 .nil] ++ message ++ [.forward 0 .receive, .forward 0 .send, .writer 0 .receive] ++ message ++
    [.forward 0 .receive, .writer 0 .send, .forward 0 .send]

end WsServer

end Jackfield
