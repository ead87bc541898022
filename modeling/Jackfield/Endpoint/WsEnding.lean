/-
# Jackfield.Endpoint.WsEnding -- how the tasks of a connection end

`handle_connection` does not wait for the tasks it has spawned.  They end because the
senders of their channels do: once the consumer is deregistered nobody can send on its
channel, and then the tasks, left to themselves, come to an end in a bounded number of
steps, never waiting for anything but each other and the socket (`tasks_wind_down`).

If the socket holds, all that was put into the channel is written before that
(`all_written_in_the_end`).
-/
import Jackfield.Endpoint.WsStreams
import Jackfield.Endpoint.Senders

namespace Jackfield

set_option autoImplicit false
set_option linter.unusedSectionVars false

variable {F I M L : Type}

open Machine
open RelayEvent (itemsOn received? ended?)
open Relay (Deserted Drains)

theorem Relay.dropReceiver_pipes (s : Relay F I M L) {r r' : Nat} (other : r ≠ r') :
    (s.dropReceiver r').pipes r = s.pipes r := by
  unfold Relay.dropReceiver Relay.hangUp
  simp only
  split
  · rw [Relay.setPipe_pipes, if_neg other]
  · rfl

/-- A step that a task of connection `k` takes. -/
def WsServerAction.ofTasks (k : Nat) : WsServerAction F I M L → Bool
  | .forward k' _ => k' == k
  | .writer k' _ => k' == k
  | _ => false

/-- What the tasks have in hand, by the steps it takes. -/
def WsOutbound.weight (out : WsOutbound) : Nat :=
  (match out.forward with
    | none => 0
    | some .receiving => 1
    | some (.sending _) => 4) +
  2 * out.bytes.buf.length +
  match out.writer with
    | none => 0
    | some .receiving => 1
    | some (.writing _) => 2

namespace WsServer

variable [F32 F] [Inhabited I] [BoxedMessage M] {endpoint : WsEndpoint} {s s' : WsServer F I M L}
  {a : WsServerAction F I M L} {t es : List (WsEvent F I M)}

/-! ## The channel is open while it is read -/

/-- The receiver of a connection's channel goes only with its handler or its task. -/
theorem Move.live_stays (move : Move endpoint s a s' es) {k : Nat} {phase : WsPhase M}
    (connected : s.phases k = some phase) (live : (s.relay.pipes k).live = true)
    (kept : a ≠ .failed k ∧ a ≠ .forward k .fail ∧ a ≠ .forward k .leave) :
    (s'.relay.pipes k).live = true := by
  have through : ∀ {c : RelayAction F I M L} {relay : Relay F I M L} {below : List (RelayEvent M)},
      s.relay.step c = some (relay, below) → c ≠ .unplug k → (relay.pipes k).live = true :=
    fun stepped kept => (Relay.move_of_step stepped).live_stays live kept
  have bussed : ∀ {b : Action F I M (Boxed (Plug L))} {relay : Relay F I M L} {below : List (RelayEvent M)},
      Bussed s b relay below → (relay.pipes k).live = true := by
    intro b relay below sent
    cases sent with
    | gone closed => exact live
    | stepped _ stepped => exact through stepped (by simp)
  have dropped : ∀ {relay : Relay F I M L} {j : Nat}, j ≠ k → (relay.pipes k).live = true →
      ((relay.dropReceiver j).pipes k).live = true := by
    intro relay j other live
    rwa [relay.dropReceiver_pipes (Ne.symm other)]
  cases move with
  | registering phase decoded valid consumer stepped => exact through stepped (by simp)
  | submitted phase sending stepped => exact through stepped (by simp)
  | answered phase reply stepped => exact through stepped (by simp)
  | failed phase stepped =>
      apply dropped
      · rintro rfl
        exact kept.1 rfl
      · exact through stepped (by simp)
  | sent phase sent => exact bussed sent
  | deregistered phase sent => exact bussed sent
  | forwardReceived task stepped => exact through stepped (by simp)
  | forwardFailed task gone =>
      apply dropped
      · rintro rfl
        exact kept.2.1 rfl
      · exact live
  | forwardOver task empty noSender =>
      apply dropped
      · rintro rfl
        exact kept.2.2 rfl
      · exact live
  | relayed others stepped =>
      apply through stepped
      rintro rfl
      cases (others k rfl).symm.trans connected
  | _ => exact live

/-- A connection that waits in `register`, or has the task that receives. -/
def Listening (s : WsServer F I M L) (k : Nat) : Prop :=
  (∃ reg, s.phases k = some (.registering reg)) ∨ (s.outbounds k).forward ≠ none

/-- It begins to with a new channel. -/
theorem Move.listening_before (move : Move endpoint s a s' es) {k : Nat} (listening : Listening s' k) :
    Listening s k ∨ (s'.relay.pipes k).live = true := by
  rcases listening with ⟨reg, registering⟩ | running
  · by_cases own : a.handler? = some k
    swap
    · rw [(move.elsewhere own).1] at registering
      exact Or.inl (Or.inl ⟨reg, registering⟩)
    cases move with
    | skipped phase skips =>
        cases own
        cases phase.symm.trans registering
    | registering phase decoded valid consumer stepped =>
        cases own
        cases Relay.move_of_step stepped with
        | pluggedIn fresh => exact Or.inr (by simp [Pipe.new])
    | submitted phase sending stepped =>
        cases own
        exact Or.inl (Or.inl ⟨_, phase⟩)
    | @shook k succeeds phase =>
        cases own
        cases succeeds <;> simp at registering
    | @read k f uuid id producerHandle phase =>
        cases own
        rw [setPhase_phases, if_pos rfl] at registering
        have wrong := Option.some.inj registering
        unfold WsService.inboundFrame at wrong
        split at wrong
        · split at wrong
          · cases wrong
          · split at wrong <;> cases wrong
        · cases wrong
        · split at wrong <;> cases wrong
    | forwardReceived task stepped => cases own
    | forwardSent task held sent => cases own
    | forwardFailed task gone => cases own
    | forwardOver task empty noSender => cases own
    | writerReceived task front => cases own
    | wrote task => cases own
    | writerFailed task => cases own
    | writerOver task empty noSender => cases own
    | relayed others stepped => cases own
    | _ =>
        cases own
        simp at registering
  · by_cases own : a.task? = some k
    swap
    · rw [(move.tasks_stay own).1] at running
      exact Or.inl (Or.inr running)
    left
    cases move with
    | answered phase reply stepped =>
        cases own
        exact Or.inl ⟨_, phase⟩
    | forwardReceived task stepped =>
        cases own
        exact Or.inr (by simp [task])
    | forwardSent task held sent =>
        cases own
        exact Or.inr (by simp [task])
    | forwardFailed task gone =>
        cases own
        simp at running
    | forwardOver task empty noSender =>
        cases own
        simp at running
    | writerReceived task front =>
        cases own
        exact Or.inr (by simpa using running)
    | wrote task =>
        cases own
        exact Or.inr (by simpa using running)
    | writerFailed task =>
        cases own
        exact Or.inr (by simpa using running)
    | writerOver task empty noSender =>
        cases own
        exact Or.inr (by simpa using running)
    | _ => cases own

variable {ok : WsServer F I M L → List (WsEvent F I M) → WsServerAction F I M L → Prop} {capacity cap : Nat}
  {router : Router}

/-- A connection in `register` has not received the answer. -/
theorem unanswered_of_registering (runs : Runs (step endpoint) ok (init capacity router cap) s t) {k : Nat}
    {reg : RegisterData} (registering : s.phases k = some (.registering reg)) (id : Nat) :
    s.relay.desk.calls k ≠ .received id := by
  intro received
  obtain ⟨frames, dims, -, -, -, -, ⟨wrong, -⟩ | ⟨wrong | ⟨id, wrong⟩, -⟩⟩ := follows_of_connected runs registering <;>
    cases received.symm.trans wrong

/-- Where the receiver goes, nobody listens. -/
theorem deaf_of_dropped (before : Runs (step endpoint) ok (init capacity router cap) s t)
    (move : Move endpoint s a s' es) {k : Nat} (drops : a = .failed k ∨ a = .forward k .fail ∨ a = .forward k .leave) :
    ¬ Listening s' k := by
  have tasks : (s.outbounds k).forward ≠ none → ∀ reg, s.phases k ≠ some (.registering reg) := by
    intro running reg registering
    have nothing := ((passing before k).resting (by simp [registering]) (unanswered_of_registering before registering)).1
    rw [nothing] at running
    exact running rfl
  rcases drops with rfl | rfl | rfl
  · cases move with
    | failed registering stepped =>
        rintro (⟨reg, wrong⟩ | running)
        · simp at wrong
        · exact tasks running _ registering
  · cases move with
    | forwardFailed task gone =>
        rintro (⟨reg, registering⟩ | running)
        · exact tasks (by simp [task]) reg registering
        · simp at running
  · cases move with
    | forwardOver task empty noSender =>
        rintro (⟨reg, registering⟩ | running)
        · exact tasks (by simp [task]) reg registering
        · simp at running

/-- The channel that a task receives from is open. -/
theorem open_of_listening (runs : Runs (step endpoint) ok (init capacity router cap) s t) :
    ∀ k, Listening s k → (s.relay.pipes k).live = true := by
  apply runs.invariant_reached (P := fun s _ => ∀ k, Listening s k → (s.relay.pipes k).live = true)
  · rintro k (⟨reg, wrong⟩ | running)
    · cases wrong
    · exact absurd rfl running
  · intro s t a s' es before ih allowed stepped k listening
    have move := move_of_step stepped
    rcases move.listening_before listening with was | live
    swap
    · exact live
    have connected : ∃ phase, s.phases k = some phase := by
      rcases was with ⟨reg, registering⟩ | running
      · exact ⟨_, registering⟩
      · apply Option.ne_none_iff_exists'.mp
        intro none
        rw [(passing before k).idle none] at running
        exact running rfl
    obtain ⟨phase, connected⟩ := connected
    apply move.live_stays connected (ih k was)
    refine ⟨?_, ?_, ?_⟩ <;>
      intro drops
    · exact deaf_of_dropped before move (Or.inl drops) listening
    · exact deaf_of_dropped before move (Or.inr (Or.inl drops)) listening
    · exact deaf_of_dropped before move (Or.inr (Or.inr drops)) listening

/-! ## What is left to do -/

/-- A bound for the steps the tasks can still take: an item in the channel takes four. -/
def weight (k : Nat) (s : WsServer F I M L) : Nat :=
  4 * s.relay.backlog k + (s.outbounds k).weight

/-- Connection `k` has what it needs to end: its call has returned, and nobody can send to it. -/
structure Winding (s : WsServer F I M L) (k : Nat) : Prop where
  connected : s.phases k ≠ none
  answered : ∃ id, s.relay.desk.calls k = .received id
  deserted : Deserted s.relay k

theorem Winding.step {k : Nat} (winding : Winding s k) (runs : Runs (step endpoint) ok (init capacity router cap) s t)
    (stepped : s.step endpoint a = some (s', es)) :
    Winding s' k ∧ weight k s' + (if a.ofTasks k then 1 else 0) ≤ weight k s := by
  have move := move_of_step stepped
  obtain ⟨phase, connected⟩ := Option.ne_none_iff_exists'.mp winding.connected
  obtain ⟨id, received⟩ := winding.answered
  have drains := winding.deserted.leads (relay_runs runs) (simulates stepped)
  refine ⟨⟨move.stays_connected connected, ⟨id, move.answer_stays connected received⟩, drains.deserted⟩, ?_⟩
  have backlog := drains.backlog
  by_cases own : a.task? = some k
  swap
  · have notOwn : a.ofTasks k = false := by
      cases a with
      | forward j x => simpa [WsServerAction.ofTasks, WsServerAction.task?] using own
      | writer j x => simpa [WsServerAction.ofTasks, WsServerAction.task?] using own
      | _ => rfl
    rw [weight, weight, (move.tasks_stay own).1, notOwn]
    simp only [Bool.false_eq_true, if_false]
    omega
  cases move with
  | answered registering reply relayed =>
      cases own
      cases reply.symm.trans received
  | @forwardReceived j item relay task relayed =>
      cases own
      have fewer : relay.backlog k + 1 = s.relay.backlog k := by
        cases Relay.move_of_step relayed with
        | received live front =>
            rw [Relay.backlog, Relay.backlog, Relay.setPipe_pipes, if_pos rfl, Channel.tryRecv_buf front,
              List.length_cons]
      simp only [weight, setOutbound_relay, setOutbound_outbounds, if_true, WsOutbound.weight, task,
        WsServerAction.ofTasks, beq_self_eq_true]
      omega
  | forwardSent task held sent =>
      cases own
      simp only [weight, setOutbound_relay, setOutbound_outbounds, if_true, WsOutbound.weight, task,
        Channel.send_buf sent, List.length_append, List.length_singleton, WsServerAction.ofTasks, beq_self_eq_true]
      omega
  | forwardFailed task gone =>
      cases own
      simp only [setOutbound_relay] at backlog
      simp only [weight, setOutbound_relay, setOutbound_outbounds, if_true, WsOutbound.weight, task,
        WsServerAction.ofTasks, beq_self_eq_true]
      omega
  | forwardOver task empty noSender =>
      cases own
      simp only [setOutbound_relay] at backlog
      simp only [weight, setOutbound_relay, setOutbound_outbounds, if_true, WsOutbound.weight, task,
        WsServerAction.ofTasks, beq_self_eq_true]
      omega
  | writerReceived task front =>
      cases own
      simp only [weight, setOutbound_relay, setOutbound_outbounds, if_true, WsOutbound.weight, task,
        Channel.tryRecv_buf front, List.length_cons, WsServerAction.ofTasks, beq_self_eq_true]
      omega
  | wrote task =>
      cases own
      simp only [weight, setOutbound_relay, setOutbound_outbounds, if_true, WsOutbound.weight, task,
        WsServerAction.ofTasks, beq_self_eq_true]
      omega
  | writerFailed task =>
      cases own
      simp only [weight, setOutbound_relay, setOutbound_outbounds, if_true, WsOutbound.weight, task,
        WsServerAction.ofTasks, beq_self_eq_true, Channel.new, List.length_nil]
      omega
  | writerOver task empty noSender =>
      cases own
      simp only [weight, setOutbound_relay, setOutbound_outbounds, if_true, WsOutbound.weight, task,
        WsServerAction.ofTasks, beq_self_eq_true]
      omega
  | _ => cases own

/-- **A task that is left can go on**: at least one of the two, until both are gone. -/
theorem enabled_of_left (runs : Runs (step endpoint) ok (init capacity router cap) s t) {k : Nat}
    (deserted : Deserted s.relay k) (left : (s.outbounds k).forward ≠ none ∨ (s.outbounds k).writer ≠ none) :
    ∃ x, (s.step endpoint (.forward k x)).isSome = true ∨ (s.step endpoint (.writer k x)).isSome = true := by
  have noSender : s.relay.hasSender k = false := by
    rw [← Bool.not_eq_true, Relay.hasSender_iff]
    exact deserted.nobody
  cases task : (s.outbounds k).forward with
  | some phase =>
      cases phase with
      | receiving =>
          have live := open_of_listening runs k (Or.inr (by simp [task]))
          cases front : (s.relay.pipes k).items.tryRecv with
          | none =>
              have empty := Channel.tryRecv_eq_none_iff.mp front
              exact ⟨.leave, Or.inl (by simp [step, forwardStep, task, empty, noSender])⟩
          | some taken =>
              exact ⟨.receive, Or.inl (by simp [step, forwardStep, task, front, relayStep, Relay.step, live])⟩
      | sending b =>
          cases writer : (s.outbounds k).writer with
          | none => exact ⟨.fail, Or.inl (by simp [step, forwardStep, task, writer])⟩
          | some phase =>
              cases phase with
              | writing b' => exact ⟨.send, Or.inr (by simp [step, writerStep, writer])⟩
              | receiving =>
                  cases front : (s.outbounds k).bytes.tryRecv with
                  | some taken => exact ⟨.receive, Or.inr (by simp [step, writerStep, writer, front])⟩
                  | none =>
                      have room : (s.outbounds k).bytes.buf.length < (s.outbounds k).bytes.capacity := by
                        rw [Channel.tryRecv_eq_none_iff.mp front, bytes_capacity runs k]
                        decide
                      exact ⟨.send, Or.inl (by simp [step, forwardStep, task, writer, Channel.send_isSome room])⟩
  | none =>
      cases writer : (s.outbounds k).writer with
      | none =>
          rcases left with wrong | wrong
          · exact absurd task wrong
          · exact absurd writer wrong
      | some phase =>
          cases phase with
          | writing b => exact ⟨.send, Or.inr (by simp [step, writerStep, writer])⟩
          | receiving =>
              cases front : (s.outbounds k).bytes.tryRecv with
              | some taken => exact ⟨.receive, Or.inr (by simp [step, writerStep, writer, front])⟩
              | none =>
                  have empty := Channel.tryRecv_eq_none_iff.mp front
                  exact ⟨.leave, Or.inr (by simp [step, writerStep, writer, empty, task])⟩

/-- **The tasks of a connection end with its consumer.**  From any reachable state in which
nobody has a sender of the channel of connection `k` any more -- its consumer is out of the
registry, or the bus is gone, and no `consume` of it is suspended -- and whatever else
happens: nobody gets one again; the two tasks take at most `weight` steps more; and until
both are gone, one of them can take its next step. -/
theorem tasks_wind_down {s₀ : WsServer F I M L} {log : List (WsServerAction F I M L)} {k id : Nat}
    (runs : Runs (step endpoint) anyStep (init capacity router cap) s₀ t) (connected : s₀.phases k ≠ none)
    (answered : s₀.relay.desk.calls k = .received id) (noSender : s₀.relay.hasSender k = false)
    (part : Runs (logged (step endpoint)) anyStep s₀ s log) :
    s.relay.hasSender k = false ∧
      log.countP (fun a => a.ofTasks k) + weight k s ≤
        4 * (s₀.relay.pipes k).items.buf.length + (s₀.outbounds k).weight ∧
      ((s.outbounds k).forward ≠ none ∨ (s.outbounds k).writer ≠ none →
        ∃ x, (s.step endpoint (.forward k x)).isSome = true ∨ (s.step endpoint (.writer k x)).isSome = true) := by
  have nobody : ¬ Relay.Holds s₀.relay k := by
    rw [← Relay.hasSender_iff, noSender]
    exact Bool.false_ne_true
  have winding : Winding s₀ k := ⟨connected, ⟨id, answered⟩, by simp [answered], nobody⟩
  obtain ⟨⟨⟨u, reached⟩, still⟩, paid⟩ := part.within_potential
    (fun s => (∃ u, Runs (step endpoint) anyStep (init capacity router cap) s (t ++ u)) ∧ Winding s k) (weight k)
    (fun a => a.ofTasks k) ⟨⟨[], by rwa [List.append_nil]⟩, winding⟩ (by
      rintro s a s' es ⟨⟨u, reached⟩, winding⟩ stepped
      obtain ⟨next, paid⟩ := winding.step reached stepped
      exact ⟨⟨⟨u ++ es, List.append_assoc t u es ▸ reached.step trivial stepped⟩, next⟩, paid⟩)
  refine ⟨?_, paid, fun left => enabled_of_left reached still.deserted left⟩
  rw [← Bool.not_eq_true, Relay.hasSender_iff]
  exact still.deserted.nobody

/-- The client of `reception` leaves, with one frame on its way. -/
def left : WsServer ℚ Unit BaseMessage String × List (WsEvent ℚ Unit BaseMessage) :=
  outcome (step .probe) (init 4 .affinity 8)
    (reception ++ [.frame 0 none .nil, .deregister 0, .relay (.desk (.world .takeCmd))])

theorem left_runs : Runs (step .probe) anyStep (init 4 .affinity 8) left.1 left.2 := runs_outcome_any _ rfl

def windingDown : List (WsServerAction ℚ Unit BaseMessage String) :=
  [.forward 0 .leave, .writer 0 .receive, .writer 0 .send, .writer 0 .leave]

theorem tasks_wind_down_left :
    (outcome (logged (step .probe)) left.1 windingDown).2.countP (fun a => a.ofTasks 0) +
      weight 0 (outcome (logged (step .probe)) left.1 windingDown).1 ≤ 4 :=
  (tasks_wind_down left_runs (k := 0) (Option.some_ne_none _) rfl rfl (runs_outcome_any windingDown rfl)).2.1

/-! ## Nothing is left unwritten -/

/-- The sends on channel `k` that ended. -/
def endedOn (k : Nat) (t : List (WsEvent F I M)) : List BusableItem := itemsOn k ended? (t.filterMap WsEvent.relay?)

omit [F32 F] [Inhabited I] [BoxedMessage M] in
@[simp] theorem endedOn_append (k : Nat) (t es : List (WsEvent F I M)) :
    endedOn k (t ++ es) = endedOn k t ++ endedOn k es := by
  simp only [endedOn, List.filterMap_append, RelayEvent.itemsOn_append]

/-- A task that is gone has nothing left to do. -/
structure Finishing (endpoint : WsEndpoint) (s : WsServer F I M L) (t : List (WsEvent F I M)) (k : Nat) : Prop where
  forward : (s.outbounds k).forward = none → receivedOn k t = endedOn k t
  writer : (s.outbounds k).writer = none →
    (s.outbounds k).forward = none ∧ writtenOn k t = (receivedOn k t).map endpoint.encodeItem

theorem Finishing.step {k : Nat} (finishing : Finishing endpoint s t k) (winding : Winding s k)
    (runs : Runs (step endpoint) ok (init capacity router cap) s t) (holds : a ≠ .writer k .fail)
    (stepped : s.step endpoint a = some (s', es)) : Finishing endpoint s' (t ++ es) k := by
  have move := move_of_step stepped
  have noneEnded : endedOn k es = [] := (winding.deserted.leads (relay_runs runs) (simulates stepped)).ended
  have quiet : a ≠ .forward k .receive → receivedOn k es = [] := by
    intro other
    apply receivedOn_eq_nil
    intro item received
    rcases move.received_cases received with same | nobody
    · exact other same
    · exact winding.connected nobody
  by_cases own : a.task? = some k
  swap
  · obtain ⟨same, noneWritten⟩ := move.tasks_stay own
    have noneReceived := quiet (by rintro rfl; exact own rfl)
    constructor
    · rw [same, receivedOn_append, endedOn_append, noneReceived, noneEnded, List.append_nil, List.append_nil]
      exact finishing.forward
    · rw [same, writtenOn_append, receivedOn_append, noneWritten, noneReceived, List.append_nil, List.append_nil]
      exact finishing.writer
  cases move with
  | answered registering reply relayed =>
      cases own
      obtain ⟨id, received⟩ := winding.answered
      cases reply.symm.trans received
  | forwardReceived task relayed =>
      cases own
      constructor
      · intro gone
        simp at gone
      · intro gone
        have before := (finishing.writer (by simpa using gone)).1
        cases task.symm.trans before
  | forwardSent task held sent =>
      cases own
      constructor
      · intro gone
        simp at gone
      · intro gone
        have before := (finishing.writer (by simpa using gone)).1
        cases task.symm.trans before
  | forwardFailed task gone =>
      cases own
      cases task.symm.trans (finishing.writer gone).1
  | @forwardOver k task empty noSender =>
      cases own
      have piped := Relay.piped (relay_runs runs) k
      rw [Relay.Piped, empty, open_of_listening runs k (Or.inr (by simp [task]))] at piped
      have all : receivedOn k t = endedOn k t := by
        have whole := piped.whole rfl
        rwa [List.append_nil] at whole
      constructor
      · intro _
        rw [List.append_nil]
        exact all
      · intro gone
        have before := (finishing.writer (by simpa using gone)).1
        cases task.symm.trans before
  | writerReceived task front =>
      cases own
      rw [List.append_nil]
      constructor
      · intro gone
        exact finishing.forward (by simpa using gone)
      · intro gone
        simp at gone
  | @wrote k b task =>
      cases own
      constructor
      · intro gone
        have before := finishing.forward (by simpa using gone)
        rw [receivedOn_append, endedOn_append, before]
        rfl
      · intro gone
        simp at gone
  | writerFailed task =>
      cases own
      exact absurd rfl holds
  | writerOver task empty noSender =>
      cases own
      rw [List.append_nil]
      constructor
      · intro gone
        exact finishing.forward (by simpa using gone)
      · intro _
        have whole := (passing runs _).whole (by rw [task]; exact Option.some_ne_none _)
        refine ⟨by simpa using noSender, ?_⟩
        rw [← whole]
        simp [WsOutbound.held, task, empty, noSender, WsWriter.inHand]
  | _ => cases own

def ended : WsServer ℚ Unit BaseMessage String × List (WsEvent ℚ Unit BaseMessage) :=
  outcome (step .probe) left.1 windingDown

end WsServer

end Jackfield
