/-
# Jackfield.Endpoint.Progress -- whether `dispatch` can go on without its clients

A channel consumer is `available` as long as its receiver exists, whether or not
anybody receives, and `consume` waits for room in the channel.  So while `dispatch`
runs and has work, it can always go on by itself except in one kind of state: it
waits in `consume` for room in a full channel whose receiver is still there
(`serves_iff_roomy`).  It gets there by choosing a consumer whose channel is full,
and in no other way (`bus_keeps_going`).
-/
import Jackfield.Bus.Stranding
import Jackfield.Endpoint.Delivery

namespace Jackfield

set_option autoImplicit false

variable {F I M L : Type}

open Machine

/-- The steps the task of the bus takes by itself. -/
def RelayAction.ofBus : RelayAction F I M L → Bool
  | .takeEnvelope _ => true
  | .resume _ => true
  | .desk (.world .takeCmd) => true
  | .desk (.world .advance) => true
  | _ => false

namespace Relay

/-- An envelope is being consumed or waits in the channel of the bus. -/
def Busy (s : Relay F I M L) : Prop :=
  (∃ loop resume, s.desk.world.control = .consuming loop resume) ∨ s.desk.world.bus.rx.buf ≠ []

/-- If the bus waits for room in a channel, there is some, or the receiver is gone. -/
def Roomy (s : Relay F I M L) : Prop :=
  ∀ r item, s.inFlight = some (r, item) → (s.pipes r).live = true →
    (s.pipes r).items.buf.length < (s.pipes r).items.capacity

variable [F32 F] [Message M]

/-- While `dispatch` runs and has work, it can take a step by itself. -/
def Serves (s : Relay F I M L) : Prop :=
  World.InDispatch s.desk.world → Busy s → ∃ a, RelayAction.ofBus a = true ∧ (s.step a).isSome = true

/-- The consumer that `dispatch` is about to hand an envelope has room in its channel,
if it is a channel consumer. -/
def RoomFor (s : Relay F I M L) (_ : List (RelayEvent M)) (a : RelayAction F I M L) : Prop :=
  ∀ consumer e rest i entry r, a = .takeEnvelope consumer →
    s.desk.world.control = .running .dispatch → s.desk.world.bus.rx.buf = e :: rest →
    s.desk.world.bus.router.Chosen (s.answers consumer) s.desk.world.bus.registry e i entry →
    entry.consumer = ⟨some r, .channel⟩ →
      (s.pipes r).items.buf.length < (s.pipes r).items.capacity

/-! ## One state -/

/-- A waiting `dispatch` takes an envelope if there is one. -/
theorem takeEnvelope_enabled {s : Relay F I M L} (live : s.desk.closed = false)
    (waiting : s.desk.world.control = .running .dispatch) (unread : s.desk.world.bus.rx.buf ≠ [])
    (consumer : Consumer (Stamped M) L) : (s.step (.takeEnvelope consumer)).isSome = true := by
  have received : (s.desk.world.bus.rx.tryRecv).isSome = true := by
    cases found : s.desk.world.bus.rx.tryRecv with
    | none => exact absurd (Channel.tryRecv_eq_none_iff.mp found) unread
    | some next => rfl
  simp [step, Desk.step, live, Action.plain, World.step, World.next, waiting, received]

/-- A suspended `consume` can return unless it waits for room. -/
theorem resume_enabled_iff {s : Relay F I M L} (live : s.desk.closed = false) {loop : Loop M}
    {resume : Nat → Registry F I (Stamped M) (Boxed (Plug L))}
    (consuming : s.desk.world.control = .consuming loop resume) (latency : Nat) :
    (s.step (.resume latency)).isSome = true ↔ Roomy s := by
  have resumes : (s.desk.step (.world (.resume latency))).isSome = true := by
    simp [Desk.step, live, Action.plain, World.step, consuming]
  cases sending : s.inFlight with
  | none =>
      apply iff_of_true
      · simpa [step, sending] using resumes
      · intro r item sending'
        cases sending.symm.trans sending'
  | some send =>
      obtain ⟨r, item⟩ := send
      have roomy : Roomy s ↔ ((s.pipes r).live = true →
          (s.pipes r).items.buf.length < (s.pipes r).items.capacity) := by
        constructor
        · intro roomy
          exact roomy r item sending
        · intro room r' item' sending'
          cases sending.symm.trans sending'
          exact room
      rw [roomy]
      by_cases receiver : (s.pipes r).live = true
      · by_cases room : (s.pipes r).items.buf.length < (s.pipes r).items.capacity
        · obtain ⟨items, sent⟩ := Option.isSome_iff_exists.mp (Channel.send_isSome (a := item) room)
          apply iff_of_true
          · simpa [step, sending, receiver, sent] using resumes
          · exact fun _ => room
        · have waits := Channel.send_eq_none (a := item) (Nat.le_of_not_lt room)
          apply iff_of_false
          · simp [step, sending, receiver, waits]
          · exact fun roomy => room (roomy receiver)
      · apply iff_of_true
        · simpa [step, sending, receiver] using resumes
        · exact fun receiver' => absurd receiver' receiver

/-- **With work, `dispatch` can go on exactly unless it waits for room.** -/
theorem serves_iff_roomy {s : Relay F I M L} (awaited : SendAwaited s)
    (closedIdle : s.desk.closed = true → s.desk.world.control = .idle)
    (inDispatch : World.InDispatch s.desk.world) : Serves s ↔ Roomy s := by
  have live : s.desk.closed = false := by
    by_contra closed
    exact World.not_inDispatch_of_idle (closedIdle (by simpa using closed)) inDispatch
  rcases inDispatch with waiting | ⟨resume, consuming⟩
  · apply iff_of_true
    · intro _ busy
      rcases busy with ⟨loop, resume, consuming⟩ | unread
      · cases waiting.symm.trans consuming
      · exact ⟨.takeEnvelope ⟨fun _ => false, fun _ _ => false⟩, rfl,
          takeEnvelope_enabled live waiting unread _⟩
    · intro r item sending
      obtain ⟨loop, resume, consuming⟩ := awaited (by rw [sending]; exact Option.some_ne_none _)
      cases waiting.symm.trans consuming
  · constructor
    · intro serves
      obtain ⟨a, own, enabled⟩ := serves (Or.inr ⟨resume, consuming⟩) (Or.inl ⟨_, resume, consuming⟩)
      -- suspended in `consume`, the bus can do nothing but return from it
      cases a with
      | resume latency => exact (resume_enabled_iff live consuming latency).mp enabled
      | takeEnvelope consumer => simp [step, Desk.step, World.step, World.next, consuming] at enabled
      | desk a =>
          cases a with
          | world a =>
              cases a with
              | takeCmd => simp [step, Desk.step, World.step, consuming] at enabled
              | advance => simp [step, Desk.step, World.step, World.advance, consuming] at enabled
              | _ => cases own
          | _ => cases own
      | _ => cases own
    · intro roomy _ _
      exact ⟨.resume 0, rfl, (resume_enabled_iff live consuming 0).mpr roomy⟩

/-! ## One step -/

omit [Message M] in
/-- Only taking an envelope suspends the bus in `consume`. -/
theorem consuming_before {w w' : World F I M (Boxed (Plug L))} {a : Action F I M (Boxed (Plug L))}
    {es : List (Event M)} (move : World.Move w a w' es) (other : ∀ consumer, a ≠ .takeEnvelope consumer)
    {loop : Loop M} {resume : Nat → Registry F I (Stamped M) (Boxed (Plug L))}
    (consuming : w'.control = .consuming loop resume) : w.control = .consuming loop resume := by
  cases move with
  | handed taken member eligible shape => exact absurd rfl (other _)
  | returned taken shape nobody => exact absurd rfl (other _)
  | drain idle => cases consuming
  | dispatch idle => cases consuming
  | tookPending running empty => cases consuming
  | pendingDone running => cases consuming
  | finished running done => cases consuming
  | resumed consuming' => cases consuming
  | dropped suspended => cases consuming
  | _ => exact consuming

theorem desk_consuming_before {d d' : Desk F I M (Plug L)} {a : DeskAction F I M (Plug L)}
    {es : List (Event M)} (stepped : d.step a = some (d', es)) (apart : a.aside = true) {loop : Loop M}
    {resume : Nat → Registry F I (Stamped M) (Boxed (Plug L))}
    (consuming : d'.world.control = .consuming loop resume) : d.world.control = .consuming loop resume := by
  cases Desk.move_of_step stepped with
  | worked live plain worked =>
      apply consuming_before (World.move_of_step worked) _ consuming
      rintro consumer rfl
      cases apart
  | _ => exact consuming

omit [F32 F] [Message M] in
theorem Roomy.setPipe {s : Relay F I M L} (roomy : Roomy s) {r : Nat} {pipe : Pipe}
    (room : ∀ item, s.inFlight = some (r, item) → pipe.live = true →
      pipe.items.buf.length < pipe.items.capacity) : Roomy (s.setPipe r pipe) := by
  intro r' item sending live
  rw [setPipe_pipes] at live ⊢
  by_cases same : r' = r
  · subst same
    rw [if_pos rfl] at live ⊢
    exact room item sending live
  · rw [if_neg same] at live ⊢
    exact roomy r' item sending live

/-- Taking an envelope keeps room exactly if the consumer it goes to has some. -/
theorem roomy_iff_of_routed {s : Relay F I M L} {consumer : Consumer (Stamped M) L} {desk : Desk F I M (Plug L)}
    {send : Option (Nat × BusableItem)} {es : List (Event M)} (t : List (RelayEvent M))
    (stepped : s.desk.step (.world (.takeEnvelope (s.answers consumer))) = some (desk, es))
    (begun : send = sendOf (s.desk.world.recipient (s.answers consumer)))
    (inDispatch : World.InDispatch desk.world) :
    Roomy { s with desk := desk, inFlight := send } ↔ RoomFor s t (.takeEnvelope consumer) := by
  obtain ⟨-, taken, -, -⟩ := Desk.world_step stepped
  rcases World.takeEnvelope_cases taken with
    ⟨entry, e, bus, loop, resume, next, who, -, consuming⟩ | ⟨nobody, -⟩
  · have isDispatch : loop = .dispatch := by
      rcases inDispatch with waiting | ⟨resume', consuming'⟩
      · cases consuming.symm.trans waiting
      · cases consuming.symm.trans consuming'
        rfl
    subst isDispatch
    have waiting := World.running_of_next_dispatch next
    obtain ⟨rest, front⟩ : ∃ rest, s.desk.world.bus.rx.buf = e :: rest := by
      rcases World.next_cases next with ⟨rest, -, same, -⟩ | ⟨rx, -, -, front, -⟩
      · cases same
      · exact ⟨_, front⟩
    have chosen := (World.recipient_eq_some_iff.mp who).2
    rw [who] at begun
    constructor
    · -- the chosen consumer is the recipient, and its receiver is there
      intro roomyAfter consumer' e' rest' i entry' r isTaken _ front' chosen' isChannel
      cases isTaken
      cases front.symm.trans front'
      cases who.symm.trans (World.recipient_of_chosen waiting front chosen')
      have isSend : send = some (r, .ofMessage e.message) := by
        rw [begun]
        obtain ⟨id, boxed, dims⟩ := entry
        cases isChannel
        rfl
      have available := chosen'.eligible.available
      rw [isChannel] at available
      exact roomyAfter r _ isSend available
    · intro roomFor r item sending live
      obtain ⟨entry', e', same, isChannel, -⟩ := sendOf_eq_some (begun.symm.trans sending)
      cases same
      obtain ⟨i, chosen⟩ := chosen
      exact roomFor consumer e rest i entry r rfl waiting front chosen isChannel
  · apply iff_of_true
    · intro r item sending
      rw [nobody] at begun
      cases begun.symm.trans sending
    · intro consumer' e rest i entry r isTaken waiting front chosen isChannel
      cases isTaken
      cases nobody.symm.trans (World.recipient_of_chosen waiting front chosen)

/-- **A step of `dispatch` keeps room exactly if it chooses a consumer with room.** -/
theorem Move.roomy_iff {s s' : Relay F I M L} {a : RelayAction F I M L} {es : List (RelayEvent M)}
    (move : Move s a s' es) (t : List (RelayEvent M))
    (roomy : World.InDispatch s.desk.world → Roomy s) (inDispatch : World.InDispatch s'.desk.world) :
    Roomy s' ↔ RoomFor s t a := by
  have other : (∀ consumer, a ≠ .takeEnvelope consumer) → RoomFor s t a := by
    intro notTaken consumer e rest i entry r isTaken
    exact absurd isTaken (notTaken consumer)
  cases move with
  | pluggedIn fresh =>
      refine iff_of_true ?_ (other (by simp))
      have still : Roomy s := roomy inDispatch
      exact Roomy.setPipe (s := { s with desk := _ }) still fun _ _ _ => Nat.succ_pos 255
  | @received r item items live front =>
      refine iff_of_true ?_ (other (by simp))
      apply (roomy inDispatch).setPipe
      intro item' sending _
      have room := roomy inDispatch r item' sending live
      rw [Channel.tryRecv_buf front, List.length_cons] at room
      show items.buf.length < items.capacity
      rw [Channel.tryRecv_capacity front]
      omega
  | unplugged live =>
      refine iff_of_true ?_ (other (by simp))
      exact (roomy inDispatch).setPipe fun _ _ _ => Nat.succ_pos 255
  | routed stepped begun => exact roomy_iff_of_routed t stepped begun inDispatch
  | resumed elsewhere stepped =>
      refine iff_of_true ?_ (other (by simp))
      intro r item sending
      cases elsewhere.symm.trans sending
  | delivered sending live sent stepped =>
      refine iff_of_true ?_ (other (by simp))
      intro r item stillSending
      cases stillSending
  | refused sending gone stepped =>
      refine iff_of_true ?_ (other (by simp))
      intro r item stillSending
      cases stillSending
  | @aside a desk es apart stepped =>
      refine iff_of_true ?_ (other (by simp))
      rw [(after_desk s desk es).1] at inDispatch
      intro r item sending live
      rw [(after_desk s desk es).2] at live ⊢
      unfold after at sending
      split at sending
      · rename_i loop resume consuming
        have before : World.InDispatch s.desk.world := by
          rcases inDispatch with waiting | ⟨resume', consuming'⟩
          · cases waiting.symm.trans consuming
          · exact Or.inr ⟨resume', desk_consuming_before stepped apart consuming'⟩
        exact roomy before r item sending live
      · cases sending

/-! ## Whole runs -/

variable {capacity cap : Nat} {router : Router} {s : Relay F I M L} {t : List (RelayEvent M)}

theorem roomy (runs : Runs step RoomFor (init capacity router cap) s t) :
    World.InDispatch s.desk.world → Roomy s := by
  apply runs.invariant (P := fun s _ => World.InDispatch s.desk.world → Roomy s)
  · intro _ r item sending
    cases sending
  · intro s t a s' es ih allowed stepped inDispatch
    exact ((move_of_step stepped).roomy_iff t ih inDispatch).mpr allowed

/-- **`dispatch` goes on without its clients exactly as long as it chooses consumers
with room.**  In every interleaving in which each envelope `dispatch` takes goes to a
consumer whose channel, if it has one, is not full: whenever `dispatch` has work, it
can take a step by itself.  And of the steps possible there, exactly those meeting the
condition keep it so. -/
theorem bus_keeps_going (runs : Runs step RoomFor (init capacity router cap) s t) :
    Serves s ∧ ∀ a s' es, s.step a = some (s', es) → (RoomFor s t a ↔ Serves s') := by
  have served : ∀ {ok : Relay F I M L → List (RelayEvent M) → RelayAction F I M L → Prop}
      {s : Relay F I M L} {t : List (RelayEvent M)}, Runs step ok (init capacity router cap) s t →
      World.InDispatch s.desk.world → (Serves s ↔ Roomy s) := by
    intro ok s t runs inDispatch
    exact serves_iff_roomy (sendAwaited runs) (Desk.closed_idle (desk_runs runs)) inDispatch
  constructor
  · by_cases inDispatch : World.InDispatch s.desk.world
    · exact (served runs inDispatch).mpr (roomy runs inDispatch)
    · intro now
      exact absurd now inDispatch
  · intro a s' es stepped
    have move := move_of_step stepped
    by_cases inDispatch : World.InDispatch s'.desk.world
    · have after : Runs step anyStep (init capacity router cap) s' (t ++ es) :=
        (runs.mono_reached fun _ _ _ _ _ => trivial).step trivial stepped
      rw [served after inDispatch]
      exact (move.roomy_iff t (roomy runs) inDispatch).symm
    · apply iff_of_true
      · intro consumer e rest i entry r isTaken waiting front chosen isChannel
        subst isTaken
        have who := World.recipient_of_chosen waiting front chosen
        obtain ⟨bus, next⟩ := World.next_of_waiting waiting front
        cases move with
        | routed desks begun =>
            obtain ⟨-, taken, -, -⟩ := Desk.world_step desks
            rcases World.takeEnvelope_cases taken with
              ⟨entry', e', bus', loop, resume, next', -, -, consuming⟩ | ⟨nobody, -⟩
            · cases next.symm.trans next'
              exact absurd (Or.inr ⟨resume, consuming⟩) inDispatch
            · cases nobody.symm.trans who
      · intro now
        exact absurd now inDispatch

/-! ## A client that never reads -/

open World (ping obliging)

/-- `dispatch` waits with one consumer registered, whose channel holds `items`. -/
def stuffed (sent : Nat) (calls : Nat → Call ℚ Unit BaseMessage (Plug String))
    (items : Channel BusableItem) : Relay ℚ Unit BaseMessage String where
  desk :=
    { world :=
        { bus :=
            { rx := .new 4
              cmdRx := .new 64
              router := .blind
              registry := ⟨[⟨0, ⟨some 0, .channel⟩, []⟩], 1⟩
              pending := []
              maxPending := 8 }
          control := .running .dispatch
          sent := sent }
      calls := calls
      closed := false }
  pipes := Function.update (fun _ => .dead) 0 ⟨items, true⟩
  inFlight := none

/-- One message more, and `dispatch` waits in `consume`. -/
def stuffing (sent : Nat) (calls : Nat → Call ℚ Unit BaseMessage (Plug String))
    (items : Channel BusableItem) : Relay ℚ Unit BaseMessage String × List (RelayEvent BaseMessage) :=
  outcome step (stuffed sent calls items)
    [.desk (.world (.send ⟨"radio"⟩ ping)), .takeEnvelope obliging]

theorem stuffing_eq (sent : Nat) (calls : Nat → Call ℚ Unit BaseMessage (Plug String))
    (items : Channel BusableItem) :
    exec step (stuffed sent calls items)
      [.desk (.world (.send ⟨"radio"⟩ ping)), .takeEnvelope obliging] =
      some (stuffing sent calls items) := rfl

/-- While there is room, `consume` returns and the item is in the channel. -/
theorem stuffing_resumes (sent : Nat) (calls : Nat → Call ℚ Unit BaseMessage (Plug String))
    {items items' : Channel BusableItem} (room : items.send (.ofMessage ping) = some items') :
    ∃ calls' es, (stuffing sent calls items).1.step (.resume 0) =
      some (stuffed (sent + 1) calls' items', es) := by
  have sending : (stuffing sent calls items).1.inFlight = some (0, .ofMessage ping) := rfl
  have pipe : (stuffing sent calls items).1.pipes 0 = ⟨items, true⟩ := rfl
  have filled : Function.update (stuffing sent calls items).1.pipes 0 ⟨items', true⟩ =
      Function.update (fun _ => Pipe.dead) 0 ⟨items', true⟩ := Function.update_idem ..
  refine ⟨Desk.answered (stuffing sent calls items).1.desk.calls [], [.delivered 0 (.ofMessage ping)], ?_⟩
  rw [stuffed, ← filled]
  simp only [step, sending, pipe, room]
  rfl

/-- Messages sent to a client that never reads fill its channel. -/
theorem fills (n : Nat) (fits : n ≤ 256) :
    ∃ sent calls items t, Runs step anyStep (init 4 .blind 8) (stuffed sent calls items) t ∧
      items.buf.length = n ∧ items.capacity = 256 := by
  induction n with
  | zero =>
      let registering : List (RelayAction ℚ Unit BaseMessage String) :=
        [.plugIn 0 [], .desk (.submit 0), .desk (.world .dispatch), .desk (.world .takeCmd)]
      exact ⟨0, _, .new 256, _, runs_outcome_any registering rfl, rfl, rfl⟩
  | succ n ih =>
      obtain ⟨sent, calls, items, t, runs, length, capacity⟩ := ih (by omega)
      have room : items.buf.length < items.capacity := by omega
      obtain ⟨items', sends⟩ := Option.isSome_iff_exists.mp (Channel.send_isSome (a := .ofMessage ping) room)
      obtain ⟨calls', es, resumes⟩ := stuffing_resumes sent calls sends
      have waiting := runs.exec _ (fun _ _ => trivial) (stuffing_eq sent calls items)
      refine ⟨sent + 1, calls', items', _, waiting.act (.resume 0) trivial resumes, ?_, ?_⟩
      · rw [Channel.send_buf sends, List.length_append, length]
        rfl
      · rw [Channel.send_capacity sends, capacity]

/-- After 257 messages, `dispatch` waits for the client. -/
theorem silent_client_stops_dispatch :
    ∃ s t, Runs step anyStep (init 4 .blind 8 : Relay ℚ Unit BaseMessage String) s t ∧ ¬ Serves s := by
  obtain ⟨sent, calls, items, t, runs, length, capacity⟩ := fills 256 (Nat.le_refl 256)
  have waiting := runs.exec _ (fun _ _ => trivial) (stuffing_eq sent calls items)
  refine ⟨_, _, waiting, ?_⟩
  rw [serves_iff_roomy (sendAwaited waiting) (Desk.closed_idle (desk_runs waiting)) (Or.inr ⟨_, rfl⟩)]
  intro roomy
  have room : items.buf.length < items.capacity := roomy 0 (.ofMessage ping) rfl rfl
  omega

/-- Every registered channel has room. -/
def allRoomy (s : Relay F I M L) (_ : List (RelayEvent M)) (_ : RelayAction F I M L) : Bool :=
  s.desk.world.bus.registry.entries.all fun entry => entry.consumer.call.all fun r =>
    decide ((s.pipes r).items.buf.length < (s.pipes r).items.capacity)

omit [Message M] in
theorem roomFor_of_allRoomy (s : Relay F I M L) (t : List (RelayEvent M)) (a : RelayAction F I M L)
    (passes : allRoomy s t a = true) : RoomFor s t a := by
  intro consumer e rest i entry r _ _ _ chosen isChannel
  have own := List.all_eq_true.mp passes entry (List.mem_of_getElem? chosen.found)
  rw [isChannel] at own
  exact of_decide_eq_true own

/-- `dispatch` is suspended in `consume`, and its client has read nothing yet. -/
def halfway : Relay ℚ Unit BaseMessage String × List (RelayEvent BaseMessage) :=
  outcome step (init 4 .affinity 8) handOver

theorem bus_keeps_going_halfway : Serves halfway.1 := by
  have runs : Runs step RoomFor (init 4 .affinity 8) halfway.1 halfway.2 :=
    runs_outcome handOver allRoomy roomFor_of_allRoomy rfl rfl
  exact (bus_keeps_going runs).1

end Relay

end Jackfield
