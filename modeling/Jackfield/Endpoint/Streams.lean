/-
# Jackfield.Endpoint.Streams -- what a client is sent

The channel of a Register call is with its handler, then with its entry, and at last with
one forwarding task; nothing receives from it before that task, and nothing else does
(`Streaming`).  The task sends each item before it receives the next one, so the items
put on the response stream are those received, except the one in its hand.

With what `Pipes` says of a channel, the items streamed for a Register call are a prefix of
the messages the bus handed to its consumer (`streams_in_order`): in order, without gaps,
and each once.
-/
import Jackfield.Endpoint.Cleanup
import Jackfield.Endpoint.Pipes
import Jackfield.Endpoint.Provenance

namespace Jackfield

set_option autoImplicit false
set_option linter.unusedSectionVars false

variable {F I M L Addr : Type}

open Machine
open RelayEvent (itemsOn received? ended? offered? handedTo)

def GrpcEvent.streamed? : GrpcEvent M Addr → Option (Nat × BusableItem)
  | .streamed r item => some (r, item)
  | _ => none

/-- The items that a forwarding task whose loop runs has received and not sent. -/
def ForwardPhase.inHand? : ForwardPhase → Option (List BusableItem)
  | .receiving => some []
  | .sending item => some [item]
  | _ => none

namespace Grpc

/-- The items of channel `r` that were put on a response stream. -/
def streamedOn (r : Nat) (t : List (GrpcEvent M Addr)) : List BusableItem :=
  (t.filterMap GrpcEvent.streamed?).filterMap (onChannel r)

/-- The items that were received from channel `r`. -/
def receivedOn (r : Nat) (t : List (GrpcEvent M Addr)) : List BusableItem :=
  itemsOn r received? (t.filterMap GrpcEvent.relay?)

@[simp] theorem streamedOn_append (r : Nat) (t es : List (GrpcEvent M Addr)) :
    streamedOn r (t ++ es) = streamedOn r t ++ streamedOn r es := by
  simp only [streamedOn, List.filterMap_append]

@[simp] theorem receivedOn_append (r : Nat) (t es : List (GrpcEvent M Addr)) :
    receivedOn r (t ++ es) = receivedOn r t ++ receivedOn r es := by
  simp only [receivedOn, List.filterMap_append, RelayEvent.itemsOn_append]

theorem streamedOn_eq_nil {r : Nat} {es : List (GrpcEvent M Addr)} (none : ∀ item, .streamed r item ∉ es) :
    streamedOn r es = [] := by
  rw [streamedOn, List.filterMap_filterMap, List.filterMap_eq_nil_iff]
  intro e member
  cases e with
  | streamed r' item =>
      apply onChannel_of_ne
      rintro rfl
      exact none item member
  | _ => rfl

theorem receivedOn_eq_nil {r : Nat} {es : List (GrpcEvent M Addr)}
    (none : ∀ item, .relay (.received r item) ∉ es) : receivedOn r es = [] := by
  rw [receivedOn, itemsOn, List.filterMap_filterMap, List.filterMap_filterMap, List.filterMap_eq_nil_iff]
  intro e member
  cases e with
  | relay below =>
      cases below with
      | received r' item =>
          apply onChannel_of_ne
          rintro rfl
          exact none item member
      | _ => rfl
  | _ => rfl

variable [DecidableEq Addr] [F32 F] [Inhabited I] [BoxedMessage M] {service : GrpcService}
  {s s' : Grpc F I M L Addr} {a : GrpcAction F I M L Addr} {t es : List (GrpcEvent M Addr)}

/-! ## Who receives, and who sends -/

/-- A task that receives has the item in its hand. -/
theorem received_of_step {m : Nat} (stepped : s.step service (.forward m .receive) = some (s', es)) :
    ∃ f item, s.forwards m = some f ∧ f.phase = .receiving ∧
      s'.forwards = Function.update s.forwards m (some { f with phase := .sending item }) ∧
      es = [.relay (.received f.rx item)] := by
  simp only [step] at stepped
  split at stepped
  · cases stepped
  · rename_i f task
    cases phase : f.phase with
    | receiving =>
        simp only [forwardStep, phase] at stepped
        split at stepped
        · cases stepped
        · rename_i item rest front
          obtain ⟨⟨next, below⟩, received, same⟩ := Option.map_eq_some_iff.mp stepped
          obtain ⟨relay, below', relayed, rfl, rfl⟩ := relayStep_eq_some received
          cases same
          cases Relay.move_of_step relayed with
          | received live front' =>
              cases front.symm.trans front'
              exact ⟨f, item, task, phase, rfl, rfl⟩
    | _ => simp [forwardStep, phase] at stepped

/-- An item is received by the forwarding task that has its channel, or is another endpoint's. -/
theorem Move.received_cases (move : Move service s a s' es) {r : Nat} {item : BusableItem}
    (received : GrpcEvent.relay (.received r item) ∈ es) :
    (∃ m f, a = .forward m .receive ∧ s.forwards m = some f ∧ f.rx = r) ∨
      s.callers r = none ∧ ∃ c, a = .relay c := by
  obtain ⟨c, relay, below, stepped, member, relayed⟩ := move.relay_cases received
  have isReceive := (Relay.move_of_step stepped).receive_of_received member
  cases relayed with
  | @received m f task =>
      cases isReceive
      exact Or.inl ⟨m, f, rfl, task, rfl⟩
  | other others =>
      cases isReceive
      exact Or.inr ⟨others r rfl, _, rfl⟩
  | _ => cases isReceive

/-- A task that sends has had the item in its hand. -/
theorem Move.sent_cases {m : Nat} (move : Move service s (.forward m .send) s' es) :
    ∃ f item, s.forwards m = some f ∧ f.phase = .sending item ∧
      s'.forwards = Function.update s.forwards m (some { f with phase := .receiving }) ∧
      es = [.streamed f.rx item] := by
  cases move with
  | forwardSent task phase sent => exact ⟨_, _, task, phase, rfl, rfl⟩

theorem Move.streamed_cases (move : Move service s a s' es) {r : Nat} {item : BusableItem}
    (streamed : GrpcEvent.streamed r item ∈ es) : ∃ m, a = .forward m .send := by
  have noCommand : ∀ {addr id relay below}, Commanded s addr id relay below → .streamed r item ∉ below :=
    fun sent => sent.silent (by simp) (by simp)
  cases move with
  | @forwardSent m f item items task phase sent => exact ⟨m, rfl⟩
  | commanded serving sent => simp [noCommand sent] at streamed
  | forwardCommanded task phase sent => exact absurd streamed (noCommand sent)
  | _ => simp at streamed

/-- In any other step, a task whose loop runs is as it was, or new. -/
theorem Move.looping_cases (move : Move service s a s' es) {m : Nat} {f : Forward Addr} {l : List BusableItem}
    (task : s'.forwards m = some f) (looping : f.phase.inHand? = some l) :
    (∃ m', a = .forward m' .receive ∨ a = .forward m' .send) ∨ s.forwards m = some f ∨
      l = [] ∧ ∃ entry, s.endpoints f.addr = some entry ∧ entry.consumerRx = some f.rx := by
  cases move with
  | @opened m' conn addr entry connected free occupied =>
      rcases cases_of_update task with ⟨rfl, new⟩ | was
      · obtain ⟨rx, holds, isForward⟩ := Option.map_eq_some_iff.mp new
        cases isForward
        cases looping
        exact Or.inr (Or.inr ⟨rfl, entry, occupied, holds⟩)
      · exact Or.inr (Or.inl was)
  | @forwardReceived m' old item relay below was phase stepped => exact Or.inl ⟨m', Or.inl rfl⟩
  | @forwardSent m' old item items was phase sent => exact Or.inl ⟨m', Or.inr rfl⟩
  | @forwardLeft m' old was ran =>
      rcases cases_of_update task with ⟨rfl, new⟩ | was
      · cases new
        simp only [Forward.over] at looping
        split at looping <;> cases looping
      · exact Or.inr (Or.inl was)
  | @forwardCommanded m' id old relay below was phase sent =>
      rcases cases_of_update task with ⟨rfl, new⟩ | was
      · cases new
        cases looping
      · exact Or.inr (Or.inl was)
  | @forwardRemoved m' old was phase =>
      rcases cases_of_update task with ⟨rfl, new⟩ | was
      · cases new
      · exact Or.inr (Or.inl was)
  | _ => exact Or.inr (Or.inl task)

/-! ## Who has a channel -/

/-- No stream has the channel, and nothing was received from it. -/
structure Untaken (s : Grpc F I M L Addr) (t : List (GrpcEvent M Addr)) (r : Nat) : Prop where
  alone : ∀ m f, s.forwards m = some f → f.rx ≠ r
  unread : receivedOn r t = []

/-- A channel is with the handler of its call, or with its entry, until one stream takes it
and sends what it receives. -/
structure Streaming (s : Grpc F I M L Addr) (t : List (GrpcEvent M Addr)) : Prop where
  served : ∀ n h, s.handlers n = some h → Untaken s t n
  entry : ∀ addr entry r, s.endpoints addr = some entry → entry.consumerRx = some r →
    Untaken s t r ∧ s.handlers r = none
  single : ∀ m m' f f', s.forwards m = some f → s.forwards m' = some f' → f.rx = f'.rx → m = m'
  sending : ∀ m f l, s.forwards m = some f → f.phase.inHand? = some l →
    streamedOn f.rx t ++ l = receivedOn f.rx t
  behind : ∀ r, streamedOn r t <+: receivedOn r t

/-- A channel stays untaken until its entry's stream is opened. -/
theorem Untaken.step {r : Nat} (untaken : Untaken s t r) (move : Move service s a s' es)
    (made : s.callers r ≠ none) (unopened : ∀ m addr entry, a = .stream m addr → s.endpoints addr = some entry →
      entry.consumerRx ≠ some r) : Untaken s' (t ++ es) r := by
  constructor
  · intro m f task
    rcases move.forward_cases task with ⟨old, was, isOld, -⟩ | ⟨isStream, entry, occupied, -, holds, -⟩
    · rw [isOld]
      exact untaken.alone m old was
    · rintro rfl
      exact unopened m f.addr entry isStream occupied holds
  · have silent : receivedOn r es = [] := by
      apply receivedOn_eq_nil
      intro item received
      rcases move.received_cases received with ⟨m, f, -, task, own⟩ | ⟨others, -⟩
      · exact untaken.alone m f task own
      · exact made others
    rw [receivedOn_append, untaken.unread, silent]
    rfl

/-- A handler was there, or its call has just arrived. -/
theorem Move.handler_arrives (move : Move service s a s' es) {n : Nat} {h : Handler Addr}
    (serving : s'.handlers n = some h) : (∃ h', s.handlers n = some h') ∨
      s.unusedNumber n = true ∧ ((∃ addr data uuid, a = .register n addr data uuid) ∨
        ∃ addr bytes, a = .deregister n addr bytes) := by
  rcases move.handler_cases serving with was | ⟨addr, data, uuid, conn, rfl, -⟩ | ⟨addr, entry, id, -, waits, -⟩ |
    ⟨addr, bytes, entry, id, rfl, -⟩
  · exact Or.inl ⟨h, was⟩
  · refine Or.inr ⟨?_, Or.inl ⟨addr, data, uuid, rfl⟩⟩
    cases move with
    | refused connected unused => exact unused
    | registering connected unused stepped => exact unused
    | producing connected unused => exact unused
  · exact Or.inl ⟨_, waits⟩
  · refine Or.inr ⟨?_, Or.inr ⟨addr, bytes, rfl⟩⟩
    cases move with
    | rejected unused wrong => exact unused
    | deregistered unused occupied right producer => exact unused
    | deregistering unused occupied right consumer => exact unused

/-- A stream leaves the entry it is opened from without channel. -/
theorem Move.taken_of_stream {m : Nat} {addr : Addr} {old entry : EndpointEntry}
    (move : Move service s (.stream m addr) s' es) (occupied : s.endpoints addr = some old)
    (held : s'.endpoints addr = some entry) : entry.consumerRx = none := by
  cases move with
  | notRegistered vacant => cases vacant.symm.trans occupied
  | opened connected free occupied' =>
      cases (Function.update_self ..).symm.trans held
      rfl

/-- An item sent or received is one of the task's channel, and the other channels rest. -/
theorem streamedOn_singleton (r r' : Nat) (item : BusableItem) :
    streamedOn r [(.streamed r' item : GrpcEvent M Addr)] = (onChannel r (r', item)).toList := by
  by_cases same : r' = r <;> simp [streamedOn, GrpcEvent.streamed?, onChannel, same]

theorem receivedOn_singleton (r r' : Nat) (item : BusableItem) :
    receivedOn r [(.relay (.received r' item) : GrpcEvent M Addr)] = (onChannel r (r', item)).toList := by
  by_cases same : r' = r <;>
    simp [receivedOn, itemsOn, GrpcEvent.relay?, received?, onChannel, same]

theorem streamedOn_received (r r' : Nat) (item : BusableItem) :
    streamedOn r [(.relay (.received r' item) : GrpcEvent M Addr)] = [] := rfl

theorem receivedOn_streamed (r r' : Nat) (item : BusableItem) :
    receivedOn r [(.streamed r' item : GrpcEvent M Addr)] = [] := rfl

/-! ## One step -/

/-- Where no task receives or sends, nothing is told of the channels of this endpoint. -/
theorem Move.quiet (move : Move service s a s' es) {r : Nat} {addr : Addr} (made : s.callers r = some addr)
    (resting : ∀ m, a ≠ .forward m .receive ∧ a ≠ .forward m .send) :
    streamedOn r es = [] ∧ receivedOn r es = [] := by
  constructor
  · apply streamedOn_eq_nil
    intro item streamed
    obtain ⟨m, isSend⟩ := move.streamed_cases streamed
    exact (resting m).2 isSend
  · apply receivedOn_eq_nil
    intro item received
    rcases move.received_cases received with ⟨m, f, isReceive, -⟩ | ⟨nobody, -⟩
    · exact (resting m).1 isReceive
    · cases nobody.symm.trans made

/-- The channel of a new call is untaken. -/
theorem Move.untaken_of_arrival (move : Move service s a s' es) (known : Provenance service s) {n : Nat}
    (unused : s.unusedNumber n = true) (unread : receivedOn n t = [])
    (arrives : (∃ addr data uuid, a = .register n addr data uuid) ∨ ∃ addr bytes, a = .deregister n addr bytes) :
    Untaken s' (t ++ es) n := by
  have elsewhere : (∀ m addr, a ≠ .stream m addr) ∧ (∀ m, a ≠ .forward m .receive) ∧ ∀ c, a ≠ .relay c := by
    rcases arrives with ⟨addr, data, uuid, rfl⟩ | ⟨addr, bytes, rfl⟩ <;> simp
  constructor
  · intro m f task
    rcases move.forward_cases task with ⟨old, was, isOld, -⟩ | ⟨isStream, -⟩
    · rw [isOld]
      rintro rfl
      cases (unusedNumber_iff.mp unused).1.symm.trans (known.forward m old was).1
    · exact absurd isStream (elsewhere.1 m f.addr)
  · have silent : receivedOn n es = [] := by
      apply receivedOn_eq_nil
      intro item received
      rcases move.received_cases received with ⟨m, f, isReceive, -⟩ | ⟨-, c, isRelay⟩
      · exact elsewhere.2.1 m isReceive
      · exact elsewhere.2.2 c isRelay
    rw [receivedOn_append, unread, silent]
    rfl

/-- The channel of an entry stays its own until its stream is opened. -/
theorem Streaming.entry_step (streaming : Streaming s t) (known : Provenance service s)
    (move : Move service s a s' es) {addr : Addr} {entry : EndpointEntry} {r : Nat}
    (held : s'.endpoints addr = some entry) (holds : entry.consumerRx = some r) :
    Untaken s' (t ++ es) r ∧ s'.handlers r = none := by
  rcases move.entry_cases held with was | ⟨m, old, rfl, was, rfl⟩ | ⟨n, rfl, serving⟩
  · have made := (known.entry addr entry was).made holds
    obtain ⟨untaken, unserved⟩ := streaming.entry addr entry r was holds
    constructor
    · apply untaken.step move (by simp [made])
      rintro m addr' entry' rfl occupied holds'
      -- only the entry of its own call has the channel
      cases made.symm.trans ((known.entry addr' entry' occupied).made holds')
      cases (move.taken_of_stream occupied held).symm.trans holds
    · by_contra served
      obtain ⟨h, serving⟩ := Option.ne_none_iff_exists'.mp served
      rcases move.handler_arrives serving with ⟨h', was⟩ | ⟨unused, -⟩
      · cases unserved.symm.trans was
      · cases made.symm.trans (unusedNumber_iff.mp unused).1
  · cases holds
  · obtain ⟨sound, isCall⟩ := known.inserting n addr entry serving
    obtain rfl : r = n := (sound.channel r holds).1.trans isCall
    refine ⟨(streaming.served r _ serving).step move ?_ ?_, move.served_of_insert⟩
    · simp [sound.made holds]
    · rintro m addr' entry' isStream
      cases isStream

/-- Two tasks never have one channel. -/
theorem Streaming.single_step (streaming : Streaming s t) (move : Move service s a s' es) {m m' : Nat}
    {f f' : Forward Addr} (task : s'.forwards m = some f) (task' : s'.forwards m' = some f')
    (same : f.rx = f'.rx) : m = m' := by
  -- a stream that is opened takes a channel that no other has
  have apart : ∀ {m : Nat} {old f : Forward Addr}, s.forwards m = some old →
      (∃ entry, s.endpoints f.addr = some entry ∧ f.uuid = entry.uuid ∧ entry.consumerRx = some f.rx ∧
        f.consumerRegId = entry.consumerRegId ∧ f.phase = .receiving) → old.rx ≠ f.rx := by
    rintro m old f was ⟨entry, occupied, -, holds, -⟩
    exact (streaming.entry f.addr entry f.rx occupied holds).1.alone m old was
  rcases move.forward_cases task with ⟨old, was, isOld, -⟩ | ⟨isStream, opened⟩ <;>
    rcases move.forward_cases task' with ⟨old', was', isOld', -⟩ | ⟨isStream', opened'⟩
  · rw [isOld, isOld'] at same
    exact streaming.single m m' old old' was was' same
  · have sameRx : old.rx = f'.rx := (congrArg Forward.rx isOld).symm.trans same
    exact absurd sameRx (apart was opened')
  · have sameRx : old'.rx = f.rx := (congrArg Forward.rx isOld').symm.trans same.symm
    exact absurd sameRx (apart was' opened)
  · injection isStream.symm.trans isStream'

/-- A task that goes on, from one item in its hand to the next, and the others that stay. -/
theorem Streaming.looping_of_update (streaming : Streaming s t) {m m' : Nat} {old f : Forward Addr}
    {phase : ForwardPhase} {l : List BusableItem} (was : s.forwards m' = some old)
    (task : Function.update s.forwards m' (some { old with phase := phase }) m = some f)
    (looping : f.phase.inHand? = some l) :
    f.rx = old.rx ∧ phase.inHand? = some l ∨
      old.rx ≠ f.rx ∧ streamedOn f.rx t ++ l = receivedOn f.rx t := by
  rw [Function.update_apply] at task
  split at task
  · cases task
    exact Or.inl ⟨rfl, looping⟩
  · rename_i other
    exact Or.inr ⟨fun same => other (streaming.single m m' f old task was same.symm),
      streaming.sending m f l task looping⟩

/-- What is received and not sent is in the task's hand. -/
theorem Streaming.sending_step (streaming : Streaming s t) (known : Provenance service s)
    (stepped : s.step service a = some (s', es)) {m : Nat} {f : Forward Addr} {l : List BusableItem}
    (task : s'.forwards m = some f) (looping : f.phase.inHand? = some l) :
    streamedOn f.rx (t ++ es) ++ l = receivedOn f.rx (t ++ es) := by
  have move := move_of_step stepped
  rw [streamedOn_append, receivedOn_append]
  by_cases passing : ∃ m', a = .forward m' .receive ∨ a = .forward m' .send
  · obtain ⟨m', rfl | rfl⟩ := passing
    · obtain ⟨old, item, was, phase, tasks, rfl⟩ := received_of_step stepped
      rw [streamedOn_received, List.append_nil, receivedOn_singleton]
      rcases streaming.looping_of_update was (tasks ▸ task) looping with ⟨same, inHand⟩ | ⟨apart, before⟩
      · cases inHand
        have before := streaming.sending m' old [] was (by rw [phase]; rfl)
        rw [List.append_nil] at before
        rw [same, before, onChannel_self]
        rfl
      · rw [onChannel_of_ne apart, Option.toList_none, List.append_nil]
        exact before
    · obtain ⟨old, item, was, phase, tasks, rfl⟩ := move.sent_cases
      rw [receivedOn_streamed, List.append_nil, streamedOn_singleton]
      rcases streaming.looping_of_update was (tasks ▸ task) looping with ⟨same, inHand⟩ | ⟨apart, before⟩
      · cases inHand
        rw [same, onChannel_self, List.append_nil]
        exact streaming.sending m' old [item] was (by rw [phase]; rfl)
      · rw [onChannel_of_ne apart, Option.toList_none, List.append_nil]
        exact before
  · have resting : ∀ m', a ≠ .forward m' .receive ∧ a ≠ .forward m' .send :=
      fun m' => ⟨fun isReceive => passing ⟨m', Or.inl isReceive⟩, fun isSend => passing ⟨m', Or.inr isSend⟩⟩
    rcases move.looping_cases task looping with passes | was | ⟨rfl, entry, occupied, holds⟩
    · exact absurd passes passing
    · obtain ⟨noneStreamed, noneReceived⟩ := move.quiet (known.forward m f was).1 resting
      rw [noneStreamed, noneReceived, List.append_nil, List.append_nil]
      exact streaming.sending m f l was looping
    · obtain ⟨noneStreamed, noneReceived⟩ := move.quiet ((known.entry f.addr entry occupied).made holds) resting
      have unread := (streaming.entry f.addr entry f.rx occupied holds).1.unread
      have unsent := streaming.behind f.rx
      rw [unread, List.prefix_nil] at unsent
      rw [noneStreamed, noneReceived, unread, unsent]
      rfl

/-- What is sent was in a task's hand, so what was sent stays behind what was received. -/
theorem Streaming.behind_step (streaming : Streaming s t) (move : Move service s a s' es) (r : Nat) :
    streamedOn r (t ++ es) <+: receivedOn r (t ++ es) := by
  rw [streamedOn_append, receivedOn_append]
  have further : streamedOn r t <+: receivedOn r t ++ receivedOn r es :=
    (streaming.behind r).trans (List.prefix_append _ _)
  by_cases sends : ∃ m, a = .forward m .send
  · obtain ⟨m, rfl⟩ := sends
    obtain ⟨f, item, task, phase, -, rfl⟩ := move.sent_cases
    rw [streamedOn_singleton]
    by_cases own : f.rx = r
    · have before := streaming.sending m f [item] task (by rw [phase]; rfl)
      rw [own] at before ⊢
      rw [onChannel_self, Option.toList_some, before]
      exact List.prefix_append _ _
    · rw [onChannel_of_ne own, Option.toList_none, List.append_nil]
      exact further
  · have none : streamedOn r es = [] :=
      streamedOn_eq_nil fun item streamed => sends (move.streamed_cases streamed)
    rw [none, List.append_nil]
    exact further

/-- **The channels stay with their calls, their entries and their streams.** -/
theorem Streaming.step (streaming : Streaming s t) (known : Provenance service s)
    (unread : ∀ n, s.relay.desk.calls n = .unused → receivedOn n t = [])
    (stepped : s.step service a = some (s', es)) : Streaming s' (t ++ es) := by
  have move := move_of_step stepped
  constructor
  case served =>
    intro n h serving
    rcases move.handler_arrives serving with ⟨h', was⟩ | ⟨unused, arrives⟩
    · obtain ⟨addr, made⟩ := known.made was
      apply (streaming.served n h' was).step move (by simp [made])
      rintro m addr' entry rfl occupied holds
      cases was.symm.trans (streaming.entry addr' entry n occupied holds).2
    · exact move.untaken_of_arrival known unused (unread n (unusedNumber_iff.mp unused).2) arrives
  case entry => exact fun addr entry r => streaming.entry_step known move
  case single => exact fun m m' f f' => streaming.single_step move
  case sending => exact fun m f l => streaming.sending_step known stepped
  case behind => exact streaming.behind_step move

/-! ## Runs -/

variable {ok : Grpc F I M L Addr → List (GrpcEvent M Addr) → GrpcAction F I M L Addr → Prop}
  {capacity cap : Nat} {router : Router}

theorem streaming (runs : Runs (step service) ok (init capacity router cap) s t) : Streaming s t := by
  apply runs.invariant_reached (P := Streaming)
  · constructor
    · intro n h serving
      cases serving
    · intro addr entry r held
      cases held
    · intro m m' f f' task
      cases task
    · intro m f l task
      cases task
    · exact fun r => List.prefix_rfl
  · intro s t a s' es before ih _ stepped
    exact ih.step (provenance before) (fun n unused => Relay.received_of_unused (relay_runs before) unused) stepped

/-- The messages the bus handed to the consumer of Register call `r`. -/
def handedOn (r : Nat) (t : List (GrpcEvent M Addr)) : List (Stamped M) :=
  handedTo r (t.filterMap GrpcEvent.relay?)

/-- A message with something in each of its parts. -/
def report : BaseMessage := .new (some (drawn 9)) (some ["telemetry"]) (some [21, 5])

/-- A consumer is handed one message before it opens its stream and one afterwards; the stream breaks
when it has been sent the first. -/
def reception : List (GrpcAction ℚ Unit BaseMessage String Nat) :=
  let sending (message : BaseMessage) : List (GrpcAction ℚ Unit BaseMessage String Nat) :=
    [.relay (.desk (.world (.send ⟨"radio"⟩ message))), .relay (.takeEnvelope World.obliging), .relay (.resume 7)]
  [.relay (.desk (.world .dispatch)), .connect 7] ++ registerCall 0 (drawn 1) ++ sending report ++ [.stream 0 7] ++
    sending World.ping ++ [.forward 0 .receive, .forward 0 .send, .forward 0 .receive, .breakOutbound 0,
    .forward 0 .leave]

end Grpc

end Jackfield
