/-
# Jackfield.Endpoint.Relay -- the bus with consumers that are channels

A network endpoint registers a `ChannelConsumer`: the sending half of a channel of
256 items, whose receiving half it keeps.  `available` asks whether the receiver is
still there, `validate` agrees to everything, and `consume` converts the message and
waits for its send, ignoring how that ends.

A `Relay` is a desk with these channels, each numbered like the call that registers
its consumer, and with the item that a suspended `consume` is sending.  What the
endpoints and their clients do with the receiving halves, and with the other calls,
is left open here: they receive and drop them whenever they like.
-/
import Jackfield.Bus.Requests
import Jackfield.Codec

namespace Jackfield

set_option autoImplicit false

/-- A consumer the bus owns: a `ChannelConsumer`, or one of another kind. -/
inductive Plug (L : Type) where
  | channel
  | other (consumer : L)
  deriving DecidableEq

/-- A channel of items, and whether its receiver is still there. -/
structure Pipe where
  items : Channel BusableItem
  live : Bool

/-- `mpsc::channel(256)`. -/
def Pipe.new : Pipe := ⟨.new 256, true⟩

/-- The receiver is gone, and what it had not received with it. -/
def Pipe.dead : Pipe := ⟨.new 256, false⟩

structure Relay (F I M L : Type) where
  desk : Desk F I M (Plug L)
  pipes : Nat → Pipe
  /-- The send that a suspended `consume` waits for: the channel and the item. -/
  inFlight : Option (Nat × BusableItem)

inductive RelayAction (F I M L : Type) where
  /-- An endpoint makes a channel and calls `register` with its sending half. -/
  | plugIn (r : Nat) (dims : List (DimSpec F I (Stamped M)))
  /-- The receiver of a channel takes an item. -/
  | receive (r : Nat)
  /-- The receiver of a channel is dropped. -/
  | unplug (r : Nat)
  /-- The bus takes an envelope and routes it; `consumer` answers for the other consumers. -/
  | takeEnvelope (consumer : Consumer (Stamped M) L)
  /-- `consume` returns, and with it `route`. -/
  | resume (latency : Nat)
  /-- Anything else that happens to the desk. -/
  | desk (a : DeskAction F I M (Plug L))

inductive RelayEvent (M : Type) where
  | bus (e : Event M)
  /-- `consume` of the channel consumer was called. -/
  | offered (r : Nat) (item : BusableItem)
  /-- Its send succeeded. -/
  | delivered (r : Nat) (item : BusableItem)
  /-- Its send failed, and `consume` returned all the same. -/
  | refused (r : Nat) (item : BusableItem)
  /-- It was dropped with the call of `drain` or `dispatch`. -/
  | withdrawn (r : Nat) (item : BusableItem)
  | received (r : Nat) (item : BusableItem)
  deriving DecidableEq

variable {F I M L : Type}

namespace RelayEvent

def bus? : RelayEvent M → Option (Event M)
  | .bus e => some e
  | _ => none

theorem filterMap_bus (es : List (Event M)) : (es.map RelayEvent.bus).filterMap bus? = es := by
  rw [List.filterMap_map]
  exact List.filterMap_some ..

theorem filterMap_bus_append (es : List (Event M)) {rest : List (RelayEvent M)}
    (apart : rest.filterMap bus? = []) : (es.map RelayEvent.bus ++ rest).filterMap bus? = es := by
  rw [List.filterMap_append, filterMap_bus, apart, List.append_nil]

end RelayEvent

/-- The actions of a desk that a relay has no part in. -/
def DeskAction.aside : DeskAction F I M (Plug L) → Bool
  | .call _ .channel _ => false
  | .world (.takeEnvelope _) => false
  | .world (.resume _) => false
  | .world (.registerConsumer ⟨_, .channel⟩ _) => false
  | _ => true

/-- The call an action of a desk is about. -/
def DeskAction.number? {C : Type} : DeskAction F I M C → Option Nat
  | .call r _ _ => some r
  | .submit r => some r
  | .receive r => some r
  | .fail r => some r
  | .abandon r => some r
  | _ => none

/-- The call or channel an action of a relay is about. -/
def RelayAction.number? : RelayAction F I M L → Option Nat
  | .plugIn r _ => some r
  | .receive r => some r
  | .unplug r => some r
  | .desk (.call r _ _) => some r
  | .desk (.submit r) => some r
  | .desk (.receive r) => some r
  | .desk (.fail r) => some r
  | .desk (.abandon r) => some r
  | _ => none

/-- Who is handed the envelope that the running loop takes next, and what it is handed. -/
def World.recipient {C : Type} [F32 F] [Message M] (w : World F I M C)
    (consumer : Consumer (Stamped M) C) : Option (RegistrationEntry F I (Stamped M) C × Parcel M) :=
  match w.next with
  | none => none
  | some (e, bus, _) =>
      match bus.router.route consumer bus.registry e with
      | .consuming _ entry _ => some (entry, e)
      | .unhandled _ _ => none

namespace World

variable {C : Type} [F32 F] [Message M]

/-- The step that takes an envelope hands it to its recipient, or goes on without. -/
theorem takeEnvelope_cases {w w' : World F I M C} {consumer : Consumer (Stamped M) C} {es : List (Event M)}
    (stepped : w.step (.takeEnvelope consumer) = some (w', es)) :
    (∃ entry e bus loop resume, w.next = some (e, bus, loop) ∧ w.recipient consumer = some (entry, e) ∧
        es = [.routed e, .handed entry.id e] ∧ w'.control = .consuming loop resume) ∨
      (w.recipient consumer = none ∧ ∃ loop, w'.control = .running loop) := by
  obtain ⟨⟨e, bus, loop⟩, taken, same⟩ := Option.map_eq_some_iff.mp stepped
  simp only [recipient, taken, routeFrom] at same ⊢
  cases routed : bus.router.route consumer bus.registry e with
  | consuming i entry resume =>
      rw [routed] at same
      cases same
      exact Or.inl ⟨entry, e, bus, loop, resume, rfl, rfl, rfl, rfl⟩
  | unhandled registry back =>
      rw [routed] at same
      cases same
      exact Or.inr ⟨rfl, loop, rfl⟩

/-- The recipient is the entry the router chooses. -/
theorem recipient_eq_some_iff {w : World F I M C} {consumer : Consumer (Stamped M) C}
    {entry : RegistrationEntry F I (Stamped M) C} {e : Parcel M} :
    w.recipient consumer = some (entry, e) ↔
      (∃ bus loop, w.next = some (e, bus, loop)) ∧
        ∃ i, w.bus.router.Chosen consumer w.bus.registry e i entry := by
  unfold recipient
  constructor
  · intro found
    split at found
    · cases found
    · rename_i e' bus loop taken
      split at found
      · rename_i i entry' resume routed
        cases found
        obtain ⟨-, sameRouter, sameRegistry, -, -⟩ := next_frame taken
        rw [sameRouter, sameRegistry] at routed
        exact ⟨⟨bus, loop, taken⟩, i, (Router.route_consuming_iff ..).mp ⟨resume, routed⟩⟩
      · cases found
  · rintro ⟨⟨bus, loop, taken⟩, i, chosen⟩
    obtain ⟨resume, routed⟩ := (Router.route_consuming_iff ..).mpr chosen
    obtain ⟨-, sameRouter, sameRegistry, -, -⟩ := next_frame taken
    simp only [taken]
    rw [sameRouter, sameRegistry, routed]

/-- Whom a waiting `dispatch` hands the next envelope. -/
theorem recipient_of_chosen {w : World F I M C} {consumer : Consumer (Stamped M) C} {e : Parcel M}
    {rest : List (Parcel M)} {i : Nat} {entry : RegistrationEntry F I (Stamped M) C}
    (waiting : w.control = .running .dispatch) (front : w.bus.rx.buf = e :: rest)
    (chosen : w.bus.router.Chosen consumer w.bus.registry e i entry) : w.recipient consumer = some (entry, e) := by
  obtain ⟨bus, next⟩ := next_of_waiting waiting front
  exact recipient_eq_some_iff.mpr ⟨⟨bus, .dispatch, next⟩, i, chosen⟩

end World

namespace Relay

def init (capacity : Nat) (router : Router) (cap : Nat) : Relay F I M L where
  desk := .init capacity router cap
  pipes _ := .dead
  inFlight := none

def setPipe (s : Relay F I M L) (r : Nat) (pipe : Pipe) : Relay F I M L :=
  { s with pipes := Function.update s.pipes r pipe }

@[simp] theorem setPipe_desk (s : Relay F I M L) (r : Nat) (pipe : Pipe) :
    (s.setPipe r pipe).desk = s.desk := rfl

@[simp] theorem setPipe_inFlight (s : Relay F I M L) (r : Nat) (pipe : Pipe) :
    (s.setPipe r pipe).inFlight = s.inFlight := rfl

@[simp] theorem setPipe_pipes (s : Relay F I M L) (r r' : Nat) (pipe : Pipe) :
    (s.setPipe r pipe).pipes r' = if r' = r then pipe else s.pipes r' := by
  simp [setPipe, Function.update_apply]

/-- `ChannelConsumer::available` and `validate`; `consumer` answers for the others. -/
def answers (s : Relay F I M L) (consumer : Consumer (Stamped M) L) :
    Consumer (Stamped M) (Boxed (Plug L)) where
  available b :=
    match b.consumer with
    | .channel => b.call.any fun r => (s.pipes r).live
    | .other c => consumer.available c
  validate b e :=
    match b.consumer with
    | .channel => true
    | .other c => consumer.validate c e

/-- The send that `consume` begins with the envelope it is handed. -/
def sendOf [Message M] (recipient : Option (RegistrationEntry F I (Stamped M) (Boxed (Plug L)) × Parcel M)) :
    Option (Nat × BusableItem) :=
  match recipient with
  | some (⟨_, ⟨some r, .channel⟩, _⟩, e) => some (r, .ofMessage e.message)
  | _ => none

/-- Is there a sending half of the channel left?  The consumer that holds it is with its
call, in a queued command, or in the registry; a suspended `consume` has a clone. -/
def hasSender (s : Relay F I M L) (r : Nat) : Bool :=
  (match s.desk.calls r with
    | .sending _ _ => true
    | _ => false) ||
  (!s.desk.closed && (s.desk.asked.contains r ||
    s.desk.world.bus.registry.entries.any fun entry => entry.consumer.call == some r)) ||
  s.inFlight.any fun send => send.1 == r

/-- A suspended `consume` is dropped with the call that awaits it. -/
def after (s : Relay F I M L) (desk : Desk F I M (Plug L)) (es : List (Event M)) :
    Relay F I M L × List (RelayEvent M) :=
  match desk.world.control with
  | .consuming _ _ => ({ s with desk := desk }, es.map .bus)
  | _ => ({ s with desk := desk, inFlight := none },
      es.map .bus ++ s.inFlight.toList.map fun send => .withdrawn send.1 send.2)

theorem after_desk (s : Relay F I M L) (desk : Desk F I M (Plug L)) (es : List (Event M)) :
    (s.after desk es).1.desk = desk ∧ (s.after desk es).1.pipes = s.pipes := by
  unfold after
  split <;> exact ⟨rfl, rfl⟩

theorem after_events (s : Relay F I M L) (desk : Desk F I M (Plug L)) (es : List (Event M)) :
    (s.after desk es).2.filterMap RelayEvent.bus? = es := by
  unfold after
  split
  · exact RelayEvent.filterMap_bus es
  · apply RelayEvent.filterMap_bus_append
    cases s.inFlight <;> rfl

variable [F32 F] [Message M]

def step (s : Relay F I M L) : RelayAction F I M L → Option (Relay F I M L × List (RelayEvent M))
  | .plugIn r dims =>
      (s.desk.step (.call r .channel dims)).map fun (desk, es) =>
        ({ s with desk := desk }.setPipe r .new, es.map .bus)
  | .receive r =>
      if (s.pipes r).live then
        (s.pipes r).items.tryRecv.map fun (item, items) =>
          (s.setPipe r { s.pipes r with items := items }, [.received r item])
      else none
  | .unplug r => if (s.pipes r).live then some (s.setPipe r .dead, []) else none
  | .takeEnvelope consumer =>
      let send := sendOf (s.desk.world.recipient (s.answers consumer))
      (s.desk.step (.world (.takeEnvelope (s.answers consumer)))).map fun (desk, es) =>
        ({ s with desk := desk, inFlight := send },
          es.map .bus ++ send.toList.map fun send => .offered send.1 send.2)
  | .resume latency =>
      match s.inFlight with
      | none => (s.desk.step (.world (.resume latency))).map fun (desk, es) => ({ s with desk := desk }, es.map .bus)
      | some (r, item) =>
          if (s.pipes r).live then
            -- the send waits for room
            match (s.pipes r).items.send item with
            | none => none
            | some items =>
                (s.desk.step (.world (.resume latency))).map fun (desk, es) =>
                  ({ s with desk := desk, inFlight := none }.setPipe r { s.pipes r with items := items },
                    es.map .bus ++ [.delivered r item])
          else
            -- the send fails; `ok()` drops the error
            (s.desk.step (.world (.resume latency))).map fun (desk, es) =>
              ({ s with desk := desk, inFlight := none }, es.map .bus ++ [.refused r item])
  | .desk a => if a.aside then (s.desk.step a).map fun (desk, es) => s.after desk es else none

/-! ## Moves -/

inductive Move : Relay F I M L → RelayAction F I M L → Relay F I M L → List (RelayEvent M) → Prop
  | pluggedIn {s : Relay F I M L} {r : Nat} {dims : List (DimSpec F I (Stamped M))}
      (fresh : s.desk.calls r = .unused) :
      Move s (.plugIn r dims)
        ({ s with desk := s.desk.setCall r (.sending .channel dims) }.setPipe r .new) []
  | received {s : Relay F I M L} {r : Nat} {item : BusableItem} {items : Channel BusableItem}
      (live : (s.pipes r).live = true) (front : (s.pipes r).items.tryRecv = some (item, items)) :
      Move s (.receive r) (s.setPipe r { s.pipes r with items := items }) [.received r item]
  | unplugged {s : Relay F I M L} {r : Nat} (live : (s.pipes r).live = true) :
      Move s (.unplug r) (s.setPipe r .dead) []
  | routed {s : Relay F I M L} {consumer : Consumer (Stamped M) L} {desk : Desk F I M (Plug L)}
      {send : Option (Nat × BusableItem)} {es : List (Event M)}
      (stepped : s.desk.step (.world (.takeEnvelope (s.answers consumer))) = some (desk, es))
      (begun : send = sendOf (s.desk.world.recipient (s.answers consumer))) :
      Move s (.takeEnvelope consumer) { s with desk := desk, inFlight := send }
        (es.map .bus ++ send.toList.map fun send => .offered send.1 send.2)
  | resumed {s : Relay F I M L} {latency : Nat} {desk : Desk F I M (Plug L)} {es : List (Event M)}
      (elsewhere : s.inFlight = none) (stepped : s.desk.step (.world (.resume latency)) = some (desk, es)) :
      Move s (.resume latency) { s with desk := desk } (es.map .bus)
  | delivered {s : Relay F I M L} {latency r : Nat} {item : BusableItem} {items : Channel BusableItem}
      {desk : Desk F I M (Plug L)} {es : List (Event M)} (sending : s.inFlight = some (r, item))
      (live : (s.pipes r).live = true) (sent : (s.pipes r).items.send item = some items)
      (stepped : s.desk.step (.world (.resume latency)) = some (desk, es)) :
      Move s (.resume latency)
        ({ s with desk := desk, inFlight := none }.setPipe r { s.pipes r with items := items })
        (es.map .bus ++ [.delivered r item])
  | refused {s : Relay F I M L} {latency r : Nat} {item : BusableItem} {desk : Desk F I M (Plug L)}
      {es : List (Event M)} (sending : s.inFlight = some (r, item)) (gone : (s.pipes r).live = false)
      (stepped : s.desk.step (.world (.resume latency)) = some (desk, es)) :
      Move s (.resume latency) { s with desk := desk, inFlight := none }
        (es.map .bus ++ [.refused r item])
  | aside {s : Relay F I M L} {a : DeskAction F I M (Plug L)} {desk : Desk F I M (Plug L)}
      {es : List (Event M)} (apart : a.aside = true) (stepped : s.desk.step a = some (desk, es)) :
      Move s (.desk a) (s.after desk es).1 (s.after desk es).2

/-- **Every step is one of these moves.** -/
theorem move_of_step {s s' : Relay F I M L} {a : RelayAction F I M L} {es : List (RelayEvent M)}
    (stepped : s.step a = some (s', es)) : Move s a s' es := by
  cases a with
  | plugIn r dims =>
      obtain ⟨⟨desk, es'⟩, called, same⟩ := Option.map_eq_some_iff.mp stepped
      cases same
      cases Desk.move_of_step called with
      | called fresh => exact .pluggedIn fresh
  | receive r =>
      simp only [step] at stepped
      split at stepped
      · rename_i live
        obtain ⟨⟨item, items⟩, front, same⟩ := Option.map_eq_some_iff.mp stepped
        cases same
        exact .received live front
      · cases stepped
  | unplug r =>
      simp only [step] at stepped
      split at stepped
      · rename_i live
        cases stepped
        exact .unplugged live
      · cases stepped
  | takeEnvelope consumer =>
      obtain ⟨⟨desk, es'⟩, taken, same⟩ := Option.map_eq_some_iff.mp stepped
      cases same
      exact .routed taken rfl
  | resume latency =>
      simp only [step] at stepped
      split at stepped
      · rename_i elsewhere
        obtain ⟨⟨desk, es'⟩, resumed, same⟩ := Option.map_eq_some_iff.mp stepped
        cases same
        exact .resumed elsewhere resumed
      · rename_i r item sending
        split at stepped
        · rename_i live
          split at stepped
          · cases stepped
          · rename_i items sent
            obtain ⟨⟨desk, es'⟩, resumed, same⟩ := Option.map_eq_some_iff.mp stepped
            cases same
            exact .delivered sending live sent resumed
        · rename_i gone
          obtain ⟨⟨desk, es'⟩, resumed, same⟩ := Option.map_eq_some_iff.mp stepped
          cases same
          exact .refused sending (by simpa using gone) resumed
  | desk a =>
      simp only [step] at stepped
      split at stepped
      · rename_i apart
        obtain ⟨⟨desk, es'⟩, stepped', same⟩ := Option.map_eq_some_iff.mp stepped
        have move := Move.aside apart stepped'
        rw [show s.after desk es' = (s', es) from same] at move
        exact move
      · cases stepped

/-- A step of a relay takes one of its desk, about the same call, or none. -/
theorem Move.desk_cases {s s' : Relay F I M L} {a : RelayAction F I M L}
    {es : List (RelayEvent M)} (move : Move s a s' es) :
    s'.desk = s.desk ∨ ∃ b below, s.desk.step b = some (s'.desk, below) ∧
      ∀ r, b.number? = some r → a.number? = some r ∧ (a = .desk b ∨ ∃ dims, a = .plugIn r dims) := by
  cases move with
  | @pluggedIn r dims fresh =>
      refine Or.inr ⟨.call r .channel dims, [], ?_, ?_⟩
      · simp [Desk.step, fresh]
      · rintro r' isCall
        cases isCall
        exact ⟨rfl, Or.inr ⟨dims, rfl⟩⟩
  | routed stepped begun => exact Or.inr ⟨_, _, stepped, fun r none => by cases none⟩
  | resumed elsewhere stepped => exact Or.inr ⟨_, _, stepped, fun r none => by cases none⟩
  | delivered sending live sent stepped => exact Or.inr ⟨_, _, stepped, fun r none => by cases none⟩
  | refused sending gone stepped => exact Or.inr ⟨_, _, stepped, fun r none => by cases none⟩
  | @aside a desk es apart stepped =>
      rw [(after_desk s desk es).1]
      refine Or.inr ⟨a, es, stepped, ?_⟩
      intro r isCall
      refine ⟨?_, Or.inl rfl⟩
      cases a <;> exact isCall
  | _ => exact Or.inl rfl

/-! ## Runs -/

open Machine

/-- What a step asks of the desk. -/
def deskAction? (s : Relay F I M L) : RelayAction F I M L → Option (DeskAction F I M (Plug L))
  | .plugIn r dims => some (.call r .channel dims)
  | .receive _ => none
  | .unplug _ => none
  | .takeEnvelope consumer => some (.world (.takeEnvelope (s.answers consumer)))
  | .resume latency => some (.world (.resume latency))
  | .desk a => some a

/-- A step of a relay is a step of its desk, or leaves that as it is. -/
theorem simulates {s s' : Relay F I M L} {a : RelayAction F I M L} {es : List (RelayEvent M)}
    (stepped : s.step a = some (s', es)) :
    exec Desk.step s.desk (s.deskAction? a).toList = some (s'.desk, es.filterMap RelayEvent.bus?) := by
  have one : ∀ {b : DeskAction F I M (Plug L)} {desk : Desk F I M (Plug L)} {below : List (Event M)},
      s.desk.step b = some (desk, below) → es.filterMap RelayEvent.bus? = below →
        exec Desk.step s.desk [b] = some (desk, es.filterMap RelayEvent.bus?) := by
    intro b desk below steps same
    rw [exec_singleton, steps, same]
  cases move_of_step stepped with
  | @pluggedIn r dims fresh =>
      apply one (b := .call r .channel dims) _ rfl
      simp only [Desk.step, fresh]
      rfl
  | @routed consumer desk send es taken begun =>
      apply one taken
      apply RelayEvent.filterMap_bus_append
      cases send <;> rfl
  | resumed elsewhere resumed => exact one resumed (RelayEvent.filterMap_bus _)
  | delivered sending live sent resumed => exact one resumed (RelayEvent.filterMap_bus_append _ rfl)
  | refused sending gone resumed => exact one resumed (RelayEvent.filterMap_bus_append _ rfl)
  | @aside a desk es apart aside =>
      have same := (after_desk s desk es).1
      rw [same]
      exact one aside (after_events ..)
  | _ => rfl

variable {ok : Relay F I M L → List (RelayEvent M) → RelayAction F I M L → Prop} {capacity cap : Nat}
  {router : Router} {s : Relay F I M L} {t : List (RelayEvent M)}

theorem desk_runs (runs : Runs step ok (init capacity router cap) s t) :
    Runs Desk.step anyStep (Desk.init capacity router cap) s.desk (t.filterMap RelayEvent.bus?) :=
  runs.simulated (fun s => s.desk) RelayEvent.bus? fun _ _ _ _ stepped => ⟨_, simulates stepped⟩

theorem world_runs (runs : Runs step ok (init capacity router cap) s t) :
    Runs World.step anyStep (World.init capacity router cap) s.desk.world (t.filterMap RelayEvent.bus?) :=
  Desk.world_runs (desk_runs runs)

end Relay

end Jackfield
