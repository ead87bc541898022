/-
# Jackfield.Endpoint.Senders -- who can still send on a channel

The sending half of a channel is with the call that registers it, then with its command,
then with its consumer in the registry, and a suspended `consume` has a clone of it
(`Holds`).  Once nobody has one, nobody gets one again (`Move.holds_before`), so nothing more
is put into the channel (`Move.pipe_cases`, `Move.none_ended`).
-/
import Jackfield.Endpoint.Handovers
import Jackfield.Endpoint.Pipes

namespace Jackfield

set_option autoImplicit false

variable {F I M L : Type}

open Machine
open RelayEvent (itemsOn ended?)

namespace Relay

inductive Holds (s : Relay F I M L) (r : Nat) : Prop
  | calling {consumer : Plug L} {dims : List (DimSpec F I (Stamped M))}
      (sending : s.desk.calls r = .sending consumer dims) : Holds s r
  | asked (live : s.desk.closed = false) (queued : r ∈ s.desk.asked) : Holds s r
  | registered {entry : RegistrationEntry F I (Stamped M) (Boxed (Plug L))} (live : s.desk.closed = false)
      (member : entry ∈ s.desk.world.bus.registry.entries) (stamped : entry.consumer.call = some r) : Holds s r
  | consuming {item : BusableItem} (inFlight : s.inFlight = some (r, item)) : Holds s r

theorem hasSender_iff {s : Relay F I M L} {r : Nat} : s.hasSender r = true ↔ Holds s r := by
  unfold hasSender
  constructor
  · intro has
    rcases Bool.or_eq_true_iff.mp has with has | has
    · rcases Bool.or_eq_true_iff.mp has with has | has
      · split at has
        · rename_i consumer dims sending
          exact .calling sending
        · cases has
      · obtain ⟨live, has⟩ := Bool.and_eq_true_iff.mp has
        have live : s.desk.closed = false := by simpa using live
        rcases Bool.or_eq_true_iff.mp has with queued | has
        · exact .asked live (List.contains_iff_mem.mp queued)
        · obtain ⟨entry, member, stamped⟩ := List.any_eq_true.mp has
          exact .registered live member (beq_iff_eq.mp stamped)
    · cases inFlight : s.inFlight with
      | none => simp [inFlight] at has
      | some send =>
          obtain ⟨r', item⟩ := send
          have same : r' = r := by simpa [inFlight] using has
          exact .consuming (same ▸ inFlight)
  · intro holds
    cases holds with
    | calling sending => simp [sending]
    | asked live queued => simp [live, queued]
    | registered live member stamped =>
        have there : (s.desk.world.bus.registry.entries.any fun entry => entry.consumer.call == some r) = true :=
          List.any_eq_true.mpr ⟨_, member, beq_iff_eq.mpr stamped⟩
        simp [live, there]
    | consuming inFlight => simp [inFlight]

section

variable [F32 F] [Message M] {s s' : Relay F I M L} {a : RelayAction F I M L} {es : List (RelayEvent M)}

/-- A suspended `consume` was suspended before, or has just been called by the bus. -/
theorem Move.inFlight_cases (move : Move s a s' es) {r : Nat} {item : BusableItem}
    (sending : s'.inFlight = some (r, item)) : s.inFlight = some (r, item) ∨
      s.desk.closed = false ∧ ∃ entry ∈ s.desk.world.bus.registry.entries, entry.consumer.call = some r := by
  cases move with
  | @routed consumer desk send es stepped begun =>
      obtain ⟨entry, e, who, isChannel, -⟩ := sendOf_eq_some (begun.symm.trans sending)
      obtain ⟨i, chosen⟩ := (World.recipient_eq_some_iff.mp who).2
      obtain ⟨live, -, -, -⟩ := Desk.world_step stepped
      exact Or.inr ⟨live, entry, List.mem_of_getElem? chosen.found, by rw [isChannel]⟩
  | delivered was live sent stepped => cases sending
  | refused was gone stepped => cases sending
  | @aside a desk es isAside stepped =>
      unfold after at sending
      split at sending
      · exact Or.inl sending
      · cases sending
  | _ => exact Or.inl sending

/-- **Nobody gets a sender of a channel that had none.** -/
theorem Move.holds_before (move : Move s a s' es) (tidy : Desk.Tidy s.desk) (sound : World.ResumeSound s.desk.world)
    {r : Nat} (used : s.desk.calls r ≠ .unused) (holds : Holds s' r) : Holds s r := by
  cases holds with
  | consuming sending =>
      rcases move.inFlight_cases sending with was | ⟨live, entry, member, stamped⟩
      · exact .consuming was
      · exact .registered live member stamped
  | @calling consumer dims sending =>
      rcases move.desk_cases with same | ⟨b, below, stepped, -⟩
      · exact .calling (same ▸ sending)
      · rcases (Desk.move_of_step stepped).call_cases r with same | ⟨consumer', dims', -, unused, -⟩ | ⟨-, -, now⟩ |
          ⟨id, -, -, now⟩ | ⟨-, -, now⟩ | ⟨-, -, now⟩ | ⟨id, -, -, now⟩
        · exact .calling (same.symm.trans sending)
        · exact absurd unused used
        all_goals cases now.symm.trans sending
  | asked live queued =>
      rcases move.desk_cases with same | ⟨b, below, stepped, -⟩
      · rw [same] at live queued
        exact .asked live queued
      · have deskMove := Desk.move_of_step stepped
        rcases deskMove.asked_cases queued with was | ⟨⟨consumer, dims, was⟩, -⟩
        · exact .asked (deskMove.live_before live) was
        · exact .calling was
  | @registered entry live member stamped =>
      rcases move.desk_cases with same | ⟨b, below, stepped, -⟩
      · rw [same] at live member
        exact .registered live member stamped
      · have deskMove := Desk.move_of_step stepped
        have wasLive := deskMove.live_before live
        rcases deskMove.stamped_cases tidy sound member stamped with ⟨old, inEntries, -, stamped⟩ |
          ⟨dims, rest, -, front, -⟩
        · exact .registered wasLive inEntries stamped
        · refine .asked wasLive (List.mem_filterMap.mpr ⟨.register entry.consumer dims r, ?_, rfl⟩)
          rw [front]
          exact List.mem_cons_self ..

/-- What can happen to a channel. -/
theorem Move.pipe_cases (move : Move s a s' es) (r : Nat) :
    s'.pipes r = s.pipes r ∨ (∃ dims, a = .plugIn r dims) ∨ a = .receive r ∨ a = .unplug r ∨
      ∃ latency item, a = .resume latency ∧ s.inFlight = some (r, item) := by
  have elsewhere : ∀ {r' : Nat} {pipe : Pipe} {desk : Desk F I M (Plug L)} {inFlight : Option (Nat × BusableItem)},
      r ≠ r' → (({ s with desk := desk, inFlight := inFlight } : Relay F I M L).setPipe r' pipe).pipes r =
        s.pipes r := by
    intro r' pipe desk inFlight other
    rw [setPipe_pipes, if_neg other]
  cases move with
  | @pluggedIn r' dims fresh =>
      by_cases own : r = r'
      · exact Or.inr (Or.inl ⟨dims, by rw [own]⟩)
      · exact Or.inl (elsewhere own)
  | @received r' item items live front =>
      by_cases own : r = r'
      · exact Or.inr (Or.inr (Or.inl (by rw [own])))
      · exact Or.inl (elsewhere own)
  | @unplugged r' live =>
      by_cases own : r = r'
      · exact Or.inr (Or.inr (Or.inr (Or.inl (by rw [own]))))
      · exact Or.inl (elsewhere own)
  | @delivered latency r' item items desk es sending live sent stepped =>
      by_cases own : r = r'
      · exact Or.inr (Or.inr (Or.inr (Or.inr ⟨latency, item, rfl, own ▸ sending⟩)))
      · exact Or.inl (elsewhere own)
  | @aside a desk es isAside stepped => exact Or.inl (congrFun (after_desk s desk es).2 r)
  | _ => exact Or.inl rfl

/-- A channel stays open, unless its receiver goes. -/
theorem Move.live_stays (move : Move s a s' es) {r : Nat} (live : (s.pipes r).live = true) (kept : a ≠ .unplug r) :
    (s'.pipes r).live = true := by
  cases move with
  | @pluggedIn r' dims fresh =>
      rw [setPipe_pipes]
      split
      · rfl
      · exact live
  | @received r' item items wasLive front =>
      rw [setPipe_pipes]
      split
      · exact wasLive
      · exact live
  | @unplugged r' wasLive =>
      rw [setPipe_pipes, if_neg]
      · exact live
      · rintro rfl
        exact kept rfl
  | @delivered latency r' item items desk es sending wasLive sent stepped =>
      rw [setPipe_pipes]
      split
      · exact wasLive
      · exact live
  | @aside a desk es isAside stepped =>
      rw [(after_desk s desk es).2]
      exact live
  | _ => exact live

/-- Where nobody can send, no send ends. -/
theorem Move.none_ended (move : Move s a s' es) {r : Nat} (nobody : ¬ Holds s r) : itemsOn r ended? es = [] := by
  have busOnly : ∀ below : List (Event M), itemsOn r ended? (below.map .bus) = [] :=
    RelayEvent.itemsOn_bus r (fun _ => rfl)
  have other : ∀ {r' : Nat} {item : BusableItem}, s.inFlight = some (r', item) → r' ≠ r := by
    rintro r' item sending rfl
    exact nobody (.consuming sending)
  cases move with
  | pluggedIn fresh => rfl
  | received live front => rfl
  | unplugged live => rfl
  | @routed consumer desk send es stepped begun =>
      rw [RelayEvent.itemsOn_append, busOnly]
      cases send <;> rfl
  | resumed idle stepped => exact busOnly _
  | delivered sending live sent stepped =>
      rw [RelayEvent.itemsOn_append, busOnly, RelayEvent.itemsOn_singleton_of_ne rfl (other sending)]
      rfl
  | refused sending gone stepped =>
      rw [RelayEvent.itemsOn_append, busOnly, RelayEvent.itemsOn_singleton_of_ne rfl (other sending)]
      rfl
  | aside isAside stepped => exact itemsOn_after r _ _ (fun _ => rfl) (fun _ _ => rfl)

/-! ## A channel without senders -/

/-- Channel `r` has been made, and nobody can send on it. -/
structure Deserted (s : Relay F I M L) (r : Nat) : Prop where
  used : s.desk.calls r ≠ .unused
  nobody : ¬ Holds s r

/-- What the channel holds. -/
def backlog (s : Relay F I M L) (r : Nat) : Nat := (s.pipes r).items.buf.length

/-- It only empties. -/
structure Drains (s s' : Relay F I M L) (es : List (RelayEvent M)) (r : Nat) : Prop where
  deserted : Deserted s' r
  ended : itemsOn r ended? es = []
  backlog : s'.backlog r ≤ s.backlog r

theorem Deserted.step {r : Nat} (deserted : Deserted s r) (move : Move s a s' es) (tidy : Desk.Tidy s.desk)
    (sound : World.ResumeSound s.desk.world) : Drains s s' es r where
  deserted := by
    refine ⟨?_, fun holds => deserted.nobody (move.holds_before tidy sound deserted.used holds)⟩
    intro unused
    exact deserted.used (move.unused_before unused).1
  ended := move.none_ended deserted.nobody
  backlog := by
    rcases move.pipe_cases r with same | ⟨dims, rfl⟩ | rfl | rfl | ⟨latency, item, -, sending⟩
    · rw [Relay.backlog, same]
      exact le_rfl
    · cases move with
      | pluggedIn fresh => exact absurd fresh deserted.used
    · cases move with
      | received live front =>
          rw [Relay.backlog, Relay.backlog, setPipe_pipes, if_pos rfl, Channel.tryRecv_buf front]
          exact Nat.le_succ _
    · cases move with
      | unplugged live =>
          rw [Relay.backlog, setPipe_pipes, if_pos rfl]
          exact Nat.zero_le _
    · exact absurd (.consuming sending) deserted.nobody

end

variable [F32 F] [BoxedMessage M] {s s' : Relay F I M L} {es : List (RelayEvent M)}
  {ok : Relay F I M L → List (RelayEvent M) → RelayAction F I M L → Prop} {capacity cap : Nat} {router : Router}
  {t : List (RelayEvent M)}

/-- **Whatever happens, a channel that nobody can send on only empties.** -/
theorem Deserted.leads {r : Nat} (deserted : Deserted s r) (runs : Runs Relay.step ok (init capacity router cap) s t)
    (leads : s.Leads s' es) : Drains s s' es r := by
  obtain ⟨schedule, evaluates⟩ := leads
  have any : Runs Relay.step anyStep (init capacity router cap) s t := runs.mono_reached fun _ _ _ _ _ => trivial
  clear runs
  induction schedule generalizing s t es with
  | nil =>
      cases evaluates
      exact ⟨deserted, rfl, le_rfl⟩
  | cons a rest ih =>
      obtain ⟨s₁, es₁, es₂, stepped, tail, rfl⟩ := exec_cons evaluates
      have below := desk_runs any
      have first := deserted.step (move_of_step stepped) (Desk.tidy below) (World.resumeSound (Desk.world_runs below))
      have others := ih first.deserted tail (any.step trivial stepped)
      refine ⟨others.deserted, ?_, others.backlog.trans first.backlog⟩
      rw [RelayEvent.itemsOn_append, first.ended, others.ended]
      rfl

/-- A call that is not made after what an endpoint does was not made before. -/
theorem unused_along {within : RelayAction F I M L → Prop} (r : Nat) :
    Along within fun s s' _ => s'.desk.calls r = .unused → s.desk.calls r = .unused where
  refl _ unused := unused
  one stepped _ unused := ((move_of_step stepped).unused_before unused).1
  hangUp rx before unused := before (by simpa only [hangUp_desk] using unused)

/-- A bus that is there after what an endpoint does was there before. -/
theorem live_along {within : RelayAction F I M L → Prop} :
    Along within fun s s' _ => s'.desk.closed = false → s.desk.closed = false where
  refl _ live := live
  one stepped _ live := by
    rcases (move_of_step stepped).desk_cases with same | ⟨b, below, deskStepped, -⟩
    · exact same ▸ live
    · exact (Desk.move_of_step deskStepped).live_before live
  hangUp rx before live := before (by simpa only [hangUp_desk] using live)

end Relay

end Jackfield
