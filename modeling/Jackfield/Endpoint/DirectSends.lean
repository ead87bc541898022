/-
# Jackfield.Endpoint.DirectSends -- what an endpoint in the process sends

A future of `send_bus` borrows its endpoint until it has returned or is dropped, so an endpoint
has one message under way at a time.  If nobody else sends under its name (`OwnName`), what
is accepted under it are messages of its calls in the order of the calls
(`sends_in_call_order`).
-/
import Jackfield.Endpoint.Direct
import Jackfield.Endpoint.Waiting

namespace Jackfield

set_option autoImplicit false
set_option linter.unusedSectionVars false

variable {F I M C : Type}

open Machine

/-! ## The futures -/

/-- The name that an action sends under, or begins to. -/
def ProducerAction.sendsAs? (s : Producers F I M C) : ProducerAction F I M C → Option ProducerId
  | .tryMakeSend h _ => s.handles[h]?.map fun handle => handle.origin
  | .makeSend h _ => s.handles[h]?.map fun handle => handle.origin
  | .makeSendWithOrigin _ origin _ => some origin
  | .desk (.world (.send origin _)) => some origin
  | _ => none

namespace Producers

variable [F32 F] [Message M] {s s' : Producers F I M C} {a : ProducerAction F I M C} {es : List (ProducerEvent M)}

/-- **What stays of a future**: what it sends and how, and that it has ended. -/
theorem Move.send_stays (move : Move s a s' es) {n : Nat} {old : MakeSend M} (held : s.sends[n]? = some old) :
    ∃ send, s'.sends[n]? = some send ∧ send.origin = old.origin ∧ send.message = old.message ∧
      send.throttle = old.throttle ∧ (old.phase = .ended → send.phase = .ended) := by
  have phased : ∀ {m : Nat} {found : MakeSend M} {phase : SendPhase}, s.sends[m]? = some found →
      s'.sends = (s.setPhase m phase).sends → (found.phase = .ended → phase = .ended) →
      ∃ send, s'.sends[n]? = some send ∧ send.origin = old.origin ∧ send.message = old.message ∧
        send.throttle = old.throttle ∧ (old.phase = .ended → send.phase = .ended) := by
    intro m found phase isFound same ends
    rw [same, setPhase_sends, held]
    by_cases his : n = m
    · subst his
      cases held.symm.trans isFound
      exact ⟨{ old with phase := phase }, by simp, rfl, rfl, rfl, ends⟩
    · exact ⟨old, by simp [his], rfl, rfl, rfl, id⟩
  cases move with
  | aside sameDesk sameBuckets sameSends passes refused => exact ⟨old, sameSends ▸ held, rfl, rfl, rfl, id⟩
  | begun =>
      refine ⟨old, ?_, rfl, rfl, rfl, id⟩
      rw [List.getElem?_append_left (List.getElem?_eq_some_iff.mp held).1, held]
  | woke found sleeping elapsed => exact phased found rfl fun ended => by cases sleeping.symm.trans ended
  | ended found refused => exact phased found rfl fun _ => rfl
  | waited found waiting waits =>
      rcases waitForToken_sends waits with ⟨phase, -, same⟩ | ⟨b, bucket, duration, -, -, -, same⟩
      · exact phased found same fun ended => by cases waiting.symm.trans ended
      · exact phased found same fun ended => by cases waiting.symm.trans ended
  | sent found stepped => exact phased found rfl fun _ => rfl
  | _ => exact ⟨old, held, rfl, rfl, rfl, id⟩

theorem waitForToken_handles {n : Nat} {throttle : Option Nat} (waits : s.waitForToken n throttle = some (s', es)) :
    s'.handles = s.handles := by
  cases waited_of_some waits <;> rfl

/-- Handles and futures are added, and a new future is of a `make_send`. -/
theorem grown_of_step (stepped : s.step a = some (s', es)) :
    (∃ more, s'.handles = s.handles ++ more) ∧
      (s'.sends.length = s.sends.length ∨
        ∃ send, s'.sends = s.sends ++ [send] ∧ a.sendsAs? s = some send.origin) := by
  have kept : s'.handles = s.handles → s'.sends.length = s.sends.length →
      (∃ more, s'.handles = s.handles ++ more) ∧
        (s'.sends.length = s.sends.length ∨
          ∃ send, s'.sends = s.sends ++ [send] ∧ a.sendsAs? s = some send.origin) :=
    fun handles sends => ⟨⟨[], by rw [handles, List.append_nil]⟩, Or.inl sends⟩
  have phased : ∀ (s : Producers F I M C) (n : Nat) (phase : SendPhase),
      (s.setPhase n phase).sends.length = s.sends.length := fun s n phase => List.length_modify ..
  cases a with
  | makeSend h message =>
      obtain ⟨handle, found, same⟩ := Option.map_eq_some_iff.mp stepped
      cases same
      exact ⟨⟨[], (List.append_nil _).symm⟩, Or.inr ⟨_, rfl, by simp [ProducerAction.sendsAs?, found]⟩⟩
  | makeSendWithOrigin h origin message =>
      obtain ⟨handle, found, same⟩ := Option.map_eq_some_iff.mp stepped
      cases same
      exact ⟨⟨[], (List.append_nil _).symm⟩, Or.inr ⟨_, rfl, rfl⟩⟩
  | makeHandle name =>
      cases stepped
      exact ⟨⟨_, rfl⟩, Or.inl rfl⟩
  | registerProducerThrottled name throttle =>
      simp only [step] at stepped
      split at stepped
      · split at stepped
        · cases stepped
        · cases stepped
          exact ⟨⟨_, rfl⟩, Or.inl rfl⟩
      · cases stepped
  | clone h =>
      obtain ⟨handle, -, same⟩ := Option.map_eq_some_iff.mp stepped
      cases same
      exact ⟨⟨_, rfl⟩, Or.inl rfl⟩
  | tryMakeSend h message =>
      obtain ⟨handle, -, same⟩ := Option.map_eq_some_iff.mp stepped
      split at same
      · cases same
        exact kept rfl rfl
      · rename_i s₁ below sent
        cases same
        obtain ⟨desk, es, rfl, -⟩ := trySend_ok sent
        exact kept rfl rfl
  | poll n =>
      simp only [step] at stepped
      split at stepped
      · cases stepped
      · rename_i send found
        split at stepped
        · have handles := waitForToken_handles stepped
          rcases waitForToken_sends stepped with ⟨phase, -, same⟩ | ⟨b, bucket, duration, -, -, -, same⟩
          · exact kept handles (same ▸ phased s n phase)
          · exact kept handles (same ▸ phased s n _)
        · split at stepped
          · cases stepped
            exact kept rfl (phased s n _)
          · cases stepped
        · split at stepped
          · cases stepped
            exact kept rfl (phased s n _)
          · cases stepped
          · rename_i s₁ below sent
            cases stepped
            obtain ⟨desk, es, rfl, -⟩ := trySend_ok sent
            exact kept rfl (phased _ n _)
        · cases stepped
  | cancel n =>
      obtain ⟨send, -, same⟩ := Option.map_eq_some_iff.mp stepped
      cases same
      exact kept rfl (phased s n _)
  | wait duration =>
      simp only [step] at stepped
      split at stepped
      · cases stepped
        exact kept rfl rfl
      · cases stepped
  | desk b =>
      obtain ⟨⟨desk, below⟩, -, same⟩ := Option.map_eq_some_iff.mp stepped
      cases same
      exact kept rfl rfl

/-- A send of the desk is accepted as it is. -/
theorem accepted_of_desk {desk desk' : Desk F I M C} {b : DeskAction F I M C} {below : List (Event M)}
    (stepped : desk.step b = some (desk', below)) {e : Parcel M} (accepted : Event.accepted e ∈ below) :
    below = [.accepted e] ∧ b = .world (.send e.origin e.message.body) := by
  obtain ⟨origin, serial, body⟩ := e
  cases Desk.move_of_step stepped with
  | worked live plain worked =>
      have whole := worked
      obtain ⟨message, rfl⟩ := (World.move_of_step worked).send_of_accepted accepted
      obtain ⟨rx, -, same⟩ := Option.map_eq_some_iff.mp whole
      obtain ⟨-, rfl⟩ := Prod.mk.inj same
      cases List.mem_singleton.mp accepted
      exact ⟨rfl, rfl⟩
  | _ => cases accepted

/-- `try_send` is accepted as it is. -/
theorem accepted_of_trySend {origin : ProducerId} {message : M} (sent : s.trySend origin message = .ok (s', es))
    {rest : List (ProducerEvent M)} (silent : ∀ told ∈ rest, told.bus? = none) {e : Parcel M}
    (accepted : .bus (.accepted e) ∈ es ++ rest) :
    (es ++ rest).filterMap ProducerEvent.bus? = [.accepted e] ∧ e.origin = origin ∧ e.message.body = message ∧
      s'.sends = s.sends := by
  obtain ⟨desk, below, rfl, rfl, -, stepped⟩ := trySend_ok sent
  have inside : Event.accepted e ∈ below := by
    rcases List.mem_append.mp accepted with told | late
    · obtain ⟨event, member, same⟩ := List.mem_map.mp told
      cases same
      exact member
    · cases silent _ late
  obtain ⟨rfl, same⟩ := accepted_of_desk stepped inside
  cases same
  rw [List.filterMap_append, ProducerEvent.filterMap_bus, List.filterMap_eq_nil_iff.mpr silent]
  exact ⟨rfl, rfl, rfl, rfl⟩

/-- **Whose message is accepted**: a future's, which has ended then, or one that is sent at once. -/
theorem accepted_cases (stepped : s.step a = some (s', es)) {e : Parcel M} (accepted : .bus (.accepted e) ∈ es) :
    es.filterMap ProducerEvent.bus? = [.accepted e] ∧
      (a.sendsAs? s = some e.origin ∨ ∃ n send, s.sends[n]? = some send ∧ send.phase = .sending ∧
        e.origin = send.origin ∧ e.message.body = send.message ∧ s'.sends = (s.setPhase n .ended).sends) := by
  cases a with
  | makeSend h message =>
      obtain ⟨handle, -, same⟩ := Option.map_eq_some_iff.mp stepped
      cases same
      cases accepted
  | makeSendWithOrigin h origin message =>
      obtain ⟨handle, -, same⟩ := Option.map_eq_some_iff.mp stepped
      cases same
      cases accepted
  | makeHandle name =>
      cases stepped
      cases accepted
  | registerProducerThrottled name throttle =>
      simp only [step] at stepped
      split at stepped
      · split at stepped
        · cases stepped
        · cases stepped
          simp at accepted
      · cases stepped
  | clone h =>
      obtain ⟨handle, -, same⟩ := Option.map_eq_some_iff.mp stepped
      cases same
      cases accepted
  | tryMakeSend h message =>
      obtain ⟨handle, found, same⟩ := Option.map_eq_some_iff.mp stepped
      split at same
      · cases same
        simp at accepted
      · rename_i s₁ below sent
        cases same
        obtain ⟨told, origin, -, -⟩ := accepted_of_trySend sent (by simp [ProducerEvent.bus?]) accepted
        exact ⟨told, Or.inl (by simp [ProducerAction.sendsAs?, found, origin])⟩
  | poll n =>
      simp only [step] at stepped
      split at stepped
      · cases stepped
      · rename_i send found
        split at stepped
        · rcases (waitForToken_desk stepped).2 _ accepted with ⟨b, now, wrong⟩ | wrong <;> cases wrong
        · split at stepped
          · cases stepped
            cases accepted
          · cases stepped
        · rename_i sending
          split at stepped
          · cases stepped
            simp at accepted
          · cases stepped
          · rename_i s₁ below sent
            cases stepped
            obtain ⟨told, origin, body, same⟩ := accepted_of_trySend sent (by simp [ProducerEvent.bus?]) accepted
            refine ⟨told, Or.inr ⟨n, send, found, sending, origin, body, ?_⟩⟩
            rw [setPhase, setPhase, same]
        · cases stepped
  | cancel n =>
      obtain ⟨send, -, same⟩ := Option.map_eq_some_iff.mp stepped
      cases same
      cases accepted
  | wait duration =>
      simp only [step] at stepped
      split at stepped
      · cases stepped
        cases accepted
      · cases stepped
  | desk b =>
      obtain ⟨⟨desk, below⟩, deskStepped, same⟩ := Option.map_eq_some_iff.mp stepped
      cases same
      obtain ⟨rfl, rfl⟩ := accepted_of_desk deskStepped (e := e) (by simpa using accepted)
      exact ⟨rfl, Or.inl rfl⟩

end Producers

/-! ## An endpoint's messages -/

/-- The messages `send_bus` of the endpoint has gone on with. -/
def LocalEvent.called? (k : Nat) : LocalEvent M C → Option M
  | .begun k' _ message => if k' = k then some message else none
  | _ => none

namespace Locals

def callsOf (k : Nat) (t : List (LocalEvent M C)) : List M := t.filterMap (LocalEvent.called? k)

/-- What is accepted under a name. -/
def acceptedUnder (name : String) (t : List (LocalEvent M C)) : List M :=
  (((busTrace t).filterMap Event.accepted?).filter fun e => e.origin = ⟨name⟩).map fun e => e.message.body

/-- The message that a future of the endpoint is sending. -/
def underway (s : Locals F I M C) (k : Nat) : List M :=
  match s.endpoints k with
  | .here _ (some n) =>
      match s.producers.sends[n]? with
      | some send => if send.phase = .ended then [] else [send.message]
      | none => []
  | _ => []

@[simp] theorem setPlace_producers (s : Locals F I M C) (k : Nat) (place : Place C) :
    (s.setPlace k place).producers = s.producers := rfl

@[simp] theorem setPlace_endpoints (s : Locals F I M C) (k k' : Nat) (place : Place C) :
    (s.setPlace k place).endpoints k' = if k' = k then place else s.endpoints k' := by
  simp [setPlace, Function.update_apply]

/-- Nobody but endpoint `k` sends under this name. -/
structure OwnName (k : Nat) (name : String) (s : Locals F I M C) (a : LocalAction F I M C) : Prop where
  named : ∀ j name' flags, a = .new j name' flags → (name' = name ↔ j = k)
  others : ∀ b, a = .producers b → b.sendsAs? s.producers ≠ some ⟨name⟩

/-- No future borrows the endpoint. -/
def Idle (s : Locals F I M C) (k : Nat) : Prop :=
  ∀ e n send, s.endpoints k = .here e (some n) → s.producers.sends[n]? = some send → send.phase = .ended

theorem free_eq_some {s : Locals F I M C} {k : Nat} {e : Endpoint C} (free : s.free k = some e) :
    (∃ n, s.endpoints k = .here e n) ∧ s.Idle k := by
  unfold Locals.free at free
  split at free
  · rename_i e' here
    cases free
    exact ⟨⟨none, here⟩, fun e n send other => by cases here.symm.trans other⟩
  · rename_i e' n here
    split at free
    · rename_i ended
      cases free
      refine ⟨⟨some n, here⟩, ?_⟩
      intro e m send other found
      cases here.symm.trans other
      rw [found, Option.all_some] at ended
      exact eq_of_beq ended
    · cases free
  · cases free

theorem Idle.underway {s : Locals F I M C} {k : Nat} (idle : s.Idle k) : s.underway k = [] := by
  unfold Locals.underway
  split
  · rename_i e n here
    split
    · rename_i send found
      rw [if_pos (idle e n send here found)]
    · rfl
  · rfl

/-- What holds of the endpoints, the handles and the futures, while endpoint `k` has its name for itself. -/
structure Orderly (k : Nat) (name : String) (s : Locals F I M C) (t : List (LocalEvent M C)) : Prop where
  named : ∀ j e n, s.endpoints j = .here e n → (e.name = name ↔ j = k)
  handles : ∀ j e n h, s.endpoints j = .here e n → e.handle = some h →
    ∃ handle, s.producers.handles[h]? = some handle ∧ handle.origin = ⟨e.name⟩
  known : ∀ j e n, s.endpoints j = .here e (some n) → n < s.producers.sends.length
  working : ∀ n send, s.producers.sends[n]? = some send → send.origin = ⟨name⟩ → send.phase ≠ .ended →
    ∃ e, s.endpoints k = .here e (some n)
  order : List.Sublist (acceptedUnder name t ++ s.underway k) (callsOf k t)

variable [F32 F] [Message M] {s s' : Locals F I M C} {a : LocalAction F I M C} {t es : List (LocalEvent M C)}
  {k : Nat} {name : String}

theorem acceptedUnder_append (name : String) (t es : List (LocalEvent M C)) :
    acceptedUnder name (t ++ es) = acceptedUnder name t ++ acceptedUnder name es := by
  simp [acceptedUnder, busTrace]

/-- Of events of the bus, only its sends count. -/
theorem acceptedUnder_producers (name : String) (below : List (ProducerEvent M)) {rest : List (LocalEvent M C)}
    (silent : rest.filterMap LocalEvent.producers? = []) :
    acceptedUnder name (below.map .producers ++ rest) =
      (((below.filterMap ProducerEvent.bus?).filterMap Event.accepted?).filter fun e => e.origin = ⟨name⟩).map
        fun e => e.message.body := by
  rw [acceptedUnder, busTrace, LocalEvent.filterMap_producers_append _ silent]

/-- An idle endpoint goes somewhere else, or comes back as it is but for its handler and its handle. -/
theorem Orderly.place (orderly : Orderly k name s t) {j : Nat} (idle : s.Idle j) {place : Place C}
    (named : ∀ e n, place = .here e n → (e.name = name ↔ j = k) ∧ n = none)
    (handles : ∀ e n h, place = .here e n → e.handle = some h →
      ∃ handle, s.producers.handles[h]? = some handle ∧ handle.origin = ⟨e.name⟩) :
    Orderly k name (s.setPlace j place) t where
  named j' e n here := by
    rw [setPlace_endpoints] at here
    split at here
    · rename_i same
      rw [same]
      exact (named e n here).1
    · exact orderly.named j' e n here
  handles j' e n h here := by
    rw [setPlace_endpoints] at here
    split at here
    · exact handles e n h here
    · exact orderly.handles j' e n h here
  known j' e n here := by
    rw [setPlace_endpoints] at here
    split at here
    · cases (named e (some n) here).2
    · exact orderly.known j' e n here
  working n send found isOwn active := by
    obtain ⟨e, here⟩ := orderly.working n send found isOwn active
    refine ⟨e, ?_⟩
    rw [setPlace_endpoints, if_neg]
    · exact here
    · rintro rfl
      exact active (idle e n send here found)
  order := by
    have same : (s.setPlace j place).underway k = s.underway k := by
      by_cases own : j = k
      · subst own
        have gone : (s.setPlace j place).Idle j := by
          intro e n send here found
          rw [setPlace_endpoints, if_pos rfl] at here
          cases (named e (some n) here).2
        rw [gone.underway, idle.underway]
      · simp only [underway, setPlace_endpoints, setPlace_producers, if_neg (Ne.symm own)]
    rw [same]
    exact orderly.order

/-- What is under way after a step of the bus was so before. -/
theorem underway_below (orderly : Orderly k name s t) {b : ProducerAction F I M (Resident C)}
    {producers : Producers F I M (Resident C)} {below : List (ProducerEvent M)}
    (stepped : s.producers.step b = some (producers, below)) :
    List.Sublist (underway { s with producers := producers } k) (s.underway k) := by
  cases place : s.endpoints k with
  | unused => simp [underway, place]
  | moved => simp [underway, place]
  | here e sending =>
      cases sending with
      | none => simp [underway, place]
      | some n =>
          have held := List.getElem?_eq_getElem (orderly.known k e n place)
          obtain ⟨send, now, -, message, -, ends⟩ := (Producers.move_of_step stepped).send_stays held
          simp only [underway, place, held, now, message]
          by_cases ended : send.phase = .ended
          · rw [if_pos ended]
            exact List.nil_sublist _
          · rw [if_neg ended, if_neg fun was => ended (ends was)]

/-- What is accepted under the name, when nobody sends under it at once, is what endpoint `k` is sending. -/
theorem Orderly.accepts (orderly : Orderly k name s t) {b : ProducerAction F I M (Resident C)}
    {producers : Producers F I M (Resident C)} {below : List (ProducerEvent M)}
    (stepped : s.producers.step b = some (producers, below)) (foreign : b.sendsAs? s.producers ≠ some ⟨name⟩)
    (rest : List (LocalEvent M C)) (silent : rest.filterMap LocalEvent.producers? = []) :
    acceptedUnder name (below.map .producers ++ rest) = [] ∨
      ∃ e n send, s.endpoints k = .here e (some n) ∧ s.producers.sends[n]? = some send ∧ send.phase = .sending ∧
        acceptedUnder name (below.map .producers ++ rest) = [send.message] ∧
        producers.sends = (s.producers.setPhase n .ended).sends := by
  rw [acceptedUnder_producers name below silent]
  by_cases sends : ∃ e : Parcel M, .bus (.accepted e) ∈ below ∧ e.origin = ⟨name⟩
  · obtain ⟨e, accepted, isOwn⟩ := sends
    obtain ⟨told, atOnce | ⟨n, send, found, sending, origin, body, same⟩⟩ :=
      Producers.accepted_cases stepped accepted
    · exact absurd (isOwn ▸ atOnce) foreign
    · obtain ⟨e', here⟩ := orderly.working n send found (origin.symm.trans isOwn) (by rw [sending]; simp)
      refine Or.inr ⟨e', n, send, here, found, sending, ?_, same⟩
      simp [told, Event.accepted?, isOwn, body]
  · apply Or.inl
    rw [List.map_eq_nil_iff, List.filter_eq_nil_iff]
    intro e member isOwn
    obtain ⟨event, isIn, isBus⟩ := List.mem_filterMap.mp (Event.mem_filterMap_accepted.mp member)
    cases event with
    | bus inner =>
        cases isBus
        exact sends ⟨e, isIn, of_decide_eq_true isOwn⟩
    | _ => cases isBus

/-- A step of the bus in which nobody sends under the name at once. -/
theorem Orderly.below (orderly : Orderly k name s t) {b : ProducerAction F I M (Resident C)}
    {producers : Producers F I M (Resident C)} {below : List (ProducerEvent M)}
    (stepped : s.producers.step b = some (producers, below)) (foreign : b.sendsAs? s.producers ≠ some ⟨name⟩)
    (rest : List (LocalEvent M C)) (silent : rest.filterMap LocalEvent.producers? = [])
    (uncalled : callsOf k rest = []) :
    Orderly k name { s with producers := producers } (t ++ (below.map .producers ++ rest)) where
  named := orderly.named
  handles j e n h here has := by
    obtain ⟨handle, found, origin⟩ := orderly.handles j e n h here has
    obtain ⟨⟨more, grown⟩, -⟩ := Producers.grown_of_step stepped
    refine ⟨handle, ?_, origin⟩
    rw [grown, List.getElem?_append_left (List.getElem?_eq_some_iff.mp found).1, found]
  known j e n here := by
    have bound := orderly.known j e n here
    rcases (Producers.grown_of_step stepped).2 with same | ⟨send, grown, -⟩
    · rw [same]
      exact bound
    · rw [grown, List.length_append]
      omega
  working n send found isOwn active := by
    cases held : s.producers.sends[n]? with
    | some old =>
        obtain ⟨send', now, origin, -, -, ends⟩ := (Producers.move_of_step stepped).send_stays held
        cases found.symm.trans now
        exact orderly.working n old held (origin.symm.trans isOwn) fun ended => active (ends ended)
    | none =>
        rcases (Producers.grown_of_step stepped).2 with same | ⟨new, grown, sendsAs⟩
        · have inside : n < producers.sends.length := (List.getElem?_eq_some_iff.mp found).1
          have outside := List.getElem?_eq_none_iff.mp held
          omega
        · -- a new future is of somebody who sends at once
          have isNew : send = new := by
            have found : (s.producers.sends ++ [new])[n]? = some send := grown ▸ found
            rw [List.getElem?_append_right (List.getElem?_eq_none_iff.mp held), List.getElem?_singleton] at found
            split at found
            · exact (Option.some.inj found).symm
            · cases found
          rw [← isNew, isOwn] at sendsAs
          exact absurd sendsAs foreign
  order := by
    have calls : callsOf k (t ++ (below.map .producers ++ rest)) = callsOf k t := by
      have none : callsOf k (below.map .producers : List (LocalEvent M C)) = [] := by
        rw [callsOf, List.filterMap_map]
        exact List.filterMap_eq_nil_iff.mpr fun _ _ => rfl
      rw [callsOf, List.filterMap_append, List.filterMap_append]
      rw [callsOf] at none uncalled
      rw [none, uncalled, List.append_nil, List.append_nil]
      rfl
    rw [calls, acceptedUnder_append]
    rcases orderly.accepts stepped foreign rest silent with none | ⟨e, n, send, here, found, sending, told, same⟩
    · rw [none, List.append_nil]
      exact (List.Sublist.append_left (underway_below orderly stepped) _).trans orderly.order
    · have before : s.underway k = [send.message] := by
        simp [underway, here, found, sending]
      have after : underway { s with producers := producers } k = [] := by
        simp [underway, here, same, found]
      have order := orderly.order
      rw [before] at order
      rw [told, after, List.append_nil]
      exact order

/-- Events that are nobody's calls and nothing of the bus. -/
theorem Orderly.quiet (orderly : Orderly k name s t) (silent : busTrace es = []) (uncalled : callsOf k es = []) :
    Orderly k name s (t ++ es) where
  named := orderly.named
  handles := orderly.handles
  known := orderly.known
  working := orderly.working
  order := by
    have none : acceptedUnder name es = [] := by rw [acceptedUnder, silent]; rfl
    have calls : callsOf k (t ++ es) = callsOf k t := by
      rw [callsOf, List.filterMap_append]
      rw [callsOf] at uncalled
      rw [uncalled, List.append_nil]
      rfl
    rw [acceptedUnder_append, none, List.append_nil, calls]
    exact orderly.order

/-- A future of `send_bus` begins. -/
theorem Orderly.begins (orderly : Orderly k name s t) {j h : Nat} {e : Endpoint C} {handle : ProducerHandle}
    {message : M} (free : s.free j = some e) (sends : e.sendOp = some h)
    (found : s.producers.handles[h]? = some handle) :
    Orderly k name
      ({ s with producers := s.producers.begin handle handle.origin message }.setPlace j
        (.here e (some s.producers.sends.length)))
      (t ++ [.begun j s.producers.sends.length message]) := by
  obtain ⟨⟨b, place⟩, idle⟩ := free_eq_some free
  have has := Endpoint.handle_of_sendOp sends
  obtain ⟨handle', found', origin⟩ := orderly.handles j e b h place has
  cases found.symm.trans found'
  refine ⟨?named, ?handles, ?known, ?working, ?order⟩
  case named =>
    intro j' e' n here
    rw [setPlace_endpoints] at here
    split at here
    · rename_i same
      cases here
      exact same ▸ orderly.named j e b place
    · exact orderly.named j' e' n here
  case handles =>
    intro j' e' n h' here has'
    rw [setPlace_endpoints] at here
    split at here
    · cases here
      exact orderly.handles j e b h' place has'
    · exact orderly.handles j' e' n h' here has'
  case known =>
    intro j' e' n here
    rw [setPlace_endpoints] at here
    rw [setPlace_producers, Producers.begin, List.length_append, List.length_singleton]
    split at here
    · cases here
      exact Nat.lt_succ_self _
    · exact Nat.lt_succ_of_lt (orderly.known j' e' n here)
  case working =>
    intro n send held isOwn active
    rw [setPlace_producers, Producers.begin] at held
    rw [setPlace_endpoints]
    rcases Nat.lt_or_ge n s.producers.sends.length with old | new
    · rw [List.getElem?_append_left old] at held
      obtain ⟨e', here⟩ := orderly.working n send held isOwn active
      refine ⟨e', ?_⟩
      rw [if_neg]
      · exact here
      · rintro rfl
        exact active (idle e' n send here held)
    · rw [List.getElem?_append_right new, List.getElem?_singleton] at held
      split at held
      · rename_i first
        cases held
        have ours : e.name = name := by
          rw [origin] at isOwn
          exact congrArg ProducerId.name isOwn
        have last : n = s.producers.sends.length := by omega
        exact ⟨e, by rw [if_pos ((orderly.named j e b place).mp ours).symm, last]⟩
      · cases held
  case order =>
    have accepted : acceptedUnder name (t ++ [.begun j s.producers.sends.length message]) = acceptedUnder name t := by
      rw [acceptedUnder_append]
      exact List.append_nil _
    rw [accepted, callsOf, List.filterMap_append, ← callsOf]
    by_cases ours : j = k
    · subst ours
      have order := orderly.order
      rw [idle.underway, List.append_nil] at order
      have now : underway
          ({ s with producers := s.producers.begin handle handle.origin message }.setPlace j
            (.here e (some s.producers.sends.length))) j = [message] := by
        simp [underway, Producers.begin]
      rw [now, show ([.begun j s.producers.sends.length message] : List (LocalEvent M C)).filterMap
        (LocalEvent.called? j) = [message] from by simp [LocalEvent.called?]]
      exact order.append_right [message]
    · have same : underway
          ({ s with producers := s.producers.begin handle handle.origin message }.setPlace j
            (.here e (some s.producers.sends.length))) k = s.underway k := by
        cases place' : s.endpoints k with
        | unused => simp [underway, place', Ne.symm ours]
        | moved => simp [underway, place', Ne.symm ours]
        | here e' sending =>
            cases sending with
            | none => simp [underway, place', Ne.symm ours]
            | some n =>
                have bound := orderly.known k e' n place'
                simp [underway, place', Ne.symm ours, Producers.begin, List.getElem?_append_left bound]
      rw [same, show ([.begun j s.producers.sends.length message] : List (LocalEvent M C)).filterMap
        (LocalEvent.called? k) = [] from by simp [LocalEvent.called?, ours], List.append_nil]
      exact orderly.order

/-- An endpoint gets the handle that a step of the bus makes for it. -/
theorem Orderly.attaches (orderly : Orderly k name s t) {j : Nat} {e : Endpoint C} (free : s.free j = some e)
    {b : ProducerAction F I M (Resident C)} {producers : Producers F I M (Resident C)}
    {below : List (ProducerEvent M)} (stepped : s.producers.step b = some (producers, below))
    (foreign : b.sendsAs? s.producers = none) (sends : producers.sends = s.producers.sends)
    {handle : ProducerHandle} (made : producers.handles = s.producers.handles ++ [handle])
    (origin : handle.origin = ⟨e.name⟩) {bucket : Option (Nat × Throttle)} :
    Orderly k name
      ({ s with producers := producers }.setPlace j (.here (e.attach s.producers.handles.length) none))
      (t ++ (below.map .producers ++ [.attached j bucket])) := by
  obtain ⟨⟨b', place⟩, idle⟩ := free_eq_some free
  have next := orderly.below stepped (by rw [foreign]; simp) [.attached j bucket] rfl rfl
  refine next.place ?_ ?_ ?_
  · intro e' n send here found
    exact idle e' n send here (sends ▸ found)
  · rintro e' n same
    cases same
    exact ⟨orderly.named j e b' place, rfl⟩
  · rintro e' n h same has
    cases same
    cases has
    exact ⟨handle, by simp [made], origin⟩

theorem Orderly.step (orderly : Orderly k name s t) (own : OwnName k name s a) (move : Move s a s' es) :
    Orderly k name s' (t ++ es) := by
  cases move with
  | @made j name' flags unused =>
      rw [List.append_nil]
      refine orderly.place ?_ ?_ ?_
      · intro e n send here
        cases unused.symm.trans here
      · rintro e n same
        cases same
        exact ⟨own.named j name' flags rfl, rfl⟩
      · rintro e n h same has
        cases same
        cases has
  | @handlerSet j consumer e free =>
      obtain ⟨⟨b, place⟩, idle⟩ := free_eq_some free
      rw [List.append_nil]
      refine orderly.place idle ?_ ?_
      · rintro e' n same
        cases same
        exact ⟨orderly.named j e b place, rfl⟩
      · rintro e' n h same has
        cases same
        exact orderly.handles j e b h place has
  | @attached j e producers free stepped given =>
      exact orderly.attaches free stepped rfl (by rw [given]) (by rw [given]) rfl
  | @throttled j e throttle producers free stepped given =>
      exact orderly.attaches free stepped rfl (by rw [given]) (by rw [given]) rfl
  | @refused j e message free noHandle => exact orderly.quiet rfl rfl
  | @begun j h e handle message free sends found stepped => exact orderly.begins free sends found
  | @entered j e a b producers below free enters stepped =>
      obtain ⟨-, idle⟩ := free_eq_some free
      have foreign : b.sendsAs? s.producers = none := by cases enters <;> rfl
      have next := orderly.below stepped (by rw [foreign]; simp) [] rfl rfl
      rw [List.append_nil] at next
      refine next.place ?_ (fun _ _ wrong => by cases wrong) (fun _ _ _ wrong => by cases wrong)
      -- what has ended stays so
      intro e' n send here found
      have held := List.getElem?_eq_getElem (orderly.known j e' n here)
      obtain ⟨send', now, -, -, -, ends⟩ := (Producers.move_of_step stepped).send_stays held
      cases found.symm.trans now
      exact ends (idle e' n _ here held)
  | @taken consumer producers below stepped =>
      refine orderly.below stepped (by simp [ProducerAction.sendsAs?]) _
        (LocalEvent.filterMap_producers_consumed _) ?_
      rw [callsOf, List.filterMap_map]
      exact List.filterMap_eq_nil_iff.mpr fun _ _ => rfl
  | @others b producers below apart stepped =>
      have next := orderly.below stepped (own.others b rfl) [] rfl rfl
      rwa [List.append_nil] at next

theorem orderly_init (k : Nat) (name : String) (capacity : Nat) (router : Router) (cap : Nat) :
    Orderly k name (init capacity router cap : Locals F I M C) [] where
  named _ _ _ wrong := by cases wrong
  handles _ _ _ _ wrong := by cases wrong
  known _ _ _ wrong := by cases wrong
  working _ _ wrong := by cases wrong
  order := List.Sublist.refl []

variable {capacity cap : Nat} {router : Router}

/-- **An endpoint's messages are accepted in the order of its calls**, none twice.  In every run in
which nobody else sends under the name of endpoint `k`: what is accepted under the name, with
what is still under way, is a selection of what `send_bus` of the endpoint was called with, in
the order of the calls, whatever its handles are and however its futures are polled and dropped. -/
theorem sends_in_call_order (k : Nat) (name : String)
    (runs : Runs step (fun s _ a => OwnName k name s a) (init capacity router cap : Locals F I M C) s t) :
    List.Sublist (acceptedUnder name t ++ s.underway k) (callsOf k t) := by
  suffices orderly : Orderly k name s t from orderly.order
  apply runs.invariant (P := fun s t => Orderly k name s t)
  · exact orderly_init k name capacity router cap
  · intro s t a s' es orderly own stepped
    exact orderly.step own (move_of_step stepped)

def ownNameTest (k : Nat) (name : String) (s : Locals ℚ Unit BaseMessage String) :
    LocalAction ℚ Unit BaseMessage String → Bool
  | .new j name' _ => (name' == name) == (j == k)
  | .producers b => b.sendsAs? s.producers != some ⟨name⟩
  | _ => true

theorem ownName_of_test {k : Nat} {name : String} {s : Locals ℚ Unit BaseMessage String}
    {a : LocalAction ℚ Unit BaseMessage String} (passes : ownNameTest k name s a = true) : OwnName k name s a where
  named j name' flags isNew := by
    subst isNew
    have same : (name' == name) = (j == k) := eq_of_beq passes
    rw [← beq_iff_eq, same, beq_iff_eq]
  others b below := by
    subst below
    exact bne_iff_ne.mp passes

theorem conversed_runs :
    Runs step (fun s _ a => OwnName 0 "talker" s a) (init 8 .affinity 8) conversed.1 conversed.2 :=
  runs_outcome conversation (fun s _ a => ownNameTest 0 "talker" s a) (fun _ _ _ => ownName_of_test)
    (by decide +kernel) (by decide +kernel)

/-- Of three calls one is dropped. -/
theorem sends_in_call_order_conversed :
    acceptedUnder "talker" conversed.2 = [said 7, said 9] ∧ callsOf 0 conversed.2 = [said 7, said 8, said 9] ∧
      List.Sublist (acceptedUnder "talker" conversed.2 ++ conversed.1.underway 0) (callsOf 0 conversed.2) :=
  ⟨by decide +kernel, by decide +kernel, sends_in_call_order 0 "talker" conversed_runs⟩

end Locals

end Jackfield
