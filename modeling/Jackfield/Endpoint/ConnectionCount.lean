/-
# Jackfield.Endpoint.ConnectionCount -- how many connections are active

The table and `active` are changed in separate steps, so `active` lags behind: each insert
leaves an addition to be made, each removal a subtraction.  `ConnectionWorld.ledger` reads
these numbers off, and every step leaves them alone or is a `Lagging.Move`
(`Move.ledger`).  At rest nothing is left to be made, and `active` is the number of
connections (`active_right_at_rest`).

On the way there it may be wrong, and worse: a connection may be removed before its own
`connect` has counted it, and the subtraction come before the addition, from zero
(`counted_off_first`).  If no connection is removed unless there are more in the table than
additions to be made, every subtraction finds something to subtract from
(`count_never_wraps`).

A step that inserts must find its id unused for this, and one that removes a connection
after a failed send must mean the connection that failed.  Ids are drawn one by one, so both
hold while there are fewer `connect` calls than numbers (`Sound`).
-/
import Jackfield.Endpoint.ConnectionRegistry

namespace Jackfield

set_option autoImplicit false

variable {T : Type}

open Machine

namespace ConnectionPhase

/-- The senders that `broadcast` has still to send to. -/
def rest : ConnectionPhase → List (Nat × Nat)
  | .sending rest _ => rest
  | _ => []

/-- The connections whose receiver `broadcast` has found gone. -/
def dead : ConnectionPhase → List Nat
  | .sending _ dead => dead
  | .locking dead => dead
  | .sweeping dead => dead
  | .swept dead => dead
  | _ => []

@[simp] theorem rest_afterSend (rest : List (Nat × Nat)) (dead : List Nat) : (afterSend rest dead).rest = rest := by
  cases rest with
  | nil => cases dead <;> rfl
  | cons next rest => rfl

@[simp] theorem dead_afterSend (rest : List (Nat × Nat)) (dead : List Nat) : (afterSend rest dead).dead = dead := by
  cases rest with
  | nil => cases dead <;> rfl
  | cons next rest => rfl

end ConnectionPhase

namespace ConnectionCaller

def isConnect : ConnectionCaller T → Bool
  | ⟨.connect _, _⟩ => true
  | _ => false

def hasDrawn : ConnectionCaller T → Bool
  | ⟨.connect _, .drawing⟩ => false
  | ⟨.connect _, _⟩ => true
  | _ => false

/-- The id a `connect` will insert, or has inserted. -/
def drawn? : ConnectionCaller T → Option Nat
  | ⟨.connect _, .inserting id⟩ => some id
  | ⟨.connect _, .counting id⟩ => some id
  | ⟨.connect _, .connected id⟩ => some id
  | _ => none

/-- The connection a `connect` has inserted. -/
def inserted? : ConnectionCaller T → Option (Nat × Nat)
  | ⟨.connect tx, .counting id⟩ => some (id, tx)
  | ⟨.connect tx, .connected id⟩ => some (id, tx)
  | _ => none

/-- It has inserted a connection and not yet counted it. -/
def owesAddition : ConnectionCaller T → Bool
  | ⟨.connect _, .counting _⟩ => true
  | _ => false

/-- It has removed a connection and not yet counted it off. -/
def owesSubtraction : ConnectionCaller T → Bool
  | ⟨.disconnect _, .uncounting⟩ => true
  | ⟨.broadcast _, .swept _⟩ => true
  | _ => false

/-- The connection that it is about to look for and remove. -/
def target? : ConnectionCaller T → Option Nat
  | ⟨.disconnect id, .removing⟩ => some id
  | ⟨.broadcast _, .sweeping (id :: _)⟩ => some id
  | _ => none

/-- It is over. -/
def ended : ConnectionCaller T → Bool
  | ⟨_, .connected _⟩ => true
  | ⟨_, .done⟩ => true
  | ⟨_, .dropped⟩ => true
  | _ => false

theorem drawn?_of_inserted? {c : ConnectionCaller T} {id tx : Nat} (inserted : c.inserted? = some (id, tx)) :
    c.drawn? = some id := by
  unfold inserted? at inserted
  split at inserted <;> simp_all [drawn?]

/-- Whoever is done owes nothing. -/
theorem owes_of_ended {c : ConnectionCaller T} (isOver : c.ended = true) :
    owesAddition c = false ∧ owesSubtraction c = false := by
  unfold ended at isOver
  split at isOver
  · rename_i call id
    cases call <;> exact ⟨rfl, rfl⟩
  · rename_i call
    cases call <;> exact ⟨rfl, rfl⟩
  · rename_i call
    cases call <;> exact ⟨rfl, rfl⟩
  · cases isOver

/-- A `connect` that has inserted and is over returned its id. -/
theorem connected_of_ended {c : ConnectionCaller T} {id tx : Nat} (isOver : c.ended = true)
    (inserted : c.inserted? = some (id, tx)) : c = ⟨.connect tx, .connected id⟩ := by
  unfold inserted? at inserted
  split at inserted
  · cases isOver
  · cases inserted
    rfl
  · cases inserted

theorem drawn?_start (call : ConnectionCall T) : drawn? ⟨call, call.start⟩ = none := by
  cases call <;> rfl

end ConnectionCaller

namespace ConnectionWorld

open ConnectionCaller (isConnect hasDrawn owesAddition owesSubtraction ended)

/-! ## Callers -/

theorem cases_of_set {l : List (ConnectionCaller T)} {n j : Nat} {c d : ConnectionCaller T}
    (after : (l.set n c)[j]? = some d) : j = n ∧ d = c ∨ j ≠ n ∧ l[j]? = some d := by
  rw [List.getElem?_set] at after
  split at after
  · rename_i same
    split at after
    · exact Or.inl ⟨same.symm, (Option.some.inj after).symm⟩
    · cases after
  · rename_i other
    exact Or.inr ⟨fun same => other same.symm, after⟩

theorem cases_of_concat {l : List (ConnectionCaller T)} {c d : ConnectionCaller T} {j : Nat}
    (after : (l ++ [c])[j]? = some d) : l[j]? = some d ∨ d = c := by
  have member : d ∈ l ++ [c] := List.mem_of_getElem? after
  rw [List.getElem?_append] at after
  split at after
  · exact Or.inl after
  · exact Or.inr (List.mem_singleton.mp (List.mem_of_getElem? after))

/-- One caller goes on, and a count of callers changes with it. -/
theorem countP_set {l : List (ConnectionCaller T)} {n : Nat} {c : ConnectionCaller T}
    (found : l[n]? = some c) (p : ConnectionCaller T → Bool) (d : ConnectionCaller T) :
    (l.set n d).countP p + (p c).toNat = l.countP p + (p d).toNat := by
  obtain ⟨inside, same⟩ := List.getElem?_eq_some_iff.mp found
  have counted : (if p l[n] then 1 else 0) ≤ l.countP p := List.boole_getElem_le_countP inside
  have asNat : ∀ b : Bool, (if b then 1 else 0) = b.toNat := fun b => by cases b <;> rfl
  rw [List.countP_set inside]
  rw [same, asNat] at counted ⊢
  rw [asNat]
  omega

/-- The `connect` calls. -/
def connects (s : ConnectionWorld T) : Nat := s.callers.countP isConnect

/-- A `connect` inserted the connection. -/
def Owner (s : ConnectionWorld T) (id tx : Nat) : Prop :=
  ∃ (n : Nat) (c : ConnectionCaller T), s.callers[n]? = some c ∧ c.inserted? = some (id, tx)

variable {s s' : ConnectionWorld T} {a : ConnectionAction T} {t es : List ConnectionEvent}

section Turns

variable {n : Nat} {c : ConnectionCaller T} {x : ConnectionStep} {phase : ConnectionPhase}
  {registry : ConnectionRegistry}

/-- What was inserted stays that. -/
theorem Turn.inserted_stays (turn : Turn s n c x phase registry es) {id tx : Nat}
    (inserted : c.inserted? = some (id, tx)) : ConnectionCaller.inserted? ⟨c.call, phase⟩ = some (id, tx) := by
  cases turn with
  | counted => exact inserted
  | @dropped call phase waits =>
      cases call <;> cases phase <;> simp [ConnectionCaller.inserted?, ConnectionPhase.awaits] at inserted waits
  | _ => cases inserted

/-- An id was drawn before, or is drawn now. -/
theorem Turn.drawn_cases (turn : Turn s n c x phase registry es) {id : Nat}
    (drawn : ConnectionCaller.drawn? ⟨c.call, phase⟩ = some id) :
    c.drawn? = some id ∨ id = s.registry.nextId ∧ x = .draw := by
  cases turn with
  | drew => exact Or.inr ⟨(Option.some.inj drawn).symm, rfl⟩
  | inserted free => exact Or.inl drawn
  | counted => exact Or.inl drawn
  | @dropped call phase waits => cases call <;> cases drawn
  | _ => cases drawn

theorem Turn.nextId_cases (turn : Turn s n c x phase registry es) :
    x ≠ .draw ∧ registry.nextId = s.registry.nextId ∧ (c.hasDrawn = true → hasDrawn ⟨c.call, phase⟩ = true) ∨
      x = .draw ∧ registry.nextId = Lagging.up counterModulus s.registry.nextId ∧ c.hasDrawn = false ∧
        hasDrawn ⟨c.call, phase⟩ = true := by
  cases turn with
  | drew => exact Or.inr ⟨rfl, rfl, rfl, rfl⟩
  | @dropped call phase waits =>
      refine Or.inl ⟨nofun, rfl, ?_⟩
      cases call <;> cases phase <;> simp [hasDrawn]
  | counted => exact Or.inl ⟨nofun, ConnectionRegistry.nextId_countUp _, fun _ => rfl⟩
  | uncounted => exact Or.inl ⟨nofun, ConnectionRegistry.nextId_countDown _, fun had => had⟩
  | sweptOff => exact Or.inl ⟨nofun, ConnectionRegistry.nextId_countDown _, fun had => had⟩
  | _ => exact Or.inl ⟨nofun, rfl, fun had => had⟩

/-- A connection was in the table, or its `connect` inserts it now. -/
theorem Turn.sender_cases (turn : Turn s n c x phase registry es) {id tx : Nat}
    (there : registry.sender id = some tx) :
    s.registry.sender id = some tx ∨ ConnectionCaller.inserted? ⟨c.call, phase⟩ = some (id, tx) := by
  have kept : ∀ id', (s.registry.remove id').sender id = some tx → s.registry.sender id = some tx := by
    intro id' there
    by_cases same : id = id'
    · rw [same, ConnectionRegistry.sender_remove_self] at there
      cases there
    · rwa [ConnectionRegistry.sender_remove_of_ne _ same] at there
  cases turn with
  | @inserted tx' id' free =>
      by_cases same : id = id'
      · subst same
        rw [ConnectionRegistry.sender_insert_self] at there
        cases there
        exact Or.inr rfl
      · rw [ConnectionRegistry.sender_insert_of_ne _ _ same] at there
        exact Or.inl there
  | removed free found => exact Or.inl (kept _ there)
  | swept found => exact Or.inl (kept _ there)
  | drew =>
      rw [ConnectionRegistry.sender_draw] at there
      exact Or.inl there
  | counted =>
      rw [ConnectionRegistry.sender_countUp] at there
      exact Or.inl there
  | uncounted =>
      rw [ConnectionRegistry.sender_countDown] at there
      exact Or.inl there
  | sweptOff =>
      rw [ConnectionRegistry.sender_countDown] at there
      exact Or.inl there
  | _ => exact Or.inl there

/-- What `broadcast` sends to was in the table when it copied that. -/
theorem Turn.rest_cases (turn : Turn s n c x phase registry es) {id tx : Nat} (listed : (id, tx) ∈ phase.rest) :
    (id, tx) ∈ c.phase.rest ∨ s.registry.sender id = some tx := by
  cases turn with
  | collected free copied =>
      rw [ConnectionPhase.rest_afterSend] at listed
      exact Or.inr (ConnectionRegistry.mem_senders_iff.mp (copied.mem_iff.mp listed))
  | sent live =>
      rw [ConnectionPhase.rest_afterSend] at listed
      exact Or.inl (List.mem_cons_of_mem _ listed)
  | failed gone =>
      rw [ConnectionPhase.rest_afterSend] at listed
      exact Or.inl (List.mem_cons_of_mem _ listed)
  | _ => cases listed

/-- What it finds dead it could not send to. -/
theorem Turn.dead_cases (turn : Turn s n c x phase registry es) {id : Nat} (dead : id ∈ phase.dead) :
    id ∈ c.phase.dead ∨ ∃ tx, (id, tx) ∈ c.phase.rest ∧ .sendFailed n id tx ∈ es := by
  cases turn with
  | collected free copied =>
      rw [ConnectionPhase.dead_afterSend] at dead
      cases dead
  | sent live =>
      rw [ConnectionPhase.dead_afterSend] at dead
      exact Or.inl dead
  | @failed id' tx msg rest dead' gone =>
      rw [ConnectionPhase.dead_afterSend] at dead
      rcases List.mem_append.mp dead with before | now
      · exact Or.inl before
      · rw [List.mem_singleton.mp now]
        exact Or.inr ⟨tx, List.mem_cons_self .., List.mem_singleton_self _⟩
  | locked free => exact Or.inl dead
  | sweptNone nobody => exact Or.inl (List.mem_cons_of_mem _ dead)
  | swept there => exact Or.inl (List.mem_cons_of_mem _ dead)
  | sweptOff => exact Or.inl dead
  | _ => cases dead

end Turns

/-! ## Ids -/

theorem Owner.step {id tx : Nat} (owner : s.Owner id tx) (move : Move s a s' es) : s'.Owner id tx := by
  obtain ⟨n, c, found, inserted⟩ := owner
  cases move with
  | called =>
      refine ⟨n, c, ?_, inserted⟩
      rw [List.getElem?_append_left (List.getElem?_eq_some_iff.mp found).1]
      exact found
  | @turned n' c' x phase registry lock outlets es found' turn =>
      by_cases same : n' = n
      · subst same
        cases found.symm.trans found'
        refine ⟨n', ⟨c.call, phase⟩, ?_, turn.inserted_stays inserted⟩
        exact List.getElem?_set_self (List.getElem?_eq_some_iff.mp found).1
      · exact ⟨n, c, (List.getElem?_set_ne same).trans found, inserted⟩
  | aside receiver => exact ⟨n, c, found, inserted⟩

/-- Every `connect` has an id of its own.  What is in the table it inserted, and what a
`broadcast` goes by is what it inserted. -/
structure Sound (s : ConnectionWorld T) (t : List ConnectionEvent) : Prop where
  below : ∀ (n : Nat) (c : ConnectionCaller T) (id : Nat), s.callers[n]? = some c → c.drawn? = some id →
    id < s.registry.nextId
  unique : ∀ (n n' : Nat) (c c' : ConnectionCaller T) (id : Nat), s.callers[n]? = some c →
    s.callers[n']? = some c' → c.drawn? = some id → c'.drawn? = some id → n = n'
  owned : ∀ id tx, s.registry.sender id = some tx → s.Owner id tx
  listed : ∀ (n : Nat) (c : ConnectionCaller T) (id tx : Nat), s.callers[n]? = some c → (id, tx) ∈ c.phase.rest →
    s.Owner id tx
  failed : ∀ (n : Nat) (c : ConnectionCaller T) (id : Nat), s.callers[n]? = some c → id ∈ c.phase.dead →
    ∃ tx, .sendFailed n id tx ∈ t ∧ s.Owner id tx
  drawn : s.registry.nextId ≤ s.callers.countP hasDrawn

/-- An id has one owner. -/
theorem Sound.owner_eq (sound : Sound s t) {id tx tx' : Nat} (owner : s.Owner id tx) (owner' : s.Owner id tx') :
    tx = tx' := by
  obtain ⟨n, c, found, inserted⟩ := owner
  obtain ⟨n', c', found', inserted'⟩ := owner'
  have same := sound.unique n n' c c' id found found' (ConnectionCaller.drawn?_of_inserted? inserted)
    (ConnectionCaller.drawn?_of_inserted? inserted')
  subst same
  cases found.symm.trans found'
  cases inserted.symm.trans inserted'
  rfl

theorem drawn_le_connects (s : ConnectionWorld T) : s.callers.countP hasDrawn ≤ s.connects := by
  apply List.countP_mono_left
  intro c _ had
  obtain ⟨call, phase⟩ := c
  cases call <;> simp_all [hasDrawn, isConnect]

theorem Move.connects_cases (move : Move s a s' es) :
    s'.connects = s.connects ∨ ∃ tx, a = .call (.connect tx) ∧ s'.connects = s.connects + 1 := by
  cases move with
  | @called call =>
      unfold connects
      rw [List.countP_append]
      cases call with
      | connect tx => exact Or.inr ⟨tx, rfl, rfl⟩
      | disconnect id => exact Or.inl rfl
      | broadcast msg => exact Or.inl rfl
  | @turned n c x phase registry lock outlets es found turn =>
      have balance := countP_set found isConnect ⟨c.call, phase⟩
      have same : isConnect ⟨c.call, phase⟩ = isConnect c := by
        obtain ⟨call, phase'⟩ := c
        cases call <;> rfl
      rw [same] at balance
      exact Or.inl (Nat.add_right_cancel balance)
  | aside receiver => exact Or.inl rfl

theorem Move.connects_le (move : Move s a s' es) : s.connects ≤ s'.connects := by
  rcases move.connects_cases with same | ⟨tx, -, more⟩ <;> omega

/-- While there are ids left, the next one is new. -/
theorem Sound.nextId_of_turn (sound : Sound s t) {n : Nat} {c : ConnectionCaller T} {phase : ConnectionPhase}
    {registry : ConnectionRegistry} {x : ConnectionStep} (found : s.callers[n]? = some c)
    (turn : Turn s n c x phase registry es)
    (few : (s.callers.set n ⟨c.call, phase⟩).countP hasDrawn < counterModulus) :
    (registry.nextId = s.registry.nextId ∧ x ≠ .draw ∨ registry.nextId = s.registry.nextId + 1 ∧ x = .draw) ∧
      registry.nextId ≤ (s.callers.set n ⟨c.call, phase⟩).countP hasDrawn := by
  have balance := countP_set found hasDrawn ⟨c.call, phase⟩
  have before := sound.drawn
  rcases turn.nextId_cases with ⟨other, same, stays⟩ | ⟨draws, next, hadNot, has⟩
  · refine ⟨Or.inl ⟨same, other⟩, ?_⟩
    rw [same]
    cases had : c.hasDrawn with
    | false =>
        rw [had, Bool.toNat_false] at balance
        omega
    | true =>
        rw [had, stays had] at balance
        omega
  · rw [hadNot, has, Bool.toNat_false, Bool.toNat_true] at balance
    have new : registry.nextId = s.registry.nextId + 1 := next.trans (Lagging.up_of_lt (by omega))
    exact ⟨Or.inr ⟨new, draws⟩, by omega⟩

theorem Sound.turned (sound : Sound s t) {n : Nat} {c : ConnectionCaller T} {x : ConnectionStep}
    {phase : ConnectionPhase} {registry : ConnectionRegistry} {lock : Option Nat} {outlets : Nat → Outlet T}
    (found : s.callers[n]? = some c) (turn : Turn s n c x phase registry es)
    (few : (s.callers.set n ⟨c.call, phase⟩).countP hasDrawn < counterModulus) :
    Sound ⟨registry, lock, outlets, s.callers.set n ⟨c.call, phase⟩⟩ (t ++ es) := by
  have move : Move s (.step n x) ⟨registry, lock, outlets, s.callers.set n ⟨c.call, phase⟩⟩ es := .turned found turn
  obtain ⟨next, drawn⟩ := sound.nextId_of_turn found turn few
  have later : s.registry.nextId ≤ registry.nextId := by
    rcases next with ⟨same, -⟩ | ⟨new, -⟩ <;> omega
  -- an id that somebody has now, and that is not drawn now, the same caller had before
  have before : ∀ {j d id}, (s.callers.set n ⟨c.call, phase⟩)[j]? = some d → d.drawn? = some id →
      (∃ d', s.callers[j]? = some d' ∧ d'.drawn? = some id) ∨ j = n ∧ id = s.registry.nextId ∧ x = .draw := by
    intro j d id after isDrawn
    rcases cases_of_set after with ⟨rfl, rfl⟩ | ⟨-, was⟩
    · rcases turn.drawn_cases isDrawn with had | ⟨new, draws⟩
      · exact Or.inl ⟨c, found, had⟩
      · exact Or.inr ⟨rfl, new, draws⟩
    · exact Or.inl ⟨d, was, isDrawn⟩
  constructor
  · intro j d id after isDrawn
    rcases before after isDrawn with ⟨d', was, had⟩ | ⟨-, rfl, draws⟩
    · exact Nat.lt_of_lt_of_le (sound.below j d' id was had) later
    · rcases next with ⟨-, other⟩ | ⟨new, -⟩
      · exact absurd draws other
      · show s.registry.nextId < registry.nextId
        omega
  · intro j j' d d' id after after' isDrawn isDrawn'
    rcases before after isDrawn with ⟨e, was, had⟩ | ⟨isThis, isNext, -⟩ <;>
      rcases before after' isDrawn' with ⟨e', was', had'⟩ | ⟨isThis', isNext', -⟩
    · exact sound.unique j j' e e' id was was' had had'
    · have below := sound.below j e id was had
      omega
    · have below := sound.below j' e' id was' had'
      omega
    · exact isThis.trans isThis'.symm
  · intro id tx there
    rcases turn.sender_cases there with was | inserted
    · exact (sound.owned id tx was).step move
    · exact ⟨n, ⟨c.call, phase⟩, List.getElem?_set_self (List.getElem?_eq_some_iff.mp found).1, inserted⟩
  · intro j d id tx after isListed
    rcases cases_of_set after with ⟨rfl, rfl⟩ | ⟨-, was⟩
    · rcases turn.rest_cases isListed with had | there
      · exact (sound.listed j c id tx found had).step move
      · exact (sound.owned id tx there).step move
    · exact (sound.listed j d id tx was isListed).step move
  · intro j d id after isDead
    rcases cases_of_set after with ⟨rfl, rfl⟩ | ⟨-, was⟩
    · rcases turn.dead_cases isDead with had | ⟨tx, isListed, told⟩
      · obtain ⟨tx, told, owner⟩ := sound.failed j c id found had
        exact ⟨tx, List.mem_append_left _ told, owner.step move⟩
      · exact ⟨tx, List.mem_append_right _ told, (sound.listed j c id tx found isListed).step move⟩
    · obtain ⟨tx, told, owner⟩ := sound.failed j d id was isDead
      exact ⟨tx, List.mem_append_left _ told, owner.step move⟩
  · exact drawn

theorem Sound.step (sound : Sound s t) (move : Move s a s' es) (few : s'.connects < counterModulus) :
    Sound s' (t ++ es) := by
  have few' := Nat.lt_of_le_of_lt (drawn_le_connects s') few
  cases move with
  | @called call =>
      have move : Move s (.call call) { s with callers := s.callers ++ [⟨call, call.start⟩] } [] := .called
      have old : ∀ {j e : Nat} {d : ConnectionCaller T}, (s.callers ++ [⟨call, call.start⟩])[j]? = some d →
          d.drawn? = some e → s.callers[j]? = some d := by
        intro j e d after isDrawn
        rcases cases_of_concat after with was | rfl
        · exact was
        · rw [ConnectionCaller.drawn?_start] at isDrawn
          cases isDrawn
      rw [List.append_nil]
      constructor
      · exact fun j d id after isDrawn => sound.below j d id (old after isDrawn) isDrawn
      · exact fun j j' d d' id after after' isDrawn isDrawn' =>
          sound.unique j j' d d' id (old after isDrawn) (old after' isDrawn') isDrawn isDrawn'
      · exact fun id tx there => (sound.owned id tx there).step move
      · intro j d id tx after isListed
        rcases cases_of_concat after with was | rfl
        · exact (sound.listed j d id tx was isListed).step move
        · cases call <;> cases isListed
      · intro j d id after isDead
        rcases cases_of_concat after with was | rfl
        · obtain ⟨tx, told, owner⟩ := sound.failed j d id was isDead
          exact ⟨tx, told, owner.step move⟩
        · cases call <;> cases isDead
      · dsimp only
        rw [List.countP_append]
        exact sound.drawn.trans (Nat.le_add_right ..)
  | turned found turn => exact sound.turned found turn few'
  | aside receiver =>
      rw [List.append_nil]
      exact ⟨sound.below, sound.unique, sound.owned, sound.listed, sound.failed, sound.drawn⟩

theorem sound_init (capacity : Nat → Nat) : Sound (init capacity : ConnectionWorld T) [] where
  below n c id found := by cases found
  unique n n' c c' id found := by cases found
  owned id tx there := by cases there
  listed n c id tx found := by cases found
  failed n c id found := by cases found
  drawn := Nat.le_refl _

variable {ok : ConnectionWorld T → List ConnectionEvent → ConnectionAction T → Prop} {capacity : Nat → Nat}

theorem sound (runs : Runs step ok (init capacity) s t) (few : s.connects < counterModulus) : Sound s t := by
  revert few
  apply runs.invariant (P := fun s t => s.connects < counterModulus → Sound s t)
  · exact fun _ => sound_init capacity
  · intro s t a s' es ih _ stepped few
    have move := move_of_step stepped
    exact (ih (Nat.lt_of_le_of_lt move.connects_le few)).step move few

/-! ## The ledger -/

/-- What the calls owe, and the table and the counter. -/
def ledger (s : ConnectionWorld T) : Lagging where
  size := s.registry.size
  made := s.callers.countP fun c => c.inserted?.isSome
  count := s.registry.active
  rising := s.callers.countP owesAddition
  falling := s.callers.countP owesSubtraction

/-- What a caller counts for: whether it has inserted, owes an addition, owes a subtraction. -/
def marks (c : ConnectionCaller T) : Bool × Bool × Bool := (c.inserted?.isSome, owesAddition c, owesSubtraction c)

/-- A `connect` inserts an id that is not in the table. -/
theorem Sound.fresh (sound : Sound s t) {n tx id : Nat}
    (found : s.callers[n]? = some ⟨.connect tx, .inserting id⟩) : s.registry.sender id = none := by
  cases there : s.registry.sender id with
  | none => rfl
  | some tx' =>
      obtain ⟨n', c', found', inserted⟩ := sound.owned id tx' there
      have same := sound.unique n n' _ c' id found found' rfl (ConnectionCaller.drawn?_of_inserted? inserted)
      subst same
      cases found.symm.trans found'
      cases inserted

/-- The five things a turn may come to, as far as the count is concerned. -/
theorem Turn.effect {n : Nat} {c : ConnectionCaller T} {x : ConnectionStep} {phase : ConnectionPhase}
    {registry : ConnectionRegistry} (turn : Turn s n c x phase registry es)
    (fresh : ∀ tx id, c = ⟨.connect tx, .inserting id⟩ → s.registry.sender id = none) :
    (marks ⟨c.call, phase⟩ = marks c ∧ registry.size = s.registry.size ∧ registry.active = s.registry.active) ∨
      (marks c = (false, false, false) ∧ marks (⟨c.call, phase⟩ : ConnectionCaller T) = (true, true, false) ∧
        registry.size = s.registry.size + 1 ∧ registry.active = s.registry.active) ∨
      (marks c = (true, true, false) ∧ marks (⟨c.call, phase⟩ : ConnectionCaller T) = (true, false, false) ∧
        registry.size = s.registry.size ∧ registry.active = Lagging.up counterModulus s.registry.active) ∨
      (marks c = (false, false, false) ∧ marks (⟨c.call, phase⟩ : ConnectionCaller T) = (false, false, true) ∧
        s.registry.size = registry.size + 1 ∧ registry.active = s.registry.active) ∨
      (marks c = (false, false, true) ∧ marks (⟨c.call, phase⟩ : ConnectionCaller T) = (false, false, false) ∧
        registry.size = s.registry.size ∧ registry.active = Lagging.down counterModulus s.registry.active) := by
  cases turn with
  | drew => exact Or.inl ⟨rfl, ConnectionRegistry.size_draw _, ConnectionRegistry.active_draw _⟩
  | @inserted tx id free =>
      exact Or.inr (Or.inl ⟨rfl, rfl, ConnectionRegistry.size_insert tx (fresh tx id rfl), rfl⟩)
  | counted => exact Or.inr (Or.inr (Or.inl ⟨rfl, rfl, ConnectionRegistry.size_countUp _, rfl⟩))
  | removed free there =>
      exact Or.inr (Or.inr (Or.inr (Or.inl ⟨rfl, rfl, ConnectionRegistry.size_remove there, rfl⟩)))
  | swept there => exact Or.inr (Or.inr (Or.inr (Or.inl ⟨rfl, rfl, ConnectionRegistry.size_remove there, rfl⟩)))
  | uncounted => exact Or.inr (Or.inr (Or.inr (Or.inr ⟨rfl, rfl, ConnectionRegistry.size_countDown _, rfl⟩)))
  | sweptOff => exact Or.inr (Or.inr (Or.inr (Or.inr ⟨rfl, rfl, ConnectionRegistry.size_countDown _, rfl⟩)))
  | @collected msg senders free copied => exact Or.inl ⟨by cases senders <;> rfl, rfl, rfl⟩
  | @sent id tx msg rest dead live => exact Or.inl ⟨by cases rest <;> cases dead <;> rfl, rfl, rfl⟩
  | @failed id tx msg rest dead gone => exact Or.inl ⟨by cases rest <;> cases dead <;> rfl, rfl, rfl⟩
  | @dropped call phase waits =>
      refine Or.inl ⟨?_, rfl, rfl⟩
      cases call <;> cases phase <;> first | rfl | cases waits
  | _ => exact Or.inl ⟨rfl, rfl, rfl⟩

/-- **Every step leaves the count alone, or changes the table or the counter by one.** -/
theorem Move.ledger (move : Move s a s' es) (sound : Sound s t) :
    Lagging.Move counterModulus s.ledger s'.ledger := by
  cases move with
  | @called call =>
      have flags : marks (⟨call, call.start⟩ : ConnectionCaller T) = (false, false, false) := by cases call <;> rfl
      simp only [marks, Prod.mk.injEq] at flags
      apply Lagging.Move.stay <;> simp [ConnectionWorld.ledger, List.countP_append, flags]
  | @turned n c x phase registry lock outlets es found turn =>
      have made := countP_set found (fun c => c.inserted?.isSome) ⟨c.call, phase⟩
      have rising := countP_set found owesAddition ⟨c.call, phase⟩
      have falling := countP_set found owesSubtraction ⟨c.call, phase⟩
      have effect := turn.effect (by rintro tx id rfl; exact sound.fresh found)
      simp only [marks, Prod.mk.injEq] at effect
      rcases effect with ⟨⟨m, r, f⟩, size, count⟩ | ⟨⟨m, r, f⟩, ⟨m', r', f'⟩, size, count⟩ |
        ⟨⟨m, r, f⟩, ⟨m', r', f'⟩, size, count⟩ | ⟨⟨m, r, f⟩, ⟨m', r', f'⟩, size, count⟩ |
        ⟨⟨m, r, f⟩, ⟨m', r', f'⟩, size, count⟩
      · rw [m] at made
        rw [r] at rising
        rw [f] at falling
        exact .stay size (Nat.add_right_cancel made) count (Nat.add_right_cancel rising) (Nat.add_right_cancel falling)
      all_goals
        rw [m, m'] at made
        rw [r, r'] at rising
        rw [f, f'] at falling
      · exact .put size made count rising falling
      · exact .add size (Nat.add_right_cancel made) count rising.symm falling
      · exact .take size made count rising falling
      · exact .subtract size made count rising falling.symm
  | aside receiver => exact .stay rfl rfl rfl rfl rfl

/-- A subtraction is owed before it is made. -/
theorem Move.countedDown (move : Move s a s' es) {n before : Nat} (told : .countedDown n before ∈ es) :
    before = s.registry.active ∧ 0 < s.callers.countP owesSubtraction := by
  have owes : ∀ {n c}, s.callers[n]? = some c → owesSubtraction c = true → 0 < s.callers.countP owesSubtraction :=
    fun found owes => List.countP_pos_iff.mpr ⟨_, List.mem_of_getElem? found, owes⟩
  cases move with
  | turned found turn =>
      cases turn with
      | uncounted =>
          cases List.mem_singleton.mp told
          exact ⟨rfl, owes found rfl⟩
      | sweptOff =>
          cases List.mem_singleton.mp told
          exact ⟨rfl, owes found rfl⟩
      | _ => simp at told
  | _ => cases told

/-- The `connect` calls that have inserted a connection. -/
def inserts (s : ConnectionWorld T) : Nat := s.callers.countP fun c => c.inserted?.isSome

theorem inserts_le_connects (s : ConnectionWorld T) : s.inserts ≤ s.connects := by
  apply List.countP_mono_left
  intro c _ inserted
  obtain ⟨call, phase⟩ := c
  cases call <;> simp_all [ConnectionCaller.inserted?, isConnect]

theorem balanced (runs : Runs step ok (init capacity) s t) (few : s.connects < counterModulus) :
    Lagging.Balanced counterModulus s.ledger := by
  revert few
  apply runs.invariant_reached (P := fun s _ => s.connects < counterModulus → Lagging.Balanced counterModulus s.ledger)
  · exact fun _ => ⟨Nat.two_pow_pos 64, Nat.le_refl _, rfl⟩
  · intro s t a s' es before ih _ stepped few
    have move := move_of_step stepped
    have few := Nat.lt_of_le_of_lt move.connects_le few
    exact (ih few).move (move.ledger (sound before few))

/-! ## At rest -/

/-- A `connect` that returned an id inserted it, and is over. -/
theorem Move.returned_iff (move : Move s a s' es) (n id : Nat) :
    ((∃ tx, s.callers[n]? = some ⟨.connect tx, .connected id⟩) ∨ .returned n id ∈ es) ↔
      ∃ tx, s'.callers[n]? = some ⟨.connect tx, .connected id⟩ := by
  cases move with
  | @called call =>
      constructor
      · rintro (⟨tx, found⟩ | told)
        · exact ⟨tx, (List.getElem?_append_left (List.getElem?_eq_some_iff.mp found).1).trans found⟩
        · cases told
      · rintro ⟨tx, found⟩
        rcases cases_of_concat found with was | new
        · exact Or.inl ⟨tx, was⟩
        · cases call <;> cases new
  | @turned n' c x phase registry lock outlets es found turn =>
      have inside := (List.getElem?_eq_some_iff.mp found).1
      constructor
      · rintro (⟨tx, was⟩ | told)
        · have other : n' ≠ n := by
            rintro rfl
            cases was.symm.trans found
            cases turn with
            | dropped waits => cases waits
          exact ⟨tx, (List.getElem?_set_ne other).trans was⟩
        · cases turn with
          | @counted tx id' =>
              cases List.mem_singleton.mp told
              exact ⟨tx, List.getElem?_set_self inside⟩
          | _ => simp at told
      · rintro ⟨tx, after⟩
        rcases cases_of_set after with ⟨rfl, same⟩ | ⟨-, was⟩
        · obtain ⟨isCall, isPhase⟩ := ConnectionCaller.mk.inj same
          cases turn with
          | counted =>
              cases isPhase
              exact Or.inr (List.mem_singleton_self _)
          | collected free copied => cases isCall
          | sent live => cases isCall
          | failed gone => cases isCall
          | _ => cases isPhase
        · exact Or.inl ⟨tx, was⟩
  | aside receiver =>
      constructor
      · rintro (was | told)
        · exact was
        · cases told
      · exact Or.inl

/-- The ids that `connect` returned. -/
theorem returned_iff (runs : Runs step ok (init capacity) s t) (n id : Nat) :
    .returned n id ∈ t ↔ ∃ tx, s.callers[n]? = some ⟨.connect tx, .connected id⟩ := by
  apply runs.invariant (P := fun s t => .returned n id ∈ t ↔ ∃ tx, s.callers[n]? = some ⟨.connect tx, .connected id⟩)
  · constructor
    · intro told
      cases told
    · rintro ⟨tx, found⟩
      cases found
  · intro s t a s' es ih _ stepped
    rw [List.mem_append, ih]
    exact (move_of_step stepped).returned_iff n id

/-- What a step takes out of the table, a `disconnect` or a `broadcast` takes out. -/
theorem Move.gone_cases (move : Move s a s' es) (sound : Sound s t) {id tx : Nat}
    (there : s.registry.sender id = some tx) (gone : s'.registry.sender id ≠ some tx) :
    ∃ n, a = .step n .remove ∧ (s.callers[n]? = some ⟨.disconnect id, .removing⟩ ∨
      ∃ msg dead, s.callers[n]? = some ⟨.broadcast msg, .sweeping (id :: dead)⟩) := by
  cases move with
  | called => exact absurd there gone
  | @turned n c x phase registry lock outlets es found turn =>
      have removing : ∀ {id'}, (s.registry.remove id').sender id ≠ some tx → id' = id := by
        intro id' gone
        by_contra other
        rw [ConnectionRegistry.sender_remove_of_ne _ (Ne.symm other)] at gone
        exact gone there
      cases turn with
      | drew => exact absurd (by rw [ConnectionRegistry.sender_draw, there]) gone
      | @inserted tx' id' free =>
          have other : id ≠ id' := by
            rintro rfl
            cases (sound.fresh found).symm.trans there
          exact absurd (by rw [ConnectionRegistry.sender_insert_of_ne _ _ other, there]) gone
      | counted => exact absurd (by rw [ConnectionRegistry.sender_countUp, there]) gone
      | removed free found' =>
          obtain rfl := removing gone
          exact ⟨n, rfl, Or.inl found⟩
      | uncounted => exact absurd (by rw [ConnectionRegistry.sender_countDown, there]) gone
      | @swept id' tx' msg dead found' =>
          obtain rfl := removing gone
          exact ⟨n, rfl, Or.inr ⟨msg, dead, found⟩⟩
      | sweptOff => exact absurd (by rw [ConnectionRegistry.sender_countDown, there]) gone
      | _ => exact absurd there gone
  | aside receiver => exact absurd there gone

/-- **At rest `active` is right.**  In every interleaving of fewer than 2^64 `connect`, `disconnect`
and `broadcast` calls, with receivers going at any time: when no call is in progress, `active` is the
number of connections in the table; every id there is one that a `connect` returned, which it did once; and a
connection only leaves the table where a `disconnect` with its id removes it, or a `broadcast`
whose send to it failed. -/
theorem active_right_at_rest (runs : Runs step anyStep (init capacity) s t)
    (few : s.callers.length < counterModulus) :
    ((∀ c ∈ s.callers, c.ended = true) →
        s.registry.active = s.registry.size ∧
          ∀ id ∈ s.registry.connections.keys, ∃ n, .returned n id ∈ t) ∧
      s.registry.connections.keys.Nodup ∧
      (∀ n n' id, .returned n id ∈ t → .returned n' id ∈ t → n = n') ∧
      ∀ a s' es id tx, s.step a = some (s', es) → s.registry.sender id = some tx →
        s'.registry.sender id ≠ some tx →
        ∃ n, a = .step n .remove ∧ (s.callers[n]? = some ⟨.disconnect id, .removing⟩ ∨
          (∃ msg dead, s.callers[n]? = some ⟨.broadcast msg, .sweeping (id :: dead)⟩) ∧
            .sendFailed n id tx ∈ t) := by
  have fewConnects : s.connects < counterModulus := Nat.lt_of_le_of_lt List.countP_le_length few
  have known := sound runs fewConnects
  refine ⟨?_, s.registry.connections.keys_nodup, ?_, ?_⟩
  · intro rest
    constructor
    · have none : ∀ p : ConnectionCaller T → Bool, (∀ c, c.ended = true → p c = false) → s.callers.countP p = 0 := by
        intro p apart
        rw [List.countP_eq_zero]
        intro c member
        rw [apart c (rest c member)]
        exact Bool.false_ne_true
      apply (balanced runs fewConnects).settled
      · exact none owesAddition fun c isOver => (ConnectionCaller.owes_of_ended isOver).1
      · exact none owesSubtraction fun c isOver => (ConnectionCaller.owes_of_ended isOver).2
      · exact Nat.lt_of_le_of_lt (inserts_le_connects s) fewConnects
    · intro id member
      cases there : s.registry.sender id with
      | none => exact absurd member (ConnectionRegistry.sender_eq_none_iff.mp there)
      | some tx =>
          obtain ⟨n, c, found, inserted⟩ := known.owned id tx there
          have isConnected := ConnectionCaller.connected_of_ended (rest c (List.mem_of_getElem? found)) inserted
          exact ⟨n, (returned_iff runs n id).mpr ⟨tx, isConnected ▸ found⟩⟩
  · intro n n' id told told'
    obtain ⟨tx, found⟩ := (returned_iff runs n id).mp told
    obtain ⟨tx', found'⟩ := (returned_iff runs n' id).mp told'
    exact known.unique n n' _ _ id found found' rfl rfl
  · intro a s' es id tx stepped there gone
    obtain ⟨n, isRemove, who⟩ := (move_of_step stepped).gone_cases known there gone
    refine ⟨n, isRemove, ?_⟩
    rcases who with byId | ⟨msg, dead, found⟩
    · exact Or.inl byId
    · obtain ⟨tx', told, owner⟩ := known.failed n _ id found (List.mem_cons_self ..)
      obtain rfl := known.owner_eq owner (known.owned id tx there)
      exact Or.inr ⟨⟨msg, dead, found⟩, told⟩

/-- A `connect` whose receiver is gone already, and a `broadcast` that comes between its insert and
its count. -/
def hurried : List (ConnectionAction Unit) :=
  [.close 0, .call (.connect 0), .step 0 .draw, .step 0 .insert, .call (.broadcast ()),
    .step 1 (.collect [(0, 0)]), .step 1 .send, .step 1 .lock, .step 1 .remove, .step 1 .uncount]

/-- The calls of `hurried` come to their ends. -/
def settled : ConnectionWorld Unit × List ConnectionEvent :=
  outcome step (init fun _ => 1) (hurried ++ [.step 1 .unlock, .step 0 .count])

theorem active_right_at_rest_settled : settled.1.registry.active = 0 := by
  have runs : Runs step anyStep (init fun _ => 1) settled.1 settled.2 := runs_outcome_any _ rfl
  have rest : ∀ c ∈ settled.1.callers, c.ended = true := by decide +kernel
  exact ((active_right_at_rest runs (by decide +kernel)).1 rest).1

/-! ## On the way -/

/-- A connection is removed while there are no more in the table than additions to be made. -/
def Early (s : ConnectionWorld T) (a : ConnectionAction T) : Prop :=
  ∃ (n : Nat) (c : ConnectionCaller T) (id : Nat), a = .step n .remove ∧ s.callers[n]? = some c ∧
    c.target? = some id ∧ s.registry.sender id ≠ none ∧ s.registry.size ≤ s.callers.countP owesAddition

/-- There are ids left, and no connection is removed early. -/
structure Timely (s : ConnectionWorld T) (_ : List ConnectionEvent) (a : ConnectionAction T) : Prop where
  few : ∀ tx, a = .call (.connect tx) → s.connects + 1 < counterModulus
  removals : ¬s.Early a

/-- The table gets smaller only where a call removes what it is about. -/
theorem Move.smaller_cases (move : Move s a s' es) (sound : Sound s t) (smaller : s'.registry.size < s.registry.size) :
    ∃ n c id, a = .step n .remove ∧ s.callers[n]? = some c ∧ c.target? = some id ∧ s.registry.sender id ≠ none := by
  cases move with
  | called => exact absurd smaller (Nat.lt_irrefl _)
  | @turned n c x phase registry lock outlets es found turn =>
      cases turn with
      | drew => exact absurd smaller (by rw [ConnectionRegistry.size_draw]; exact Nat.lt_irrefl _)
      | @inserted tx id free =>
          rw [ConnectionRegistry.size_insert tx (sound.fresh found)] at smaller
          omega
      | counted => exact absurd smaller (by rw [ConnectionRegistry.size_countUp]; exact Nat.lt_irrefl _)
      | @removed id tx free there => exact ⟨n, _, id, rfl, found, rfl, by rw [there]; exact Option.some_ne_none _⟩
      | uncounted => exact absurd smaller (by rw [ConnectionRegistry.size_countDown]; exact Nat.lt_irrefl _)
      | @swept id tx msg dead there =>
          exact ⟨n, _, id, rfl, found, rfl, by rw [there]; exact Option.some_ne_none _⟩
      | sweptOff => exact absurd smaller (by rw [ConnectionRegistry.size_countDown]; exact Nat.lt_irrefl _)
      | _ => exact absurd smaller (Nat.lt_irrefl _)
  | aside receiver => exact absurd smaller (Nat.lt_irrefl _)

theorem Move.timely (move : Move s a s' es) (sound : Sound s t) (onTime : ¬s.Early a) :
    Lagging.Timely s.ledger s'.ledger := by
  intro smaller
  obtain ⟨n, c, id, isRemove, found, target, there⟩ := move.smaller_cases sound smaller
  by_contra late
  exact onTime ⟨n, c, id, isRemove, found, target, there, Nat.le_of_not_lt late⟩

theorem few_of_timely (runs : Runs step Timely (init capacity) s t) : s.connects < counterModulus := by
  apply runs.invariant (P := fun s _ => s.connects < counterModulus)
  · exact Nat.two_pow_pos 64
  · intro s t a s' es ih timely stepped
    rcases (move_of_step stepped).connects_cases with same | ⟨tx, isConnect, more⟩
    · rw [same]
      exact ih
    · rw [more]
      exact timely.few tx isConnect

theorem exact_of_timely (runs : Runs step Timely (init capacity) s t) : Lagging.Exact s.ledger := by
  apply runs.invariant_reached (P := fun s _ => Lagging.Exact s.ledger)
  · exact ⟨rfl, Nat.le_refl _, Nat.le_refl _⟩
  · intro s t a s' es before ih timely stepped
    have move := move_of_step stepped
    have known := sound before (few_of_timely before)
    have few := few_of_timely (before.act a timely stepped)
    exact ih.move (move.ledger known) (move.timely known timely.removals)
      (Nat.lt_of_le_of_lt (inserts_le_connects s') few)

/-- A subtraction that is owed can be made at once. -/
theorem uncount_step {n : Nat} {c : ConnectionCaller T} (found : s.callers[n]? = some c)
    (owes : owesSubtraction c = true) :
    ∃ s', s.step (.step n .uncount) = some (s', [.countedDown n s.registry.active]) ∧
      s'.registry.active = Lagging.down counterModulus s.registry.active ∧
      s'.callers.countP owesSubtraction + 1 = s.callers.countP owesSubtraction := by
  have fewer := fun d => countP_set found owesSubtraction d
  unfold owesSubtraction at owes
  split at owes
  · rename_i id
    refine ⟨{ s.setPhase n (.disconnect id) .done with registry := s.registry.countDown }, ?_, rfl, ?_⟩
    · simp only [step, found, callStep]
    · exact fewer ⟨.disconnect id, .done⟩
  · rename_i msg dead
    refine ⟨{ s.setPhase n (.broadcast msg) (.sweeping dead) with registry := s.registry.countDown }, ?_, rfl, ?_⟩
    · simp only [step, found, callStep]
    · exact fewer ⟨.broadcast msg, .sweeping dead⟩
  · cases owes

/-- If the counter is short of what is to be subtracted, it can be counted down from zero. -/
theorem wraps_of_short (below : s.registry.active < counterModulus)
    (short : s.registry.active < s.callers.countP owesSubtraction) :
    ∃ s' u n, Runs step anyStep s s' u ∧ .countedDown n 0 ∈ u := by
  induction isActive : s.registry.active generalizing s with
  | zero =>
      obtain ⟨c, member, owes⟩ := List.countP_pos_iff.mp (Nat.zero_lt_of_lt short)
      obtain ⟨n, found⟩ := List.getElem?_of_mem member
      obtain ⟨s', stepped, -, -⟩ := uncount_step found owes
      rw [isActive] at stepped
      exact ⟨s', _, n, Runs.start.act _ trivial stepped, List.mem_singleton_self _⟩
  | succ active ih =>
      obtain ⟨c, member, owes⟩ := List.countP_pos_iff.mp (Nat.zero_lt_of_lt short)
      obtain ⟨n, found⟩ := List.getElem?_of_mem member
      obtain ⟨s', stepped, less, fewer⟩ := uncount_step found owes
      rw [Lagging.down_of_pos (by omega) below, isActive, Nat.add_sub_cancel] at less
      obtain ⟨s'', u, n', later, told⟩ := ih (s := s') (by omega) (by omega) less
      exact ⟨s'', _, n', (Runs.start.act _ trivial stepped).append (fun _ _ _ _ => trivial) later,
        List.mem_append_right _ told⟩

/-- A call that finds its connection makes the table smaller. -/
theorem Move.smaller {n : Nat} {c : ConnectionCaller T} {id : Nat} (move : Move s (.step n .remove) s' es)
    (found : s.callers[n]? = some c) (target : c.target? = some id) (there : s.registry.sender id ≠ none) :
    s'.registry.size < s.registry.size := by
  cases move with
  | turned found' turn =>
      cases found.symm.trans found'
      cases turn with
      | absent free nobody =>
          cases target
          exact absurd nobody there
      | removed free present =>
          have less := ConnectionRegistry.size_remove present
          dsimp only
          omega
      | sweptNone nobody =>
          cases target
          exact absurd nobody there
      | swept present =>
          have less := ConnectionRegistry.size_remove present
          dsimp only
          omega
  | aside receiver => rcases receiver with isReceive | isClose <;> contradiction

/-- **The count never wraps as long as no connection is removed early.**  In every interleaving of
`connect`, `disconnect` and `broadcast` calls with fewer than 2^64 `connect` calls, in which a
connection is only removed while there are more in the table than `connect` calls that have inserted
theirs and not yet counted it: `active` is counted down from a positive number whenever it is, is at most
the number of connections ever inserted, and is off by the updates that are still to be made.
And after any removal that breaks this rule, the calls may go on so that `active` is
counted down from zero. -/
theorem count_never_wraps (runs : Runs step Timely (init capacity) s t) :
    (∀ n before, .countedDown n before ∈ t → 0 < before) ∧ s.registry.active ≤ s.inserts ∧
      s.registry.active + s.callers.countP owesAddition =
        s.registry.size + s.callers.countP owesSubtraction ∧
      ∀ a s' es, s.step a = some (s', es) → s.Early a →
        ∃ s'' u n, Runs step anyStep s' s'' u ∧ .countedDown n 0 ∈ u := by
  have exact' := exact_of_timely runs
  refine ⟨?_, (Nat.le_add_right ..).trans exact'.bounded, exact'.balance, ?_⟩
  · apply runs.invariant_reached (P := fun _ t => ∀ n before, .countedDown n before ∈ t → 0 < before)
    · intro n before told
      cases told
    · intro s t a s' es reached ih _ stepped n before told
      rcases List.mem_append.mp told with old | new
      · exact ih n before old
      · obtain ⟨rfl, owed⟩ := (move_of_step stepped).countedDown new
        exact (exact_of_timely reached).positive owed
  · rintro a s' es stepped ⟨n, c, id, rfl, found, target, there, early⟩
    have move := move_of_step stepped
    have known := sound runs (few_of_timely runs)
    have few : s'.connects < counterModulus := by
      rcases move.connects_cases with same | ⟨tx, isCall, -⟩
      · rw [same]
        exact few_of_timely runs
      · cases isCall
    have smaller := move.smaller found target there
    have within := (balanced runs (few_of_timely runs)).move (move.ledger known)
    exact wraps_of_short within.below
      (exact'.short (move.ledger known) fun timely => Nat.not_le_of_lt (timely smaller) early)

/-! ## Too early -/

def wrapped : ConnectionWorld Unit × List ConnectionEvent := outcome step (init fun _ => 1) hurried

/-- `active` is counted down from zero; the registry says that it is available. -/
theorem counted_off_first :
    Runs step anyStep (init fun _ => 1) wrapped.1 wrapped.2 ∧ .countedDown 1 0 ∈ wrapped.2 ∧
      wrapped.1.registry.active = 2 ^ 64 - 1 ∧ wrapped.1.inserts = 1 ∧
      wrapped.1.registry.available = true ∧ wrapped.1.registry.size = 0 :=
  ⟨runs_outcome_any _ rfl, by decide +kernel, by decide +kernel, by decide +kernel, by decide +kernel,
    by decide +kernel⟩

/-- A connection that is counted before it is removed. -/
def patient : ConnectionWorld Unit × List ConnectionEvent :=
  outcome step (init fun _ => 1)
    [.call (.connect 0), .step 0 .draw, .step 0 .insert, .step 0 .count, .call (.disconnect 0),
      .step 1 .remove, .step 1 .uncount]

/-- There are ids left, and more in the table than additions to be made. -/
def unhurried (s : ConnectionWorld T) (_ : List ConnectionEvent) : ConnectionAction T → Bool
  | .call _ => decide (s.connects + 1 < counterModulus)
  | .step _ .remove => decide (s.callers.countP owesAddition < s.registry.size)
  | _ => true

theorem timely_of_unhurried (s : ConnectionWorld T) (t : List ConnectionEvent) (a : ConnectionAction T)
    (passes : unhurried s t a = true) : Timely s t a := by
  constructor
  · rintro tx rfl
    exact of_decide_eq_true passes
  · rintro ⟨n, c, id, rfl, -, -, -, early⟩
    have inTime : s.callers.countP owesAddition < s.registry.size := of_decide_eq_true passes
    exact Nat.not_le_of_lt inTime early

theorem count_never_wraps_patient : ConnectionEvent.countedDown 1 1 ∈ patient.2 ∧ 0 < 1 := by
  have runs : Runs step Timely (init fun _ => 1) patient.1 patient.2 :=
    runs_outcome _ unhurried timely_of_unhurried (by decide +kernel) rfl
  have told : ConnectionEvent.countedDown 1 1 ∈ patient.2 := by decide +kernel
  exact ⟨told, (count_never_wraps runs).1 1 1 told⟩

end ConnectionWorld

end Jackfield
