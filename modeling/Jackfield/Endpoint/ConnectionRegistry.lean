/-
# Jackfield.Endpoint.ConnectionRegistry -- the table of connections

A `ConnectionRegistry` has a table of senders behind a lock, and two atomic counters: the
next id, and how many connections are active.  `connect` draws an id, inserts its sender,
and counts it; `disconnect` removes one, and counts it off; `broadcast` copies the table,
sends to each sender, and then removes those whose receiver is gone, under one lock,
counting each off as it goes.

A `ConnectionWorld` is a registry with the calls that were made of it, wherever they are.
Each access to the table under the lock is one step, each access to a counter another, so
the runs are the interleavings of the calls with each other and with the receivers.  A
future may be dropped where it waits: for the lock, or for room in a channel.
-/
import Mathlib.Data.List.AList
import Jackfield.Lib.Channel
import Jackfield.Lib.LaggingCount
import Jackfield.Lib.Machine

namespace Jackfield

set_option autoImplicit false

/-- A channel whose sending half was registered, and whether its receiver is still there. -/
structure Outlet (T : Type) where
  items : Channel T
  live : Bool

structure ConnectionRegistry where
  /-- The number of the channel that a sender sends to, by the id of the connection. -/
  connections : AList fun _ : Nat => Nat
  nextId : Nat
  active : Nat

/-- Both counters have 64 bits. -/
def counterModulus : Nat := 2 ^ 64

namespace ConnectionRegistry

def new : ConnectionRegistry where
  connections := ∅
  nextId := 0
  active := 0

def available (registry : ConnectionRegistry) : Bool := decide (0 < registry.active)

/-- The sender of a connection. -/
def sender (registry : ConnectionRegistry) (id : Nat) : Option Nat := registry.connections.lookup id

/-- What `broadcast` collects, in the order of the table. -/
def senders (registry : ConnectionRegistry) : List (Nat × Nat) :=
  registry.connections.entries.map fun entry => (entry.1, entry.2)

def size (registry : ConnectionRegistry) : Nat := registry.connections.keys.length

/-- `next_id.fetch_add(1)`. -/
def draw (registry : ConnectionRegistry) : ConnectionRegistry :=
  { registry with nextId := Lagging.up counterModulus registry.nextId }

def insert (registry : ConnectionRegistry) (id tx : Nat) : ConnectionRegistry :=
  { registry with connections := registry.connections.insert id tx }

def remove (registry : ConnectionRegistry) (id : Nat) : ConnectionRegistry :=
  { registry with connections := registry.connections.erase id }

/-- `active.fetch_add(1)`. -/
def countUp (registry : ConnectionRegistry) : ConnectionRegistry :=
  { registry with active := Lagging.up counterModulus registry.active }

/-- `active.fetch_sub(1)`. -/
def countDown (registry : ConnectionRegistry) : ConnectionRegistry :=
  { registry with active := Lagging.down counterModulus registry.active }

@[simp] theorem nextId_countUp (registry : ConnectionRegistry) : registry.countUp.nextId = registry.nextId := by
  unfold countUp
  rfl

@[simp] theorem nextId_countDown (registry : ConnectionRegistry) : registry.countDown.nextId = registry.nextId := by
  unfold countDown
  rfl

@[simp] theorem sender_draw (registry : ConnectionRegistry) (id : Nat) :
    registry.draw.sender id = registry.sender id := by
  unfold draw sender
  rfl

@[simp] theorem sender_countUp (registry : ConnectionRegistry) (id : Nat) :
    registry.countUp.sender id = registry.sender id := by
  unfold countUp sender
  rfl

@[simp] theorem sender_countDown (registry : ConnectionRegistry) (id : Nat) :
    registry.countDown.sender id = registry.sender id := by
  unfold countDown sender
  rfl

@[simp] theorem active_draw (registry : ConnectionRegistry) : registry.draw.active = registry.active := by
  unfold draw
  rfl

@[simp] theorem size_draw (registry : ConnectionRegistry) : registry.draw.size = registry.size := by
  unfold draw size
  rfl

@[simp] theorem size_countUp (registry : ConnectionRegistry) : registry.countUp.size = registry.size := by
  unfold countUp size
  rfl

@[simp] theorem size_countDown (registry : ConnectionRegistry) : registry.countDown.size = registry.size := by
  unfold countDown size
  rfl

@[simp] theorem sender_insert_self (registry : ConnectionRegistry) (id tx : Nat) :
    (registry.insert id tx).sender id = some tx := AList.lookup_insert ..

theorem sender_insert_of_ne (registry : ConnectionRegistry) {id id' : Nat} (tx : Nat) (other : id' ≠ id) :
    (registry.insert id tx).sender id' = registry.sender id' := AList.lookup_insert_ne other

@[simp] theorem sender_remove_self (registry : ConnectionRegistry) (id : Nat) :
    (registry.remove id).sender id = none := AList.lookup_erase ..

theorem sender_remove_of_ne (registry : ConnectionRegistry) {id id' : Nat} (other : id' ≠ id) :
    (registry.remove id).sender id' = registry.sender id' := AList.lookup_erase_ne other

theorem sender_eq_none_iff {registry : ConnectionRegistry} {id : Nat} :
    registry.sender id = none ↔ id ∉ registry.connections.keys := AList.lookup_eq_none

theorem mem_senders_iff {registry : ConnectionRegistry} {id tx : Nat} :
    (id, tx) ∈ registry.senders ↔ registry.sender id = some tx := by
  unfold senders sender
  rw [← Option.mem_def, AList.mem_lookup_iff, List.mem_map]
  constructor
  · rintro ⟨⟨id', tx'⟩, member, same⟩
    cases same
    exact member
  · exact fun member => ⟨_, member, rfl⟩

/-- A new connection makes the table larger by one. -/
theorem size_insert {registry : ConnectionRegistry} {id : Nat} (tx : Nat) (fresh : registry.sender id = none) :
    (registry.insert id tx).size = registry.size + 1 := by
  have absent : id ∉ registry.connections.keys := sender_eq_none_iff.mp fresh
  simp only [size, insert, AList.keys_insert, List.erase_of_not_mem absent, List.length_cons]

theorem size_remove {registry : ConnectionRegistry} {id tx : Nat} (there : registry.sender id = some tx) :
    registry.size = (registry.remove id).size + 1 := by
  have present : id ∈ registry.connections.keys := by
    by_contra absent
    rw [sender_eq_none_iff.mpr absent] at there
    cases there
  simp only [size, remove, AList.keys_erase]
  rw [List.length_erase_add_one present]

end ConnectionRegistry

/-! ## Calls -/

inductive ConnectionCall (T : Type) where
  | connect (tx : Nat)
  | disconnect (id : Nat)
  | broadcast (msg : T)
  deriving DecidableEq

/-- Where a call is. -/
inductive ConnectionPhase where
  /-- `connect`, about to draw its id. -/
  | drawing
  /-- `connect`, waiting for the lock. -/
  | inserting (id : Nat)
  /-- `connect`, about to count its connection. -/
  | counting (id : Nat)
  /-- `connect` has returned. -/
  | connected (id : Nat)
  /-- `disconnect`, waiting for the lock. -/
  | removing
  /-- `disconnect`, about to count off what it removed. -/
  | uncounting
  /-- `broadcast`, waiting for the lock to copy the table. -/
  | collecting
  /-- `broadcast`, sending to the first of `rest`; `dead` are those whose receiver was gone. -/
  | sending (rest : List (Nat × Nat)) (dead : List Nat)
  /-- `broadcast`, waiting for the lock to remove `dead`. -/
  | locking (dead : List Nat)
  /-- `broadcast`, having the lock. -/
  | sweeping (dead : List Nat)
  /-- `broadcast`, having the lock and about to count off what it removed. -/
  | swept (dead : List Nat)
  | done
  /-- The future was dropped. -/
  | dropped
  deriving DecidableEq

/-- The loop over the senders goes on, or is over. -/
def ConnectionPhase.afterSend : List (Nat × Nat) → List Nat → ConnectionPhase
  | [], [] => .done
  | [], id :: dead => .locking (id :: dead)
  | next :: rest, dead => .sending (next :: rest) dead

/-- A future can be dropped here. -/
def ConnectionPhase.awaits : ConnectionPhase → Bool
  | .drawing => true
  | .inserting _ => true
  | .removing => true
  | .collecting => true
  | .sending _ _ => true
  | .locking _ => true
  | _ => false

def ConnectionCall.start {T : Type} : ConnectionCall T → ConnectionPhase
  | .connect _ => .drawing
  | .disconnect _ => .removing
  | .broadcast _ => .collecting

structure ConnectionCaller (T : Type) where
  call : ConnectionCall T
  phase : ConnectionPhase
  deriving DecidableEq

structure ConnectionWorld (T : Type) where
  registry : ConnectionRegistry
  /-- Who holds the lock between two steps. -/
  lock : Option Nat
  outlets : Nat → Outlet T
  callers : List (ConnectionCaller T)

/-- How a call goes on. -/
inductive ConnectionStep where
  | draw
  | insert
  | count
  /-- `disconnect` and `broadcast`: a connection is looked for, and removed. -/
  | remove
  | uncount
  /-- The table is copied; `senders` is the order it yields. -/
  | collect (senders : List (Nat × Nat))
  | send
  | lock
  | unlock
  | drop
  deriving DecidableEq

inductive ConnectionAction (T : Type) where
  | call (call : ConnectionCall T)
  | step (n : Nat) (a : ConnectionStep)
  /-- The receiver of a channel takes an item. -/
  | receive (r : Nat)
  /-- The receiver of a channel is dropped. -/
  | close (r : Nat)
  deriving DecidableEq

inductive ConnectionEvent where
  /-- `connect` returned this id. -/
  | returned (n id : Nat)
  /-- Call `n` removed the connection, with the sender for channel `tx`. -/
  | removed (n id tx : Nat)
  /-- `active` was `before` when it was counted down. -/
  | countedDown (n before : Nat)
  /-- A send of `broadcast` failed. -/
  | sendFailed (n id tx : Nat)
  deriving DecidableEq

namespace ConnectionWorld

variable {T : Type}

/-- Any channels, and no call yet. -/
def init (capacity : Nat → Nat) : ConnectionWorld T where
  registry := .new
  lock := none
  outlets r := ⟨.new (capacity r), true⟩
  callers := []

def setPhase (s : ConnectionWorld T) (n : Nat) (call : ConnectionCall T) (phase : ConnectionPhase) :
    ConnectionWorld T :=
  { s with callers := s.callers.set n ⟨call, phase⟩ }

def setOutlet (s : ConnectionWorld T) (r : Nat) (outlet : Outlet T) : ConnectionWorld T :=
  { s with outlets := Function.update s.outlets r outlet }

/-- One step of call `n`. -/
def callStep (s : ConnectionWorld T) (n : Nat) (caller : ConnectionCaller T) (a : ConnectionStep) :
    Option (ConnectionWorld T × List ConnectionEvent) :=
  match caller.call, caller.phase, a with
  | .connect tx, .drawing, .draw =>
      some ({ s.setPhase n (.connect tx) (.inserting s.registry.nextId) with registry := s.registry.draw }, [])
  | .connect tx, .inserting id, .insert =>
      if s.lock.isNone then
        some ({ s.setPhase n (.connect tx) (.counting id) with registry := s.registry.insert id tx }, [])
      else none
  | .connect tx, .counting id, .count =>
      some ({ s.setPhase n (.connect tx) (.connected id) with registry := s.registry.countUp }, [.returned n id])
  | .disconnect id, .removing, .remove =>
      if s.lock.isNone then
        match s.registry.sender id with
        | none => some (s.setPhase n (.disconnect id) .done, [])
        | some tx =>
            some ({ s.setPhase n (.disconnect id) .uncounting with registry := s.registry.remove id },
              [.removed n id tx])
      else none
  | .disconnect id, .uncounting, .uncount =>
      some ({ s.setPhase n (.disconnect id) .done with registry := s.registry.countDown },
        [.countedDown n s.registry.active])
  | .broadcast msg, .collecting, .collect senders =>
      if s.lock.isNone && senders.isPerm s.registry.senders then
        some (s.setPhase n (.broadcast msg) (.afterSend senders []), [])
      else none
  | .broadcast msg, .sending ((id, tx) :: rest) dead, .send =>
      if (s.outlets tx).live then
        -- the send waits for room
        ((s.outlets tx).items.send msg).map fun items =>
          ((s.setPhase n (.broadcast msg) (.afterSend rest dead)).setOutlet tx ⟨items, true⟩, [])
      else
        some (s.setPhase n (.broadcast msg) (.afterSend rest (dead ++ [id])), [.sendFailed n id tx])
  | .broadcast msg, .locking dead, .lock =>
      if s.lock.isNone then some ({ s.setPhase n (.broadcast msg) (.sweeping dead) with lock := some n }, [])
      else none
  | .broadcast msg, .sweeping (id :: dead), .remove =>
      match s.registry.sender id with
      | none => some (s.setPhase n (.broadcast msg) (.sweeping dead), [])
      | some tx =>
          some ({ s.setPhase n (.broadcast msg) (.swept dead) with registry := s.registry.remove id },
            [.removed n id tx])
  | .broadcast msg, .swept dead, .uncount =>
      some ({ s.setPhase n (.broadcast msg) (.sweeping dead) with registry := s.registry.countDown },
        [.countedDown n s.registry.active])
  | .broadcast msg, .sweeping [], .unlock =>
      some ({ s.setPhase n (.broadcast msg) .done with lock := none }, [])
  | call, phase, .drop => if phase.awaits then some (s.setPhase n call .dropped, []) else none
  | _, _, _ => none

def step (s : ConnectionWorld T) : ConnectionAction T → Option (ConnectionWorld T × List ConnectionEvent)
  | .call call => some ({ s with callers := s.callers ++ [⟨call, call.start⟩] }, [])
  | .step n a =>
      match s.callers[n]? with
      | none => none
      | some caller => s.callStep n caller a
  | .receive r =>
      if (s.outlets r).live then
        (s.outlets r).items.tryRecv.map fun (_, items) => (s.setOutlet r ⟨items, true⟩, [])
      else none
  | .close r =>
      if (s.outlets r).live then some (s.setOutlet r { s.outlets r with live := false }, []) else none

/-! ## Moves -/

/-- What one step of a call does: its next phase, the registry afterwards, and what is told. -/
inductive Turn (s : ConnectionWorld T) (n : Nat) :
    ConnectionCaller T → ConnectionStep → ConnectionPhase → ConnectionRegistry → List ConnectionEvent → Prop
  | drew {tx : Nat} :
      Turn s n ⟨.connect tx, .drawing⟩ .draw (.inserting s.registry.nextId) s.registry.draw []
  | inserted {tx id : Nat} (free : s.lock = none) :
      Turn s n ⟨.connect tx, .inserting id⟩ .insert (.counting id) (s.registry.insert id tx) []
  | counted {tx id : Nat} :
      Turn s n ⟨.connect tx, .counting id⟩ .count (.connected id) s.registry.countUp [.returned n id]
  | absent {id : Nat} (free : s.lock = none) (nobody : s.registry.sender id = none) :
      Turn s n ⟨.disconnect id, .removing⟩ .remove .done s.registry []
  | removed {id tx : Nat} (free : s.lock = none) (there : s.registry.sender id = some tx) :
      Turn s n ⟨.disconnect id, .removing⟩ .remove .uncounting (s.registry.remove id) [.removed n id tx]
  | uncounted {id : Nat} :
      Turn s n ⟨.disconnect id, .uncounting⟩ .uncount .done s.registry.countDown [.countedDown n s.registry.active]
  | collected {msg : T} {senders : List (Nat × Nat)} (free : s.lock = none)
      (copied : senders.Perm s.registry.senders) :
      Turn s n ⟨.broadcast msg, .collecting⟩ (.collect senders) (.afterSend senders []) s.registry []
  | sent {id tx : Nat} {msg : T} {rest : List (Nat × Nat)} {dead : List Nat} (live : (s.outlets tx).live = true) :
      Turn s n ⟨.broadcast msg, .sending ((id, tx) :: rest) dead⟩ .send (.afterSend rest dead) s.registry []
  | failed {id tx : Nat} {msg : T} {rest : List (Nat × Nat)} {dead : List Nat} (gone : (s.outlets tx).live = false) :
      Turn s n ⟨.broadcast msg, .sending ((id, tx) :: rest) dead⟩ .send (.afterSend rest (dead ++ [id])) s.registry
        [.sendFailed n id tx]
  | locked {msg : T} {dead : List Nat} (free : s.lock = none) :
      Turn s n ⟨.broadcast msg, .locking dead⟩ .lock (.sweeping dead) s.registry []
  | sweptNone {id : Nat} {msg : T} {dead : List Nat} (nobody : s.registry.sender id = none) :
      Turn s n ⟨.broadcast msg, .sweeping (id :: dead)⟩ .remove (.sweeping dead) s.registry []
  | swept {id tx : Nat} {msg : T} {dead : List Nat} (there : s.registry.sender id = some tx) :
      Turn s n ⟨.broadcast msg, .sweeping (id :: dead)⟩ .remove (.swept dead) (s.registry.remove id)
        [.removed n id tx]
  | sweptOff {msg : T} {dead : List Nat} :
      Turn s n ⟨.broadcast msg, .swept dead⟩ .uncount (.sweeping dead) s.registry.countDown
        [.countedDown n s.registry.active]
  | unlocked {msg : T} : Turn s n ⟨.broadcast msg, .sweeping []⟩ .unlock .done s.registry []
  | dropped {call : ConnectionCall T} {phase : ConnectionPhase} (waits : phase.awaits = true) :
      Turn s n ⟨call, phase⟩ .drop .dropped s.registry []

inductive Move (s : ConnectionWorld T) :
    ConnectionAction T → ConnectionWorld T → List ConnectionEvent → Prop
  | called {call : ConnectionCall T} :
      Move s (.call call) { s with callers := s.callers ++ [⟨call, call.start⟩] } []
  | turned {n : Nat} {caller : ConnectionCaller T} {x : ConnectionStep} {phase : ConnectionPhase}
      {registry : ConnectionRegistry} {lock : Option Nat} {outlets : Nat → Outlet T} {es : List ConnectionEvent}
      (found : s.callers[n]? = some caller) (turn : Turn s n caller x phase registry es) :
      Move s (.step n x) ⟨registry, lock, outlets, s.callers.set n ⟨caller.call, phase⟩⟩ es
  | aside {a : ConnectionAction T} {r : Nat} {outlet : Outlet T} (receiver : a = .receive r ∨ a = .close r) :
      Move s a (s.setOutlet r outlet) []

theorem move_of_callStep {s s' : ConnectionWorld T} {n : Nat} {caller : ConnectionCaller T} {a : ConnectionStep}
    {es : List ConnectionEvent} (found : s.callers[n]? = some caller)
    (stepped : s.callStep n caller a = some (s', es)) : Move s (.step n a) s' es := by
  obtain ⟨call, phase⟩ := caller
  simp only [callStep] at stepped
  split at stepped
  · cases stepped
    exact .turned found .drew
  · split at stepped
    · rename_i free
      cases stepped
      exact .turned found (.inserted (Option.isNone_iff_eq_none.mp free))
    · cases stepped
  · cases stepped
    exact .turned found .counted
  · split at stepped
    · rename_i free
      split at stepped
      · rename_i nobody
        cases stepped
        exact .turned found (.absent (Option.isNone_iff_eq_none.mp free) nobody)
      · rename_i tx there
        cases stepped
        exact .turned found (.removed (Option.isNone_iff_eq_none.mp free) there)
    · cases stepped
  · cases stepped
    exact .turned found .uncounted
  · split at stepped
    · rename_i collects
      rw [Bool.and_eq_true, Option.isNone_iff_eq_none, List.isPerm_iff] at collects
      cases stepped
      exact .turned found (.collected collects.1 collects.2)
    · cases stepped
  · split at stepped
    · rename_i live
      obtain ⟨items, room, same⟩ := Option.map_eq_some_iff.mp stepped
      cases same
      exact .turned found (.sent live)
    · rename_i gone
      cases stepped
      exact .turned found (.failed (by simpa using gone))
  · split at stepped
    · rename_i free
      cases stepped
      exact .turned found (.locked (Option.isNone_iff_eq_none.mp free))
    · cases stepped
  · split at stepped
    · rename_i nobody
      cases stepped
      exact .turned found (.sweptNone nobody)
    · rename_i tx there
      cases stepped
      exact .turned found (.swept there)
  · cases stepped
    exact .turned found .sweptOff
  · cases stepped
    exact .turned found .unlocked
  · split at stepped
    · rename_i waits
      cases stepped
      exact .turned found (.dropped waits)
    · cases stepped
  · cases stepped

/-- **Every step is one of these moves.** -/
theorem move_of_step {s s' : ConnectionWorld T} {a : ConnectionAction T} {es : List ConnectionEvent}
    (stepped : s.step a = some (s', es)) : Move s a s' es := by
  cases a with
  | call call =>
      cases stepped
      exact .called
  | step n a =>
      simp only [step] at stepped
      split at stepped
      · cases stepped
      · rename_i caller found
        exact move_of_callStep found stepped
  | receive r =>
      simp only [step] at stepped
      split at stepped
      · obtain ⟨⟨item, items⟩, -, same⟩ := Option.map_eq_some_iff.mp stepped
        cases same
        exact .aside (Or.inl rfl)
      · cases stepped
  | close r =>
      simp only [step] at stepped
      split at stepped
      · cases stepped
        exact .aside (Or.inr rfl)
      · cases stepped

end ConnectionWorld

end Jackfield
