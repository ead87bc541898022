/-
# Jackfield.Endpoint.Connections -- a registration and its connection

Entries are kept by remote address, and nothing but a stream tells the server that a
connection has closed.  If a client goes without having opened its stream, the entry
stays, with the channel and the handle in it, and the next client that comes from that
address takes them out: it reads the messages and sends under the name of the first.

`stream_gets_own` says that this takes a connection opened at an address where an entry
still has its channel or its handle, or where a Register call of the last connection is
still being served.  Without one (`Vacated`), a stream gets only what was registered on
its own connection.
-/
import Jackfield.Endpoint.Cleanup
import Jackfield.Endpoint.Provenance

namespace Jackfield

set_option autoImplicit false
set_option linter.unusedSectionVars false

variable {F I M L Addr : Type}

open Machine

/-- There is something in it for a stream. -/
def EndpointEntry.Ready (entry : EndpointEntry) : Prop :=
  entry.consumerRx.isSome ∨ entry.producerHandle.isSome

namespace Grpc

/-- Connections have numbers below the next one. -/
structure Numbered (s : Grpc F I M L Addr) : Prop where
  conn : ∀ addr c, s.conns addr = some c → c < s.nextConn
  entry : ∀ addr entry, s.endpoints addr = some entry → entry.conn < s.nextConn
  brought : ∀ n h addr entry, s.handlers n = some h → h.Brings addr entry → entry.conn < s.nextConn

/-- What a stream could take now, or after a Register call has returned, belongs to its
connection. -/
structure Owned (s : Grpc F I M L Addr) : Prop where
  entry : ∀ addr c entry, s.conns addr = some c → s.endpoints addr = some entry → entry.Ready → entry.conn = c
  brought : ∀ n h addr c entry, s.conns addr = some c → s.handlers n = some h → h.Brings addr entry →
    entry.conn = c

/-- A connection is opened only where no entry has its channel or handle left, and no
Register call is being served. -/
def Vacated (s : Grpc F I M L Addr) (_ : List (GrpcEvent M Addr)) (a : GrpcAction F I M L Addr) : Prop :=
  ∀ addr, a = .connect addr →
    (∀ entry, s.endpoints addr = some entry → ¬ entry.Ready) ∧
      ∀ n h entry, s.handlers n = some h → ¬ h.Brings addr entry

variable [DecidableEq Addr] [F32 F] [Inhabited I] [BoxedMessage M] {service : GrpcService}
  {s s' : Grpc F I M L Addr} {a : GrpcAction F I M L Addr} {t es : List (GrpcEvent M Addr)}

/-- Only `connect` and `disconnect` change the connections. -/
theorem Move.conns_cases (move : Move service s a s' es) :
    (s'.conns = s.conns ∧ s'.nextConn = s.nextConn) ∨
      (∃ addr, a = .connect addr ∧ s'.conns = Function.update s.conns addr (some s.nextConn) ∧
        s'.nextConn = s.nextConn + 1 ∧ s'.endpoints = s.endpoints ∧ s'.handlers = s.handlers) ∨
      ∃ addr, s'.conns = Function.update s.conns addr none ∧ s'.nextConn = s.nextConn ∧
        s'.endpoints = s.endpoints ∧ s'.handlers = s.handlers := by
  cases move with
  | @connected addr free => exact Or.inr (Or.inl ⟨addr, rfl, rfl, rfl, rfl, rfl⟩)
  | @disconnected addr => exact Or.inr (Or.inr ⟨addr, rfl, rfl, rfl, rfl⟩)
  | _ => exact Or.inl ⟨rfl, rfl⟩

theorem Move.conns_of_register {n : Nat} {addr : Addr} {data : RegisterData} {uuid : Uuid}
    (move : Move service s (.register n addr data uuid) s' es) : s'.conns = s.conns := by
  cases move <;> rfl

/-- A new call is made on the connection that is open. -/
theorem Move.brought_on (move : Move service s a s' es) {n : Nat} {h : Handler Addr} {addr : Addr}
    {entry : EndpointEntry} (serving : s'.handlers n = some h) (brings : h.Brings addr entry) :
    (∃ h' old, s.handlers n = some h' ∧ h'.Brings addr old ∧ entry.conn = old.conn) ∨
      (s'.conns = s.conns ∧ s.conns addr = some entry.conn) := by
  rcases move.brings_cases serving brings with ⟨h', old, was, brought, -, -, sameConn⟩ |
    ⟨data, uuid, conn, rfl, connected, rfl⟩
  · exact Or.inl ⟨h', old, was, brought, sameConn⟩
  · exact Or.inr ⟨move.conns_of_register, connected⟩

/-- An entry with something in it was there, or has just been brought. -/
theorem Move.ready_cases (move : Move service s a s' es) {addr : Addr} {entry : EndpointEntry}
    (held : s'.endpoints addr = some entry) (ready : entry.Ready) :
    s.endpoints addr = some entry ∨ ∃ n, s.handlers n = some (.inserting addr entry) := by
  rcases move.entry_cases held with was | ⟨m, old, -, -, rfl⟩ | ⟨n, -, serving⟩
  · exact Or.inl was
  · rcases ready with has | has <;> cases has
  · exact Or.inr ⟨n, serving⟩

theorem Numbered.step (numbered : Numbered s) (move : Move service s a s' es) : Numbered s' := by
  have grows : s.nextConn ≤ s'.nextConn := by
    rcases move.conns_cases with ⟨-, same⟩ | ⟨addr, -, -, next, -⟩ | ⟨addr, -, same, -⟩ <;> omega
  constructor
  · intro addr c connected
    rcases move.conns_cases with ⟨same, -⟩ | ⟨addr', -, changed, next, -⟩ | ⟨addr', changed, -⟩
    · rw [same] at connected
      exact Nat.lt_of_lt_of_le (numbered.conn addr c connected) grows
    · rw [changed] at connected
      rcases cases_of_update connected with ⟨-, new⟩ | was
      · cases new
        omega
      · exact Nat.lt_of_lt_of_le (numbered.conn addr c was) grows
    · rw [changed] at connected
      rcases cases_of_update connected with ⟨-, new⟩ | was
      · cases new
      · exact Nat.lt_of_lt_of_le (numbered.conn addr c was) grows
  · intro addr entry held
    rcases move.entry_cases held with was | ⟨m, old, -, was, rfl⟩ | ⟨n, -, serving⟩
    · exact Nat.lt_of_lt_of_le (numbered.entry addr entry was) grows
    · exact Nat.lt_of_lt_of_le (numbered.entry addr old was) grows
    · exact Nat.lt_of_lt_of_le (numbered.brought n _ addr entry serving (Or.inr rfl)) grows
  · intro n h addr entry serving brings
    rcases move.brought_on serving brings with ⟨h', old, was, brought, sameConn⟩ | ⟨-, made⟩
    · have below := numbered.brought n h' addr old was brought
      omega
    · exact Nat.lt_of_lt_of_le (numbered.conn addr _ made) grows

theorem Move.vacated_iff (move : Move service s a s' es) (numbered : Numbered s) (owned : Owned s) :
    Vacated s t a ↔ Owned s' := by
  constructor
  · intro vacated
    constructor
    · intro addr c entry connected held ready
      rcases move.conns_cases with ⟨same, -⟩ | ⟨addr', isConnect, changed, -, sameEntries, -⟩ |
        ⟨addr', changed, -, sameEntries, -⟩
      · rw [same] at connected
        rcases move.ready_cases held ready with was | ⟨n, serving⟩
        · exact owned.entry addr c entry connected was ready
        · exact owned.brought n _ addr c entry connected serving (Or.inr rfl)
      · rw [sameEntries] at held
        rw [changed] at connected
        rcases cases_of_update connected with ⟨rfl, -⟩ | was
        · exact absurd ready ((vacated addr isConnect).1 entry held)
        · exact owned.entry addr c entry was held ready
      · rw [sameEntries] at held
        rw [changed] at connected
        rcases cases_of_update connected with ⟨-, new⟩ | was
        · cases new
        · exact owned.entry addr c entry was held ready
    · intro n h addr c entry connected serving brings
      rcases move.conns_cases with ⟨same, -⟩ | ⟨addr', isConnect, changed, -, -, sameHandlers⟩ |
        ⟨addr', changed, -, -, sameHandlers⟩
      · rw [same] at connected
        rcases move.brought_on serving brings with ⟨h', old, was, brought, sameConn⟩ | ⟨-, made⟩
        · exact sameConn.trans (owned.brought n h' addr c old connected was brought)
        · exact Option.some.inj (made.symm.trans connected)
      · rw [sameHandlers] at serving
        rw [changed] at connected
        rcases cases_of_update connected with ⟨rfl, -⟩ | was
        · exact absurd brings ((vacated addr isConnect).2 n h entry serving)
        · exact owned.brought n h addr c entry was serving brings
      · rw [sameHandlers] at serving
        rw [changed] at connected
        rcases cases_of_update connected with ⟨-, new⟩ | was
        · cases new
        · exact owned.brought n h addr c entry was serving brings
  · rintro owned' addr rfl
    -- the new connection's number is nobody's
    cases move with
    | connected free =>
        have opened : Function.update s.conns addr (some s.nextConn) addr = some s.nextConn :=
          Function.update_self ..
        constructor
        · intro entry held ready
          have same := owned'.entry addr _ entry opened held ready
          have below := numbered.entry addr entry held
          omega
        · intro n h entry serving brings
          have same := owned'.brought n h addr _ entry opened serving brings
          have below := numbered.brought n h addr entry serving brings
          omega

variable {ok : Grpc F I M L Addr → List (GrpcEvent M Addr) → GrpcAction F I M L Addr → Prop}
  {capacity cap : Nat} {router : Router}

theorem numbered (runs : Runs (step service) ok (init capacity router cap) s t) : Numbered s := by
  apply runs.invariant (P := fun s _ => Numbered s)
  · constructor
    · intro addr c connected
      cases connected
    · intro addr entry held
      cases held
    · intro n h addr entry serving
      cases serving
  · intro s t a s' es ih _ stepped
    exact ih.step (move_of_step stepped)

theorem owned (runs : Runs (step service) Vacated (init capacity router cap) s t) : Owned s := by
  apply runs.invariant_reached (P := fun s _ => Owned s)
  · constructor
    · intro addr c entry connected
      cases connected
    · intro n h addr c entry connected
      cases connected
  · intro s t a s' es before ih vacated stepped
    exact ((move_of_step stepped).vacated_iff (numbered before) ih).mp vacated

/-- A client registers a producer and goes; another comes from its address and opens a stream. -/
def successor : List (GrpcAction ℚ Unit BaseMessage String Nat) :=
  [.connect 7, .register 0 7 ⟨"meter", [EndpointType.producer], ""⟩ (drawn 1), .handler 0 .insert, .disconnect 7,
    .connect 7, .stream 0 7]

def succeeded : Grpc ℚ Unit BaseMessage String Nat × List (GrpcEvent BaseMessage Nat) :=
  outcome (step .plain) (init 4 .affinity 8) successor

/-- It opens its stream before it goes. -/
def streamed : Grpc ℚ Unit BaseMessage String Nat × List (GrpcEvent BaseMessage Nat) :=
  outcome (step .plain) (init 4 .affinity 8) (successor.take 3 ++ [.stream 0 7])

/-- There is one connection. -/
def single (s : Grpc F I M L Addr) (_ : List (GrpcEvent M Addr)) (a : GrpcAction F I M L Addr) : Bool :=
  match a with
  | .connect _ => s.nextConn == 0
  | _ => true

end Grpc

end Jackfield
