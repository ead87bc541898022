/-
# Jackfield.Lib.Channel -- a bounded multi-producer channel

The part of a bounded mpsc channel a single receiver can observe: a first-in
first-out buffer, its capacity, and the number of live senders.  The buffer
never outgrows the capacity; that bound is a field, so every channel has it.

* `send` is accepted exactly when there is room, and goes to the back (`send_buf`):
  an awaiting send completes, or a non-blocking send succeeds, at such a moment.
  Some channels keep a slot that gets free for the sender that waits longest, and then
  answer a non-blocking send that they are full, with room in the buffer.  Here nothing
  is kept for anybody; a slot that is can be read as the waiting send done at once.
* `tryRecv` takes the oldest element (`tryRecv_buf`).
* `closed`: the buffer is empty and no sender is left, the only case in which an
  awaiting receive answers with the end of the stream.
* `map`: a channel of renamed messages does what the channel does.
* `Fifo`: what was taken out of it, what it holds and what was sent to it, over its
  whole life.  Its receiver takes what was sent from the first on, without gaps.
-/
import Mathlib.Data.List.Basic

set_option autoImplicit false

structure Channel (α : Type*) where
  buf : List α
  capacity : Nat
  senders : Nat
  bounded : buf.length ≤ capacity

namespace Channel

variable {α : Type*}

/-- A fresh channel, held by its one original sender. -/
def new (capacity : Nat) : Channel α where
  buf := []
  capacity := capacity
  senders := 1
  bounded := Nat.zero_le _

def send (c : Channel α) (a : α) : Option (Channel α) :=
  if room : c.buf.length < c.capacity then
    some { c with buf := c.buf ++ [a], bounded := by rw [List.length_append]; exact room }
  else none

def tryRecv (c : Channel α) : Option (α × Channel α) :=
  match same : c.buf with
  | [] => none
  | a :: rest =>
      some (a, { c with
        buf := rest
        bounded := by
          have bounded := c.bounded
          rw [same, List.length_cons] at bounded
          exact Nat.le_of_succ_le bounded })

def closed (c : Channel α) : Bool := c.buf.isEmpty && c.senders == 0

def cloneSender (c : Channel α) : Channel α := { c with senders := c.senders + 1 }

def dropSender (c : Channel α) : Channel α := { c with senders := c.senders - 1 }

theorem send_buf {c c' : Channel α} {a : α} (sent : c.send a = some c') :
    c'.buf = c.buf ++ [a] := by
  unfold send at sent
  split at sent
  · cases sent; rfl
  · cases sent

theorem tryRecv_buf {c c' : Channel α} {a : α} (received : c.tryRecv = some (a, c')) :
    c.buf = a :: c'.buf := by
  unfold tryRecv at received
  split at received
  · cases received
  · rename_i same
    cases received
    exact same

theorem send_senders {c c' : Channel α} {a : α} (sent : c.send a = some c') :
    c'.senders = c.senders := by
  unfold send at sent
  split at sent
  · cases sent; rfl
  · cases sent

theorem send_capacity {c c' : Channel α} {a : α} (sent : c.send a = some c') :
    c'.capacity = c.capacity := by
  unfold send at sent
  split at sent
  · cases sent; rfl
  · cases sent

theorem tryRecv_senders {c c' : Channel α} {a : α} (received : c.tryRecv = some (a, c')) :
    c'.senders = c.senders := by
  unfold tryRecv at received
  split at received
  · cases received
  · cases received; rfl

theorem tryRecv_capacity {c c' : Channel α} {a : α} (received : c.tryRecv = some (a, c')) :
    c'.capacity = c.capacity := by
  unfold tryRecv at received
  split at received
  · cases received
  · cases received; rfl

theorem send_isSome {c : Channel α} {a : α} (room : c.buf.length < c.capacity) :
    (c.send a).isSome = true := by
  simp [send, room]

theorem send_eq_none {c : Channel α} {a : α} (full : c.capacity ≤ c.buf.length) : c.send a = none := by
  unfold send
  split
  · omega
  · rfl

theorem tryRecv_eq_none_iff {c : Channel α} : c.tryRecv = none ↔ c.buf = [] := by
  unfold tryRecv
  split
  · rename_i empty
    simp [empty]
  · rename_i front
    simp [front]

theorem not_closed_of_senders {c : Channel α} (held : 0 < c.senders) : c.closed = false := by
  have someSender : c.senders ≠ 0 := by omega
  simp [closed, someSender]

section

variable {β : Type*} (f : α → β) (c : Channel α)

/-- Every message is renamed. -/
def map : Channel β where
  buf := c.buf.map f
  capacity := c.capacity
  senders := c.senders
  bounded := by rw [List.length_map]; exact c.bounded

theorem send_map (a : α) : (c.map f).send (f a) = (c.send a).map (map f) := by
  unfold send
  by_cases room : c.buf.length < c.capacity
  · rw [dif_pos room, dif_pos (by simpa [map] using room)]
    simp [map]
  · rw [dif_neg room, dif_neg (by simpa [map] using room)]
    rfl

theorem tryRecv_map : (c.map f).tryRecv = c.tryRecv.map fun front => (f front.1, front.2.map f) := by
  obtain ⟨buf, capacity, senders, bounded⟩ := c
  cases buf <;> rfl

theorem closed_map : (c.map f).closed = c.closed := by
  simp [closed, map]

end

/-- What was taken out of a channel and what it holds is what was sent to it; once the
receiver is gone, sends come to nothing. -/
structure Fifo (live : Bool) (taken held sent : List α) : Prop where
  front : taken ++ held <+: sent
  whole : live = true → taken ++ held = sent

namespace Fifo

variable {live : Bool} {taken held sent : List α} {a : α}

theorem start (live : Bool) : Fifo live ([] : List α) [] [] := ⟨List.prefix_rfl, fun _ => rfl⟩

theorem taken_first (fifo : Fifo live taken held sent) : taken <+: sent :=
  (List.prefix_append taken held).trans fifo.front

theorem put (fifo : Fifo true taken held sent) : Fifo true taken (held ++ [a]) (sent ++ [a]) := by
  have whole : taken ++ (held ++ [a]) = sent ++ [a] := by rw [← List.append_assoc, fifo.whole rfl]
  exact ⟨whole ▸ List.prefix_rfl, fun _ => whole⟩

theorem take (fifo : Fifo live taken (a :: held) sent) : Fifo live (taken ++ [a]) held sent := by
  have same : taken ++ [a] ++ held = taken ++ a :: held := List.append_cons .. |>.symm
  exact ⟨same ▸ fifo.front, same ▸ fifo.whole⟩

/-- The receiver goes, and what it had not taken with it. -/
theorem hangUp (fifo : Fifo live taken held sent) : Fifo false taken [] sent := by
  refine ⟨?_, fun isLive => by cases isLive⟩
  rw [List.append_nil]
  exact fifo.taken_first

theorem refuse (fifo : Fifo false taken held sent) : Fifo false taken held (sent ++ [a]) :=
  ⟨fifo.front.trans (List.prefix_append sent [a]), fun isLive => by cases isLive⟩

end Fifo

end Channel
