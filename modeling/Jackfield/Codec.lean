/-
# Jackfield.Codec -- items on the wire

`BusableItem` is what the network endpoints carry: the parts of a message, with the
identifier as plain bytes.  A boxed message is converted to one field by field
(`BusableItem.ofMessage`), and an item becomes a boxed `BaseMessage`
(`BusableItem.toMessage`); bytes that are not sixteen give the nil identifier.
-/
import Jackfield.Message

namespace Jackfield

set_option autoImplicit false

structure BusableItem where
  uuid : List UInt8
  labels : List String
  data : List UInt8
  deriving DecidableEq

/-- `Uuid::from_slice`. -/
def Uuid.fromSlice (bytes : List UInt8) : Option Uuid :=
  if sixteen : bytes.length = 16 then some ⟨bytes, sixteen⟩ else none

theorem Uuid.fromSlice_bytes (uuid : Uuid) : Uuid.fromSlice uuid.bytes = some uuid := by
  simp [fromSlice, uuid.sixteen]

/-- One byte, as `Uuid` prints it. -/
def hexByte (b : UInt8) : List Char := [Nat.digitChar (b.toNat / 16), Nat.digitChar (b.toNat % 16)]

/-- `Display` of a `Uuid`: groups of 8, 4, 4, 4 and 12 digits. -/
def Uuid.hyphenated (uuid : Uuid) : String :=
  let group (first last : Nat) := ((uuid.bytes.take last).drop first).flatMap hexByte
  String.ofList (List.intercalate ['-'] [group 0 4, group 4 6, group 6 8, group 8 10, group 10 16])

/-- A boxed `BaseMessage` is a message, and keeps its parts. -/
class BoxedMessage (M : Type) extends Message M where
  box : BaseMessage → M
  getUuid_box : ∀ m, getUuid (box m) = m.uuid
  getLabels_box : ∀ m, getLabels (box m) = m.labels
  getBytes_box : ∀ m, getBytes (box m) = m.data

instance : BoxedMessage BaseMessage where
  box m := m
  getUuid_box _ := rfl
  getLabels_box _ := rfl
  getBytes_box _ := rfl

def BusableItem.ofMessage {M : Type} [Message M] (msg : M) : BusableItem where
  uuid := (Message.getUuid msg).bytes
  labels := Message.getLabels msg
  data := Message.getBytes msg

def BusableItem.toMessage {M : Type} [BoxedMessage M] (item : BusableItem) : M :=
  BoxedMessage.box (.new (some ((Uuid.fromSlice item.uuid).getD .nil)) (some item.labels) (some item.data))

/-! ## There and back -/

/-- What is left of an item that was a message on the way: all of it if its identifier is one,
else the labels and the data, under the nil identifier. -/
def BusableItem.relayed (item : BusableItem) : BusableItem :=
  if item.uuid.length = 16 then item else { item with uuid := Uuid.nil.bytes }

namespace BusableItem

theorem relayed_eq_self_iff (item : BusableItem) : item.relayed = item ↔ item.uuid.length = 16 := by
  unfold relayed
  split
  · rename_i sixteen
    exact iff_of_true rfl sixteen
  · rename_i other
    refine iff_of_false ?_ other
    intro same
    have bytes : Uuid.nil.bytes = item.uuid := congrArg BusableItem.uuid same
    exact other (bytes ▸ Uuid.nil.sixteen)

/-- From the wire and back onto it. -/
theorem ofMessage_toMessage {M : Type} [BoxedMessage M] (item : BusableItem) :
    ofMessage (item.toMessage : M) = item.relayed := by
  unfold ofMessage toMessage relayed Uuid.fromSlice
  rw [BoxedMessage.getUuid_box, BoxedMessage.getLabels_box, BoxedMessage.getBytes_box]
  split <;> rfl

/-- Onto the wire and back from it, a message keeps what can be asked of it. -/
theorem toMessage_ofMessage {N M : Type} [Message N] [BoxedMessage M] (msg : N) :
    Message.getUuid ((ofMessage msg).toMessage : M) = Message.getUuid msg ∧
      Message.getLabels ((ofMessage msg).toMessage : M) = Message.getLabels msg ∧
      Message.getBytes ((ofMessage msg).toMessage : M) = Message.getBytes msg := by
  unfold toMessage
  rw [BoxedMessage.getUuid_box, BoxedMessage.getLabels_box, BoxedMessage.getBytes_box]
  unfold ofMessage
  rw [Uuid.fromSlice_bytes]
  exact ⟨rfl, rfl, rfl⟩

end BusableItem

end Jackfield
