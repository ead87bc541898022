/-
# Jackfield.Message -- messages and envelopes

`Message` is what the bus may ask of a boxed message; `BaseMessage` is the
crate's own implementation.  An `Envelope` pairs a message with the name of the
producer that sent it.  Everything above is generic in the message type.
-/
import Mathlib.Data.List.Basic

namespace Jackfield

set_option autoImplicit false

/-- A 128-bit identifier, as its sixteen bytes. -/
structure Uuid where
  bytes : List UInt8
  sixteen : bytes.length = 16
  deriving DecidableEq

/-- `Uuid::nil`, which is also the default. -/
def Uuid.nil : Uuid := ⟨List.replicate 16 0, by simp⟩

class Message (M : Type) where
  getUuid : M → Uuid
  getLabels : M → List String
  getBytes : M → List UInt8

structure BaseMessage where
  uuid : Uuid
  labels : List String
  data : List UInt8
  deriving DecidableEq

/-- A part that is not given takes its default: the nil identifier, no labels, no bytes. -/
def BaseMessage.new (uuid : Option Uuid) (labels : Option (List String))
    (data : Option (List UInt8)) : BaseMessage where
  uuid := uuid.getD .nil
  labels := labels.getD []
  data := data.getD []

instance : Message BaseMessage where
  getUuid m := m.uuid
  getLabels m := m.labels
  getBytes m := m.data

structure ProducerId where
  name : String
  deriving DecidableEq

structure Envelope (M : Type) where
  origin : ProducerId
  message : M
  deriving DecidableEq

end Jackfield
