import Reply.Bytes

/-!
# Reply.Workload

Workloads for measuring bodies: how many bytes are written, in slices of
which length, and how much of a size that is meant to be.
-/

namespace Reply

/-- How large a workload is meant to be. -/
inductive Workload.Group
  | small
  | normal
  | large
deriving DecidableEq, Repr

/-- A body of `length` bytes that is written in slices. -/
structure Workload where
  name : String
  group : Workload.Group
  length : Nat
  sliceLength : Nat
deriving DecidableEq

namespace Workload

def Group.text : Group → String
  | small => "Small"
  | normal => "Normal"
  | large => "Large"

def isEmpty (workload : Workload) : Bool := workload.length == 0

/-- The letter at a place: the alphabet over and over, so that the bytes may go through a text
codec. -/
def letter (place : Nat) : UInt8 := UInt8.ofNat (0x61 + place % 26)

/-- The bytes of the body. -/
def content (workload : Workload) : Bytes := (List.range workload.length).map letter

@[simp] theorem length_content (workload : Workload) :
    workload.content.length = workload.length := by simp [content]

end Workload

end Reply
