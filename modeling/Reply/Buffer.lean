import Reply.Bytes
import Reply.IoError

/-!
# Reply.Buffer

An in-memory queue of bytes: writes go in at the end, reads come out at the
front, and emptying it leaves a buffer that can be written again.

`toList` is its one view, and each operation is described by what it does to
that view. The bytes are kept newest first, so that a write costs as much as
the data it adds, however much is buffered already.
-/

namespace Reply

/-- A queue of bytes. -/
structure Buffer where
  newestFirst : Bytes := []
deriving DecidableEq

namespace Buffer

instance : EmptyCollection Buffer := ⟨{}⟩

/-- The bytes not yet read, oldest first. -/
def toList (buffer : Buffer) : Bytes := buffer.newestFirst.reverse

/-- The buffer that holds these bytes. -/
def ofBytes (bytes : Bytes) : Buffer := ⟨bytes.reverse⟩

/-- Number of bytes not yet read. -/
def length (buffer : Buffer) : Nat := buffer.newestFirst.length

def isEmpty (buffer : Buffer) : Bool := buffer.newestFirst.isEmpty

/-- Adds data at the end. -/
def push (buffer : Buffer) (data : Bytes) : Buffer := ⟨data.reverseAux buffer.newestFirst⟩

/-- Takes up to `room` bytes from the front. -/
def read (buffer : Buffer) (room : Nat) : Bytes × Buffer :=
  (buffer.toList.take room, ofBytes (buffer.toList.drop room))

/-- Takes exactly `count` bytes from the front; where there are fewer, all of them are lost. -/
def readExact (buffer : Buffer) (count : Nat) : Except IoError Bytes × Buffer :=
  if count ≤ buffer.length then
    (.ok (buffer.read count).1, (buffer.read count).2)
  else (.error .shortRead, ∅)

/-- Takes all bytes out. -/
def takeAll (buffer : Buffer) : Bytes × Buffer := (buffer.toList, ∅)

/-! ## the view -/

@[simp] theorem toList_empty : (∅ : Buffer).toList = [] := rfl

@[simp] theorem toList_ofBytes (bytes : Bytes) : (ofBytes bytes).toList = bytes := by
  simp [toList, ofBytes]

@[simp] theorem ofBytes_toList (buffer : Buffer) : ofBytes buffer.toList = buffer := by
  simp [toList, ofBytes]

@[simp] theorem length_toList (buffer : Buffer) : buffer.toList.length = buffer.length := by
  simp [toList, length]

@[simp] theorem toList_push (buffer : Buffer) (data : Bytes) :
    (buffer.push data).toList = buffer.toList ++ data := by
  simp [push, toList, List.reverseAux_eq]

@[simp] theorem length_push (buffer : Buffer) (data : Bytes) :
    (buffer.push data).length = buffer.length + data.length := by
  simp [← length_toList]

/-- Buffers with the same bytes are the same. -/
theorem eq_of_toList {a b : Buffer} (h : a.toList = b.toList) : a = b := by
  rw [← ofBytes_toList a, h, ofBytes_toList]

/-- Two writes in a row are one write of both. -/
theorem push_push (buffer : Buffer) (a b : Bytes) :
    (buffer.push a).push b = buffer.push (a ++ b) := eq_of_toList (by simp)

@[simp] theorem push_nil (buffer : Buffer) : buffer.push [] = buffer := rfl

/-- A read takes the bytes it returns off the front. -/
theorem read_append (buffer : Buffer) (room : Nat) :
    (buffer.read room).1 ++ (buffer.read room).2.toList = buffer.toList := by
  simp [read]

end Buffer

end Reply
