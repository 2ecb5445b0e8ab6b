import Reply.Stream

/-!
# Reply.Buffer.Action

Calls on a buffer as values, so that a whole run of them is a list.
-/

namespace Reply.Buffer

/-- Something that is asked of a buffer. -/
inductive Action
  | write (data : Bytes)
  | flush
  | read (room : Nat)
  | readExact (count : Nat)
  | takeAll
  /-- Copies a stream to the end; the stream stays open. -/
  | fillFrom (stream : Stream)

/-- What a call on a buffer answers. -/
inductive Answer
  /-- The number of bytes taken; a buffer takes all it is given. -/
  | count (taken : Nat)
  | done
  | bytes (given : Bytes)
  /-- Exactly the bytes that were asked for, if there were as many. -/
  | exact (answer : Except IoError Bytes)
  /-- The number of bytes copied, and what is left of the stream. -/
  | filled (answer : Except IoError Nat) (left : Stream)

/-- Does what is asked. -/
def perform : Action → Buffer → Answer × Buffer
  | .write data, buffer => (.count data.length, buffer.push data)
  | .flush, buffer => (.done, buffer)
  | .read room, buffer =>
    let (given, rest) := buffer.read room
    (.bytes given, rest)
  | .readExact count, buffer =>
    let (answer, rest) := buffer.readExact count
    (.exact answer, rest)
  | .takeAll, buffer =>
    let (given, rest) := buffer.takeAll
    (.bytes given, rest)
  | .fillFrom stream, buffer =>
    let (answer, filled, left) := buffer.fillFrom stream
    (.filled answer left, filled)

end Reply.Buffer
