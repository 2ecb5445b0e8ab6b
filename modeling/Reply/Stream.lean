import Reply.Buffer

/-!
# Reply.Stream

A foreign stream: a reader that may be read once and closed once, and that
may accept bytes behind those it still has to give.

A stream is what its calls will answer, in order: the *deliveries* of its
reads, the *acceptances* of its writes, the outcomes of its flushes and of
its closes. So a stream is a value, and whoever holds it owns it.

1. A read takes the next delivery. Data that does not fit into the room of
   the read stays in front; data without bytes reads as an end once.
2. A write takes the next acceptance; what it accepts becomes a new delivery
   at the end. Without an acceptance everything is accepted.
3. A flush or a close takes the next outcome; without one it succeeds.

`pour` reads a stream into a buffer until it ends or fails.
-/

namespace Reply

/-- What a read will give. -/
inductive Delivery
  | data (bytes : Bytes)
  | failure (error : IoError)
deriving DecidableEq

/-- The weight of a delivery: one for itself and one for each byte. -/
def Delivery.weight : Delivery → Nat
  | .data bytes => bytes.length + 1
  | .failure _ => 1

/-- What a write will be answered. -/
inductive Acceptance
  /-- Up to that many bytes are taken. -/
  | upTo (count : Nat)
  | failure (error : IoError)
deriving DecidableEq

/-- The answers of a stream's close. -/
inductive Closing
  /-- Nobody watches the close, and it always succeeds. -/
  | unwatched
  /-- Each close takes the next outcome. -/
  | watched (outcomes : List (Except IoError Unit))

/-- Something that is asked of a stream. -/
inductive Stream.Call
  | read
  | write
  | flush
  | close
deriving DecidableEq

/-- A stream, perhaps with a number to tell it from others, and what was done to it. -/
structure Stream where
  id : Option Nat := none
  deliveries : List Delivery := []
  /-- The stream accepts bytes. -/
  writable : Bool := false
  acceptances : List Acceptance := []
  flushes : List (Except IoError Unit) := []
  closing : Closing := .unwatched
  /-- What was asked of it so far, the latest first. -/
  calls : List Stream.Call := []
  /-- How many bytes were read out of it. -/
  bytesRead : Nat := 0
  /-- How many bytes were written into it. -/
  bytesWritten : Nat := 0

namespace Stream

/-- Notes what is asked of the stream. -/
def note (stream : Stream) (call : Call) : Stream := { stream with calls := call :: stream.calls }

/-- How often it was closed. -/
def closes (stream : Stream) : Nat := stream.calls.count .close

/-- Reads up to `room` bytes; no bytes mean the end of the stream. -/
def read (stream : Stream) (room : Nat) : Except IoError Bytes × Stream :=
  if room = 0 then (.ok [], stream.note .read)
  else
    match stream.deliveries with
    | [] => (.ok [], stream.note .read)
    | .failure error :: rest => (.error error, { stream.note .read with deliveries := rest })
    | .data bytes :: rest =>
      let given := bytes.take room
      let left := bytes.drop room
      (.ok given,
        { stream.note .read with
          deliveries := if left.isEmpty then rest else .data left :: rest
          bytesRead := stream.bytesRead + given.length })

/-- Puts data behind all that the stream still has to give. -/
def accept (stream : Stream) (data : Bytes) : Stream :=
  { stream with
    deliveries := if data.isEmpty then stream.deliveries else stream.deliveries ++ [.data data]
    bytesWritten := stream.bytesWritten + data.length }

/-- Writes data; the answer is the number of bytes accepted, which may be fewer than were given. -/
def write (stream : Stream) (data : Bytes) : Except IoError Nat × Stream :=
  match stream.acceptances with
  | [] => (.ok data.length, (stream.note .write).accept data)
  | .failure error :: rest => (.error error, { stream.note .write with acceptances := rest })
  | .upTo count :: rest =>
    let taken := data.take count
    (.ok taken.length, { stream.note .write with acceptances := rest }.accept taken)

/-- Asks the stream to pass on what it accepted. -/
def flush (stream : Stream) : Except IoError Unit × Stream :=
  match stream.flushes with
  | [] => (.ok (), stream.note .flush)
  | outcome :: rest => (outcome, { stream.note .flush with flushes := rest })

/-- Releases what stands behind the stream. -/
def close (stream : Stream) : Except IoError Unit × Stream :=
  let closed := stream.note .close
  match stream.closing with
  | .unwatched | .watched [] => (.ok (), closed)
  | .watched (outcome :: rest) => (outcome, { closed with closing := .watched rest })

/-- The closes that somebody sees. -/
def watchedCloses (stream : Stream) : Nat :=
  match stream.closing with
  | .unwatched => 0
  | .watched _ => stream.closes

/-! ## reading to the end -/

/-- What a stream has still to give. Every read that gives bytes or fails makes it smaller. -/
def backlog (stream : Stream) : Nat :=
  stream.deliveries.foldr (fun delivery more => delivery.weight + more) 0

theorem backlog_read_error {stream rest : Stream} {room : Nat} {error : IoError}
    (h : stream.read room = (.error error, rest)) : rest.backlog < stream.backlog := by
  unfold read at h
  split at h
  · cases h
  · split at h
    · cases h
    · rename_i deliveries
      cases h
      simp [backlog, deliveries, Delivery.weight]
    · cases h

theorem backlog_read_ok {stream rest : Stream} {room : Nat} {b : UInt8} {given : Bytes}
    (h : stream.read room = (.ok (b :: given), rest)) : rest.backlog < stream.backlog := by
  unfold read at h
  split at h
  · cases h
  · split at h
    · cases h
    · cases h
    · rename_i bytes more deliveries
      simp only [Prod.mk.injEq, Except.ok.injEq] at h
      obtain ⟨taken, rfl⟩ := h
      have some : 0 < bytes.length := by
        cases bytes with
        | nil => simp at taken
        | cons => simp
      simp only [backlog, deliveries, List.foldr_cons, Delivery.weight]
      split
      · omega
      · simp only [List.foldr_cons, List.length_drop]
        omega

/-- How a stream was poured out: the buffer it filled, what is left of it, and the failure that
stopped it, if it did not end. -/
structure Poured where
  buffer : Buffer
  stream : Stream
  failure? : Option IoError

/-- Reads a stream into a buffer, `room` bytes at a time, until a read gives nothing or fails.
An interrupted read is made again. -/
def pour (room : Nat) (stream : Stream) (buffer : Buffer) : Poured :=
  match _given : stream.read room with
  | (.ok [], rest) => ⟨buffer, rest, none⟩
  | (.ok (b :: given), rest) => pour room rest (buffer.push (b :: given))
  | (.error error, rest) =>
    if error.isInterrupted then pour room rest buffer else ⟨buffer, rest, some error⟩
termination_by stream.backlog
decreasing_by
  · exact backlog_read_ok _given
  · exact backlog_read_error _given

/-- The room of each read that gathers a stream into one piece. -/
def gatherRoom : Nat := 32

/-- The room of each read that copies a stream into a buffer. -/
def copyRoom : Nat := 8192

/-- Gathers all that a stream yields. -/
def gather (stream : Stream) : Poured := stream.pour gatherRoom ∅

end Stream

namespace Buffer

/-- Copies all that a stream yields to the end of the buffer; the answer is the number of bytes
copied. What came before a failure stays. -/
def fillFrom (buffer : Buffer) (stream : Stream) : Except IoError Nat × Buffer × Stream :=
  let poured := stream.pour Stream.copyRoom buffer
  let answer :=
    match poured.failure? with
    | some error => .error error
    | none => .ok (poured.buffer.length - buffer.length)
  (answer, poured.buffer, poured.stream)

end Buffer

end Reply
