import Reply.Sink

/-!
# Reply.Body

The body of a response: buffered in memory, a stream of which the body is the
only owner, or closed because its stream was consumed.

1. A buffered body can be written, read and looked at again and again, and
   stays buffered.
2. A stream is read once and closed once, by the body alone. Where repeated
   access is needed it is copied into a buffer, closed, and the buffer takes
   its place.
3. A write goes straight to a stream that accepts bytes; one that does not is
   first drained into a buffer. If that fails the stream stays.
4. A closed body has no bytes, takes none, and stays closed.

Whoever lets go of a stream closes it: `Stream.release` is the only place
where a stream leaves the library, and what it leaves in the trail is the
stream as it was then.
-/

namespace Reply

namespace Stream

/-- Closes a stream for good; a failure of the close is only logged. -/
def release (stream : Stream) : Trail :=
  match stream.close with
  | (.ok (), closed) => { released := [closed] }
  | (.error error, closed) => { log := [.closeFailed error], released := [closed] }

end Stream

/-- The body of a response. -/
inductive Body
  | buffered (buffer : Buffer)
  | streaming (stream : Stream)
  | closed

namespace Body

/-- The empty buffered body. -/
def empty : Body := buffered ∅

instance : Inhabited Body := ⟨empty⟩

/-- The buffered body that holds these bytes. -/
def ofBytes (bytes : Bytes) : Body := buffered (.ofBytes bytes)

/-- The buffer of a buffered body. -/
def buffer? : Body → Option Buffer
  | buffered buffer => some buffer
  | _ => none

/-- The stream that the body owns. -/
def stream? : Body → Option Stream
  | streaming stream => some stream
  | _ => none

def isBuffered (body : Body) : Bool := body.buffer?.isSome

def isClosed : Body → Bool
  | closed => true
  | _ => false

/-- The body can be written to as it is. -/
def hasWriter : Body → Bool
  | buffered _ => true
  | streaming stream => stream.writable
  | closed => false

/-- The body as one word of text. -/
def describe : Body → String
  | buffered buffer => s!"Body::Deferred({buffer.length})"
  | streaming _ => "Body::Stream"
  | closed => "Body::Closed"

/-- Lets go of the body. -/
def release : Body → Trail
  | streaming stream => stream.release
  | _ => {}

/-! ## writing -/

/-- Writes data; the answer is the number of bytes taken. -/
def write (data : Bytes) : Operation Body (Except IoError Nat)
  | buffered buffer => ⟨.ok data.length, buffered (buffer.push data), {}⟩
  | streaming stream =>
    if stream.writable then
      let (answer, stream) := stream.write data
      ⟨answer, streaming stream, {}⟩
    else
      let poured := stream.pour Stream.copyRoom ∅
      match poured.failure? with
      | some error =>
        ⟨.error error, streaming poured.stream, { log := [.streamDrained, .drainFailed error] }⟩
      | none =>
        ⟨.ok data.length, buffered (poured.buffer.push data),
          { log := [.streamDrained] } ++ poured.stream.release⟩
  | closed => ⟨.error .consumed, closed, {}⟩

/-- Passes on what was written. -/
def flush : Operation Body (Except IoError Unit)
  | streaming stream =>
    if stream.writable then
      let (answer, stream) := stream.flush
      ⟨answer, streaming stream, {}⟩
    else ⟨.ok (), streaming stream, {}⟩
  | body => ⟨.ok (), body, {}⟩

/-- Writes only if the body can be written to as it is. -/
def writeInPlace (data : Bytes) : Operation Body (Option (Except IoError Nat)) := fun body =>
  if body.hasWriter then
    let outcome := (write data).run body
    { outcome with answer := some outcome.answer }
  else ⟨none, body, {}⟩

/-! ## reading -/

/-- Reads up to `room` bytes. -/
def read (room : Nat) : Operation Body (Except IoError Bytes)
  | buffered buffer =>
    let (given, buffer) := buffer.read room
    ⟨.ok given, buffered buffer, {}⟩
  | streaming stream =>
    let (answer, stream) := stream.read room
    ⟨answer, streaming stream, {}⟩
  | closed => ⟨.error .consumed, closed, {}⟩

/-- Reads until nothing is left or a read fails; the answer is what was read, and the failure. The
body stays what it is. -/
def readToEnd : Operation Body (Bytes × Option IoError)
  | buffered buffer => ⟨(buffer.toList, none), empty, {}⟩
  | streaming stream =>
    let poured := stream.gather
    ⟨(poured.buffer.toList, poured.failure?), streaming poured.stream, {}⟩
  | closed => ⟨([], some .consumed), closed, {}⟩

/-- Takes the whole body. A buffer is emptied but can be used again; a stream is closed, even if
reading it fails. -/
def readAll : Operation Body (Except IoError Bytes)
  | buffered buffer =>
    let (bytes, buffer) := buffer.takeAll
    ⟨.ok bytes, buffered buffer, {}⟩
  | streaming stream =>
    let poured := stream.gather
    let answer :=
      match poured.failure? with
      | some error => .error error
      | none => .ok poured.buffer.toList
    ⟨answer, closed, poured.stream.release⟩
  | closed => ⟨.error .consumed, closed, {}⟩

/-- Looks at the whole body and keeps it readable. A stream is copied into a buffer that takes its
place, with what came before a failure if there is one. -/
def snapshot : Operation Body (Except IoError Bytes)
  | buffered buffer => ⟨.ok buffer.toList, buffered buffer, {}⟩
  | streaming stream =>
    let poured := stream.pour Stream.copyRoom ∅
    let answer :=
      match poured.failure? with
      | some error => .error error
      | none => .ok poured.buffer.toList
    ⟨answer, buffered poured.buffer, { log := [.streamCopied] } ++ poured.stream.release⟩
  | closed => ⟨.error .consumed, closed, {}⟩

/-! ## closing and replacing -/

/-- Closes a stream and reports how that went; any other body stays as it is. -/
def close : Operation Body (Except IoError Unit)
  | streaming stream =>
    let (answer, stream) := stream.close
    ⟨answer, closed, { released := [stream] }⟩
  | body => ⟨.ok (), body, {}⟩

/-- Installs another body and lets go of the present one. -/
def replace (body : Body) : Operation Body Unit := fun old => ⟨(), body, old.release⟩

end Body

/-! ## patience -/

namespace Stream

/-- What stops a pouring is never an interruption. -/
theorem isInterrupted_of_pour {room : Nat} {stream : Stream} {buffer : Buffer} {error : IoError}
    (h : (stream.pour room buffer).failure? = some error) : error.isInterrupted = false := by
  fun_induction pour room stream buffer with
  | case1 => cases h
  | case2 _ _ _ _ _ _ ih => exact ih h
  | case3 _ _ _ _ _ _ ih => exact ih h
  | case4 _ _ _ _ _ stopped =>
    cases h
    exact Bool.eq_false_iff.2 stopped

theorem read_writable (stream : Stream) (room : Nat) :
    (stream.read room).2.writable = stream.writable := by
  unfold read
  split
  · rfl
  · split <;> rfl

theorem pour_writable (room : Nat) (stream : Stream) (buffer : Buffer) :
    (stream.pour room buffer).stream.writable = stream.writable := by
  fun_induction pour room stream buffer with
  | case1 stream _ rest given => rw [← read_writable stream room, given]
  | case2 stream _ _ _ rest given ih => rw [ih, ← read_writable stream room, given]
  | case3 stream _ _ rest given _ ih => rw [ih, ← read_writable stream room, given]
  | case4 stream _ _ rest given => rw [← read_writable stream room, given]

theorem write_writable (stream : Stream) (data : Bytes) :
    (stream.write data).2.writable = stream.writable := by
  unfold write; split <;> rfl

/-- A write uses up one acceptance, if there is one. -/
theorem write_acceptances (stream : Stream) (data : Bytes) :
    (stream.write data).2.acceptances = stream.acceptances.tail := by
  unfold write; split <;> simp_all [accept, note]

/-- A write without an acceptance does not fail. -/
theorem acceptances_ne_nil_of_write_error {stream : Stream} {data : Bytes} {error : IoError}
    (h : (stream.write data).1 = .error error) : stream.acceptances ≠ [] := by
  unfold write at h
  split at h
  · cases h
  · simp_all
  · cases h

end Stream

namespace Body

/-- How many more writes to the body may be interrupted. -/
def patience : Body → Nat
  | streaming stream => if stream.writable then stream.acceptances.length else 0
  | _ => 0

theorem patience_write_le (data : Bytes) (body : Body) :
    patience ((write data).run body).state ≤ patience body := by
  cases body with
  | buffered => exact Nat.le_refl _
  | closed => exact Nat.le_refl _
  | streaming stream =>
    simp only [Operation.run, write]
    by_cases writable : stream.writable
    · simp [writable, patience, Stream.write_writable, Stream.write_acceptances]
    · rw [if_neg writable]
      split
      · simp [patience, Stream.pour_writable, writable]
      · exact Nat.zero_le _

theorem patience_write_lt {data : Bytes} {body : Body} {error : IoError}
    (failed : ((write data).run body).answer = .error error) (h : error.isInterrupted = true) :
    patience ((write data).run body).state < patience body := by
  cases body with
  | buffered => cases failed
  | closed =>
    cases failed
    cases h
  | streaming stream =>
    simp only [Operation.run, write] at failed ⊢
    by_cases writable : stream.writable
    · simp only [writable, if_true] at failed ⊢
      have some := List.length_pos_iff.2 (Stream.acceptances_ne_nil_of_write_error failed)
      simp only [patience, Stream.write_writable, writable, if_true, Stream.write_acceptances,
        List.length_tail]
      omega
    · rw [if_neg writable] at failed
      split at failed
      · rename_i stopped
        cases failed
        rw [Stream.isInterrupted_of_pour stopped] at h
        cases h
      · cases failed

instance : Sink Body where
  write := write
  patience := patience
  patience_ok data body _ _ := patience_write_le data body
  patience_interrupted _ _ _ := patience_write_lt

/-- Writes all of the data. -/
def writeAll (data : Bytes) : Operation Body (Except IoError Unit) := Sink.writeAll data

end Body

end Reply
