import Reply.Proofs.Counting
import Reply.Proofs.Ownership

/-!
# Reply.Proofs.Draining

The three calls that read a stream to its end: taking the whole body, looking at it,
and writing to it where the stream takes no bytes itself.

1. Reading to the end leaves one stream, but for the number of reads that it took:
   `Stream.drained` says what has become of the deliveries, of the calls and of the
   bytes read (`read_frame`, `pour_drained`).
2. So the three calls read the same bytes and stop for the same reason, whatever the
   room of their reads.  They differ in where the bytes go, and in what becomes of the
   stream if it breaks: a write keeps it, and the others close it, once
   (`readings_agree`).
-/

namespace Reply

namespace Stream

open Delivery

/-! ## a stream that was read to its end -/

/-- The stream behind that many reads which read it to its end. -/
def drained (stream : Stream) (reads : Nat) : Stream :=
  { stream with
    deliveries := remains stream.deliveries
    calls := List.replicate reads .read ++ stream.calls
    bytesRead := stream.bytesRead + (yields stream.deliveries).length }

/-- A read is one more call, and what it gives has been read; besides the deliveries nothing else
of the stream changes. -/
theorem read_frame (stream : Stream) (room : Nat) :
    (stream.read room).2 =
      { stream with
        deliveries := (stream.read room).2.deliveries
        calls := .read :: stream.calls
        bytesRead := stream.bytesRead + (obtained (stream.read room).1).length } := by
  unfold read
  split
  · rfl
  · split <;> rfl

section Read

variable {stream rest : Stream} {room : Nat} {answer : Except IoError Bytes}
  (given : stream.read room = (answer, rest))
include given

/-- Draining goes on behind a read. -/
theorem drained_read (front : yields stream.deliveries = obtained answer ++ yields rest.deliveries)
    (left : remains stream.deliveries = remains rest.deliveries) (reads : Nat) :
    rest.drained reads = stream.drained (reads + 1) := by
  have frame := read_frame stream room
  rw [given] at frame
  dsimp only at frame
  rw [frame, drained, drained, front, left]
  simp [List.replicate_succ', Nat.add_assoc]

/-- It is done behind a read that stops it. -/
theorem drained_last (nothing : obtained answer = []) (none : yields stream.deliveries = [])
    (left : remains stream.deliveries = rest.deliveries) : rest = stream.drained 1 := by
  have frame := read_frame stream room
  rw [given] at frame
  dsimp only at frame
  rw [frame, drained, none, left, nothing]
  rfl

end Read

/-- Pouring a stream drains it. -/
theorem pour_drained {room : Nat} (hroom : 0 < room) (stream : Stream) (buffer : Buffer) :
    ∃ reads, (stream.pour room buffer).stream = stream.drained reads := by
  fun_induction pour room stream buffer with
  | case1 stream buffer rest given =>
    obtain ⟨none, -, left⟩ := read_ok_nil hroom given
    exact ⟨1, drained_last given rfl none left⟩
  | case2 stream buffer b given rest read ih =>
    obtain ⟨reads, poured⟩ := ih
    obtain ⟨front, -, left⟩ := read_ok_cons read
    exact ⟨reads + 1, poured.trans (drained_read read front left reads)⟩
  | case3 stream buffer error rest failed interrupted ih =>
    obtain ⟨reads, poured⟩ := ih
    have chunk : (Delivery.failure error).isChunk = true := interrupted
    have front : yields stream.deliveries = yields rest.deliveries := by
      rw [read_error failed, yields_chunk _ chunk]
      rfl
    have left : remains stream.deliveries = remains rest.deliveries := by
      rw [read_error failed, remains_chunk _ chunk]
    exact ⟨reads + 1, poured.trans (drained_read failed front left reads)⟩
  | case4 stream buffer error rest failed stopped =>
    have last : (Delivery.failure error).isChunk = false := Bool.eq_false_iff.2 stopped
    have none : yields stream.deliveries = [] := by rw [read_error failed, yields_last _ last]
    have left : remains stream.deliveries = rest.deliveries := by
      rw [read_error failed, remains_last _ last]
    exact ⟨1, drained_last failed rfl none left⟩

/-! ## closing it -/

/-- The one stream that is let go of is this one: drained, and then closed once. -/
def SpentBy (stream : Stream) (trail : Trail) : Prop :=
  ∃ reads, trail.released = [(stream.drained reads).close.2] ∧
    (stream.drained reads).close.2.closes = stream.closes + 1

theorem closes_close (stream : Stream) : stream.close.2.closes = stream.closes + 1 := by
  unfold close
  split <;> exact List.count_cons_self ..

theorem closes_drained (stream : Stream) (reads : Nat) :
    (stream.drained reads).closes = stream.closes := by
  simp [closes, drained, List.count_replicate]

/-- A stream that is poured out and then released is spent. -/
theorem spentBy_of_pour {room : Nat} (hroom : 0 < room) {stream : Stream} {buffer : Buffer}
    {trail : Trail}
    (released : trail.released = (stream.pour room buffer).stream.release.released) :
    stream.SpentBy trail := by
  obtain ⟨reads, poured⟩ := pour_drained hroom stream buffer
  refine ⟨reads, ?_, ?_⟩
  · rw [released, poured, released_release]
  · rw [closes_close, closes_drained]

end Stream

/-! ## the three calls -/

open Delivery (yields stop?)

namespace Body

variable (stream : Stream)

/-- The whole body is taken. -/
theorem run_readAll_streaming :
    ∃ trail, readAll.run (streaming stream) =
        ⟨(streaming stream).contents, closed, trail⟩ ∧ stream.SpentBy trail := by
  refine ⟨stream.gather.stream.release, ?_, Stream.spentBy_of_pour Stream.gatherRoom_pos rfl⟩
  rw [← answer_readAll]
  rfl

/-- It is looked at. -/
theorem run_snapshot_streaming :
    ∃ trail, snapshot.run (streaming stream) =
        ⟨(streaming stream).contents, ofBytes (yields stream.deliveries), trail⟩ ∧
      stream.SpentBy trail := by
  have filled : (stream.pour Stream.copyRoom ∅).buffer = .ofBytes (yields stream.deliveries) := by
    rw [Stream.buffer_pour Stream.copyRoom_pos]
    exact Buffer.eq_of_toList (by simp)
  refine ⟨(snapshot.run (streaming stream)).trail, ?_,
    Stream.spentBy_of_pour Stream.copyRoom_pos rfl⟩
  rw [← answer_snapshot, ofBytes, ← filled]
  rfl

/-- It is written to, behind what the stream gives. -/
theorem run_write_readOnly {stream : Stream} (readOnly : stream.writable = false) (data : Bytes) :
    ∃ trail, match stop? stream.deliveries with
      | none =>
        (write data).run (streaming stream) =
          ⟨.ok data.length, ofBytes (yields stream.deliveries ++ data), trail⟩ ∧
        stream.SpentBy trail
      | some error =>
        (∃ reads, (write data).run (streaming stream) =
          ⟨.error error, streaming (stream.drained reads), trail⟩) ∧ trail.released = [] := by
  have stopped := Stream.failure?_pour Stream.copyRoom_pos stream ∅
  have filled := Stream.buffer_pour Stream.copyRoom_pos stream ∅
  have unwritable : ¬stream.writable = true := Bool.eq_false_iff.1 readOnly
  cases ended : stop? stream.deliveries with
  | none =>
    have all : (stream.pour Stream.copyRoom ∅).buffer.push data =
        .ofBytes (yields stream.deliveries ++ data) := by
      rw [filled]
      exact Buffer.eq_of_toList (by simp)
    refine ⟨{ log := [.streamDrained] } ++ (stream.pour Stream.copyRoom ∅).stream.release, ?_,
      Stream.spentBy_of_pour Stream.copyRoom_pos rfl⟩
    simp only [Operation.run, write, if_neg unwritable, stopped, ended, all, ofBytes]
  | some error =>
    obtain ⟨reads, poured⟩ := Stream.pour_drained Stream.copyRoom_pos stream ∅
    refine ⟨{ log := [.streamDrained, .drainFailed error] }, ⟨reads, ?_⟩, rfl⟩
    simp only [Operation.run, write, if_neg unwritable, stopped, ended, poured]

end Body

namespace Response

variable {r : Response} {stream : Stream} {given data : Bytes} {error : IoError}

/-- A write to a response lets go of what the body's own write does. -/
theorem released_write (data : Bytes) (r : Response) :
    ((write data).run r).trail.released =
      ((Body.write data).run r.message.body).trail.released := by
  simp only [write, onBody, Operation.run_bind, run_onMessage, Message.run_onBody]
  cases ((Body.write data).run r.message.body).answer <;> simp [released_creation]

/-- The stream of the response ends behind these bytes.  They are answered, or the data goes behind
them, and the stream is spent by each of the calls. -/
structure ReadsOut (r : Response) (stream : Stream) (given data : Bytes) : Prop where
  taken : ∃ trail, Body.readAll.run (.streaming stream) = ⟨.ok given, .closed, trail⟩ ∧
    stream.SpentBy trail
  seen : ∃ trail, Body.snapshot.run (.streaming stream) = ⟨.ok given, .ofBytes given, trail⟩ ∧
    stream.SpentBy trail
  written : stream.writable = false → ∃ trail, (Body.write data).run (.streaming stream) =
      ⟨.ok data.length, .ofBytes (given ++ data), trail⟩ ∧ stream.SpentBy trail
  counted : stream.writable = false → ∃ trail, (write data).run r =
      ⟨.ok data.length, r.withBody (.ofBytes (given ++ data)) (r.size.advance data.length),
        trail⟩ ∧ stream.SpentBy trail

/-- It breaks behind these bytes.  That failure is answered.  Two of the calls spend the stream, and
one of them keeps the bytes; a write keeps the stream, and counts nothing. -/
structure BreaksOff (r : Response) (stream : Stream) (given data : Bytes) (error : IoError) :
    Prop where
  taken : ∃ trail, Body.readAll.run (.streaming stream) = ⟨.error error, .closed, trail⟩ ∧
    stream.SpentBy trail
  seen : ∃ trail, Body.snapshot.run (.streaming stream) = ⟨.error error, .ofBytes given, trail⟩ ∧
    stream.SpentBy trail
  written : stream.writable = false → ∃ reads trail, (Body.write data).run (.streaming stream) =
      ⟨.error error, .streaming (stream.drained reads), trail⟩ ∧ trail.released = []
  uncounted : stream.writable = false → ∃ reads trail, (write data).run r =
      ⟨.error error, r.withBody (.streaming (stream.drained reads)) r.size, trail⟩ ∧
        trail.released = []

/-- What a write to the response comes to, by what the write to its body does. -/
theorem run_write_of_body {body next : Body} {answer : Except IoError Nat} {trail : Trail}
    (has : r.message.body = body) (outcome : (Body.write data).run body = ⟨answer, next, trail⟩) :
    ∃ trail', (write data).run r =
        ⟨answer, r.withBody next (r.sizeAfter answer.toOption.toList), trail'⟩ ∧
      trail'.released = trail.released := by
  have answered := answer_write data r
  have left := state_write data r
  have released := released_write data r
  rw [has, outcome] at answered left released
  dsimp only at answered left released
  refine ⟨((write data).run r).trail, ?_, released⟩
  rw [← left, ← answered]

/-- **The readings agree**: taking the whole body, looking at it and writing to it where the stream
takes no bytes read the same bytes out of the stream, those before its first read that gives nothing
or fails for good, and succeed or fail alike. -/
theorem readings_agree {message : Message Body} (present : r.message? = some message)
    (streams : message.body = .streaming stream) (data : Bytes) :
    match stop? stream.deliveries with
    | none => r.ReadsOut stream (yields stream.deliveries) data
    | some error => r.BreaksOff stream (yields stream.deliveries) data error := by
  have has : r.message.body = .streaming stream := by rw [message_of_some present, streams]
  have taken := Body.run_readAll_streaming stream
  have seen := Body.run_snapshot_streaming stream
  have put (readOnly : stream.writable = false) := Body.run_write_readOnly readOnly data
  simp only [Body.contents] at taken seen
  cases ended : stop? stream.deliveries with
  | none =>
    simp only [ended] at taken seen put
    refine ⟨taken, seen, put, fun readOnly => ?_⟩
    obtain ⟨trail, written, spent⟩ := put readOnly
    obtain ⟨trail', counted, released⟩ := run_write_of_body has written
    refine ⟨trail', counted, ?_⟩
    rw [Stream.SpentBy, released]
    exact spent
  | some error =>
    simp only [ended] at taken seen put
    refine ⟨taken, seen, fun readOnly => ?_, fun readOnly => ?_⟩
    · obtain ⟨trail, ⟨reads, written⟩, kept⟩ := put readOnly
      exact ⟨reads, trail, written, kept⟩
    · obtain ⟨trail, ⟨reads, written⟩, kept⟩ := put readOnly
      obtain ⟨trail', uncounted, released⟩ := run_write_of_body has written
      exact ⟨reads, trail', uncounted, released.trans kept⟩

/-- A stream of which a read is interrupted, and that breaks with data behind the failure. -/
theorem readings_agree_broken :
    let error := IoError.ofKind .brokenPipe
    let stream : Stream := { deliveries :=
      [.data [1, 2], .failure (.ofKind .interrupted), .data [3], .failure error, .data [4]] }
    let message : Message Body := { status := ⟨404, by decide⟩, body := .streaming stream }
    let r : Response := { message? := some message, size := .known 9 }
    r.message? = some message ∧ message.body = .streaming stream ∧ stream.writable = false ∧
      r.BreaksOff stream [1, 2, 3] [5] error ∧
      ∀ reads, (stream.drained reads).deliveries = [.data [4]] := by
  intro error stream message r
  have present : r.message? = some message := rfl
  have broken : r.BreaksOff stream [1, 2, 3] [5] error := readings_agree present rfl [5]
  exact ⟨present, rfl, rfl, broken, fun _ => rfl⟩

end Response

end Reply
