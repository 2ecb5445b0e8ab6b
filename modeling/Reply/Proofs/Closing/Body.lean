import Reply.Proofs.Closing.Discretion

/-!
# Reply.Proofs.Closing.Body

Closes of streams, and of bodies that let go of them.

1. A stream answers its reads, writes and flushes without a look at its closes, and
   so it is read to its end (`Stream.pour_forgive`).
2. Letting go of it closes it once, and warns if that fails (`Stream.settled_release`).
3. Taking, looking, draining and replacing do no more than that with the outcome of a
   close.  Only `Body.close` answers it: every other call on a body is discreet
   (`discreet_perform`).
-/

namespace Reply

open Owner (streams)
open Operation (Discreet DiscreetAt)

/-! ## streams -/

namespace Stream

theorem read_forgive (stream : Stream) (room : Nat) :
    (forgive stream).read room = ((stream.read room).1, forgive (stream.read room).2) := by
  obtain ⟨id, deliveries⟩ := stream
  by_cases none : room = 0
  · simp only [read, if_pos none]
    rfl
  · simp only [read, if_neg none]
    match deliveries with
    | [] | .failure _ :: _ | .data _ :: _ => rfl

theorem write_forgive (stream : Stream) (data : Bytes) :
    (forgive stream).write data = ((stream.write data).1, forgive (stream.write data).2) := by
  obtain ⟨id, deliveries, writable, acceptances⟩ := stream
  match acceptances with
  | [] | .failure _ :: _ | .upTo _ :: _ => rfl

theorem flush_forgive (stream : Stream) :
    (forgive stream).flush = (stream.flush.1, forgive stream.flush.2) := by
  obtain ⟨id, deliveries, writable, acceptances, flushes⟩ := stream
  cases flushes <;> rfl

section Cases

variable {room : Nat} {stream rest : Stream} (buffer : Buffer)

theorem pour_ended (given : stream.read room = (.ok [], rest)) :
    stream.pour room buffer = ⟨buffer, rest, none⟩ := by
  rw [pour]
  split <;> simp_all

theorem pour_given {b : UInt8} {bytes : Bytes}
    (given : stream.read room = (.ok (b :: bytes), rest)) :
    stream.pour room buffer = rest.pour room (buffer.push (b :: bytes)) := by
  rw [pour]
  split <;> simp_all

theorem pour_failed {error : IoError} (failed : stream.read room = (.error error, rest)) :
    stream.pour room buffer =
      if error.isInterrupted then rest.pour room buffer else ⟨buffer, rest, some error⟩ := by
  rw [pour]
  split <;> simp_all

end Cases

theorem pour_forgive (room : Nat) (stream : Stream) (buffer : Buffer) :
    (forgive stream).pour room buffer =
      ⟨(stream.pour room buffer).buffer, forgive (stream.pour room buffer).stream,
        (stream.pour room buffer).failure?⟩ := by
  -- Along the reads of the stream: the forgiven one answers each of them the same.
  fun_induction pour room stream buffer with
  | case1 stream buffer rest given =>
    have same := read_forgive stream room
    rw [given] at same
    exact pour_ended buffer same
  | case2 stream buffer b bytes rest given ih =>
    have same := read_forgive stream room
    rw [given] at same
    rw [pour_given buffer same, ih]
  | case3 stream buffer error rest failed interrupted ih =>
    have same := read_forgive stream room
    rw [failed] at same
    rw [pour_failed buffer same, if_pos interrupted, ih]
  | case4 stream buffer error rest failed stopped =>
    have same := read_forgive stream room
    rw [failed] at same
    rw [pour_failed buffer same, if_neg stopped]

theorem used_read (stream : Stream) (room : Nat) : stream.Used (stream.read room).2 := by
  refine ⟨stream.inUse_read room, ?_⟩
  unfold read
  split
  · rfl
  · split <;> rfl

theorem used_write (stream : Stream) (data : Bytes) : stream.Used (stream.write data).2 := by
  refine ⟨stream.inUse_write data, ?_⟩
  unfold write
  split <;> rfl

theorem used_flush (stream : Stream) : stream.Used stream.flush.2 := by
  refine ⟨stream.inUse_flush, ?_⟩
  unfold flush
  split <;> rfl

theorem used_pour (room : Nat) (stream : Stream) (buffer : Buffer) :
    stream.Used (stream.pour room buffer).stream :=
  pour_along (fun stream => used_read stream room) (fun _ _ _ => Used.trans) stream buffer

theorem release_forgive (stream : Stream) : (forgive stream).release = forgive stream.release := by
  obtain ⟨id, deliveries, writable, acceptances, flushes, closing⟩ := stream
  match closing with
  | .unwatched | .watched [] | .watched (.ok () :: _) | .watched (.error _ :: _) => rfl

theorem warnings_release (stream : Stream) :
    stream.release.warnings = stream.closeFailure?.toList := by
  unfold release closeFailure?
  split <;> rename_i closed <;> rw [closed] <;> rfl

theorem settled_release (stream : Stream) : Settled [stream] [] stream.release := by
  refine ⟨[stream], .cons (.refl stream) .zero, stream.released_release, ?_⟩
  rw [warnings_release]
  cases h : stream.closeFailure? <;> simp [h]

/-- A stream that is read to its end and let go of. -/
theorem settled_drain (room : Nat) (stream : Stream) :
    Settled [stream] [] (stream.pour room ∅).stream.release := by
  have poured : Settled [stream] [(stream.pour room ∅).stream] {} :=
    .use (stream.used_pour room ∅) rfl rfl
  exact poured.next (settled_release _)

end Stream

/-! ## bodies -/

instance : Forgiving Body where
  forgive
    | .streaming stream => .streaming (forgive stream)
    | body => body

namespace Body

theorem release_forgive (body : Body) : (forgive body).release = forgive body.release := by
  cases body with
  | streaming stream => exact stream.release_forgive
  | buffered | closed => rfl

/-- A body that is let go of keeps no stream. -/
theorem settled_release (body : Body) : Settled (streams body) [] body.release := by
  cases body with
  | streaming stream => exact stream.settled_release
  | buffered | closed => exact .refl [] rfl rfl

/-- A call is discreet by what it does to a stream.  Other bodies have none, and may not get one. -/
theorem discreet_of_stream {α : Type} {op op' : Operation Body α}
    (memory : ∀ buffer, DiscreetAt op op' [] (buffered buffer))
    (consumed : DiscreetAt op op' [] closed)
    (stream : ∀ stream, DiscreetAt op op' [] (streaming stream)) : Discreet op op' [] := by
  intro body
  cases body with
  | buffered buffer => exact memory buffer
  | streaming owned => exact stream owned
  | closed => exact consumed

theorem discreet_write (data : Bytes) : Discreet (write data) (write data) [] := by
  refine discreet_of_stream (fun _ => ⟨rfl, .refl [] rfl rfl⟩) ⟨rfl, .refl [] rfl rfl⟩
    fun stream => ⟨?_, ?_⟩
  · show write data (streaming (forgive stream)) = forgive (write data (streaming stream))
    simp only [write, stream.write_forgive, stream.pour_forgive, Stream.release_forgive]
    show (if stream.writable then _ else _) = _
    split
    · rfl
    · split
      · rfl
      · rw [Outcome.forgive_mk, Trail.forgive_append]
        rfl
  · simp only [Operation.run, write]
    split
    · exact .use (stream.used_write data) rfl rfl
    · split
      · exact .use (stream.used_pour Stream.copyRoom ∅) rfl rfl
      · exact .logged rfl (stream.settled_drain Stream.copyRoom)

theorem discreet_writeInPlace (data : Bytes) :
    Discreet (writeInPlace data) (writeInPlace data) [] := by
  intro body
  have same : (forgive body).hasWriter = body.hasWriter := by cases body <;> rfl
  refine ⟨?_, ?_⟩
  · show writeInPlace data (forgive body) = forgive (writeInPlace data body)
    simp only [writeInPlace, same, (discreet_write data body).forgives]
    split <;> rfl
  · simp only [Operation.run, writeInPlace]
    split
    · exact (discreet_write data body).settles
    · simpa using Settled.refl (streams body) rfl rfl

theorem discreet_writeAll (data : Bytes) : Discreet (writeAll data) (writeAll data) [] :=
  Discreet.writeAll discreet_write data

theorem discreet_flush : Discreet flush flush [] := by
  refine discreet_of_stream (fun _ => ⟨rfl, .refl [] rfl rfl⟩) ⟨rfl, .refl [] rfl rfl⟩
    fun stream => ⟨?_, ?_⟩
  · show flush (streaming (forgive stream)) = forgive (flush (streaming stream))
    simp only [flush, stream.flush_forgive]
    show (if stream.writable then _ else _) = _
    split <;> rfl
  · simp only [Operation.run, flush]
    split
    · exact .use stream.used_flush rfl rfl
    · exact .refl _ rfl rfl

theorem discreet_read (room : Nat) : Discreet (read room) (read room) [] := by
  refine discreet_of_stream (fun _ => ⟨rfl, .refl [] rfl rfl⟩) ⟨rfl, .refl [] rfl rfl⟩
    fun stream => ⟨?_, .use (stream.used_read room) rfl rfl⟩
  show read room (streaming (forgive stream)) = forgive (read room (streaming stream))
  simp only [read, stream.read_forgive]
  rfl

theorem discreet_readToEnd : Discreet readToEnd readToEnd [] := by
  refine discreet_of_stream (fun _ => ⟨rfl, .refl [] rfl rfl⟩) ⟨rfl, .refl [] rfl rfl⟩
    fun stream => ⟨?_, .use (stream.used_pour Stream.gatherRoom ∅) rfl rfl⟩
  show readToEnd (streaming (forgive stream)) = forgive (readToEnd (streaming stream))
  simp only [readToEnd, Stream.gather, stream.pour_forgive]
  rfl

theorem discreet_readAll : Discreet readAll readAll [] := by
  refine discreet_of_stream (fun _ => ⟨rfl, .refl [] rfl rfl⟩) ⟨rfl, .refl [] rfl rfl⟩
    fun stream => ⟨?_, stream.settled_drain Stream.gatherRoom⟩
  show readAll (streaming (forgive stream)) = forgive (readAll (streaming stream))
  simp only [readAll, Stream.gather, stream.pour_forgive, Stream.release_forgive]
  rfl

theorem discreet_snapshot : Discreet snapshot snapshot [] := by
  refine discreet_of_stream (fun _ => ⟨rfl, .refl [] rfl rfl⟩) ⟨rfl, .refl [] rfl rfl⟩
    fun stream => ⟨?_, .logged rfl (stream.settled_drain Stream.copyRoom)⟩
  show snapshot (streaming (forgive stream)) = forgive (snapshot (streaming stream))
  simp only [snapshot, stream.pour_forgive, Stream.release_forgive]
  rw [Outcome.forgive_mk, Trail.forgive_append]
  rfl

theorem discreet_replace (body : Body) :
    Discreet (replace body) (replace (forgive body)) (streams body) := by
  intro old
  refine ⟨?_, (settled_release old).refill (streams body)⟩
  show Outcome.mk () (forgive body) (forgive old).release = _
  rw [release_forgive]
  rfl

instance : Forgiving Action where
  forgive
    | .replace body => .replace (forgive body)
    | action => action

/-- The call answers no close. -/
def Action.isTacit : Action → Bool
  | .close => false
  | _ => true

theorem isTacit_forgive (action : Action) : (forgive action).isTacit = action.isTacit := by
  cases action <;> rfl

theorem discreet_perform (action : Action) (tacit : action.isTacit = true) :
    Discreet (perform action) (perform (forgive action)) action.brought := by
  cases action with
  | write data => exact (discreet_write data).map _
  | writeAll data => exact (discreet_writeAll data).map _
  | writeInPlace data => exact (discreet_writeInPlace data).map _
  | flush => exact discreet_flush.map _
  | read room => exact (discreet_read room).map _
  | readToEnd => exact discreet_readToEnd.map _
  | readAll => exact discreet_readAll.map _
  | snapshot => exact discreet_snapshot.map _
  | close => exact absurd tacit Bool.false_ne_true
  | replace body => exact (discreet_replace body).map _

end Body

end Reply
