import Reply.Body.Action
import Reply.Proofs.Pouring
import Reply.Proofs.Writing

/-!
# Reply.Proofs.Lifecycle

What becomes of a body under the calls that are made on it.

1. A body in memory stays in memory, and none of its calls fails.
2. A stream stays the same stream until one call ends that: taking the whole body
   or closing it leaves a closed body, whether it succeeds or not; a snapshot,
   successful or not, or a write that succeeds on a stream that takes no bytes
   itself leaves a body in memory.
3. A closed body refuses every call in the same words and stays closed.

That a stream stays the same means that it had further reads, writes and flushes, and
nothing else happened to it (`Stream.Later`).

`Becomes` says what one call makes of a body (`becomes_perform`).  The first and the
last state keep all that comes after them, so over a run a stream has at most one call
that ends it (`fate_of_stream`).
-/

namespace Reply

/-! ## the same stream -/

namespace Stream

/-- The stream, later: after further reads, writes and flushes. -/
inductive Later (stream : Stream) : Stream → Prop
  | refl : Later stream stream
  | read {later : Stream} (room : Nat) : Later stream later → Later stream (later.read room).2
  | write {later : Stream} (data : Bytes) : Later stream later → Later stream (later.write data).2
  | flush {later : Stream} : Later stream later → Later stream later.flush.2

theorem Later.trans {a b c : Stream} (ab : a.Later b) (bc : b.Later c) : a.Later c := by
  induction bc with
  | refl => exact ab
  | read room _ ih => exact ih.read room
  | write data _ ih => exact ih.write data
  | flush _ ih => exact ih.flush

theorem later_pour (room : Nat) (stream : Stream) (buffer : Buffer) :
    stream.Later (stream.pour room buffer).stream :=
  pour_along (fun _ => Later.refl.read room) (fun _ _ _ => Later.trans) stream buffer

end Stream

namespace Body

/-! ## calls and their answers -/

/-- The call did what it was asked for. -/
def Answer.succeeds : Answer → Bool
  | .count (.ok _) | .outcome (.ok _) | .bytes (.ok _) => true
  | .offered (some (.ok _)) | .drained _ none | .done => true
  | _ => false

/-- A call on the body itself, and not one that puts another in its place. -/
def Action.isOwn : Action → Bool
  | .replace _ => false
  | _ => true

/-- A call that gives the stream of a body away for good. -/
def Action.takesStream : Action → Bool
  | .readAll | .close => true
  | _ => false

/-- A call that was answered so puts a buffer in the place of the stream: a snapshot, or a write
that succeeds on a stream that takes no bytes itself.  Writing all of no data makes no write. -/
def Action.buffersStream (stream : Stream) (answer : Answer) : Action → Bool
  | .snapshot => true
  | .write _ => !stream.writable && answer.succeeds
  | .writeAll data => !data.isEmpty && !stream.writable && answer.succeeds
  | _ => false

/-- What a closed body answers: that it has been consumed, where there is something to be done. -/
def Action.refusal : Action → Answer
  | .write _ => .count (.error .consumed)
  | .writeAll data => .outcome (if data.isEmpty then .ok () else .error .consumed)
  | .writeInPlace _ => .offered none
  | .flush | .close => .outcome (.ok ())
  | .read _ | .readAll | .snapshot => .bytes (.error .consumed)
  | .readToEnd => .drained [] (some .consumed)
  | .replace _ => .done

/-- What a call makes of a body. -/
def Becomes (action : Action) (outcome : Outcome Body Answer) : Body → Prop
  | buffered _ => outcome.answer.succeeds = true ∧ outcome.state.isBuffered = true
  | streaming stream =>
    if action.takesStream then outcome.state = closed
    else if action.buffersStream stream outcome.answer then outcome.state.isBuffered = true
    else ∃ same, outcome.state = streaming same ∧ stream.Later same
  | closed => outcome = ⟨action.refusal, closed, {}⟩

/-! ## writing all of some data -/

theorem writeAll_nothing (body : Body) : (writeAll []).run body = ⟨.ok (), body, {}⟩ :=
  Sink.writeAll_nothing body

theorem writeAll_buffered (buffer : Buffer) (data : Bytes) :
    ((writeAll data).run (buffered buffer)).answer = .ok () ∧
      ((writeAll data).run (buffered buffer)).state.isBuffered = true := by
  by_cases none : data = []
  · rw [none, writeAll_nothing]
    exact ⟨rfl, rfl⟩
  · have once := Sink.writeAll_once none (show (Sink.write data).run (buffered buffer) =
      ⟨.ok data.length, buffered (buffer.push data), {}⟩ from rfl)
    rw [Operation.run, writeAll, once]
    exact ⟨rfl, rfl⟩

theorem writeAll_closed {data : Bytes} (some : ¬data.isEmpty = true) :
    (writeAll data).run closed = ⟨.error .consumed, closed, {}⟩ := by
  have failed := Sink.writeAll_failed some (show (Sink.write data).run closed =
    ⟨.error .consumed, closed, {}⟩ from rfl)
  rw [Operation.run, writeAll, failed]
  rfl

/-- A write goes to a stream that takes bytes, and leaves it the same stream. -/
theorem write_writable {stream : Stream} (writable : stream.writable = true) (data : Bytes) :
    ∃ same, ((write data).run (streaming stream)).state = streaming same ∧
      same.writable = true ∧ stream.Later same := by
  refine ⟨(stream.write data).2, ?_, ?_, Stream.Later.refl.write data⟩
  · simp only [Operation.run, write, writable, if_true]
  · rw [Stream.write_writable, writable]

/-- So do all the writes that it takes to write all of some data. -/
theorem writeAll_writable {stream : Stream} (writable : stream.writable = true) (data : Bytes) :
    ∃ same, ((writeAll data).run (streaming stream)).state = streaming same ∧
      same.writable = true ∧ stream.Later same := by
  refine Sink.writeAll_along (R := fun before _ after _ =>
    ∀ stream, before = streaming stream → stream.writable = true →
      ∃ same, after = streaming same ∧ same.writable = true ∧ stream.Later same)
    ?_ ?_ ?_ data (streaming stream) stream rfl writable
  · exact fun _ stream is writable => ⟨stream, is, writable, .refl⟩
  · rintro data _ stream rfl writable
    exact write_writable writable data
  · intro _ _ _ _ _ _ _ first second stream is writable
    obtain ⟨between, isBetween, writable, used⟩ := first stream is writable
    obtain ⟨same, isSame, writable, usedAgain⟩ := second between isBetween writable
    exact ⟨same, isSame, writable, used.trans usedAgain⟩

/-- A stream that takes no bytes is drained into a buffer, which takes them, or it fails to be
drained, which is no interruption, and stays. -/
theorem write_readOnly {stream : Stream} (readOnly : ¬stream.writable = true) (data : Bytes) :
    (∃ buffer trail, (write data).run (streaming stream) =
        ⟨.ok data.length, buffered buffer, trail⟩) ∨
      ∃ error same trail, (write data).run (streaming stream) =
        ⟨.error error, streaming same, trail⟩ ∧
        error.isInterrupted = false ∧ stream.Later same := by
  simp only [Operation.run, write, if_neg readOnly]
  cases stopped : (stream.pour Stream.copyRoom ∅).failure? with
  | none => exact .inl ⟨_, _, rfl⟩
  | some error =>
    exact .inr ⟨error, _, _, rfl, Stream.isInterrupted_of_pour stopped, stream.later_pour _ _⟩

/-! ## one call -/

theorem becomes_buffered {action : Action} (own : action.isOwn = true) (buffer : Buffer) :
    Becomes action ((perform action).run (buffered buffer)) (buffered buffer) := by
  cases action with
  | writeAll data =>
    obtain ⟨answered, kept⟩ := writeAll_buffered buffer data
    rw [perform, Operation.run_map]
    refine ⟨?_, kept⟩
    simp only [answered, Answer.succeeds]
  | replace => cases own
  | _ => exact ⟨rfl, rfl⟩

theorem becomes_closed {action : Action} (own : action.isOwn = true) :
    Becomes action ((perform action).run closed) closed := by
  cases action with
  | writeAll data =>
    rw [Becomes, perform, Operation.run_map]
    by_cases none : data.isEmpty
    · rw [List.isEmpty_iff.1 none, writeAll_nothing]
      rfl
    · rw [writeAll_closed none, Action.refusal, if_neg none]
  | replace => cases own
  | _ => rfl

/-- A call that leaves a stream where it is. -/
theorem becomes_same {action : Action} {outcome : Outcome Body Answer} {stream : Stream}
    (keeps : action.takesStream = false)
    (unbuffered : action.buffersStream stream outcome.answer = false)
    (stays : ∃ same, outcome.state = streaming same ∧ stream.Later same) :
    Becomes action outcome (streaming stream) := by
  simpa only [Becomes, keeps, unbuffered, Bool.false_eq_true, if_false] using stays

theorem becomes_streaming_write (stream : Stream) (data : Bytes) :
    Becomes (.write data) ((perform (.write data)).run (streaming stream)) (streaming stream) := by
  rw [perform, Operation.run_map]
  by_cases writable : stream.writable
  · obtain ⟨same, is, -, used⟩ := write_writable writable data
    refine becomes_same rfl ?_ ⟨same, is, used⟩
    simp [Action.buffersStream, writable]
  · rcases write_readOnly writable data with
      ⟨buffer, trail, drained⟩ | ⟨error, same, trail, failed, -, used⟩
    · rw [drained]
      simp [Becomes, Action.takesStream, Action.buffersStream, writable, Answer.succeeds,
        isBuffered, buffer?]
    · rw [failed]
      refine becomes_same rfl ?_ ⟨same, rfl, used⟩
      simp [Action.buffersStream, Answer.succeeds]

theorem becomes_streaming_writeAll (stream : Stream) (data : Bytes) :
    Becomes (.writeAll data) ((perform (.writeAll data)).run (streaming stream))
      (streaming stream) := by
  rw [perform, Operation.run_map]
  by_cases none : data = []
  · rw [none, writeAll_nothing]
    exact becomes_same rfl rfl ⟨stream, rfl, .refl⟩
  have some : ¬data.isEmpty = true := by simpa using none
  by_cases writable : stream.writable
  · obtain ⟨same, is, -, used⟩ := writeAll_writable writable data
    refine becomes_same rfl ?_ ⟨same, is, used⟩
    simp [Action.buffersStream, writable]
  · -- The first write drains the stream; then it takes all of the data, or nothing more is tried.
    rcases write_readOnly writable data with
      ⟨buffer, trail, drained⟩ | ⟨error, same, trail, failed, final, used⟩
    · have all : (writeAll data).run (streaming stream) = ⟨.ok (), buffered buffer, trail⟩ :=
        Sink.writeAll_once none drained
      rw [all]
      simp [Becomes, Action.takesStream, Action.buffersStream, writable, none, Answer.succeeds,
        isBuffered, buffer?]
    · have all : (writeAll data).run (streaming stream) =
          ⟨.error error, streaming same, trail⟩ := by
        rw [Operation.run, writeAll, Sink.writeAll_failed some failed, final]
        rfl
      rw [all]
      refine becomes_same rfl ?_ ⟨same, rfl, used⟩
      simp [Action.buffersStream, Answer.succeeds]

theorem becomes_streaming {action : Action} (own : action.isOwn = true) (stream : Stream) :
    Becomes action ((perform action).run (streaming stream)) (streaming stream) := by
  cases action with
  | write data => exact becomes_streaming_write stream data
  | writeAll data => exact becomes_streaming_writeAll stream data
  | writeInPlace data =>
    refine becomes_same rfl rfl ?_
    simp only [perform, Operation.run_map]
    by_cases writable : stream.writable
    · obtain ⟨same, is, -, used⟩ := write_writable writable data
      refine ⟨same, ?_, used⟩
      rw [← is]
      simp only [Operation.run, writeInPlace, hasWriter, writable, if_true]
    · refine ⟨stream, ?_, .refl⟩
      simp [Operation.run, writeInPlace, hasWriter, writable]
  | flush =>
    refine becomes_same rfl rfl ?_
    simp only [perform, Operation.run_map]
    by_cases writable : stream.writable
    · refine ⟨stream.flush.2, ?_, Stream.Later.refl.flush⟩
      simp only [Operation.run, flush, writable, if_true]
    · refine ⟨stream, ?_, .refl⟩
      simp [Operation.run, flush, writable]
  | read room => exact becomes_same rfl rfl ⟨_, rfl, Stream.Later.refl.read room⟩
  | readToEnd =>
    exact becomes_same rfl rfl ⟨_, rfl, stream.later_pour Stream.gatherRoom ∅⟩
  | readAll => exact (rfl : _ = closed)
  | snapshot => exact (rfl : _ = true)
  | close => exact (rfl : _ = closed)
  | replace => cases own

/-- Each call makes of a body what it may. -/
theorem becomes_perform {action : Action} (own : action.isOwn = true) (body : Body) :
    Becomes action ((perform action).run body) body := by
  cases body with
  | buffered buffer => exact becomes_buffered own buffer
  | streaming stream => exact becomes_streaming own stream
  | closed => exact becomes_closed own

/-- Only a stream gets closed, and only by a call that takes it. -/
theorem takesStream_of_closed {action : Action} (own : action.isOwn = true) {body : Body}
    (opened : body ≠ closed) (ends : ((perform action).run body).state = closed) :
    (∃ stream, body = streaming stream) ∧ action.takesStream = true := by
  have becomes := becomes_perform own body
  cases body with
  | buffered buffer =>
    obtain ⟨-, kept⟩ := becomes
    rw [ends] at kept
    cases kept
  | closed => exact absurd rfl opened
  | streaming stream =>
    refine ⟨⟨stream, rfl⟩, ?_⟩
    cases takes : action.takesStream with
    | true => rfl
    | false =>
      simp only [Becomes, takes, ends, Bool.false_eq_true, if_false] at becomes
      split at becomes
      · cases becomes
      · obtain ⟨same, is, -⟩ := becomes
        cases is

/-! ## runs -/

section Runs

variable {run : List Action} (own : ∀ action ∈ run, action.isOwn = true)
include own

theorem each_buffered (buffer : Buffer) :
    ((Operation.each perform run).run (buffered buffer)).state.isBuffered = true ∧
      ∀ answer ∈ ((Operation.each perform run).run (buffered buffer)).answer,
        answer.succeeds = true := by
  induction run generalizing buffer with
  | nil => exact ⟨rfl, fun _ none => by cases none⟩
  | cons action rest ih =>
    rw [List.forall_mem_cons] at own
    obtain ⟨succeeded, kept⟩ := becomes_buffered own.1 buffer
    rw [Operation.run_each_cons]
    cases left : ((perform action).run (buffered buffer)).state with
    | buffered next =>
      obtain ⟨stays, answers⟩ := ih own.2 next
      exact ⟨stays, List.forall_mem_cons.2 ⟨succeeded, answers⟩⟩
    | streaming | closed =>
      rw [left] at kept
      cases kept

theorem each_closed :
    (Operation.each perform run).run closed = ⟨run.map Action.refusal, closed, {}⟩ := by
  induction run with
  | nil => rfl
  | cons action rest ih =>
    rw [List.forall_mem_cons] at own
    have first : (perform action).run closed = ⟨action.refusal, closed, {}⟩ :=
      becomes_closed own.1
    rw [Operation.run_each_cons, first, ih own.2]
    rfl

end Runs

/-- One call of a run ended the body's stream, up to which it was the same, and since which the body
is what that call made of it. -/
def Ended (run : List Action) (stream : Stream) (now : Body) : Prop :=
  ∃ before action after same, run = before ++ action :: after ∧
    ((Operation.each perform before).run (streaming stream)).state = streaming same ∧
    stream.Later same ∧
    ((action.takesStream = true ∧ now = closed) ∨
      (action.buffersStream same ((perform action).run (streaming same)).answer = true ∧
        now.isBuffered = true))

/-- A run leaves a stream where it is, or one of its calls ends it. -/
theorem fate_of_stream {run : List Action} (own : ∀ action ∈ run, action.isOwn = true)
    (stream : Stream) :
    (∃ same, ((Operation.each perform run).run (streaming stream)).state = streaming same ∧
        stream.Later same) ∨
      Ended run stream ((Operation.each perform run).run (streaming stream)).state := by
  induction run generalizing stream with
  | nil => exact .inl ⟨stream, rfl, .refl⟩
  | cons action rest ih =>
    rw [List.forall_mem_cons] at own
    have becomes := becomes_streaming own.1 stream
    rw [Operation.run_each_cons]
    simp only [Becomes] at becomes
    split at becomes
    · rename_i takes
      refine .inr ⟨[], action, rest, stream, rfl, rfl, .refl, .inl ⟨takes, ?_⟩⟩
      rw [becomes, each_closed own.2]
    · split at becomes
      · rename_i buffers
        refine .inr ⟨[], action, rest, stream, rfl, rfl, .refl, .inr ⟨buffers, ?_⟩⟩
        cases left : ((perform action).run (streaming stream)).state with
        | buffered buffer => exact (each_buffered own.2 buffer).1
        | streaming | closed =>
          rw [left] at becomes
          cases becomes
      · -- The same stream goes into the rest of the run.
        obtain ⟨between, is, used⟩ := becomes
        rw [is]
        rcases ih own.2 between with ⟨same, isSame, usedAgain⟩ | ended
        · exact .inl ⟨same, isSame, used.trans usedAgain⟩
        · obtain ⟨before, last, after, same, split, reached, usedAgain, ends⟩ := ended
          refine .inr ⟨action :: before, last, after, same, by rw [split]; rfl, ?_,
            used.trans usedAgain, ends⟩
          rw [Operation.run_each_cons, is]
          exact reached

/-- **The life of a body**: over any run of its own calls a body in memory stays there and no call
fails; a stream stays the same, up to the one call that closes it or puts a buffer in its place;
and a closed body refuses everything and is left alone.  Wherever the run has come to, the next call
does what belongs to the state of the body then, and closes nothing but a stream that it takes. -/
theorem body_follows_its_lifecycle {run : List Action}
    (own : ∀ action ∈ run, action.isOwn = true) (body : Body) :
    let outcome := (Operation.each perform run).run body
    (match body with
      | buffered _ =>
        outcome.state.isBuffered = true ∧ ∀ answer ∈ outcome.answer, answer.succeeds = true
      | streaming stream =>
        (∃ same, outcome.state = streaming same ∧ stream.Later same) ∨
          Ended run stream outcome.state
      | closed => outcome = ⟨run.map Action.refusal, closed, {}⟩) ∧
    ∀ action : Action, action.isOwn = true →
      let next := (perform action).run outcome.state
      Becomes action next outcome.state ∧
        (outcome.state ≠ closed → next.state = closed →
          (∃ stream, outcome.state = streaming stream) ∧ action.takesStream = true) := by
  intro outcome
  refine ⟨?_, fun action own => ⟨becomes_perform own _, takesStream_of_closed own⟩⟩
  cases body with
  | buffered buffer => exact each_buffered own buffer
  | streaming stream => exact fate_of_stream own stream
  | closed => exact each_closed own

/-- A stream that fails to be drained stays; it is closed by the call that takes the whole body, and
what comes behind that is refused. -/
theorem body_follows_its_lifecycle_broken :
    let stream : Stream :=
      { deliveries := [.data [1], .failure (.ofKind .connectionReset), .data [2]] }
    let run : List Action := [.write [9], .flush, .readAll, .write [3], .writeInPlace [4]]
    let outcome := (Operation.each perform run).run (streaming stream)
    (∀ action ∈ run, action.isOwn = true) ∧ Ended run stream outcome.state ∧
      outcome.state = closed ∧
      (perform (.read 4)).run outcome.state = ⟨.bytes (.error .consumed), closed, {}⟩ := by
  intro stream run outcome
  have own : ∀ action ∈ run, action.isOwn = true := by
    simp [run, Action.isOwn]
  have ends : outcome.state = closed := by
    unfold outcome run stream
    cbv
  obtain ⟨fate, next⟩ := body_follows_its_lifecycle own (streaming stream)
  have ended : Ended run stream outcome.state := by
    refine fate.resolve_left ?_
    rintro ⟨same, is, -⟩
    rw [show outcome.state = streaming same from is] at ends
    cases ends
  refine ⟨own, ended, ends, ?_⟩
  have refused := (next (.read 4) rfl).1
  rw [show ((Operation.each perform run).run (streaming stream)).state = closed from ends]
    at refused
  rw [ends]
  exact refused

end Body

end Reply
