import Reply.Proofs.Queue
import Reply.Response.Basic

/-!
# Reply.Proofs.Counting

What a write to a response puts into the body, and what is counted for it.

1. A response passes every write on to its body, and counts what the body answers
   (`state_write`); a run of writes counts one answer after the other
   (`state_each_write`).  So writing all of some data makes the writes that the body
   would get by itself (`writeAll_body`), and counts those (`state_writeAll_eq`).
2. `Body.held` are the bytes that a write goes behind.  A write that is answered a
   count puts that much of the data behind them (`held_write`).
3. Only a stream that takes bytes itself may answer less than it was given
   (`count_write`).
-/

namespace Reply

/-! ## counts -/

namespace Sink

variable {σ : Type} [Sink σ]

/-- The counts that the writes of `writeAll` are answered, in order. -/
def counts (data : Bytes) (state : σ) : List Nat :=
  (attempts data state).filterMap fun attempt => attempt.2.toOption

section Cases

variable {data : Bytes} {state next : σ} {trail : Trail}

theorem counts_nothing (state : σ) : counts [] state = [] := by
  rw [counts, attempts_nothing rfl]
  rfl

theorem counts_taken {count : Nat} (some : ¬data.isEmpty = true)
    (written : (write data).run state = ⟨.ok (count + 1), next, trail⟩) :
    counts data state = (count + 1) :: counts (data.drop (count + 1)) next := by
  rw [counts, attempts_taken some written]
  rfl

theorem counts_failed {error : IoError} (some : ¬data.isEmpty = true)
    (written : (write data).run state = ⟨.error error, next, trail⟩) :
    counts data state = if error.isInterrupted then counts data next else [] := by
  rw [counts, attempts_failed some written]
  cases error.isInterrupted <;> rfl

end Cases

end Sink

/-! ## writing to a response -/

namespace Response

/-- The response with this body in its message, and with this payload size. -/
def withBody (r : Response) (body : Body) (size : PayloadSize) : Response :=
  { r with message? := some { r.message with body }, size }

/-- The payload size after these counts, one after the other. -/
def sizeAfter (r : Response) (counts : List Nat) : PayloadSize :=
  counts.foldl PayloadSize.advance r.size

theorem withBody_self {r : Response} {message : Message Body}
    (present : r.message? = some message) : r.withBody message.body r.size = r := by
  rw [withBody, message_of_some present, ← present]

/-- A write leaves the body as the body's own write does, and counts what that is answered. -/
theorem state_write (data : Bytes) (r : Response) :
    ((write data).run r).state =
      r.withBody ((Body.write data).run r.message.body).state
        (r.sizeAfter ((Body.write data).run r.message.body).answer.toOption.toList) := by
  simp only [write, onBody, Operation.run_bind, run_onMessage, Message.run_onBody]
  cases ((Body.write data).run r.message.body).answer <;>
    simp [withBody, sizeAfter, Except.toOption]

/-- The body gets just the writes that are made when all of some data is written to the response. -/
theorem writeAll_body (data : Bytes) (r : Response) :
    Sink.attempts data r.message.body = Sink.attempts data r ∧
      (Sink.writeAll data r.message.body).answer = (Sink.writeAll data r).answer ∧
      (Sink.writeAll data r.message.body).state = (Sink.writeAll data r).state.message.body :=
  Sink.writeAll_part (fun r : Response => r.message.body)
    (fun data r => (answer_write data r).symm) (fun data r => (body_write data r).symm) data r

/-- A run of writes changes the body alone, and counts what each of them is answered. -/
theorem state_each_write (slices : List Bytes) (r : Response) :
    let outcome := (Operation.each write slices).run r
    outcome.state =
      if slices = [] then r
      else
        r.withBody outcome.state.message.body
          (r.sizeAfter (outcome.answer.filterMap Except.toOption)) := by
  induction slices generalizing r with
  | nil => rfl
  | cons slice rest ih =>
    have first := state_write slice r
    rw [← body_write, ← answer_write] at first
    have behind := ih ((write slice).run r).state
    dsimp only at behind ⊢
    rw [Operation.run_each_cons, if_neg (List.cons_ne_nil slice rest)]
    dsimp only
    generalize ((write slice).run r).answer = answer at first ⊢
    by_cases last : rest = []
    · rw [last, Operation.run_each_nil]
      cases answer <;> exact first
    · rw [if_neg last] at behind
      rw [behind, first]
      cases answer <;> rfl

/-- So does writing all of some data; without any data there is no write. -/
theorem state_writeAll_eq (data : Bytes) (r : Response) :
    (Sink.writeAll data r).state =
      if data = [] then r
      else
        r.withBody (Sink.writeAll data r).state.message.body
          (r.sizeAfter (Sink.counts data r)) := by
  by_cases none : data = []
  · rw [if_pos none, none, Sink.writeAll_nothing]
  have made : (Operation.each write _).run r = _ := Sink.run_attempts data r
  have some : (Sink.attempts data r).map Prod.fst ≠ [] := by simp [Sink.attempts_eq_nil_iff, none]
  have counted := state_each_write ((Sink.attempts data r).map Prod.fst) r
  dsimp only at counted
  rw [made, if_neg some, List.filterMap_map] at counted
  rw [if_neg none]
  exact counted

section Present

variable (data : Bytes) {r : Response} {message : Message Body}
  (present : r.message? = some message)
include present

theorem answer_writeAll :
    ((writeAll data).run r).answer = ((Body.writeAll data).run message.body).answer := by
  rw [← message_of_some present]
  exact (writeAll_body data r).2.1.symm

/-- If there is a message, not even writing no data is an exception. -/
theorem state_writeAll :
    ((writeAll data).run r).state =
      r.withBody ((Body.writeAll data).run message.body).state
        (r.sizeAfter (Sink.counts data message.body)) := by
  obtain ⟨attempts, -, body⟩ := writeAll_body data r
  have counts : Sink.counts data r.message.body = Sink.counts data r := by
    rw [Sink.counts, attempts]
    rfl
  rw [← message_of_some present, counts]
  show (Sink.writeAll data r).state = r.withBody (Sink.writeAll data r.message.body).state _
  rw [body]
  by_cases none : data = []
  · rw [none, Sink.writeAll_nothing, Sink.counts_nothing]
    show r = r.withBody r.message.body r.size
    rw [message_of_some present, withBody_self present]
  · have left := state_writeAll_eq data r
    rwa [if_neg none] at left

end Present

end Response

/-! ## writing to a body -/

namespace Stream

/-- The next write to this stream takes fewer bytes than these. -/
def takesFewer (stream : Stream) (data : Bytes) : Bool :=
  match stream.acceptances with
  | .upTo count :: _ => decide (count < data.length)
  | _ => false

theorem count_write {stream : Stream} {data : Bytes} {count : Nat}
    (answered : (stream.write data).1 = .ok count) :
    count ≤ data.length ∧ (count = data.length ↔ stream.takesFewer data = false) := by
  unfold write at answered
  unfold takesFewer
  split at answered
  · rename_i none
    cases answered
    simp [none]
  · cases answered
  · rename_i limit rest accepts
    cases answered
    simp only [accepts, List.length_take, decide_eq_false_iff_not]
    omega

end Stream

namespace Body

/-- The bytes that a write goes behind: all that a stream has still to give if it takes bytes
itself, and else what is read out of it before the write. -/
def held : Body → Bytes
  | buffered buffer => buffer.toList
  | streaming stream =>
    if stream.writable then Delivery.content stream.deliveries
    else Delivery.yields stream.deliveries
  | closed => []

/-- A stream that takes bytes itself, but fewer than these with the next write. -/
def cutsShort (data : Bytes) : Body → Bool
  | streaming stream => stream.writable && stream.takesFewer data
  | _ => false

section Calls

variable {data : Bytes} {body : Body} {count : Nat}
  (answered : ((write data).run body).answer = .ok count)
include answered

/-- A write that is answered a count puts that much of the data behind what is held. -/
theorem held_write : ((write data).run body).state.held = body.held ++ data.take count := by
  cases body with
  | buffered buffer =>
    cases answered
    simp [Operation.run, write, held]
  | closed => cases answered
  | streaming stream =>
    simp only [Operation.run, write] at answered ⊢
    by_cases writable : stream.writable
    · rw [if_pos writable] at answered ⊢
      have taken : Sink.taken data (stream.write data).1 = data.take count :=
        congrArg (Sink.taken data) answered
      have behind := Stream.content_write stream data
      rw [taken] at behind
      simpa only [held, Stream.write_writable, writable, if_true] using behind
    · rw [if_neg writable] at answered ⊢
      split at answered
      · cases answered
      · cases answered
        simp [held, writable, Stream.buffer_pour Stream.copyRoom_pos]

/-- It is at most all of the data, and less than that just where a stream cuts it short. -/
theorem count_write :
    count ≤ data.length ∧ (count = data.length ↔ body.cutsShort data = false) := by
  cases body with
  | buffered buffer =>
    cases answered
    exact ⟨Nat.le_refl _, iff_of_true rfl rfl⟩
  | closed => cases answered
  | streaming stream =>
    simp only [Operation.run, write] at answered
    by_cases writable : stream.writable
    · rw [if_pos writable] at answered
      simpa only [cutsShort, writable, Bool.true_and] using Stream.count_write answered
    · rw [if_neg writable] at answered
      split at answered
      · cases answered
      · cases answered
        simp [cutsShort, writable]

end Calls

end Body

end Reply
