import Reply.Proofs.Draining

/-!
# Reply.Proofs.Retrying

What comes of writing all of some data to a response, by the single writes that this
makes.

1. The data that went in and the counts that were answered are read off the writes:
   `Sink.put` and `Sink.counted`.  Each count is that of the bytes which its write put
   in (`length_taken_attempts`).
2. `Stream.fed` is a stream behind some writes that it takes itself: each of them
   appends a piece (`write_fed`), and so does a run of them (`run_writes_streaming`).
3. `Body.Gains` says of any body what becomes of it (`gains_writeAll`).
4. Together: the front of the data goes in, once, and all of it exactly if writing it
   succeeds, and the payload size goes on by the counts
   (`writeAll_takes_from_the_front`).
-/

namespace Reply

/-! ## what goes in -/

namespace Sink

/-- The data that these writes put in, in order. -/
def put (calls : List (Bytes × Except IoError Nat)) : Bytes :=
  calls.flatMap fun call => taken call.1 call.2

/-- The counts that they are answered. -/
def counted (calls : List (Bytes × Except IoError Nat)) : List Nat :=
  calls.filterMap fun call => call.2.toOption

theorem put_whole (data : Bytes) : put [(data, .ok data.length)] = data := by
  simp [put, taken]

end Sink

/-! ## streams that take bytes themselves -/

namespace Stream

/-- What stops the reading of a stream is never an interruption. -/
theorem isInterrupted_of_stop? {stream : Stream} {error : IoError}
    (stopped : Delivery.stop? stream.deliveries = some error) : error.isInterrupted = false := by
  rw [← failure?_pour copyRoom_pos stream ∅] at stopped
  exact isInterrupted_of_pour stopped

/-- The stream behind these writes: what they put in is new data at its end, in pieces. -/
def fed (stream : Stream) (calls : List (Bytes × Except IoError Nat)) : Stream :=
  let pieces := calls.map fun call => Sink.taken call.1 call.2
  { stream with
    deliveries := stream.deliveries ++ (pieces.filter (!·.isEmpty)).map .data
    acceptances := stream.acceptances.drop calls.length
    calls := List.replicate calls.length .write ++ stream.calls
    bytesWritten := stream.bytesWritten + (Sink.put calls).length }

theorem fed_nil (stream : Stream) : stream.fed [] = stream := by
  simp [fed, Sink.put]

theorem fed_append (stream : Stream) (a b : List (Bytes × Except IoError Nat)) :
    (stream.fed a).fed b = stream.fed (a ++ b) := by
  have counted : ∀ calls, List.replicate b.length Call.write ++
      (List.replicate a.length .write ++ calls) =
        List.replicate (a.length + b.length) .write ++ calls := by
    intro calls
    rw [← List.append_assoc, List.replicate_append_replicate, Nat.add_comm]
  simp [fed, Sink.put, Nat.add_assoc, counted]

/-- Accepted data is a piece, unless it has no bytes. -/
theorem accept_eq (stream : Stream) (data : Bytes) :
    stream.accept data = { stream with
      deliveries := stream.deliveries ++ ([data].filter (!·.isEmpty)).map .data
      bytesWritten := stream.bytesWritten + data.length } := by
  unfold accept
  cases none : data.isEmpty <;> simp [none]

/-- A write feeds a stream what it takes. -/
theorem write_fed (stream : Stream) (data : Bytes) :
    (stream.write data).2 = stream.fed [(data, (stream.write data).1)] := by
  unfold write
  split
  · rename_i none
    rw [accept_eq]
    simp [note, fed, Sink.put, Sink.taken, none]
  · rename_i error rest refuses
    simp [note, fed, Sink.put, Sink.taken, refuses]
  · rename_i count rest accepts
    dsimp only
    rw [accept_eq]
    simp [note, fed, Sink.put, Sink.taken, accepts, List.take_eq_take_min]

end Stream

/-! ## what becomes of a body -/

namespace Body

open Delivery (yields stop?)

/-- A run of writes feeds a stream that takes bytes itself, one after the other. -/
theorem run_writes_streaming {stream : Stream} (writable : stream.writable = true)
    (slices : List Bytes) :
    let outcome := (Operation.each write slices).run (streaming stream)
    outcome.state = streaming (stream.fed (slices.zip outcome.answer)) := by
  induction slices generalizing stream with
  | nil => exact congrArg streaming stream.fed_nil.symm
  | cons slice rest ih =>
    have first : (write slice).run (streaming stream) =
        ⟨(stream.write slice).1, streaming (stream.write slice).2, {}⟩ := if_pos writable
    have kept : (stream.write slice).2.writable = true := by
      rw [Stream.write_writable, writable]
    rw [Operation.run_each_cons, first]
    dsimp only
    rw [ih kept, Stream.write_fed, Stream.fed_append]
    rfl

/-- What becomes of a body by the writes of some data. -/
inductive Gains (calls : List (Bytes × Except IoError Nat)) : Body → Body → Prop
  /-- No write is made for no data. -/
  | untouched {body : Body} (nothing : calls = []) : Gains calls body body
  | buffered {buffer : Buffer} :
      Gains calls (buffered buffer) (buffered (buffer.push (Sink.put calls)))
  | closed (refused : Sink.counted calls = []) : Gains calls closed closed
  | streaming {stream : Stream} (writable : stream.writable = true) :
      Gains calls (streaming stream) (streaming (stream.fed calls))
  /-- What the stream gives is in front of what is put in. -/
  | drained {stream : Stream} (readOnly : stream.writable = false)
      (ended : stop? stream.deliveries = none) :
      Gains calls (streaming stream) (ofBytes (yields stream.deliveries ++ Sink.put calls))
  | broken {stream : Stream} {error : IoError} {reads : Nat} (readOnly : stream.writable = false)
      (stopped : stop? stream.deliveries = some error) (refused : Sink.counted calls = []) :
      Gains calls (streaming stream) (streaming (stream.drained reads))

/-- The writes that are made of some data feed it to a stream that takes bytes itself. -/
theorem state_writeAll_streaming {stream : Stream} (writable : stream.writable = true)
    (data : Bytes) :
    (Sink.writeAll data (streaming stream)).state =
      streaming (stream.fed (Sink.attempts data (streaming stream))) := by
  have fed := run_writes_streaming writable ((Sink.attempts data (streaming stream)).map Prod.fst)
  have made : (Operation.each write _).run _ = _ := Sink.run_attempts data (streaming stream)
  rw [made] at fed
  simpa [List.zip_map'] using fed

/-- The data goes behind what a stream gives that takes none itself, unless that stream breaks. -/
theorem gains_writeAll_readOnly {stream : Stream} (readOnly : stream.writable = false)
    {data : Bytes} (some : data ≠ []) :
    (streaming stream).Gains (Sink.attempts data (streaming stream))
      (Sink.writeAll data (streaming stream)).state := by
  obtain ⟨trail, written⟩ := run_write_readOnly readOnly data
  cases ended : stop? stream.deliveries with
  | none =>
    rw [ended] at written
    have single : Sink.attempts data (streaming stream) = _ :=
      Sink.attempts_whole some (congrArg Outcome.answer written.1)
    have state : (Sink.writeAll data (streaming stream)).state = _ :=
      (Sink.state_writeAll_single single).trans (congrArg Outcome.state written.1)
    have gains : Gains [(data, .ok data.length)] (streaming stream) _ := .drained readOnly ended
    rw [Sink.put_whole] at gains
    rwa [state, single]
  | some error =>
    rw [ended] at written
    obtain ⟨⟨reads, written⟩, -⟩ := written
    have stopped := Stream.isInterrupted_of_stop? ended
    have single : Sink.attempts data (streaming stream) = _ :=
      Sink.attempts_broken some (congrArg Outcome.answer written) stopped
    have state : (Sink.writeAll data (streaming stream)).state = _ :=
      (Sink.state_writeAll_single single).trans (congrArg Outcome.state written)
    rw [state, single]
    exact .broken readOnly ended rfl

/-- What becomes of a body by writing all of some data to it. -/
theorem gains_writeAll (data : Bytes) (body : Body) :
    body.Gains (Sink.attempts data body) (Sink.writeAll data body).state := by
  by_cases none : data = []
  · rw [none, Sink.attempts_nothing rfl, Sink.writeAll_nothing]
    exact .untouched rfl
  cases body with
  | buffered buffer =>
    have single : Sink.attempts data (buffered buffer) = _ := Sink.attempts_whole none rfl
    have gains : Gains [(data, .ok data.length)] (buffered buffer) _ := .buffered
    rw [Sink.put_whole] at gains
    rwa [Sink.state_writeAll_single single, single]
  | closed =>
    have single : Sink.attempts data closed = _ := Sink.attempts_broken none rfl rfl
    rw [Sink.state_writeAll_single single, single]
    exact .closed rfl
  | streaming stream =>
    cases writable : stream.writable with
    | true =>
      rw [state_writeAll_streaming writable]
      exact .streaming writable
    | false => exact gains_writeAll_readOnly writable none

end Body

namespace Response

/-- The count that a write is answered is that of the bytes which it puts in. -/
theorem length_taken_attempts {data : Bytes} {r : Response} {call : Bytes × Except IoError Nat}
    (made : call ∈ Sink.attempts data r) {count : Nat} (answered : call.2 = .ok count) :
    (Sink.taken call.1 call.2).length = count := by
  obtain ⟨current, answer⟩ := Sink.exists_of_mem_attempts made
  have onBody := (answer_write call.1 current).symm.trans (answer.trans answered)
  have fits : count ≤ call.1.length := (Body.count_write onBody).1
  rw [answered]
  exact List.length_take_of_le fits

/-- What writing all of some data to a response comes to, by the writes that it makes: all of it
went in but for the rest. -/
structure WrittenBy (calls : List (Bytes × Except IoError Nat)) (r : Response) (data rest : Bytes)
    (outcome : Outcome Response (Except IoError Unit)) : Prop where
  /-- Just these writes were made. -/
  made : (Operation.each write (calls.map Prod.fst)).run r =
    ⟨calls.map Prod.snd, outcome.state, outcome.trail⟩
  none : calls = [] ↔ data = []
  bounded : calls.length ≤ data.length + r.patience
  whole : Sink.put calls ++ rest = data
  done : outcome.answer = .ok () ↔ rest = []
  body : r.message.body.Gains calls outcome.state.message.body
  counted : outcome.state = if data = [] then r
    else r.withBody outcome.state.message.body (r.sizeAfter (Sink.counted calls))
  counts : ∀ call ∈ calls, ∀ count, call.2 = .ok count →
    (Sink.taken call.1 call.2).length = count

/-- **The front of the data is taken**, once and in order, whatever the writes are answered: all of
it exactly if writing it succeeds. -/
theorem writeAll_takes_from_the_front (data : Bytes) (r : Response) :
    ∃ rest, WrittenBy (Sink.attempts data r) r data rest ((writeAll data).run r) := by
  obtain ⟨rest, whole, done⟩ := Sink.accepted_append data r
  have gains : r.message.body.Gains (Sink.attempts data r)
      (Sink.writeAll data r).state.message.body := by
    obtain ⟨calls, -, left⟩ := writeAll_body data r
    rw [← calls, ← left]
    exact Body.gains_writeAll data r.message.body
  exact ⟨rest, {
    made := Sink.run_attempts data r
    none := Sink.attempts_eq_nil_iff
    bounded := Sink.length_attempts data r
    whole, done
    body := gains
    counted := state_writeAll_eq data r
    counts := fun _ made _ answered => length_taken_attempts made answered }⟩

/-- A stream that takes one byte, interrupts the next write, and then takes nothing more. -/
example :
    let stream : Stream := {
      writable := true
      acceptances := [.upTo 1, .failure (.ofKind .interrupted), .upTo 0] }
    let r : Response := { message? := some { body := .streaming stream }, size := .known 5 }
    Sink.put (Sink.attempts [1, 2, 3] r) = [1] ∧ Sink.counts [1, 2, 3] r = [1, 0] ∧
      ((writeAll [1, 2, 3]).run r).state.size = .known 6 := by
  cbv

end Response

end Reply
