import Reply.Buffer.Action
import Reply.Proofs.Pouring

/-!
# Reply.Proofs.Buffering

A buffer is a queue of bytes, through any run of calls.

1. `Action.taken` and `Action.put` are what a call takes out at the front and puts
   in at the end.  An exact read that runs short takes out what there is, although
   it answers none of it.
2. Each call balances: what it takes out, followed by what it leaves, is what was
   there, followed by what it puts in (`balanced_perform`).  So does a run of calls.
3. Copying a stream takes its chunks, up to the end or to the first failure that is
   no interruption, and puts just their data behind what is buffered
   (`copied_fillFrom`).
-/

namespace Reply

namespace Delivery

/-- The deliveries up to the one at which reading stops, and what it stops at: nothing more, data
without bytes, or a failure that is no interruption. -/
theorem exists_chunks (deliveries : List Delivery) :
    ∃ chunks rest, deliveries = chunks ++ rest ∧ (∀ chunk ∈ chunks, chunk.isChunk = true) ∧
      yields deliveries = content chunks ∧
      match stop? deliveries with
      | none => rest = [] ∨ ∃ more, rest = .data [] :: more
      | some error => error.isInterrupted = false ∧ ∃ more, rest = .failure error :: more := by
  refine ⟨deliveries.takeWhile isChunk, deliveries.dropWhile isChunk,
    List.takeWhile_append_dropWhile.symm, fun _ => List.mem_takeWhile_imp, rfl, ?_⟩
  unfold stop?
  cases left : deliveries.dropWhile isChunk with
  | nil => exact .inl rfl
  | cons last more =>
    have stops : last.isChunk = false := by
      have head := List.head_dropWhile_not isChunk (l := deliveries) (by simp [left])
      simpa [left] using head
    cases last with
    | data given =>
      obtain rfl : given = [] := bytes_eq_nil stops
      exact .inr ⟨more, rfl⟩
    | failure error => exact ⟨stops, more, rfl⟩

end Delivery

namespace Buffer

open Delivery (content yields stop?)

/-! ## runs -/

/-- Does one thing after the other: the answers, and the buffer behind them. -/
def performAll : List Action → Buffer → List Answer × Buffer
  | [], buffer => ([], buffer)
  | action :: rest, buffer =>
    let (answer, next) := perform action buffer
    let (answers, last) := performAll rest next
    (answer :: answers, last)

/-- The bytes that a call takes out, by its answer.  An exact read that ran short has taken what a
single read of as many bytes would give. -/
def Action.taken (buffer : Buffer) : Action → Answer → Bytes
  | .read _, .bytes given => given
  | .takeAll, .bytes given => given
  | .readExact _, .exact (.ok given) => given
  | .readExact count, .exact (.error _) => (buffer.read count).1
  | _, _ => []

/-- The bytes that a call puts in. -/
def Action.put : Action → Bytes
  | .write data => data
  | .fillFrom stream => yields stream.deliveries
  | _ => []

/-- The bytes that a run takes out, in order. -/
def taken (buffer : Buffer) : List Action → Bytes
  | [] => []
  | action :: rest =>
    let (answer, next) := perform action buffer
    action.taken buffer answer ++ next.taken rest

/-! ## what each call does -/

/-- An exact read that runs short finds less than it asks for, and leaves nothing of it. -/
theorem read_of_short {buffer : Buffer} {count : Nat} (short : ¬count ≤ buffer.length) :
    (buffer.read count).1 = buffer.toList := by
  have all : buffer.toList.length ≤ count := by
    rw [length_toList]
    omega
  exact List.take_of_length_le all

theorem toList_fillFrom (buffer : Buffer) (stream : Stream) :
    (buffer.fillFrom stream).2.1.toList = buffer.toList ++ yields stream.deliveries := by
  show (stream.pour Stream.copyRoom buffer).buffer.toList = _
  rw [Stream.buffer_pour Stream.copyRoom_pos, toList_push]

/-- What a call takes out, followed by what it leaves, is what was there, followed by what it puts
in. -/
theorem balanced_perform (action : Action) (buffer : Buffer) :
    action.taken buffer (perform action buffer).1 ++ (perform action buffer).2.toList =
      buffer.toList ++ action.put := by
  cases action with
  | write data => simp [perform, Action.taken, Action.put]
  | flush => simp [perform, Action.taken, Action.put]
  | read room => exact (buffer.read_append room).trans (List.append_nil _).symm
  | readExact count =>
    simp only [perform, readExact, Action.put, List.append_nil]
    split
    · exact buffer.read_append count
    · rename_i short
      exact (List.append_nil _).trans (read_of_short short)
  | takeAll => simp [perform, takeAll, Action.taken, Action.put]
  | fillFrom stream => exact toList_fillFrom buffer stream

theorem balanced_performAll (actions : List Action) (buffer : Buffer) :
    buffer.taken actions ++ (performAll actions buffer).2.toList =
      buffer.toList ++ actions.flatMap Action.put := by
  induction actions generalizing buffer with
  | nil => simp [taken, performAll]
  | cons action rest ih =>
    have first := balanced_perform action buffer
    simp only [taken, performAll, List.flatMap_cons]
    rw [List.append_assoc, ih, ← List.append_assoc, first, List.append_assoc]

/-! ## copying a stream -/

/-- How copying a stream to the end of a buffer comes out.  The chunks in front of what stops it are
the data that was buffered and the interruptions in between. -/
inductive Copied (before : Buffer) (deliveries : List Delivery) :
    Except IoError Nat → Buffer → Prop
  /-- There is nothing more, or a read gave nothing: the answer is the number of bytes appended. -/
  | whole {chunks rest : List Delivery} {after : Buffer} (front : deliveries = chunks ++ rest)
      (chunked : ∀ chunk ∈ chunks, chunk.isChunk = true)
      (ends : rest = [] ∨ ∃ more, rest = .data [] :: more)
      (appended : after.toList = before.toList ++ content chunks) :
      Copied before deliveries (.ok (content chunks).length) after
  /-- A read failed for good: what the reads before it gave was appended. -/
  | broken {chunks more : List Delivery} {error : IoError} {after : Buffer}
      (front : deliveries = chunks ++ .failure error :: more)
      (chunked : ∀ chunk ∈ chunks, chunk.isChunk = true) (breaks : error.isInterrupted = false)
      (appended : after.toList = before.toList ++ content chunks) :
      Copied before deliveries (.error error) after

theorem copied_fillFrom (buffer : Buffer) (stream : Stream) :
    buffer.Copied stream.deliveries (buffer.fillFrom stream).1 (buffer.fillFrom stream).2.1 := by
  obtain ⟨chunks, rest, front, chunked, given, stops⟩ := Delivery.exists_chunks stream.deliveries
  have appended := toList_fillFrom buffer stream
  rw [given] at appended
  have stopped := Stream.failure?_pour Stream.copyRoom_pos stream buffer
  cases failed : stop? stream.deliveries with
  | none =>
    have counted : (buffer.fillFrom stream).1 = .ok (content chunks).length := by
      have added : (stream.pour Stream.copyRoom buffer).buffer.length - buffer.length =
          (content chunks).length := by
        rw [Stream.buffer_pour Stream.copyRoom_pos, length_push, given]
        omega
      simp only [fillFrom, stopped, failed, added]
    rw [failed] at stops
    rw [counted]
    exact .whole front chunked stops appended
  | some error =>
    have refused : (buffer.fillFrom stream).1 = .error error := by
      simp only [fillFrom, stopped, failed]
    rw [failed] at stops
    obtain ⟨breaks, more, rfl⟩ := stops
    rw [refused]
    exact .broken front chunked breaks appended

/-! ## the queue -/

/-- **A queue of bytes**: whatever is done to a buffer, the bytes taken out followed by those that
are buffered are the bytes that were there followed by those put in.  Wherever a run has come to,
the length is that of the bytes; and a stream copied from there on counts and appends all it gives,
or, if it breaks, appends what it gave before it broke. -/
theorem taken_append_toList (buffer : Buffer) (actions : List Action) :
    let after := (performAll actions buffer).2
    buffer.taken actions ++ after.toList = buffer.toList ++ actions.flatMap Action.put ∧
      after.length = after.toList.length ∧
      ∀ stream, after.Copied stream.deliveries (after.fillFrom stream).1
        (after.fillFrom stream).2.1 := by
  intro after
  exact ⟨balanced_performAll actions buffer, after.length_toList.symm, copied_fillFrom after⟩

/-- A read that runs short loses what it took, and a stream breaks behind an interruption. -/
example :
    let broken : Stream := { deliveries :=
      [.data [3], .failure (.ofKind .interrupted), .data [4], .failure (.ofKind .brokenPipe)] }
    let actions : List Action := [.readExact 5, .write [1, 2], .read 1, .fillFrom broken, .takeAll]
    (Buffer.ofBytes [0]).taken actions = [0, 1, 2, 3, 4] := by
  cbv

end Buffer

end Reply
