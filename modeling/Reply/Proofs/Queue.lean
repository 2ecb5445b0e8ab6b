import Reply.Body.Action
import Reply.Proofs.Pouring
import Reply.Proofs.Writing

/-!
# Reply.Proofs.Queue

A body is a queue of bytes, whatever it is made of.

Its `content` is what it still has to give: the bytes of a buffer, or those that
its stream will yield.  Over any run of reads and writes, what came out followed
by what is left is what was there followed by what went in.

1. `Steady` is what is asked of a stream: its reads give data or are
   interrupted, and one that gives nothing means that nothing is left.
2. `Passes` is what a call does to the queue; calls in a row add up
   (`passes_trans`).
3. Each call passes what its answer says (`passes_perform`), and so does a run
   of them.
-/

namespace Reply

/-- The bytes of an answer; a failure brings none. -/
def obtained : Except IoError Bytes → Bytes
  | .ok bytes => bytes
  | .error _ => []

/-! ## steady streams -/

namespace Delivery

/-- Reads that give data or are interrupted, and that give nothing only if no data is left. -/
def Steady : List Delivery → Prop
  | [] => True
  | .data bytes :: rest => (bytes = [] → content rest = []) ∧ Steady rest
  | .failure error :: rest => error.isInterrupted = true ∧ Steady rest

theorem steady_of_cons {delivery : Delivery} {rest : List Delivery}
    (steady : Steady (delivery :: rest)) : Steady rest := by
  cases delivery <;> exact steady.2

theorem steady_drop {a : List Delivery} (b : List Delivery) (steady : Steady (a ++ b)) :
    Steady b := by
  induction a with
  | nil => exact steady
  | cons _ _ ih => exact ih (steady_of_cons steady)

/-- Data behind deliveries that are all some data, or interruptions, is reached. -/
theorem steady_snoc {deliveries : List Delivery} (steady : Steady deliveries)
    (whole : .data [] ∉ deliveries) (bytes : Bytes) : Steady (deliveries ++ [.data bytes]) := by
  induction deliveries with
  | nil => exact ⟨fun _ => rfl, trivial⟩
  | cons delivery rest ih =>
    obtain ⟨first, whole⟩ := not_or.1 fun h => whole (List.mem_cons.2 h)
    have kept := ih (steady_of_cons steady) whole
    cases delivery with
    | data some => exact ⟨fun none => absurd (by rw [none]) first, kept⟩
    | failure error => exact ⟨steady.1, kept⟩

/-- What is left after reading to the end stands behind what was read. -/
theorem steady_remains {deliveries : List Delivery} (steady : Steady deliveries) :
    Steady (remains deliveries) := by
  have left := List.takeWhile_append_dropWhile (p := isChunk) (l := deliveries)
  rw [← left] at steady
  have behind := steady_drop _ steady
  unfold remains
  cases h : deliveries.dropWhile isChunk with
  | nil => exact trivial
  | cons delivery rest => exact steady_of_cons (h ▸ behind)

/-- Reading steady deliveries to the end gives all their data, and does not fail. -/
theorem yields_steady {deliveries : List Delivery} (steady : Steady deliveries) :
    yields deliveries = content deliveries ∧ stop? deliveries = none := by
  induction deliveries with
  | nil => exact ⟨rfl, rfl⟩
  | cons delivery rest ih =>
    obtain ⟨all, ended⟩ := ih (steady_of_cons steady)
    cases h : delivery.isChunk with
    | true => rw [yields_chunk rest h, stop?_chunk rest h, content_cons, all]; exact ⟨rfl, ended⟩
    | false =>
      rw [yields_last rest h, stop?_last rest h, content_cons, bytes_eq_nil h, List.nil_append]
      cases delivery with
      | data bytes => exact ⟨(steady.1 (bytes_eq_nil h)).symm, rfl⟩
      | failure error => exact absurd (h ▸ steady.1) Bool.false_ne_true

/-- So no data is left behind the end. -/
theorem content_remains {deliveries : List Delivery} (steady : Steady deliveries) :
    content (remains deliveries) = [] := by
  have all := yields_append_content deliveries
  rw [(yields_steady steady).1] at all
  exact List.append_right_eq_self.1 all

end Delivery

namespace Stream

open Delivery

/-- A stream whose reads are steady, also behind what is written into it: no read of a stream that
accepts bytes comes to an end before its data. -/
structure Steady (stream : Stream) : Prop where
  deliveries : Delivery.Steady stream.deliveries
  whole : stream.writable = true → .data [] ∉ stream.deliveries

/-- A read takes what it gives off the front of the data. -/
theorem content_read (stream : Stream) (room : Nat) :
    obtained (stream.read room).1 ++ content (stream.read room).2.deliveries =
      content stream.deliveries := by
  unfold read
  split
  · rfl
  · split
    · rename_i none
      simp [note, none, obtained]
    · rename_i failed
      simp [failed, obtained, Delivery.bytes]
    · rename_i bytes rest given
      have whole := List.take_append_drop room bytes
      rw [given, content_cons]
      by_cases left : (bytes.drop room).isEmpty
      · rw [List.isEmpty_iff.1 left, List.append_nil] at whole
        simp [left, obtained, Delivery.bytes, whole]
      · simp [left, obtained, Delivery.bytes, ← List.append_assoc]

theorem steady_read {stream : Stream} (steady : stream.Steady) (room : Nat) :
    (stream.read room).2.Steady := by
  obtain ⟨patient, whole⟩ := steady
  unfold read
  split
  · exact ⟨patient, whole⟩
  · split
    · exact ⟨patient, whole⟩
    · rename_i failed
      rw [failed] at patient whole
      exact ⟨patient.2, fun writable ended => whole writable (List.mem_cons_of_mem _ ended)⟩
    · rename_i bytes rest given
      rw [given] at patient whole
      have behind : stream.writable = true → .data [] ∉ rest :=
        fun writable ended => whole writable (List.mem_cons_of_mem _ ended)
      by_cases left : (bytes.drop room).isEmpty
      · simp only [left, if_true]
        exact ⟨patient.2, behind⟩
      · simp only [left, Bool.false_eq_true, if_false]
        have some : bytes.drop room ≠ [] := fun none => left (List.isEmpty_iff.2 none)
        refine ⟨⟨fun none => absurd none some, patient.2⟩, fun writable => ?_⟩
        simpa [some.symm] using behind writable

theorem steady_pour {room : Nat} (hroom : 0 < room) {stream : Stream} (steady : stream.Steady)
    (buffer : Buffer) : (stream.pour room buffer).stream.Steady := by
  have left : (stream.pour room buffer).stream.deliveries = remains stream.deliveries :=
    deliveries_pour hroom stream buffer
  constructor
  · rw [left]
    exact steady_remains steady.deliveries
  · intro writable ended
    rw [left] at ended
    rw [pour_writable] at writable
    have behind := (List.dropWhile_sublist _).subset (List.mem_of_mem_tail ended)
    exact steady.whole writable behind

/-- Accepted data goes behind the rest. -/
theorem content_accept (stream : Stream) (data : Bytes) :
    content (stream.accept data).deliveries = content stream.deliveries ++ data := by
  unfold accept
  by_cases none : data.isEmpty
  · simp [List.isEmpty_iff.1 none]
  · simp [none, Delivery.bytes]

theorem steady_accept {stream : Stream} (steady : stream.Steady) (writable : stream.writable = true)
    (data : Bytes) : (stream.accept data).Steady := by
  have whole := steady.whole writable
  unfold accept
  by_cases none : data.isEmpty
  · simp only [none, if_true]
    exact ⟨steady.deliveries, steady.whole⟩
  · have some : data ≠ [] := fun h => none (List.isEmpty_iff.2 h)
    simp only [none, Bool.false_eq_true, if_false]
    exact ⟨steady_snoc steady.deliveries whole data, fun _ => by simp [whole, some.symm]⟩

/-- A write puts what it takes behind the rest. -/
theorem content_write (stream : Stream) (data : Bytes) :
    content (stream.write data).2.deliveries =
      content stream.deliveries ++ Sink.taken data (stream.write data).1 := by
  unfold write
  split
  · simp [content_accept, note, Sink.taken]
  · simp [Sink.taken, note]
  · rename_i count rest _
    show content (accept _ (data.take count)).deliveries = _
    rw [content_accept]
    simp [note, Sink.taken, List.take_eq_take_min]

theorem steady_write {stream : Stream} (steady : stream.Steady) (writable : stream.writable = true)
    (data : Bytes) : (stream.write data).2.Steady := by
  obtain ⟨patient, whole⟩ := steady
  unfold write
  split
  · have noted : (stream.note .write).Steady := ⟨patient, whole⟩
    exact steady_accept noted writable data
  · exact ⟨patient, whole⟩
  · rename_i count rest _
    have noted : Steady { stream.note .write with acceptances := rest } := ⟨patient, whole⟩
    exact steady_accept noted writable (data.take count)

end Stream

/-! ## bodies -/

namespace Body

/-- What a body has still to give. -/
def content : Body → Bytes
  | buffered buffer => buffer.toList
  | streaming stream => Delivery.yields stream.deliveries
  | closed => []

/-- A body whose stream, if it has one, is steady. -/
def Steady : Body → Prop
  | streaming stream => stream.Steady
  | _ => True

/-- What a body has still to give is all the data of a steady stream. -/
theorem content_streaming {stream : Stream} (steady : stream.Steady) :
    (streaming stream).content = Delivery.content stream.deliveries :=
  (Delivery.yields_steady steady.deliveries).1

/-- What a call does to the queue: `out` comes out at the front, and `into` goes in at the end. -/
structure Passes (before after : Body) (out into : Bytes) : Prop where
  steady : after.Steady
  content : out ++ after.content = before.content ++ into

/-- A call that leaves the content alone. -/
theorem passes_nothing {before after : Body} (steady : after.Steady)
    (content : after.content = before.content) : Passes before after [] [] :=
  ⟨steady, by simp [content]⟩

/-- Two calls in a row. -/
theorem passes_trans {before between after : Body} {out out' into into' : Bytes}
    (first : Passes before between out into) (second : Passes between after out' into') :
    Passes before after (out ++ out') (into ++ into') where
  steady := second.steady
  content := calc
    out ++ out' ++ after.content = out ++ (out' ++ after.content) := List.append_assoc ..
    _ = out ++ (between.content ++ into') := by rw [second.content]
    _ = out ++ between.content ++ into' := (List.append_assoc ..).symm
    _ = before.content ++ into ++ into' := by rw [first.content]
    _ = before.content ++ (into ++ into') := List.append_assoc ..

section Calls

variable {body : Body} (steady : body.Steady)
include steady

theorem passes_write (data : Bytes) :
    Passes body ((write data).run body).state []
      (Sink.taken data ((write data).run body).answer) := by
  cases body with
  | buffered buffer => exact ⟨trivial, by simp [Operation.run, write, content, Sink.taken]⟩
  | closed => exact ⟨trivial, by simp [Operation.run, write, content, Sink.taken]⟩
  | streaming stream =>
    have stream_steady : stream.Steady := steady
    simp only [Operation.run, write]
    by_cases writable : stream.writable
    · rw [if_pos writable]
      have kept := Stream.steady_write stream_steady writable data
      refine ⟨kept, ?_⟩
      rw [content_streaming kept, content_streaming stream_steady]
      exact Stream.content_write stream data
    · -- a steady stream is drained without a failure, and all of it goes in front of the data
      rw [if_neg writable]
      have ended := (Delivery.yields_steady stream_steady.deliveries).2
      rw [Stream.failure?_pour Stream.copyRoom_pos, ended]
      refine ⟨trivial, ?_⟩
      simp [Stream.buffer_pour Stream.copyRoom_pos, content, Sink.taken]

theorem passes_flush : Passes body (flush.run body).state [] [] := by
  cases body with
  | buffered | closed => exact passes_nothing trivial rfl
  | streaming stream =>
    simp only [Operation.run, flush]
    split
    · have untouched : (stream.flush).2.deliveries = stream.deliveries ∧
          (stream.flush).2.writable = stream.writable := by
        unfold Stream.flush
        split <;> exact ⟨rfl, rfl⟩
      have kept : (stream.flush).2.Steady := by
        obtain ⟨patient, whole⟩ := steady
        exact ⟨untouched.1 ▸ patient, untouched.1 ▸ untouched.2 ▸ whole⟩
      exact passes_nothing kept (congrArg Delivery.yields untouched.1)
    · exact passes_nothing steady rfl

theorem passes_read (room : Nat) :
    Passes body ((read room).run body).state (obtained ((read room).run body).answer) [] := by
  cases body with
  | buffered buffer =>
    refine ⟨trivial, ?_⟩
    rw [List.append_nil]
    exact buffer.read_append room
  | closed => exact passes_nothing trivial rfl
  | streaming stream =>
    have kept := Stream.steady_read steady room
    refine ⟨kept, ?_⟩
    rw [List.append_nil, content_streaming steady]
    show _ ++ (streaming (stream.read room).2).content = _
    rw [content_streaming kept]
    exact Stream.content_read stream room

theorem passes_readToEnd :
    Passes body (readToEnd.run body).state (readToEnd.run body).answer.1 [] := by
  cases body with
  | buffered buffer => exact ⟨trivial, rfl⟩
  | closed => exact passes_nothing trivial rfl
  | streaming stream =>
    have kept : stream.gather.stream.Steady := Stream.steady_pour Stream.gatherRoom_pos steady ∅
    have out : stream.gather.buffer.toList = Delivery.yields stream.deliveries := by
      simp [Stream.gather, Stream.buffer_pour Stream.gatherRoom_pos]
    have left : (streaming stream.gather.stream).content = [] := by
      rw [content_streaming kept, Stream.gather, Stream.deliveries_pour Stream.gatherRoom_pos]
      exact Delivery.content_remains steady.deliveries
    refine ⟨kept, ?_⟩
    show stream.gather.buffer.toList ++ (streaming stream.gather.stream).content = _
    rw [out, left]
    rfl

theorem passes_readAll :
    Passes body (readAll.run body).state (obtained (readAll.run body).answer) [] := by
  rw [answer_readAll]
  cases body with
  | buffered buffer => exact ⟨trivial, rfl⟩
  | closed => exact passes_nothing trivial rfl
  | streaming stream =>
    have ended := (Delivery.yields_steady steady.deliveries).2
    refine ⟨trivial, ?_⟩
    simp [contents, ended, obtained, readAll, Operation.run, content]

theorem passes_snapshot : Passes body (snapshot.run body).state [] [] := by
  cases body with
  | buffered | closed => exact passes_nothing trivial rfl
  | streaming stream =>
    refine passes_nothing trivial ?_
    show (stream.pour Stream.copyRoom ∅).buffer.toList = Delivery.yields stream.deliveries
    simp [Stream.buffer_pour Stream.copyRoom_pos]

/-- A steady body that is not closed can be read to its end, and has its content as contents. -/
theorem contents_steady :
    body.contents = if body.isClosed then .error .consumed else .ok body.content := by
  cases body with
  | buffered | closed => rfl
  | streaming stream =>
    have ended := (Delivery.yields_steady steady.deliveries).2
    simp [contents, ended, isClosed, content]

end Calls

theorem passes_writeAll {body : Body} (steady : body.Steady) (data : Bytes) :
    Passes body ((writeAll data).run body).state [] (Sink.accepted data body) := by
  refine Sink.writeAll_along (R := fun before into after _ =>
    before.Steady → Passes before after [] into) (fun _ steady => passes_nothing steady rfl)
    (fun data body steady => passes_write steady data) (fun first second steady => ?_) data body
    steady
  have once := first steady
  exact passes_trans once (second once.steady)

/-! ## runs -/

/-- The calls that move bytes through the queue: all but those that throw the body away. -/
def Action.isTransfer : Action → Bool
  | .close | .replace _ => false
  | _ => true

/-- The bytes that a call hands out for good, by its answer. -/
def Action.delivered : Action → Answer → Bytes
  | .read _, .bytes answer => obtained answer
  | .readAll, .bytes answer => obtained answer
  | .readToEnd, .drained bytes _ => bytes
  | _, _ => []

/-- The bytes that a call gets written, by the answers of its writes. -/
def Action.accepted (body : Body) : Action → Bytes
  | .write data => Sink.taken data ((Body.write data).run body).answer
  | .writeInPlace data =>
    match ((Body.writeInPlace data).run body).answer with
    | some answer => Sink.taken data answer
    | none => []
  | .writeAll data => Sink.accepted data body
  | _ => []

/-- The bytes that a run hands out, in order. -/
def delivered (body : Body) : List Action → Bytes
  | [] => []
  | action :: rest =>
    let outcome := (perform action).run body
    action.delivered outcome.answer ++ delivered outcome.state rest

/-- The bytes that a run gets written, in order. -/
def accepted (body : Body) : List Action → Bytes
  | [] => []
  | action :: rest => action.accepted body ++ accepted ((perform action).run body).state rest

/-- Each call hands out what its answer says, and puts in what was accepted. -/
theorem passes_perform {body : Body} (steady : body.Steady) {action : Action}
    (transfer : action.isTransfer = true) :
    Passes body ((perform action).run body).state
      (action.delivered ((perform action).run body).answer) (action.accepted body) := by
  cases action with
  | write data => exact passes_write steady data
  | writeAll data => exact passes_writeAll steady data
  | writeInPlace data =>
    have written := passes_write steady data
    simp only [perform, Operation.run_map, Action.delivered, Action.accepted]
    simp only [Operation.run, writeInPlace] at written ⊢
    split
    · exact written
    · exact passes_nothing steady rfl
  | flush => exact passes_flush steady
  | read room => exact passes_read steady room
  | readToEnd => exact passes_readToEnd steady
  | readAll => exact passes_readAll steady
  | snapshot => exact passes_snapshot steady
  | close | replace => cases transfer

/-- So does a run of calls. -/
theorem passes_each {body : Body} (steady : body.Steady) {actions : List Action}
    (transfers : ∀ action ∈ actions, action.isTransfer = true) :
    Passes body ((Operation.each perform actions).run body).state (body.delivered actions)
      (body.accepted actions) := by
  induction actions generalizing body with
  | nil => exact passes_nothing steady rfl
  | cons action rest ih =>
    rw [List.forall_mem_cons] at transfers
    have first := passes_perform steady transfers.1
    rw [Operation.run_each_cons]
    exact passes_trans first (ih first.steady transfers.2)

/-- **A queue of bytes**: whatever is done to a body short of throwing it away, the bytes that came
out followed by its content are the content that it had followed by the bytes that went in.  A
snapshot answers just the content, unless the body was closed, and leaves it as it is. -/
theorem delivered_append_content {body : Body} (steady : body.Steady) {actions : List Action}
    (transfers : ∀ action ∈ actions, action.isTransfer = true) :
    let after := ((Operation.each perform actions).run body).state
    body.delivered actions ++ after.content = body.content ++ body.accepted actions ∧
      (snapshot.run after).answer =
        (if after.isClosed then .error .consumed else .ok after.content) ∧
      (snapshot.run after).state.content = after.content := by
  intro after
  obtain ⟨kept, balanced⟩ := passes_each steady transfers
  have seen : Passes after (snapshot.run after).state [] [] := passes_snapshot kept
  refine ⟨balanced, ?_, ?_⟩
  · rw [answer_snapshot, contents_steady kept]
  · simpa using seen.content

/-- A stream that is read in part, written to in parts, copied and drained. -/
theorem delivered_append_content_stream :
    let body : Body := streaming {
      deliveries := [.data [1, 2, 3], .failure (.ofKind .interrupted), .data [4]]
      writable := true
      acceptances := [.failure (.ofKind .interrupted), .upTo 1] }
    let actions : List Action := [.read 2, .writeAll [5, 6], .snapshot, .write [7], .readAll]
    let after := ((Operation.each perform actions).run body).state
    (body.Steady ∧ (∀ action ∈ actions, action.isTransfer = true)) ∧
      body.delivered actions = [1, 2, 3, 4, 5, 6, 7] ∧
      body.delivered actions ++ after.content = body.content ++ body.accepted actions ∧
      (snapshot.run after).answer =
        (if after.isClosed then .error .consumed else .ok after.content) ∧
      (snapshot.run after).state.content = after.content := by
  intro body actions after
  have steady : body.Steady := by
    refine ⟨?_, by decide⟩
    simp [Delivery.Steady, IoError.isInterrupted, IoError.ofKind]
  have transfers : ∀ action ∈ actions, action.isTransfer = true := by
    simp [actions, Action.isTransfer]
  refine ⟨⟨steady, transfers⟩, by cbv, ?_⟩
  exact delivered_append_content steady transfers

end Body

end Reply
