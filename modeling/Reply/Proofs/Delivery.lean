import Reply.Proofs.Alike
import Reply.Proofs.Decoding
import Reply.Proofs.Encoding
import Reply.Proofs.HandOver

/-!
# Reply.Proofs.Delivery

It makes no difference how the body of a response is brought.

1. Of alike responses, whose bodies have the same contents, it does not matter
   which one is asked to take the body or to look at it (`agree_bodyBytes`,
   `agree_decode`, `handOver_contents`).
2. A body *holds* bytes if these are its contents and what is written to it ends
   up in memory.  A write puts the data behind them (`run_write_holds`).
-/

namespace Reply

/-! ## the contents of a body -/

namespace Body

/-- Bodies that give the same bytes, or fail alike, when they are read to their ends. -/
def SameContents (a b : Body) : Prop := a.contents = b.contents

/-- What is written to the body ends up in memory, and not in a stream. -/
def writesToMemory : Body → Bool
  | streaming stream => !stream.writable
  | _ => true

/-- The body holds these bytes: in memory, or behind a stream that gives them all and takes
none. -/
structure Holds (bytes : Bytes) (body : Body) : Prop where
  contents : body.contents = .ok bytes
  memory : body.writesToMemory = true

theorem holds_ofBytes (bytes : Bytes) : (ofBytes bytes).Holds bytes where
  contents := congrArg Except.ok (Buffer.toList_ofBytes bytes)
  memory := rfl

theorem holds_buffered (buffer : Buffer) : (buffered buffer).Holds buffer.toList := ⟨rfl, rfl⟩

theorem holds_of_delivers {stream : Stream} {bytes : Bytes}
    (delivered : (streaming stream).Delivers bytes) (readOnly : stream.writable = false) :
    (streaming stream).Holds bytes where
  contents := contents_of_delivers delivered
  memory := by rw [writesToMemory, readOnly, Bool.not_false]

/-- A stream that holds bytes is poured out without a failure. -/
theorem pour_holds {stream : Stream} {bytes : Bytes} (holds : (streaming stream).Holds bytes) :
    (stream.pour Stream.copyRoom ∅).failure? = none ∧
      (stream.pour Stream.copyRoom ∅).buffer = .ofBytes bytes := by
  have contents := holds.contents
  rw [Body.contents] at contents
  rw [Stream.failure?_pour Stream.copyRoom_pos, Stream.buffer_pour Stream.copyRoom_pos]
  split at contents
  · cases contents
  · rename_i ended
    cases contents
    exact ⟨ended, Buffer.eq_of_toList (by simp)⟩

section Holds

variable {body : Body} {bytes : Bytes} (holds : body.Holds bytes)
include holds

/-- A write is taken whole, behind the bytes that the body holds. -/
theorem write_holds (data : Bytes) :
    ((write data).run body).answer = .ok data.length ∧
      ((write data).run body).state = ofBytes (bytes ++ data) := by
  cases body with
  | buffered buffer =>
    cases holds.contents
    exact ⟨rfl, congrArg buffered (Buffer.eq_of_toList (by simp))⟩
  | closed => cases holds.contents
  | streaming stream =>
    have readOnly : ¬stream.writable = true := by simpa [writesToMemory] using holds.memory
    obtain ⟨ended, poured⟩ := pour_holds holds
    simp only [Operation.run, write, if_neg readOnly, ended, poured, true_and]
    exact congrArg buffered (Buffer.eq_of_toList (by simp))

/-- Passing on what was written does nothing. -/
theorem flush_holds : (flush.run body).answer = .ok () ∧ (flush.run body).state = body := by
  cases body with
  | buffered | closed => exact ⟨rfl, rfl⟩
  | streaming stream =>
    have readOnly : ¬stream.writable = true := by simpa [writesToMemory] using holds.memory
    simp [Operation.run, flush, readOnly]

/-- Looking at the body leaves the bytes that it holds in memory. -/
theorem state_snapshot_holds : (snapshot.run body).state = ofBytes bytes := by
  cases body with
  | buffered buffer =>
    cases holds.contents
    exact congrArg buffered (Buffer.ofBytes_toList buffer).symm
  | closed => cases holds.contents
  | streaming stream => exact congrArg buffered (pour_holds holds).2

end Holds

end Body

namespace Response

/-- What goes out, apart from the bytes, is up to the head. -/
theorem transfer_head {ma mb : Message Body} (same : ma.head = mb.head) (size : PayloadSize)
    (bytes : Bytes) : transfer ma size bytes = transfer mb size bytes :=
  congrArg (fun head : Message Unit =>
    { head with headers := head.headers.frame size bytes.length, body := bytes }) same

/-! ## taking and looking at the body -/

section Agree

open Operation

variable {α : Type}

theorem contents_eq {a b : Response} (related : Related Body.SameContents a b)
    {ma mb : Message Body} (ha : a.message? = some ma) (hb : b.message? = some mb) :
    ma.body.contents = mb.body.contents := by
  have bodies : a.message.body.contents = b.message.body.contents := related.bodies
  rwa [message_of_some ha, message_of_some hb] at bodies

theorem agree_record (failure : Failure) :
    Agree Alike (record failure : Operation Response (Except Failure α)) (record failure) Alike :=
  (Agree.log _ _).bind fun _ => (Agree.modify fun _ _ alike => alike.withFailure _).bind
    fun _ => .pure _

theorem agree_settle (answer : Except Failure α) :
    Agree Alike (settle answer) (settle answer) Alike := by
  cases answer with
  | ok a => exact .pure _
  | error failure => exact agree_record failure

theorem agree_decodeBody (target : Decodable α) (protobuf : Bool) (bytes : Bytes) :
    Agree Alike (decodeBody target protobuf bytes) (decodeBody target protobuf bytes) Alike := by
  unfold decodeBody
  split
  · split
    · exact .pure _
    · exact agree_settle _
  · exact agree_settle _

/-- Whether the body is taken or looked at is not seen. -/
theorem alike_bodyBytes (consume : Bool) (r : Response) :
    Alike ((bodyBytes consume).run r).state r := by
  cases present : r.message? with
  | none =>
    rw [run_bodyBytes_of_none present]
    exact ⟨rfl, rfl⟩
  | some message =>
    rw [run_bodyBytes_of_some present]
    refine ⟨?_, rfl⟩
    rw [seen, seen, present, ← message_of_some present]
    rfl

/-- The whole body, taken or looked at. -/
theorem agree_bodyBytes (consume : Bool) :
    Agree (Related Body.SameContents) (bodyBytes consume) (bodyBytes consume) Alike := by
  intro a b related
  refine ⟨?_, (alike_bodyBytes consume a).trans
    (related.toAlike.trans (alike_bodyBytes consume b).symm)⟩
  rcases related.messages with ⟨ha, hb⟩ | ⟨ma, mb, ha, hb, -⟩
  · rw [run_bodyBytes_of_none ha, run_bodyBytes_of_none hb]
  · rw [answer_bodyBytes ha, answer_bodyBytes hb, contents_eq related ha hb]

/-- A value that is read out of the body. -/
theorem agree_decode (target : Decodable α) :
    Agree (Related Body.SameContents) (decode target) (decode target) Alike := by
  intro a b related
  cases recorded : a.failure? with
  | some failure =>
    rw [run_decode_failed recorded, run_decode_failed (related.failure ▸ recorded),
      related.wrapsDownstream]
    exact ⟨rfl, related.toAlike⟩
  | none =>
    have recorded' := related.failure ▸ recorded
    rcases related.messages with ⟨ha, hb⟩ | ⟨ma, mb, ha, hb, same⟩
    · rw [run_decode_noMessage recorded ha, run_decode_noMessage recorded' hb]
      exact agree_record .noBody related.toAlike
    · have headers : ma.headers = mb.headers := congrArg (·.headers) same
      rw [run_decode_message recorded ha, run_decode_message recorded' hb, headers]
      refine (agree_bodyBytes true).bind (fun answer => ?_) related
      cases answer with
      | error error => exact agree_record _
      | ok bytes => exact agree_decodeBody target _ bytes

/-- What is handed over. -/
theorem handOver_contents {a b : Response} (related : Related Body.SameContents a b) :
    a.handOver.1 = b.handOver.1 := by
  cases recorded : a.failure? with
  | some failure =>
    rw [handOver_failed recorded, handOver_failed (related.failure ▸ recorded)]
  | none =>
    have recorded' := related.failure ▸ recorded
    rcases related.messages with ⟨ha, hb⟩ | ⟨ma, mb, ha, hb, same⟩
    · rw [handOver_noMessage recorded ha, handOver_noMessage recorded' hb]
    · have contents := contents_eq related ha hb
      cases readable : ma.body.contents with
      | error error =>
        rw [handOver_unreadable recorded ha readable,
          handOver_unreadable recorded' hb (contents ▸ readable)]
      | ok bytes =>
        rw [handOver_sent recorded ha readable, handOver_sent recorded' hb (contents ▸ readable),
          transfer_head same, related.size]

end Agree

/-! ## writing -/

theorem body_message_of_body? {r : Response} {body : Body} (h : r.body? = some body) :
    r.message.body = body := by
  obtain ⟨message, present, rfl⟩ := Option.map_eq_some_iff.1 h
  rw [message_of_some present]

/-- A write to a response puts the data behind the bytes that its body holds. -/
theorem run_write_holds {r : Response} {bytes : Bytes} (holds : r.message.body.Holds bytes)
    (data : Bytes) :
    ((write data).run r).answer = .ok data.length ∧
      ((write data).run r).state =
        { r.holding r.message.headers (.ofBytes (bytes ++ data)) with
          size := r.size.advance data.length } := by
  obtain ⟨answered, left⟩ := Body.write_holds holds data
  simp only [write, onBody, Operation.run_bind, run_onMessage, Message.run_onBody, answered, left]
  exact ⟨rfl, rfl⟩

/-- **Delivery makes no difference**: of two responses that are alike, one has its body in memory
and the other has the same bytes behind a stream, in any chunks and with any interruptions.  What
comes of looking at the body, taking it, decoding it or handing it over is the same, and leaves the
responses alike.  If the stream is read-only, so does a write, which leaves both in memory. -/
theorem delivery_makes_no_difference {memory streamed : Response} (alike : memory.Alike streamed)
    {buffer : Buffer} {stream : Stream} (inMemory : memory.body? = some (.buffered buffer))
    (inStream : streamed.body? = some (.streaming stream))
    (delivered : (Body.streaming stream).Delivers buffer.toList) :
    (∀ consume : Bool,
      let a := (bodyBytes consume).run memory
      let b := (bodyBytes consume).run streamed
      a.answer = .ok buffer.toList ∧ b.answer = .ok buffer.toList ∧ a.state.Alike b.state) ∧
    (∀ (α : Type) (target : Decodable α),
      let a := (decode target).run memory
      let b := (decode target).run streamed
      a.answer = b.answer ∧ a.state.Alike b.state) ∧
    memory.handOver.1 = streamed.handOver.1 ∧
    (stream.writable = false → ∀ data : Bytes,
      let a := (write data).run memory
      let b := (write data).run streamed
      a.answer = .ok data.length ∧ b.answer = .ok data.length ∧
        a.state.body? = some (.ofBytes (buffer.toList ++ data)) ∧
        b.state.body? = some (.ofBytes (buffer.toList ++ data)) ∧ a.state.Alike b.state) := by
  have held : memory.message.body.Holds buffer.toList :=
    body_message_of_body? inMemory ▸ Body.holds_buffered buffer
  have streams := body_message_of_body? inStream
  have contents : streamed.message.body.contents = .ok buffer.toList :=
    streams ▸ Body.contents_of_delivers delivered
  have related : Related Body.SameContents memory streamed :=
    { alike with bodies := held.contents.trans contents.symm }
  refine ⟨fun consume => ?_, fun α target => agree_decode target related,
    handOver_contents related, fun readOnly data => ?_⟩
  · obtain ⟨same, after⟩ := agree_bodyBytes consume related
    obtain ⟨message, present, body⟩ := Option.map_eq_some_iff.1 inMemory
    have answered := answer_bodyBytes present consume
    rw [body] at answered
    exact ⟨answered, same ▸ answered, after⟩
  · have behind : streamed.message.body.Holds buffer.toList :=
      streams ▸ Body.holds_of_delivers delivered readOnly
    obtain ⟨takenA, leftA⟩ := run_write_holds held data
    obtain ⟨takenB, leftB⟩ := run_write_holds behind data
    refine ⟨takenA, takenB, by rw [leftA]; rfl, by rw [leftB]; rfl, ?_⟩
    -- The bytes are the same now, and in memory; only the heads and the sizes are left.
    rw [leftA, leftB, alike.size]
    refine Alike.withSize (alike.withMessages ?_) _
    exact alike.head

/-- Three bytes in memory, and the same in two chunks behind an interruption. -/
theorem delivery_makes_no_difference_chunks :
    let buffer : Buffer := .ofBytes [1, 2, 3]
    let stream : Stream :=
      { deliveries := [.failure (.ofKind .interrupted), .data [1], .data [2, 3]] }
    let memory : Response := { message? := some { body := .buffered buffer }, size := .known 7 }
    let streamed : Response := { message? := some { body := .streaming stream }, size := .known 7 }
    (memory.Alike streamed ∧ memory.body? = some (.buffered buffer) ∧
        streamed.body? = some (.streaming stream) ∧
        (Body.streaming stream).Delivers buffer.toList ∧ stream.writable = false) ∧
      ((bodyBytes true).run streamed).answer = .ok [1, 2, 3] ∧
      memory.handOver.1 = streamed.handOver.1 ∧
      ((write [4]).run streamed).state.body? = some (.ofBytes [1, 2, 3, 4]) := by
  intro buffer stream memory streamed
  have alike : memory.Alike streamed := ⟨rfl, rfl⟩
  have delivered : (Body.streaming stream).Delivers buffer.toList := ⟨by decide, by decide⟩
  obtain ⟨looked, -, handedOver, written⟩ :=
    delivery_makes_no_difference alike rfl rfl delivered
  refine ⟨⟨alike, rfl, rfl, delivered, rfl⟩, (looked true).2.1, handedOver, ?_⟩
  exact (written rfl [4]).2.2.2.1

end Response

end Reply
