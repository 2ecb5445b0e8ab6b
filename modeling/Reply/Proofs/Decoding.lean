import Reply.Proofs.Pouring
import Reply.Response.Decoding

/-!
# Reply.Proofs.Decoding

What reading a value out of a response does to it, where no failure is recorded
and the body can be read to its end.

The body is taken whole, and nothing else of the response is touched; what is
made of its contents is up to the codec that the Content-Type names
(`decode_readable`).  A value that this codec reads is the answer, and no failure
is recorded (`decode_json`, `decode_protobuf`).
-/

namespace Reply.Response

/-- The response with its body taken. -/
def emptied (r : Response) (message : Message Body) : Response :=
  { r with message? := some { message with body := (Body.readAll.run message.body).state } }

/-! ## the whole body -/

section Bytes

variable {r : Response} {message : Message Body} (present : r.message? = some message)
include present

/-- Whether the body is taken or looked at, the answer is its contents. -/
theorem answer_bodyBytes (consume : Bool) :
    ((bodyBytes consume).run r).answer = message.body.contents := by
  rw [run_bodyBytes_of_some present, ← message_of_some present]
  cases consume with
  | true => exact Body.answer_readAll r.message.body
  | false => exact Body.answer_snapshot r.message.body

end Bytes

/-! ## the three ways of decoding -/

section Cases

variable {α : Type} {r : Response}

/-- With a failure recorded nothing happens. -/
theorem run_decode_failed {failure : Failure} (recorded : r.failure? = some failure)
    (target : Decodable α) :
    (decode target).run r =
      ⟨.error (if r.wrapsDownstream then .downstream failure else failure), r, {}⟩ := by
  simp only [decode, Operation.run_bind, Operation.run_get, recorded]
  rfl

theorem run_decode_noMessage (clean : r.failure? = none) (none : r.message? = none)
    (target : Decodable α) : (decode target).run r = (record .noBody).run r := by
  simp [decode, clean, none]

/-- Otherwise the body is taken, and read as the headers say. -/
theorem run_decode_message {message : Message Body} (clean : r.failure? = none)
    (present : r.message? = some message) (target : Decodable α) :
    (decode target).run r =
      (bodyBytes true >>= fun answer =>
        match answer with
        | .error error => record (.badResponse error)
        | .ok bytes => decodeBody target (isProtobuf message.headers) bytes).run r := by
  simp only [decode, Operation.run_bind, Operation.run_get, clean, present]
  rfl

end Cases

/-! ## decoding a body that can be read -/

variable {α : Type} {r : Response} {message : Message Body} {bytes : Bytes}
  (clean : r.failure? = none) (present : r.message? = some message)
  (readable : message.body.contents = .ok bytes)
include clean present readable

/-- The codec gets the contents of the body, behind which the body is taken. -/
theorem decode_readable (target : Decodable α) :
    let read := (decodeBody target (isProtobuf message.headers) bytes).run (r.emptied message)
    ((decode target).run r).answer = read.answer ∧ ((decode target).run r).state = read.state := by
  have answered : ((bodyBytes true).run r).answer = .ok bytes :=
    (answer_bodyBytes present true).trans readable
  have left : ((bodyBytes true).run r).state = r.emptied message := by
    rw [run_bodyBytes_of_some present, emptied, ← message_of_some present]
    rfl
  rw [run_decode_message clean present, Operation.run_bind, answered, left]
  exact ⟨rfl, rfl⟩

/-- A JSON value that the target reads. -/
theorem decode_json {target : Decodable α} {a : α} (format : isProtobuf message.headers = false)
    (read : target.json bytes = .ok a) :
    ((decode target).run r).answer = .ok a ∧
      ((decode target).run r).state = r.emptied message := by
  obtain ⟨answered, left⟩ := decode_readable clean present readable target
  rw [answered, left, format]
  simp [decodeBody, read, settle, Except.mapError]

/-- A protobuf message that the target reads. -/
theorem decode_protobuf {target : Decodable α} {a : α}
    {unmarshal : Bytes → Except Protobuf.DecodeError α}
    (format : isProtobuf message.headers = true) (form : target.protobuf? = some unmarshal)
    (read : unmarshal bytes = .ok a) :
    ((decode target).run r).answer = .ok a ∧
      ((decode target).run r).state = r.emptied message := by
  obtain ⟨answered, left⟩ := decode_readable clean present readable target
  rw [answered, left, format]
  simp [decodeBody, form, read, settle, Except.mapError]

end Reply.Response
