import Reply.Proofs.Writing
import Reply.Response.Encoding

/-!
# Reply.Proofs.Encoding

What putting a value into a response does to it, where the body is in memory.

A write goes behind what the buffer holds, whole and without a failure, and a
missing message is as good as a blank one.  So the bytes of the value stand at
the end of the body, the Content-Type is that of their format, and the payload
size is that of the JSON bytes on top of the old one (`state_encode_json`), or
just that of the protobuf bytes (`state_encode_protobuf`).
-/

namespace Reply.Response

/-- The response with these headers and these bytes in memory. -/
def holding (r : Response) (headers : Headers) (buffer : Buffer) : Response :=
  { r with message? := some { r.message with headers, body := .buffered buffer } }

section InMemory

variable {r : Response} {buffer : Buffer} (inMemory : r.message.body = .buffered buffer)
include inMemory

/-- A write is taken whole. -/
theorem run_write (data : Bytes) :
    (write data).run r =
      ⟨.ok data.length,
        { r.holding r.message.headers (buffer.push data) with
          size := r.size.advance data.length },
        r.creation ++ { log := (r.size.crossing? data.length).toList.map .thresholdCrossed }⟩ := by
  have pushed : (Body.write data).run r.message.body =
      ⟨.ok data.length, .buffered (buffer.push data), {}⟩ := by rw [inMemory]; rfl
  simp [write, onBody, pushed, holding]

/-- So is everything that is to be written; no write is made for no data. -/
theorem run_writeAll (data : Bytes) :
    ((writeAll data).run r).answer = .ok () ∧
      ((writeAll data).run r).state =
        if data.isEmpty then r
        else
          { r.holding r.message.headers (buffer.push data) with
            size := r.size.advance data.length } := by
  by_cases none : data = []
  · subst none
    show (Sink.writeAll [] r).answer = _ ∧ (Sink.writeAll [] r).state = _
    rw [Sink.writeAll_nothing]
    exact ⟨rfl, rfl⟩
  · have once := Sink.writeAll_once none (run_write inMemory data)
    show (Sink.writeAll data r).answer = _ ∧ (Sink.writeAll data r).state = _
    rw [once]
    simp [none]

/-- Writing a value as JSON. -/
theorem state_writeJson (bytes : Bytes) :
    ((writeJson { written := bytes }).run r).state =
      { r.holding (r.message.headers.insert .contentType MediaType.jsonValue) (buffer.push bytes)
          with size := if bytes.isEmpty then r.size else r.size.advance bytes.length } := by
  obtain ⟨answered, written⟩ := run_writeAll inMemory bytes
  simp only [writeJson, Operation.run_bind, answered, label, onHeaders, run_onMessage, written,
    Message.run_onHeaders, Operation.run_modify]
  by_cases none : bytes = []
  · simp [none, holding, ← inMemory]
  · simp [none, holding, message]

/-- Writing a message as protobuf. -/
theorem state_writeProtobuf (bytes : Bytes) :
    ((writeProtobuf (.ok bytes)).run r).state =
      { r.holding (r.message.headers.insert .contentType MediaType.protobufValue)
          (buffer.push bytes) with size := .known bytes.length } := by
  have written := run_write inMemory bytes
  simp [writeProtobuf, writeOnce, written, label, onHeaders, setSize, holding, message]

/-- A value that goes out as JSON. -/
theorem state_encode_json {protobuf? : Option (Except Protobuf.EncodeError Bytes)}
    (negotiated : r.negotiate protobuf? = none) (bytes : Bytes) :
    ((encode (.value { written := bytes } protobuf?)).run r).state =
      { r.holding (r.message.headers.insert .contentType MediaType.jsonValue) (buffer.push bytes)
          with size := if bytes.isEmpty then r.size else r.size.advance bytes.length } := by
  have made : (ensureMessage.run r).state.negotiate protobuf? = none := negotiated
  have kept : (ensureMessage.run r).state.message.body = .buffered buffer := inMemory
  have written := state_writeJson kept bytes
  simp only [encode, Operation.run_bind, Operation.run_get, made]
  rw [written]
  rfl

/-- A value that goes out as protobuf. -/
theorem state_encode_protobuf {protobuf? : Option (Except Protobuf.EncodeError Bytes)}
    {bytes : Bytes} (negotiated : r.negotiate protobuf? = some (.ok bytes)) (json : JsonAttempt) :
    ((encode (.value json protobuf?)).run r).state =
      { r.holding (r.message.headers.insert .contentType MediaType.protobufValue)
          (buffer.push bytes) with size := .known bytes.length } := by
  have made : (ensureMessage.run r).state.negotiate protobuf? = some (.ok bytes) := negotiated
  have kept : (ensureMessage.run r).state.message.body = .buffered buffer := inMemory
  have written := state_writeProtobuf kept bytes
  simp only [encode, Operation.run_bind, Operation.run_get, made]
  rw [written]
  rfl

end InMemory

end Reply.Response
