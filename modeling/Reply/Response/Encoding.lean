import Reply.Codec
import Reply.Response.Basic

/-!
# Reply.Response.Encoding

Putting a value into the body of a response.

1. A raw body is adopted: the old one is let go of, the length is unknown,
   and the headers stay as they are.
2. A value with a protobuf form goes out as protobuf if the request accepts
   it, and every other value as JSON.
3. JSON is written whole and adds to the payload size; a failure to write it
   leaves the Content-Type alone.
4. A protobuf message is written once, and the Content-Type and the payload
   size are those of that write, even if it failed and nothing was written.
5. What cannot be encoded is not written at all.

Failures are recorded, not answered.
-/

namespace Reply

namespace MediaType

/-- The Content-Type of JSON bodies. -/
def jsonValue : FieldValue := ⟨json, by decide⟩

/-- The Content-Type of protobuf bodies. -/
def protobufValue : FieldValue := ⟨protobuf, by decide⟩

end MediaType

namespace Response

/-- Makes this the only Content-Type. -/
def label (contentType : FieldValue) : Operation Response Unit :=
  onHeaders (.modify (·.insert .contentType contentType))

/-- Writes a value as JSON. -/
def writeJson (attempt : JsonAttempt) : Operation Response Unit := do
  match attempt.fault? with
  | some error =>
    Operation.log (.jsonEncodingFailed error)
    setFailure (Failure.json error).wrap
  | none =>
    match ← writeAll attempt.written with
    | .error error =>
      Operation.log (.jsonWriteFailed error)
      setFailure (Failure.io error).wrap
    | .ok () => label MediaType.jsonValue

/-- Writes an encoded message; a failure is recorded and counts as no bytes written. -/
def writeOnce (encoded : Bytes) : Operation Response Nat := do
  match ← write encoded with
  | .ok count => return count
  | .error error =>
    Operation.log (.protobufWriteFailed error)
    setFailure (Failure.io error).wrap
    return 0

/-- Writes a message as protobuf. -/
def writeProtobuf (encoded : Except Protobuf.EncodeError Bytes) : Operation Response Unit := do
  match encoded with
  | .error error =>
    Operation.log (.protobufEncodingFailed error)
    setFailure (Failure.protobufEncode error).wrap
  | .ok bytes =>
    let written ← writeOnce bytes
    label MediaType.protobufValue
    setSize (.known written)

/-- Adopts a body as it is. -/
def adopt (body : Body) : Operation Response Unit := do
  Operation.log .rawBodyAdopted
  onBody (Body.replace body)
  setSize .chunked

/-- The protobuf form of a value, if the request accepts it. -/
def negotiate (r : Response) (protobuf? : Option (Except Protobuf.EncodeError Bytes)) :
    Option (Except Protobuf.EncodeError Bytes) :=
  if r.acceptsProtobuf then protobuf? else none

/-- Puts a value into the body. -/
def encode (value : Encodable) : Operation Response Unit := do
  ensureMessage
  match value with
  | .raw body => adopt body
  | .value json protobuf? =>
    match (← Operation.get).negotiate protobuf? with
    | some encoded => writeProtobuf encoded
    | none => writeJson json

end Response

end Reply
