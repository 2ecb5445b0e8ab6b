import Reply.Codec
import Reply.Response.Basic

/-!
# Reply.Response.Decoding

Reading a value out of the body of a response.

1. A failure recorded before is answered again, wrapped if the request asks
   for it, and nothing else happens.
2. The body is taken whole and read by the codec that the first Content-Type
   names: protobuf for the protobuf media types, JSON for anything else.
3. A failure is recorded, unless it is only that the target has no protobuf
   form.
-/

namespace Reply.Response

variable {α : Type}

/-- Takes the whole body, or looks at it and keeps it readable. -/
def bodyBytes (consume : Bool) : Operation Response (Except IoError Bytes) := fun r =>
  match r.message? with
  | none => ⟨.error .noBody, r, {}⟩
  | some _ => onBody (if consume then Body.readAll else Body.snapshot) r

theorem run_bodyBytes_of_none {r : Response} (none : r.message? = none) (consume : Bool) :
    (bodyBytes consume).run r = ⟨.error .noBody, r, {}⟩ := by
  simp only [Operation.run, bodyBytes, none]

theorem run_bodyBytes_of_some {r : Response} {message : Message Body}
    (present : r.message? = some message) (consume : Bool) :
    (bodyBytes consume).run r =
      (onBody (if consume then Body.readAll else Body.snapshot)).run r := by
  simp only [Operation.run, bodyBytes, present]

/-- The first Content-Type names a protobuf media type. -/
def isProtobuf (headers : Headers) : Bool :=
  (headers.visible? .contentType).any MediaType.isProtobuf

/-- Records a failure to decode and answers it. -/
def record (failure : Failure) : Operation Response (Except Failure α) := do
  Operation.log (.decodingFailed failure)
  setFailure failure
  return .error failure

/-- Answers what was decoded, or records the failure. -/
def settle : Except Failure α → Operation Response (Except Failure α)
  | .ok a => return .ok a
  | .error failure => record failure

/-- Reads the body as the target wants it. -/
def decodeBody (target : Decodable α) (protobuf : Bool) (bytes : Bytes) :
    Operation Response (Except Failure α) :=
  if protobuf then
    match target.protobuf? with
    | none => return .error (.invalidType "could not decode proto message")
    | some read => settle ((read bytes).mapError .protobufDecode)
  else settle ((target.json bytes).mapError .json)

/-- Reads a value out of the body. -/
def decode (target : Decodable α) : Operation Response (Except Failure α) := do
  let r ← Operation.get
  match r.failure?, r.message? with
  | some failure, _ => return .error (if r.wrapsDownstream then .downstream failure else failure)
  | none, none => record .noBody
  | none, some message =>
    match ← bodyBytes true with
    | .error error => record (.badResponse error)
    | .ok bytes => decodeBody target (isProtobuf message.headers) bytes

end Reply.Response
