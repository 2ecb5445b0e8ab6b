import Reply.Body.Action
import Reply.Headers.Action
import Reply.Response.Decoding
import Reply.Response.Encoding

/-!
# Reply.Response.Action

Calls on a response as values, so that a whole run of them is a list.
-/

namespace Reply.Response

/-- Something that is asked of a response; `α` is what bodies are decoded into. -/
inductive Action (α : Type)
  | setStatus (status : Status)
  | header (action : Headers.Action)
  | setBody (body : Body)
  | setSize (size : PayloadSize)
  | setFailure (failure : Failure)
  | takeFailure
  | encode (value : Encodable)
  | writeProtobuf (encoded : Except Protobuf.EncodeError Bytes)
  | decode (target : Decodable α)
  | write (data : Bytes)
  | writeAll (data : Bytes)
  | writeSlices (slices : List Bytes)
  | flush
  | bodyBytes (consume : Bool)
  /-- Calls on the body itself, behind the back of the payload size. -/
  | body (actions : List Body.Action)

/-- What a call on a response answers. -/
inductive Answer (α : Type)
  | done
  | header (answer : Headers.Answer)
  | failure (failure? : Option Failure)
  | decoded (answer : Except Failure α)
  /-- The number of bytes taken. -/
  | count (answer : Except IoError Nat)
  | outcome (answer : Except IoError Unit)
  | bytes (answer : Except IoError Bytes)
  | body (answers : List Body.Answer)

variable {α : Type}

/-- Does what is asked. -/
def perform : Action α → Operation Response (Answer α)
  | .setStatus status => (fun _ => .done) <$> setStatus status
  | .header action => .header <$> onHeaders (Headers.perform action)
  | .setBody body => (fun _ => .done) <$> setBody body
  | .setSize size => (fun _ => .done) <$> setSize size
  | .setFailure failure => (fun _ => .done) <$> setFailure failure
  | .takeFailure => .failure <$> takeFailure
  | .encode value => (fun _ => .done) <$> encode value
  | .writeProtobuf encoded => (fun _ => .done) <$> writeProtobuf encoded
  | .decode target => .decoded <$> decode target
  | .write data => .count <$> write data
  | .writeAll data => .outcome <$> writeAll data
  | .writeSlices slices => .outcome <$> writeSlices slices
  | .flush => .outcome <$> flush
  | .bodyBytes consume => .bytes <$> bodyBytes consume
  | .body actions => .body <$> onBody (Operation.each Body.perform actions)

end Reply.Response
