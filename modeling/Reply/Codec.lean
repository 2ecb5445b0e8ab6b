import Reply.Body
import Reply.Protobuf.Form

/-!
# Reply.Codec

What can be put into a body, and what can be read out of one.

1. A value goes out as JSON, or as protobuf where it has that form and the
   request accepts it; a raw body goes out as it is.
2. A target is read from JSON, and from protobuf if it has that form.

The codecs themselves are open: anything that says what it writes, or what it
makes of some bytes, can be sent or received.
-/

namespace Reply

/-- How writing a value as JSON comes out: the bytes it writes, and the fault that stops it. -/
structure JsonAttempt where
  written : Bytes
  fault? : Option Json.Error := none

/-- Something that can be put into a body. -/
inductive Encodable
  /-- A body to be adopted as it is. -/
  | raw (body : Body)
  /-- A value with a JSON form, and perhaps a protobuf form. -/
  | value (json : JsonAttempt) (protobuf? : Option (Except Protobuf.EncodeError Bytes) := none)

namespace Encodable

/-- A value that goes out as JSON, whatever the request accepts. -/
def json {α : Type} [Json.Form α] (a : α) : Encodable := value { written := Json.encode a }

/-- A value that goes out as protobuf where that is accepted, and as JSON otherwise. -/
def protobuf {α : Type} [Protobuf.Form α] (a : α) : Encodable :=
  value { written := Json.encode a } (some (.ok (Protobuf.Form.marshal a)))

/-- Writing it as JSON; a raw body has no JSON form. -/
def encodeJson : Encodable → JsonAttempt
  | raw _ =>
    { written := [], fault? := some ⟨.custom "a raw body can not be serialized as json", none⟩ }
  | value json _ => json

/-- Writing it as protobuf, if it has that form. -/
def encodeProtobuf? : Encodable → Option (Except Protobuf.EncodeError Bytes)
  | raw _ => none
  | value _ protobuf? => protobuf?

/-- The body of a raw one. -/
def body? : Encodable → Option Body
  | raw body => some body
  | value .. => none

end Encodable

/-- A target that a body can be read into. -/
structure Decodable (α : Type) where
  json : Bytes → Except Json.Error α
  protobuf? : Option (Bytes → Except Protobuf.DecodeError α) := none

namespace Decodable

/-- A target with a JSON form alone. -/
def ofJson (α : Type) [Json.Form α] : Decodable α where
  json := Json.decode Json.Form.decoder

/-- A target with both forms. -/
def ofProtobuf (α : Type) [Protobuf.Form α] : Decodable α where
  json := Json.decode Json.Form.decoder
  protobuf? := some Protobuf.Form.unmarshal

/-- The same target, with a function of what is read. -/
def map {α β : Type} (f : α → β) (target : Decodable α) : Decodable β where
  json bytes := f <$> target.json bytes
  protobuf? := target.protobuf?.map fun read bytes => f <$> read bytes

end Decodable

end Reply
