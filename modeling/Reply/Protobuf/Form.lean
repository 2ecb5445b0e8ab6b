import Reply.Json.Form
import Reply.Protobuf.Message

/-!
# Reply.Protobuf.Form

Types with a protobuf form. They have a JSON form as well, for requests that
do not accept protobuf.
-/

namespace Reply.Protobuf

/-- A type with a protobuf form. -/
class Form (α : Type) extends Json.Form α where
  marshal : α → Bytes
  unmarshal : Bytes → Except DecodeError α

end Reply.Protobuf
