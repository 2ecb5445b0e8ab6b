import Reply.IoError
import Reply.Json.Error
import Reply.Protobuf.Wire

/-!
# Reply.Failure

Every failure a response can record or return.

1. A *service* failure has a code, a message, perhaps a tag, and perhaps the
   failure it wraps.
2. The others are the failures of a codec or of reading and writing, as they
   are.
3. `wrap` makes a service failure of any failure; `downstream` puts a tagged
   one around it.

`causes` are the failures one inside the other, and `sources` the texts of
all that lies inside a failure, down to the codec or the call that failed and to
what that comes from in turn.
-/

namespace Reply

/-- The classification of a service failure. -/
inductive Code
  /-- Something went wrong inside this service. -/
  | internalService
  /-- The peer sent a response that could not be read. -/
  | badResponse
deriving DecidableEq, Repr

def Code.text : Code → String
  | .internalService => "internal_service"
  | .badResponse => "bad_response"

/-- A closer classification. -/
inductive Tag
  /-- The failure came from further down. -/
  | downstream
  /-- The target lacks the form that the body has. -/
  | invalidType
deriving DecidableEq, Repr

def Tag.text : Tag → String
  | .downstream => "downstream"
  | .invalidType => "invalid_type"

/-- A failure of a response. -/
inductive Failure
  | service (code : Code) (message : String) (tag? : Option Tag) (cause? : Option Failure)
  | json (error : Json.Error)
  | protobufDecode (error : Protobuf.DecodeError)
  | protobufEncode (error : Protobuf.EncodeError)
  | io (error : IoError)

namespace Failure

/-! ## reading a failure -/

/-- The text of a failure. -/
def message : Failure → String
  | service code message none _ => s!"{code.text}: {message}"
  | service code message (some tag) _ => s!"{code.text}.{tag.text}: {message}"
  | json error => s!"json codec error: {error.message}"
  | protobufDecode error => s!"protobuf decode error: {error.message}"
  | protobufEncode error => s!"protobuf encode error: {error.message}"
  | io error => s!"io error: {error.message}"

def code? : Failure → Option Code
  | service code _ _ _ => some code
  | _ => none

def tag? : Failure → Option Tag
  | service _ _ tag? _ => tag?
  | _ => none

/-- The failure that this one wraps. -/
def cause? : Failure → Option Failure
  | service _ _ _ cause? => cause?
  | _ => none

def isService : Failure → Bool
  | service .. => true
  | _ => false

/-- Under a failure that is no service one, the text of the codec's or the call's own failure and
those of what that comes from. -/
def origins : Failure → List String
  | service .. => []
  | json error => error.message :: error.sources
  | protobufDecode error => [error.message]
  | protobufEncode error => [error.message]
  | io error => error.message :: error.sources

/-- The texts of all that lies inside a failure, from the outside in. -/
def sources : Failure → List String
  | service _ _ _ (some cause) => cause.message :: cause.sources
  | other => other.origins

/-- The failures inside a failure, from the outside in. -/
def causes : Failure → List Failure
  | service _ _ _ (some cause) => cause :: cause.causes
  | _ => []

/-! ## making a failure -/

/-- An internal failure with that message. -/
def internal (message : String) : Failure := service .internalService message none none

/-- There is no head, so there is no body. -/
def noBody : Failure := internal "Response has no body"

/-- The target lacks the form that the body has. -/
def invalidType (message : String) : Failure :=
  service .internalService message (some .invalidType) none

/-- A failure that came from further down. -/
def downstream (cause : Failure) : Failure :=
  service .internalService "Downstream request error" (some .downstream) (some cause)

/-- A body that could not be read. -/
def badResponse (error : IoError) : Failure :=
  service .badResponse (io error).message none (some (io error))

/-- Makes an internal service failure of a failure that is none yet. -/
def wrap : Failure → Failure
  | service code message tag? cause? => service code message tag? cause?
  | other => service .internalService other.message none (some other)

end Failure

end Reply
