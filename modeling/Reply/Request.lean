import Reply.Headers
import Reply.Text.Quoted
import Reply.Uri

/-!
# Reply.Request

The request a response answers: its method, target, version and headers, and
two settings of the exchange, the policy on failures that come from further
down and the transport's ability to hand over its connection.
-/

namespace Reply

/-- The version of the protocol. -/
inductive Version
  | http09
  | http10
  | http11
  | http2
  | http3
deriving DecidableEq, Repr

namespace Version

def all : List Version := [http09, http10, http11, http2, http3]

def text : Version → String
  | http09 => "HTTP/0.9"
  | http10 => "HTTP/1.0"
  | http11 => "HTTP/1.1"
  | http2 => "HTTP/2.0"
  | http3 => "HTTP/3.0"

/-- The version of that text. -/
def ofText? (s : String) : Option Version := all.find? (·.text == s)

theorem ofText?_text (v : Version) : ofText? v.text = some v := by
  cases v <;> decide

end Version

/-- The method of a request: a token. -/
structure Method where
  token : Bytes
  valid : token ≠ [] ∧ token.all isToken = true
deriving DecidableEq

namespace Method

def get : Method := ⟨Bytes.ascii "GET", by decide⟩

def ofBytes? (bytes : Bytes) : Option Method :=
  if valid : bytes ≠ [] ∧ bytes.all isToken = true then some ⟨bytes, valid⟩ else none

end Method

/-- A request without its body, and the settings of its exchange. -/
structure Request where
  method : Method := .get
  uri : Uri := .root
  version : Version := .http11
  headers : Headers := ∅
  /-- The policy on failures from further down; an empty text leaves them as they are. -/
  wrapDownstream : Option String := none
  /-- The transport can hand over its connection. -/
  handsOver : Bool := false
deriving DecidableEq

namespace Request

/-- The first Accept value, if it is readable text. -/
def accept? (request : Request) : Option Bytes := request.headers.visible? .accept

/-- A policy is active when its text is not empty. -/
def isActive (policy : String) : Bool := policy != ""

/-- Failures from further down are to be wrapped. -/
def wrapsDownstream (request : Request) : Bool := request.wrapDownstream.any isActive

/-! ## the request on one line -/

/-- A field value between quotes: an octet that is not readable, or is a quote, is marked. -/
def quotedValue (value : FieldValue) : String :=
  let octet (b : UInt8) : String :=
    if b == 0x22 then "\\\""
    else if isVisible b then (Char.ofNat b.toNat).toString
    else "\\x" ++ Text.hex b.toNat
  "\"" ++ String.join (value.bytes.map octet) ++ "\""

/-- The headers in the order of their fields. -/
def describeHeaders (headers : Headers) : String :=
  let one (field : FieldName × FieldValue) :=
    Text.quoted field.1.text ++ ": " ++ quotedValue field.2
  "\x7b" ++ ", ".intercalate (headers.toList.map one) ++ "\x7d"

/-- The request as text, for people to look at. -/
def describe (request : Request) : String :=
  let policy :=
    match request.wrapDownstream with
    | some text => "Some(WrapDownstreamErrors(" ++ Text.quoted text ++ "))"
    | none => "None"
  "RequestHeader \x7b inner: Request \x7b method: " ++ request.method.token.latin ++
    ", uri: " ++ (request.uri.render.text?.getD "") ++
    ", version: " ++ request.version.text ++
    ", headers: " ++ describeHeaders request.headers ++
    ", body: () \x7d, wrap_downstream_errors: " ++ policy ++
    ", hijacker: " ++ (if request.handsOver then "true" else "false") ++ " \x7d"

end Request

end Reply
