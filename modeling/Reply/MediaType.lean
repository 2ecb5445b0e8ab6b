import Reply.Bytes

/-!
# Reply.MediaType

Media types, as they stand in Content-Type and Accept.

1. The *essence* is a type, a slash and a subtype, both of them tokens; it is
   compared without regard to case.
2. Behind a semicolon come parameters, each a name, an equals sign and a
   value; semicolons separate them and one may end the list. Spaces may stand
   before a name and behind a quoted value.
3. A plain value is a token, empty only at the very end of the text. A quoted
   value holds at least one octet, and its first octet may itself be a quote.

`isProtobuf` asks for the essence alone, so parameters never decide which
codec reads a body.
-/

namespace Reply

/-- A media type, of which only the essence is kept, in small letters. -/
structure MediaType where
  essence : Bytes
deriving DecidableEq

namespace MediaType

def slash : UInt8 := 0x2f
def semicolon : UInt8 := 0x3b
def space : UInt8 := 0x20
def equals : UInt8 := 0x3d
def quote : UInt8 := 0x22

/-- A token: one or more token octets. -/
def isTokenText (bytes : Bytes) : Bool := !bytes.isEmpty && bytes.all isToken

/-- A type and a subtype with a slash between them. -/
def isEssence (bytes : Bytes) : Bool :=
  isTokenText (bytes.takeWhile (· != slash)) &&
    match bytes.dropWhile (· != slash) with
    | [] => false
    | _ :: subtype => isTokenText subtype

/-! ## parameters -/

/-- An octet of a quoted value: no control character. -/
def isQuotable (b : UInt8) : Bool := 0x20 ≤ b && b != 0x7f

/-- Where the reader of a parameter list stands. -/
inductive Place
  /-- Before a parameter, or at the end of the list. -/
  | start
  /-- Behind the first octet of a name. -/
  | name
  /-- Behind the equals sign. -/
  | value
  /-- Inside a plain value. -/
  | plain
  /-- Behind the quote that opens a value. -/
  | opened
  /-- Inside a quoted value, behind its first octet. -/
  | quoted
  /-- Behind the quote that closes a value. -/
  | closed
deriving DecidableEq, Repr

/-- The place behind one more octet, or nothing where it may not stand. -/
def Place.next? : Place → UInt8 → Option Place
  | .start, b => if b == space then some .start else if isToken b then some .name else none
  | .name, b => if b == equals then some .value else if isToken b then some .name else none
  | .value, b => if b == quote then some .opened else if isToken b then some .plain else none
  | .plain, b => if b == semicolon then some .start else if isToken b then some .plain else none
  | .opened, b => if isQuotable b then some .quoted else none
  | .quoted, b => if b == quote then some .closed else if isQuotable b then some .quoted else none
  | .closed, b => if b == semicolon then some .start else if b == space then some .closed else none

/-- The places where the text may end. -/
def Place.mayEnd : Place → Bool
  | .start | .value | .plain | .closed => true
  | .name | .opened | .quoted => false

/-- Reads the rest of a parameter list. -/
def Place.accepts : Place → Bytes → Bool
  | place, [] => place.mayEnd
  | place, b :: rest =>
    match place.next? b with
    | some place => place.accepts rest
    | none => false

/-- A list of parameters, as it stands behind the first semicolon. -/
def isParameters (bytes : Bytes) : Bool := Place.start.accepts bytes

/-- Reads a media type. -/
def parse? (text : Bytes) : Option MediaType :=
  let essence := text.takeWhile (· != semicolon)
  let parameters := (text.dropWhile (· != semicolon)).drop 1
  if isEssence essence && isParameters parameters then some ⟨essence.map lower⟩ else none

/-! ## the formats of a body -/

/-- The media type of JSON bodies. -/
def json : Bytes := Bytes.ascii "application/json"

/-- The media type of protobuf bodies, and the text looked for in Accept. -/
def protobuf : Bytes := Bytes.ascii "application/protobuf"

/-- The media types that are read as protobuf. -/
def protobufTypes : List Bytes :=
  [protobuf, Bytes.ascii "application/octet-stream", Bytes.ascii "application/x-google-protobuf"]

/-- An Accept value asks for protobuf when it mentions its media type anywhere. -/
def acceptsProtobuf (accept : Bytes) : Bool := Bytes.contains protobuf accept

/-- A Content-Type value names one of the protobuf media types. -/
def isProtobuf (contentType : Bytes) : Bool :=
  match parse? contentType with
  | some mediaType => protobufTypes.contains mediaType.essence
  | none => false

end MediaType

end Reply
