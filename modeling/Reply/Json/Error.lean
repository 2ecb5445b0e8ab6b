import Reply.IoError
import Reply.Json.Real
import Reply.Text.Quoted

/-!
# Reply.Json.Error

What can be wrong with a JSON text, or with a value that is to be written as
one, and where.

A fault found while reading has a position: the line, from one, and the
number of bytes of that line up to the place. A fault of a value that is
written has none, unless the words in which the value reports it end in one:
`Error.ofText` takes it off them.  Where the text could not be read or written at
all, the fault is that of the reader or the writer.
-/

namespace Reply.Json

/-- A place in a text: its line, and the bytes of that line before it. -/
structure Position where
  line : Nat := 1
  column : Nat := 0
deriving DecidableEq, Repr

/-- A value of a kind that was not asked for. -/
inductive Found
  | null
  | boolean (value : Bool)
  | integer (value : Int)
  | real (value : Real)
  | string (text : String)
  | list
  | object
deriving DecidableEq

/-- The kind of value, with the value itself where it is a scalar. -/
def Found.describe : Found → String
  | .null => "null"
  | .boolean value => s!"boolean `{value}`"
  | .integer value => s!"integer `{value}`"
  | .real value => s!"floating point `{value.text}`"
  | .string text => "string " ++ Text.quoted text
  | .list => "sequence"
  | .object => "map"

/-- A fault of a text or a value. -/
inductive Fault
  -- the text ends too early
  | endInValue
  | endInList
  | endInObject
  | endInString
  -- the text is no JSON
  | expectedColon
  | expectedListEnd
  | expectedObjectEnd
  | expectedIdent
  | expectedValue
  | invalidEscape
  | invalidNumber
  | numberOutOfRange
  | invalidCodePoint
  | controlCharacter
  | keyNotString
  | loneSurrogate
  | endOfHexEscape
  | trailingComma
  | trailingCharacters
  | recursionLimit
  -- the text does not fit what is read
  | wrongType (found : Found) (expected : String)
  | outOfRange (value : Int) (expected : String)
  | wrongLength (length : Nat) (expected : String)
  | missingField (name : String)
  | duplicateField (name : String)
  | custom (message : String)
  -- the text cannot be read or written
  | io (error : IoError)
deriving DecidableEq

/-- The sorts of faults. -/
inductive Category
  | syntactic
  | eof
  | data
  | io
deriving DecidableEq, Repr

namespace Fault

def category : Fault → Category
  | endInValue | endInList | endInObject | endInString => .eof
  | wrongType .. | outOfRange .. | wrongLength .. => .data
  | missingField _ | duplicateField _ | custom _ => .data
  | io _ => .io
  | _ => .syntactic

def message : Fault → String
  | endInValue => "EOF while parsing a value"
  | endInList => "EOF while parsing a list"
  | endInObject => "EOF while parsing an object"
  | endInString => "EOF while parsing a string"
  | expectedColon => "expected `:`"
  | expectedListEnd => "expected `,` or `]`"
  | expectedObjectEnd => "expected `,` or `\x7d`"
  | expectedIdent => "expected ident"
  | expectedValue => "expected value"
  | invalidEscape => "invalid escape"
  | invalidNumber => "invalid number"
  | numberOutOfRange => "number out of range"
  | invalidCodePoint => "invalid unicode code point"
  | controlCharacter => "control character (\\u0000-\\u001F) found while parsing a string"
  | keyNotString => "key must be a string"
  | loneSurrogate => "lone leading surrogate in hex escape"
  | endOfHexEscape => "unexpected end of hex escape"
  | trailingComma => "trailing comma"
  | trailingCharacters => "trailing characters"
  | recursionLimit => "recursion limit exceeded"
  | wrongType found expected => s!"invalid type: {found.describe}, expected {expected}"
  | outOfRange value expected => s!"invalid value: integer `{value}`, expected {expected}"
  | wrongLength length expected => s!"invalid length {length}, expected {expected}"
  | missingField name => s!"missing field `{name}`"
  | duplicateField name => s!"duplicate field `{name}`"
  | custom message => message
  | io error => error.message

/-- The texts of what a fault comes from: those of the reader or the writer, whose text it shows. -/
def sources : Fault → List String
  | io error => error.sources
  | _ => []

end Fault

/-- A fault and its place, if it has one. -/
structure Error where
  fault : Fault
  position? : Option Position := none
deriving DecidableEq

namespace Error

def category (e : Error) : Category := e.fault.category

def sources (e : Error) : List String := e.fault.sources

def message (e : Error) : String :=
  match e.position? with
  | none => e.fault.message
  | some ⟨line, column⟩ => s!"{e.fault.message} at line {line} column {column}"

/-- A number of one word, from its digits in reverse order. -/
def reversedWord? (digits : List Char) : Option Nat :=
  (Decimal.value? (digits.reverse.map fun c => UInt8.ofNat c.toNat)).filter (· < UInt64.size)

/-- Parts a text that ends in ` at line L column C` from this place; it is read from the end. -/
def splitPlace? (text : String) : Option (String × Position) := do
  let (column, rest) := text.toList.reverse.span Char.isDigit
  let rest ← " column ".toList.reverse.isPrefixOf? rest
  let (line, rest) := rest.span Char.isDigit
  let words ← " at line ".toList.reverse.isPrefixOf? rest
  return (String.ofList words.reverse, ⟨← reversedWord? line, ← reversedWord? column⟩)

/-- A fault in a value's own words. A place at their end becomes the place of the fault; line zero
is no place. -/
def ofText (text : String) : Error :=
  match splitPlace? text with
  | some (words, place) => ⟨.custom words, if place.line = 0 then none else some place⟩
  | none => ⟨.custom text, none⟩

/-- Gives a place to a fault that has none yet. -/
def locate (e : Error) (position : Position) : Error :=
  { e with position? := some (e.position?.getD position) }

end Error

end Reply.Json
