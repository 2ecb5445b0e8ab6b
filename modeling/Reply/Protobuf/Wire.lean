import Reply.Bytes

/-!
# Reply.Protobuf.Wire

The wire form of protobuf messages: a sequence of fields, each a key and what
its wire type says.

* A *varint* holds seven bits in each byte, the lowest first, in at most ten
  bytes and within a word of 64 bits.
* A *key* is a varint of a tag, from one, and a wire type.
* An `Input` is what is left of a message, with its length.

Writing goes to plain bytes, reading from an `Input`.
-/

namespace Reply.Protobuf

/-- How the bytes of a field are told from those behind it. -/
inductive WireType
  | varint
  | sixtyFourBit
  | lengthDelimited
  | startGroup
  | endGroup
  | thirtyTwoBit
deriving DecidableEq, Repr

namespace WireType

def number : WireType → Nat
  | varint => 0
  | sixtyFourBit => 1
  | lengthDelimited => 2
  | startGroup => 3
  | endGroup => 4
  | thirtyTwoBit => 5

def name : WireType → String
  | varint => "Varint"
  | sixtyFourBit => "SixtyFourBit"
  | lengthDelimited => "LengthDelimited"
  | startGroup => "StartGroup"
  | endGroup => "EndGroup"
  | thirtyTwoBit => "ThirtyTwoBit"

/-- The wire type of a number; there is none above five. -/
def ofNumber? : Nat → Option WireType
  | 0 => some varint
  | 1 => some sixtyFourBit
  | 2 => some lengthDelimited
  | 3 => some startGroup
  | 4 => some endGroup
  | 5 => some thirtyTwoBit
  | _ => none

theorem ofNumber?_number (w : WireType) : ofNumber? w.number = some w := by cases w <;> rfl

end WireType

/-! ## faults -/

/-- What can be wrong with a message. -/
inductive Fault
  | invalidVarint
  | invalidKey (key : Nat)
  | invalidWireType (number : Nat)
  | invalidTag
  | wrongWireType (found expected : WireType)
  | underflow
  | lengthExceeded
  | notUtf8
  | endGroup
  | recursionLimit
deriving DecidableEq, Repr

def Fault.message : Fault → String
  | invalidVarint => "invalid varint"
  | invalidKey key => s!"invalid key value: {key}"
  | invalidWireType number => s!"invalid wire type value: {number}"
  | invalidTag => "invalid tag value: 0"
  | wrongWireType found expected => s!"invalid wire type: {found.name} (expected {expected.name})"
  | underflow => "buffer underflow"
  | lengthExceeded => "delimited length exceeded"
  | notUtf8 => "invalid string value: data is not UTF-8 encoded"
  | endGroup => "unexpected end group tag"
  | recursionLimit => "recursion limit reached"

/-- A field of a message, by which a fault is located. -/
structure Location where
  message : String
  field : String
deriving DecidableEq, Repr

/-- A message that could not be read: the fault and the fields it lies in, the innermost first. -/
structure DecodeError where
  fault : Fault
  path : List Location := []
deriving DecidableEq, Repr

namespace DecodeError

/-- The same fault, seen from the message around it. -/
def inside (e : DecodeError) (location : Location) : DecodeError :=
  { e with path := e.path ++ [location] }

def message (e : DecodeError) : String :=
  "failed to decode Protobuf message: " ++
    String.join (e.path.map fun location => s!"{location.message}.{location.field}: ") ++
    e.fault.message

end DecodeError

/-- A message that does not fit into the room there is. -/
structure EncodeError where
  required : Nat
  remaining : Nat
deriving DecidableEq, Repr

def EncodeError.message (e : EncodeError) : String :=
  "failed to encode Protobuf message; insufficient buffer capacity " ++
    s!"(required: {e.required}, remaining: {e.remaining})"

/-- Puts an encoded message into so much room. -/
def fit (room : Nat) (encoded : Bytes) : Except EncodeError Bytes :=
  if encoded.length ≤ room then .ok encoded else .error ⟨encoded.length, room⟩

/-! ## writing -/

/-- Writes a varint. -/
def varint (n : Nat) : Bytes :=
  if n < 0x80 then [UInt8.ofNat n] else UInt8.ofNat (0x80 + n % 0x80) :: varint (n / 0x80)

/-- Writes a key. -/
def key (tag : Nat) (wire : WireType) : Bytes := varint (tag * 8 + wire.number)

/-- Writes bytes behind their length. -/
def delimited (bytes : Bytes) : Bytes := varint bytes.length ++ bytes

/-- The word that stands for a signed one of 32 bits, small numbers of either sign first. -/
def zigzag (n : Int32) : UInt32 := (n.toUInt32 <<< 1) ^^^ (if n < 0 then 0xffffffff else 0)

/-- The signed number of such a word. -/
def unzigzag (n : UInt32) : Int32 := ((n >>> 1) ^^^ (if n % 2 = 1 then 0xffffffff else 0)).toInt32

/-! ## reading -/

/-- What is left of a message. -/
structure Input where
  rest : Bytes
  remaining : Nat
  counted : remaining = rest.length

namespace Input

def ofBytes (bytes : Bytes) : Input := ⟨bytes, bytes.length, rfl⟩

/-- Drops bytes; where there are fewer, none is left. -/
def drop (input : Input) (count : Nat) : Input :=
  ⟨input.rest.drop count, input.remaining - count, by simp [input.counted]⟩

end Input

/-- Reads a varint; `index` bytes of it were read and say `low`. -/
def readVarintFrom (index low : Nat) : Bytes → Except Fault (Nat × Nat)
  | [] => .error .invalidVarint
  | b :: rest =>
    let value := low + b.toNat % 0x80 * Nat.pow 2 (7 * index)
    if b < 0x80 then
      if index = 9 ∧ 2 ≤ b then .error .invalidVarint else .ok (value, index + 1)
    else if index < 9 then readVarintFrom (index + 1) value rest
    else .error .invalidVarint

/-- Reads a varint and takes it off the input. -/
def readVarint (input : Input) : Except Fault (Nat × Input) := do
  let (value, length) ← readVarintFrom 0 0 input.rest
  return (value, input.drop length)

/-- Reads a key. -/
def readKey (input : Input) : Except Fault (Nat × WireType × Input) := do
  let (key, input) ← readVarint input
  if UInt32.size ≤ key then throw (.invalidKey key)
  match WireType.ofNumber? (key % 8) with
  | none => throw (.invalidWireType (key % 8))
  | some wire => if key / 8 = 0 then throw .invalidTag else return (key / 8, wire, input)

/-- Reads bytes behind their length. -/
def readDelimited (input : Input) : Except Fault (Bytes × Input) := do
  let (length, input) ← readVarint input
  if input.remaining < length then throw .underflow
  return (input.rest.take length, input.drop length)

/-- A field is read only in the wire form of its type. -/
def expect (expected found : WireType) : Except Fault Unit :=
  if found = expected then .ok () else .error (.wrongWireType found expected)

/-- How deep messages and groups may lie in one another. -/
def maxDepth : Nat := 100

/-- Moves over the fields of a group, each by `skip`, up to the end of the group. -/
def skipGroup (skip : Nat → WireType → Input → Except Fault Input) (tag : Nat) :
    Nat → Input → Except Fault Input
  | 0, _ => .error .invalidVarint
  | fuel + 1, input =>
    match readKey input with
    | .error fault => .error fault
    | .ok (inner, .endGroup, input) => if inner = tag then .ok input else .error .endGroup
    | .ok (inner, wire, input) =>
      match skip inner wire input with
      | .error fault => .error fault
      | .ok input => skipGroup skip tag fuel input

/-- Moves over a field nobody asked for. Every field of a group takes a byte for its key. -/
def skipField : Nat → Nat → WireType → Input → Except Fault Input
  | 0, _, _, _ => .error .recursionLimit
  | depth + 1, tag, wire, input => do
    match wire with
    | .varint => return (← readVarint input).2
    | .sixtyFourBit => if input.remaining < 8 then throw .underflow else return input.drop 8
    | .thirtyTwoBit => if input.remaining < 4 then throw .underflow else return input.drop 4
    | .lengthDelimited => return (← readDelimited input).2
    | .startGroup => skipGroup (skipField depth) tag (input.remaining + 1) input
    | .endGroup => throw .endGroup

end Reply.Protobuf
