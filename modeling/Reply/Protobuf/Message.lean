import Reply.Protobuf.Wire

/-!
# Reply.Protobuf.Message

Messages as records with numbered fields.

1. Writing: the fields in the order of their tags; a scalar that has its
   default value is left out, a repeated field is written once for each of
   its values.
2. Reading: a later value of a scalar wins, values of a repeated field add
   up, and fields without a rule are moved over.
3. A message inside another one is read from all that is left of the outer
   one; it must end exactly where its length says.
-/

namespace Reply.Protobuf

/-! ## writing fields -/

def putString (tag : Nat) (text : String) : Bytes :=
  if text == "" then [] else key tag .lengthDelimited ++ delimited (Bytes.ofString text)

def putStrings (tag : Nat) (texts : List String) : Bytes :=
  texts.flatMap fun text => key tag .lengthDelimited ++ delimited (Bytes.ofString text)

def putWord (tag : Nat) (n : UInt64) : Bytes :=
  if n == 0 then [] else key tag .varint ++ varint n.toNat

def putMessage (tag : Nat) (encoded : Bytes) : Bytes :=
  key tag .lengthDelimited ++ delimited encoded

/-! ## reading fields -/

/-- What reading one field does to a record; the number says how many levels are left below. -/
abbrev Merge (α : Type) := Nat → WireType → α → Input → Except DecodeError (α × Input)

/-- The rule of one field. -/
structure Rule (α : Type) where
  tag : Nat
  name : String
  merge : Merge α

variable {α : Type}

/-- A fault in no field yet. -/
def liftFault {β : Type} : Except Fault β → Except DecodeError β
  | .ok b => .ok b
  | .error fault => .error { fault }

/-- A field of a varint. -/
def word (tag : Nat) (name : String) (set : UInt64 → α → α) : Rule α where
  tag
  name
  merge := fun _ wire record input => liftFault do
    expect .varint wire
    let (value, input) ← readVarint input
    return (set value.toUInt64 record, input)

/-- A field of a text. -/
def string (tag : Nat) (name : String) (set : String → α → α) : Rule α where
  tag
  name
  merge := fun _ wire record input => liftFault do
    expect .lengthDelimited wire
    let (bytes, input) ← readDelimited input
    match bytes.text? with
    | some text => return (set text record, input)
    | none => throw .notUtf8

/-- Reads fields until no more than `limit` bytes are left. -/
def mergeUntil (field : α → Input → Except DecodeError (α × Input)) (limit : Nat) :
    Nat → α → Input → Except DecodeError (α × Input)
  | 0, record, input => .ok (record, input)
  | fuel + 1, record, input =>
    if input.remaining ≤ limit then .ok (record, input)
    else
      match field record input with
      | .error e => .error e
      | .ok (record, input) => mergeUntil field limit fuel record input

/-- Reads one field of the message of that name. -/
def mergeField (message : String) (rules : List (Rule α)) (depth : Nat) (record : α)
    (input : Input) : Except DecodeError (α × Input) := do
  let (tag, wire, input) ← liftFault (readKey input)
  match rules.find? (·.tag == tag) with
  | some rule =>
    match rule.merge depth wire record input with
    | .ok merged => return merged
    | .error e => throw (e.inside ⟨message, rule.name⟩)
  | none => return (record, ← liftFault (skipField depth tag wire input))

/-- A field of a message, `blank` before its first field, whose fields are read by `field`. There
must be a level left for it. -/
def message (tag : Nat) (name : String) {β : Type} (blank : β)
    (field : β → Input → Except DecodeError (β × Input)) (set : β → α → α) : Rule α where
  tag
  name
  merge := fun depth wire record input => do
    liftFault (expect .lengthDelimited wire)
    match depth with
    | 0 => throw { fault := .recursionLimit }
    | _ + 1 =>
      let (length, input) ← liftFault (readVarint input)
      if input.remaining < length then throw { fault := .underflow }
      let limit := input.remaining - length
      let (inner, input) ← mergeUntil field limit (length + 1) blank input
      if input.remaining = limit then return (set inner record, input)
      else throw { fault := .lengthExceeded }

/-- Reads a whole message. Every field takes a byte for its key. -/
def decode (field : Nat → α → Input → Except DecodeError (α × Input)) (blank : α) (bytes : Bytes) :
    Except DecodeError α := do
  let input := Input.ofBytes bytes
  let (record, _) ← mergeUntil (field maxDepth) 0 (input.remaining + 1) blank input
  return record

end Reply.Protobuf
