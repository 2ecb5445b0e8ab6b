import Reply.Json.Skip
import Reply.Json.Value

/-!
# Reply.Json.Decoder

Reading values of a wanted type from a JSON text.

1. A scalar of the wrong kind is taken whole before it is refused; a bracket
   of the wrong kind stays untaken.
2. A record is read from an object, whose unknown entries are moved over, or
   from a list of its fields in order.
3. At most `maxNesting` brackets may be open at once.
4. A fault without a place, such as a missing field, is reported where the
   closing bracket of its value was looked for.
-/

namespace Reply.Json

/-- How many brackets may be open at once. -/
def maxNesting : Nat := 127

/-- Reads a value; the number says how many more brackets may be opened. -/
abbrev Decoder (α : Type) := Nat → Reader α

namespace Decoder

open Reader

variable {α β : Type}

/-- Takes the number that comes next. -/
def number : Reader Number := do
  if (← peek?) == some 0x2d then do skip; Number.read true else Number.read false

/-- Takes the scalar that comes next, or looks at the bracket. -/
def found : Reader Found := do
  match ← peek? with
  | none => failNext .expectedValue
  | some b =>
    if b == 0x6e then do skip; literal (Bytes.ascii "ull"); return .null
    else if b == 0x74 then do skip; literal (Bytes.ascii "rue"); return .boolean true
    else if b == 0x66 then do skip; literal (Bytes.ascii "alse"); return .boolean false
    else if b == 0x2d || isDigit b then return (← number).found
    else if b == StringLiteral.quote then do skip; return .string (← StringLiteral.read)
    else if b == 0x5b then return .list
    else if b == 0x7b then return .object
    else failNext .expectedValue

/-- Refuses the value that comes next. -/
def refuse (expected : String) : Reader α := do
  let value ← found
  fail (.wrongType value expected)

/-- Goes on at the first byte of a value. -/
def value (go : UInt8 → Reader α) : Reader α := do
  match ← peekSolid? with
  | none => failNext .endInValue
  | some b => go b

/-! ## scalars -/

def string : Decoder String := fun _ => value fun b =>
  if b == StringLiteral.quote then do skip; StringLiteral.read else refuse "a string"

def boolean : Decoder Bool := fun _ => value fun b => do
  if b == 0x74 then do skip; literal (Bytes.ascii "rue"); return true
  else if b == 0x66 then do skip; literal (Bytes.ascii "alse"); return false
  else refuse "a boolean"

/-- A whole number between two bounds, both included. -/
def integer (low high : Int) (expected : String) : Decoder Int := fun _ => value fun b => do
  if b == 0x2d || isDigit b then
    match ← number with
    | .integer n => if low ≤ n ∧ n ≤ high then return n else fail (.outOfRange n expected)
    | .real x => fail (.wrongType (.real x) expected)
  else refuse expected

def uint8 : Decoder UInt8 := fun n => UInt8.ofInt <$> integer 0 (UInt8.size - 1) "u8" n
def uint64 : Decoder UInt64 := fun n => UInt64.ofInt <$> integer 0 (UInt64.size - 1) "u64" n

def int32 : Decoder Int32 := fun n =>
  Int32.ofInt <$> integer Int32.minValue.toInt Int32.maxValue.toInt "i32" n

def int64 : Decoder Int64 := fun n =>
  Int64.ofInt <$> integer Int64.minValue.toInt Int64.maxValue.toInt "i64" n

/-- Null for nothing, and anything else as a value. -/
def option (inner : Decoder α) : Decoder (Option α) := fun n => do
  if (← peekSolid?) == some 0x6e then do skip; literal (Bytes.ascii "ull"); return none
  else some <$> inner n

/-! ## brackets -/

/-- Takes an opening bracket and reads on, one level further in. -/
def enter (nesting : Nat) (inside : Nat → Reader α) : Reader α :=
  match nesting with
  | 0 => failNext .recursionLimit
  | nesting + 1 => do skip; inside nesting

/-- Reads what is inside a bracket, then looks for the closing one, also behind a fault. -/
def bracketed (inside : Reader α) (close : Reader Unit) : Reader α := fun cursor =>
  match inside cursor with
  | (.error e, cursor) =>
    let cursor := (close cursor).2
    (.error (e.locate cursor.position), cursor)
  | (.ok a, cursor) =>
    match close cursor with
    | (.error e, cursor) => (.error (e.locate cursor.position), cursor)
    | (.ok (), cursor) => (.ok a, cursor)

/-- Looks for the end of a list. -/
def closeList : Reader Unit := do
  match ← peekSolid? with
  | none => failNext .endInList
  | some b =>
    if b == 0x5d then skip
    else if b == 0x2c then do
      skip
      if (← peekSolid?) == some 0x5d then failNext .trailingComma else failNext .trailingCharacters
    else failNext .trailingCharacters

/-- Looks for the end of an object. -/
def closeObject : Reader Unit := do
  match ← peekSolid? with
  | none => failNext .endInObject
  | some b =>
    if b == 0x7d then skip
    else if b == 0x2c then failNext .trailingComma
    else failNext .trailingCharacters

/-- Moves to the next element of a list, if there is one. -/
def nextElement (first : Bool) : Reader Bool := do
  match ← peekSolid? with
  | none => failNext .endInList
  | some b =>
    if b == 0x5d then return false
    else if first then return true
    else if b == 0x2c then
      skip
      match ← peekSolid? with
      | none => failNext .endInValue
      | some b => if b == 0x5d then failNext .trailingComma else return true
    else failNext .expectedListEnd

/-- Moves to the next key of an object, if there is one. -/
def nextKey (first : Bool) : Reader Bool := do
  match ← peekSolid? with
  | none => failNext .endInObject
  | some b =>
    if b == 0x7d then return false
    else if first then
      if b == StringLiteral.quote then return true else failNext .keyNotString
    else if b == 0x2c then
      skip
      match ← peekSolid? with
      | none => failNext .endInValue
      | some b =>
        if b == StringLiteral.quote then return true
        else if b == 0x7d then failNext .trailingComma
        else failNext .keyNotString
    else failNext .expectedObjectEnd

/-- Takes the key that comes next. -/
def key : Reader String := do skip; StringLiteral.read

/-- Takes the colon behind a key. -/
def colon : Reader Unit := do
  match ← peekSolid? with
  | none => failNext .endInObject
  | some b => if b == 0x3a then skip else failNext .expectedColon

/-! ## lists and objects -/

/-- Reads elements until the list ends; `done` holds those before, newest first. -/
def elements (element : Reader α) : Nat → Bool → List α → Cursor → Except Error (List α) × Cursor
  | 0, _, _, cursor => fail .endInList cursor
  | fuel + 1, first, done, cursor =>
    match nextElement first cursor with
    | (.error e, cursor) => (.error e, cursor)
    | (.ok false, cursor) => (.ok done.reverse, cursor)
    | (.ok true, cursor) =>
      match element cursor with
      | (.error e, cursor) => (.error e, cursor)
      | (.ok a, cursor) => elements element fuel false (a :: done) cursor

/-- Reads entries until the object ends; `done` holds those before, newest first. -/
def entries (inner : Reader α) :
    Nat → Bool → List (String × α) → Cursor → Except Error (List (String × α)) × Cursor
  | 0, _, _, cursor => fail .endInObject cursor
  | fuel + 1, first, done, cursor =>
    match nextKey first cursor with
    | (.error e, cursor) => (.error e, cursor)
    | (.ok false, cursor) => (.ok done.reverse, cursor)
    | (.ok true, cursor) =>
      match (do let name ← key; colon; return (name, ← inner)) cursor with
      | (.error e, cursor) => (.error e, cursor)
      | (.ok entry, cursor) => entries inner fuel false (entry :: done) cursor

/-- The inside of a list. Every element takes a byte, so there are no more than bytes. -/
def listBody (inner : Decoder α) (nesting : Nat) : Reader (List α) :=
  bracketed (fun cursor => elements (inner nesting) (cursor.rest.length + 1) true [] cursor)
    closeList

/-- The inside of an object. Every entry takes a byte, so there are no more than bytes. -/
def objectBody (inner : Decoder α) (nesting : Nat) : Reader (List (String × α)) :=
  bracketed (fun cursor => entries (inner nesting) (cursor.rest.length + 1) true [] cursor)
    closeObject

def list (inner : Decoder α) : Decoder (List α) := fun nesting => value fun b =>
  if b == 0x5b then enter nesting (listBody inner) else refuse "a sequence"

/-- The entries of an object in the order of their keys. -/
def map (inner : Decoder α) : Decoder (List (String × α)) := fun nesting => value fun b =>
  if b == 0x7b then sortEntries <$> enter nesting (objectBody inner) else refuse "a map"

/-- Two elements of a list. -/
def pair (left : Decoder α) (right : Decoder β) : Decoder (α × β) := fun nesting => value fun b =>
  let expected := "a tuple of size 2"
  if b == 0x5b then
    enter nesting fun nesting => bracketed (do
      if !(← nextElement true) then failSomewhere (.wrongLength 0 expected)
      else
        let a ← left nesting
        if !(← nextElement false) then failSomewhere (.wrongLength 1 expected)
        else return (a, ← right nesting)) closeList
  else refuse expected

/-! ## records -/

/-- A field of a record: its name, and how its value changes the record. -/
structure Slot (α : Type) where
  name : String
  update : Decoder (α → α)

/-- A field with the type of its value. -/
def slot (name : String) (inner : Decoder β) (set : β → α → α) : Slot α :=
  ⟨name, fun nesting => set <$> inner nesting⟩

/-- Reads the fields of a record from the elements of a list. -/
def fromElements (expected : String) (nesting : Nat) : List (Slot α) → Nat → α → Reader α
  | [], _, record => pure record
  | slot :: rest, index, record => do
    if !(← nextElement (index == 0)) then failSomewhere (.wrongLength index expected)
    else
      let update ← slot.update nesting
      fromElements expected nesting rest (index + 1) (update record)

/-- Reads one entry of a record: the change it makes and the field it fills. -/
def fromEntry (slots : List (Slot α)) (nesting : Nat) (filled : List String) :
    Reader ((α → α) × List String) := do
  let name ← key
  match slots.find? (·.name == name) with
  | some slot =>
    if filled.contains name then failSomewhere (.duplicateField name)
    else
      colon
      return (← slot.update nesting, name :: filled)
  | none =>
    colon
    Skip.value
    return (id, filled)

/-- Reads the fields of a record from the entries of an object, until it ends. -/
def fromEntries (slots : List (Slot α)) (nesting : Nat) :
    Nat → Bool → List String → α → Cursor → Except Error α × Cursor
  | 0, _, _, _, cursor => fail .endInObject cursor
  | fuel + 1, first, filled, record, cursor =>
    match nextKey first cursor with
    | (.error e, cursor) => (.error e, cursor)
    | (.ok false, cursor) =>
      match slots.find? fun slot => !filled.contains slot.name with
      | some slot => failSomewhere (.missingField slot.name) cursor
      | none => (.ok record, cursor)
    | (.ok true, cursor) =>
      match fromEntry slots nesting filled cursor with
      | (.error e, cursor) => (.error e, cursor)
      | (.ok (update, filled), cursor) =>
        fromEntries slots nesting fuel false filled (update record) cursor

/-- A record of that name. -/
def record (name : String) (blank : α) (slots : List (Slot α)) : Decoder α := fun nesting =>
  let expected := "struct " ++ name
  let count := s!"{expected} with {slots.length} element" ++ (if slots.length = 1 then "" else "s")
  value fun b =>
    if b == 0x5b then
      enter nesting fun nesting =>
        bracketed (fromElements count nesting slots 0 blank) closeList
    else if b == 0x7b then
      enter nesting fun nesting =>
        bracketed (fun cursor =>
          fromEntries slots nesting (cursor.rest.length + 1) true [] blank cursor) closeObject
    else refuse expected

/-! ## any value -/

/-- Any value with at most so many brackets inside one another. -/
def anyWithin : Nat → Decoder Value
  | 0 => fun _ => failNext .recursionLimit
  | depth + 1 => fun nesting => value fun b => do
    if b == 0x6e then do skip; literal (Bytes.ascii "ull"); return .null
    else if b == 0x74 then do skip; literal (Bytes.ascii "rue"); return .boolean true
    else if b == 0x66 then do skip; literal (Bytes.ascii "alse"); return .boolean false
    else if b == 0x2d || isDigit b then
      match ← number with
      | .integer n => return .integer n
      | .real x => return .real x
    else if b == StringLiteral.quote then do skip; return .string (← StringLiteral.read)
    else if b == 0x5b then return .list (← enter nesting (listBody (anyWithin depth)))
    else if b == 0x7b then
      return .object (sortEntries (← enter nesting (objectBody (anyWithin depth))))
    else failNext .expectedValue

/-- Any value. Each level of it opens a bracket, so the limit on brackets bounds the levels. -/
def any : Decoder Value := fun nesting => anyWithin (nesting + 1) nesting

end Decoder

/-- Reads a text that holds one value and nothing else. -/
def decode {α : Type} (decoder : Decoder α) (text : Bytes) : Except Error α :=
  let whole : Reader α := do
    let a ← decoder maxNesting
    match ← Reader.peekSolid? with
    | some _ => Reader.failNext .trailingCharacters
    | none => return a
  (whole ⟨text, {}⟩).1

end Reply.Json
