import Reply.Json.Real

/-!
# Reply.Json.Value

JSON values and the text they are written as.

1. No white space; the entries of an object in the order they are given.
2. In strings the quote, the backslash and the control characters are
   escaped, five of these by a letter and the others by number; every other
   character stands as it is, in UTF-8.
-/

namespace Reply.Json

/-- A JSON value. -/
inductive Value
  | null
  | boolean (value : Bool)
  | integer (value : Int)
  | real (value : Real)
  | string (text : String)
  | list (elements : List Value)
  | object (entries : List (String × Value))
deriving Inhabited

/-- One digit of a number in hexadecimal. -/
def hexDigit (n : UInt8) : UInt8 := if n < 10 then 0x30 + n else 0x57 + n

/-- A byte of a string as it is written. -/
def escape (b : UInt8) : Bytes :=
  if b == 0x22 then [0x5c, 0x22]
  else if b == 0x5c then [0x5c, 0x5c]
  else if 0x20 ≤ b then [b]
  else if b == 0x08 then [0x5c, 0x62]
  else if b == 0x0c then [0x5c, 0x66]
  else if b == 0x0a then [0x5c, 0x6e]
  else if b == 0x0d then [0x5c, 0x72]
  else if b == 0x09 then [0x5c, 0x74]
  else Bytes.ascii "\\u00" ++ [hexDigit (b / 16), hexDigit (b % 16)]

/-- A string between quotes. -/
def writeString (text : String) : Bytes :=
  0x22 :: ((Bytes.ofString text).flatMap escape ++ [0x22])

mutual

/-- The text of a value. -/
def Value.write : Value → Bytes
  | .null => Bytes.ascii "null"
  | .boolean true => Bytes.ascii "true"
  | .boolean false => Bytes.ascii "false"
  | .integer value => Bytes.ascii (toString value)
  | .real value => Bytes.ascii value.text
  | .string text => writeString text
  | .list [] => Bytes.ascii "[]"
  | .list (first :: rest) => 0x5b :: (first.write ++ writeElements rest)
  | .object [] => Bytes.ascii "\x7b\x7d"
  | .object ((key, value) :: rest) =>
    0x7b :: (writeString key ++ 0x3a :: (value.write ++ writeEntries rest))

/-- The elements behind the first one, and the closing bracket. -/
def writeElements : List Value → Bytes
  | [] => [0x5d]
  | element :: rest => 0x2c :: (element.write ++ writeElements rest)

/-- The entries behind the first one, and the closing bracket. -/
def writeEntries : List (String × Value) → Bytes
  | [] => [0x7d]
  | (key, value) :: rest => 0x2c :: (writeString key ++ 0x3a :: (value.write ++ writeEntries rest))

end

/-- Puts a value under a key, among entries that are in the order of their keys. -/
def putEntry {α : Type} (key : String) (value : α) : List (String × α) → List (String × α)
  | [] => [(key, value)]
  | entry :: rest =>
    if key < entry.1 then (key, value) :: entry :: rest
    else if key == entry.1 then (key, value) :: rest
    else entry :: putEntry key value rest

/-- The entries in the order of their keys; of several under one key the last is kept. -/
def sortEntries {α : Type} (entries : List (String × α)) : List (String × α) :=
  entries.foldl (fun sorted entry => putEntry entry.1 entry.2 sorted) []

end Reply.Json
