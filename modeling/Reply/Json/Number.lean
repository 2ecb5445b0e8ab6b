import Reply.Json.Cursor

/-!
# Reply.Json.Number

Numbers in a JSON text.

1. A whole number within a word stays whole; a minus sign makes it negative,
   and minus zero is a real number.
2. Digits that no longer fit into a word count by their place alone.
3. An exponent beyond the range of its word is out of range, unless the
   digits or the sign make the number zero.
-/

namespace Reply.Json

/-- A number as it was read. -/
inductive Number
  | integer (value : Int)
  | real (value : Real)

namespace Number

/-- The greatest significand. -/
def maxWord : Nat := UInt64.size - 1

/-- The greatest negative number that stays whole, without its sign. -/
def maxNegative : Nat := 0x8000000000000000

/-- The greatest exponent that is read. -/
def maxExponent : Nat := 0x7fffffff

def found : Number → Found
  | integer value => .integer value
  | real value => .real value

/-- The value of a digit. -/
def digitValue (b : UInt8) : Nat := b.toNat - 0x30

/-- A significand with one more digit, while it fits into a word. -/
def push? (significand : Nat) (b : UInt8) : Option Nat :=
  let pushed := significand * 10 + digitValue b
  if pushed ≤ maxWord then some pushed else none

/-- Reads digits before the point: the significand, and how many digits no longer fitted. -/
def whole (significand : Nat) : Bytes → Nat × Nat
  | [] => (significand, 0)
  | b :: rest =>
    match push? significand b with
    | some pushed => whole pushed rest
    | none => (significand, rest.length + 1)

/-- Reads digits behind the point: the significand, and how many digits went into it. -/
def fraction (significand taken : Nat) : Bytes → Nat × Nat
  | [] => (significand, taken)
  | b :: rest =>
    match push? significand b with
    | some pushed => fraction pushed (taken + 1) rest
    | none => (significand, taken)

open Reader

/-- The real number of these parts. -/
def assemble (negative : Bool) (significand : Nat) (exponent : Int) : Reader Number :=
  match Real.ofParts? negative significand.toUInt64 exponent with
  | some value => pure (real value)
  | none => fail .numberOutOfRange

/-- An exponent within the range of its word. -/
def clamp (exponent : Int) : Int := max (-maxExponent - 1) (min exponent maxExponent)

/-- Reads the digits of an exponent behind the first one. -/
def exponentDigits (negative : Bool) (significand : Nat) (start : Int) (down : Bool)
    (exponent : Nat) : Bytes → Position → Except Error Number × Cursor
  | [], position =>
    assemble negative significand (clamp (if down then start - exponent else start + exponent))
      ⟨[], position⟩
  | b :: rest, position =>
    if isDigit b then
      let pushed := exponent * 10 + digitValue b
      if pushed ≤ maxExponent then
        exponentDigits negative significand start down pushed rest (position.after b)
      else if significand ≠ 0 && !down then fail .numberOutOfRange ⟨rest, position.after b⟩
      else (.ok (real (.zero negative)), Cursor.skipWhile isDigit rest (position.after b))
    else
      assemble negative significand (clamp (if down then start - exponent else start + exponent))
        ⟨b :: rest, position⟩

/-- Reads an exponent from its letter on. -/
def exponent (negative : Bool) (significand : Nat) (start : Int) : Reader Number := do
  skip
  let sign ← peek?
  let down := sign == some 0x2d
  if down || sign == some 0x2b then skip
  match ← take? with
  | none => fail .endInValue
  | some b =>
    if isDigit b then
      fun cursor =>
        exponentDigits negative significand start down (digitValue b) cursor.rest cursor.position
    else fail .invalidNumber

/-- The letter before an exponent. -/
def isExponent (b : Option UInt8) : Bool := b == some 0x65 || b == some 0x45

/-- Reads a fraction from its point on. -/
def decimal (negative : Bool) (significand : Nat) (start : Int) : Reader Number := do
  skip
  let behind ← digits
  if behind.isEmpty then
    match ← peek? with
    | some _ => failNext .invalidNumber
    | none => failNext .endInValue
  else
    let (significand, taken) := fraction significand 0 behind
    if isExponent (← peek?) then exponent negative significand (start - taken)
    else assemble negative significand (start - taken)

/-- A whole number of that sign. -/
def ofWord (negative : Bool) (significand : Nat) : Number :=
  if !negative then integer significand
  else if 1 ≤ significand ∧ significand ≤ maxNegative then integer (-significand)
  else real (.ofFloat (-significand.toUInt64.toFloat))

/-- Reads what follows the digits before the point; `dropped` of them did not fit. -/
def behindWhole (negative : Bool) (significand dropped : Nat) : Reader Number := do
  let next ← peek?
  if next == some 0x2e then decimal negative significand dropped
  else if isExponent next then exponent negative significand dropped
  else if dropped = 0 then pure (ofWord negative significand)
  else assemble negative significand dropped

/-- Reads a number behind its sign. -/
def read (negative : Bool) : Reader Number := do
  match ← take? with
  | none => fail .endInValue
  | some b =>
    if b == 0x30 then
      match ← peek? with
      | some next => if isDigit next then failNext .invalidNumber else behindWhole negative 0 0
      | none => behindWhole negative 0 0
    else if isDigit b then do
      let (significand, dropped) := whole (digitValue b) (← digits)
      behindWhole negative significand dropped
    else fail .invalidNumber

/-- Moves over an exponent from its letter on. -/
def skipExponent : Reader Unit := do
  skip
  let sign ← peek?
  if sign == some 0x2d || sign == some 0x2b then skip
  match ← take? with
  | some b => if isDigit b then do let _ ← digits; pure () else fail .invalidNumber
  | none => fail .invalidNumber

/-- Moves over what may follow the digits before the point. -/
def skipBehindWhole : Reader Unit := do
  let next ← peek?
  if next == some 0x2e then do
    skip
    let behind ← digits
    if behind.isEmpty then failNext .invalidNumber
    else if isExponent (← peek?) then skipExponent
    else pure ()
  else if isExponent next then skipExponent
  else pure ()

/-- Moves over a number behind its sign, whatever its size. -/
def skipOver : Reader Unit := do
  match ← take? with
  | none => fail .invalidNumber
  | some b =>
    if b == 0x30 then
      match ← peek? with
      | some next => if isDigit next then failNext .invalidNumber else skipBehindWhole
      | none => skipBehindWhole
    else if isDigit b then do
      let _ ← digits
      skipBehindWhole
    else fail .invalidNumber

end Number

end Reply.Json
