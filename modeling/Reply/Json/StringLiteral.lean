import Reply.Json.Cursor
import Reply.Text.Utf8

/-!
# Reply.Json.StringLiteral

Strings in a JSON text, from behind the quote that opens them.

1. A control character must not stand in a string as it is.
2. A backslash begins an escape: one of eight letters, or the four digits of
   a UTF-16 unit. A high surrogate needs a low one in the escape that follows
   at once, and a low one must not come first.
3. What a string says must be UTF-8. The fault is reported once the closing
   quote is reached, and as far before it as what the string says from the
   first byte on that begins no character. Where no escape follows, that is the
   place of this byte.

A string that is only moved over is not decoded, so of its escapes only the
form counts.
-/

namespace Reply.Json.StringLiteral

def quote : UInt8 := 0x22
def backslash : UInt8 := 0x5c

/-- The byte that an escape letter stands for. -/
def letter? (b : UInt8) : Option UInt8 :=
  if b == quote || b == backslash || b == 0x2f then some b
  else if b == 0x62 then some 0x08
  else if b == 0x66 then some 0x0c
  else if b == 0x6e then some 0x0a
  else if b == 0x72 then some 0x0d
  else if b == 0x74 then some 0x09
  else none

/-- The value of a hexadecimal digit. -/
def hexDigit? (b : UInt8) : Option Nat :=
  if isDigit b then some (b.toNat - 0x30)
  else if 0x61 ≤ b && b ≤ 0x66 then some (b.toNat - 0x61 + 10)
  else if 0x41 ≤ b && b ≤ 0x46 then some (b.toNat - 0x41 + 10)
  else none

/-- The UTF-16 unit of four hexadecimal digits. -/
def unit? (a b c d : UInt8) : Option Nat :=
  match hexDigit? a, hexDigit? b, hexDigit? c, hexDigit? d with
  | some a, some b, some c, some d => some (((a * 16 + b) * 16 + c) * 16 + d)
  | _, _, _, _ => none

def isHigh (unit : Nat) : Bool := 0xd800 ≤ unit && unit ≤ 0xdbff
def isLow (unit : Nat) : Bool := 0xdc00 ≤ unit && unit ≤ 0xdfff

/-- The code point of two surrogates. -/
def combine (high low : Nat) : Nat := (high - 0xd800) * 0x400 + (low - 0xdc00) + 0x10000

/-- Where the reader of a string stands. -/
inductive Mode
  /-- Between characters. -/
  | plain
  /-- Behind a backslash. -/
  | escape
  /-- Among the digits of a unit, behind a high surrogate if there was one. -/
  | unit (high? : Option Nat) (digits : List UInt8)
  /-- Behind a high surrogate. -/
  | surrogate (high : Nat)
  /-- Behind a high surrogate and a backslash. -/
  | surrogateEscape (high : Nat)

/-- What one more byte of a string means. -/
inductive Step
  /-- The string is at its end. -/
  | done
  /-- The string goes on, and so far says these bytes more. -/
  | next (mode : Mode) (said : Bytes)
  /-- The byte must not stand here. -/
  | wrong (fault : Fault)

/-- What a complete unit says. -/
def ofUnit (high? : Option Nat) (unit : Nat) : Step :=
  match high? with
  | some high =>
    if isLow unit then .next .plain (Text.Utf8.encode (combine high unit))
    else .wrong .loneSurrogate
  | none =>
    if isLow unit then .wrong .loneSurrogate
    else if isHigh unit then .next (.surrogate unit) []
    else .next .plain (Text.Utf8.encode unit)

def Mode.step : Mode → UInt8 → Step
  | .plain, b =>
    if b == quote then .done
    else if b == backslash then .next .escape []
    else if b < 0x20 then .wrong .controlCharacter
    else .next .plain [b]
  | .escape, b =>
    if b == 0x75 then .next (.unit none []) []
    else
      match letter? b with
      | some said => .next .plain [said]
      | none => .wrong .invalidEscape
  | .unit before [x, y, z], b =>
    match unit? x y z b with
    | some value => ofUnit before value
    | none => .wrong .invalidEscape
  | .unit before digits, b => .next (.unit before (digits ++ [b])) []
  | .surrogate high, b =>
    if b == backslash then .next (.surrogateEscape high) [] else .wrong .endOfHexEscape
  | .surrogateEscape high, b =>
    if b == 0x75 then .next (.unit (some high) []) [] else .wrong .endOfHexEscape

/-- Reads a string; `said` holds what it says up to here, newest first. -/
def scan (mode : Mode) (said : Bytes) : Bytes → Position → Except Error Bytes × Cursor
  | [], position => (.error ⟨.endInString, some position⟩, ⟨[], position⟩)
  | b :: rest, position =>
    match mode.step b with
    | .done => (.ok said.reverse, ⟨rest, position.after b⟩)
    | .next mode more => scan mode (more.reverseAux said) rest (position.after b)
    | .wrong fault => (.error ⟨fault, some (position.after b)⟩, ⟨rest, position.after b⟩)

/-- Reads a string from behind its opening quote. -/
def read : Reader String := fun cursor =>
  match scan .plain [] cursor.rest cursor.position with
  | (.error e, behind) => (.error e, behind)
  | (.ok said, behind) =>
    match said.text? with
    | some text => (.ok text, behind)
    | none =>
      let beyond := said.length - Text.Utf8.validLength said
      (.error ⟨.invalidCodePoint, some (behind.position.before beyond)⟩, behind)

/-- Moves over a string. A control character is reported before it is taken. -/
def skim (mode : Mode) : Bytes → Position → Except Error Unit × Cursor
  | [], position => (.error ⟨.endInString, some position⟩, ⟨[], position⟩)
  | b :: rest, position =>
    let behind := position.after b
    match mode with
    | .plain =>
      if b == quote then (.ok (), ⟨rest, behind⟩)
      else if b == backslash then skim .escape rest behind
      else if b < 0x20 then (.error ⟨.controlCharacter, some position⟩, ⟨b :: rest, position⟩)
      else skim .plain rest behind
    | .escape =>
      if b == 0x75 then skim (.unit none []) rest behind
      else if (letter? b).isSome then skim .plain rest behind
      else (.error ⟨.invalidEscape, some behind⟩, ⟨rest, behind⟩)
    | .unit _ [x, y, z] =>
      if (unit? x y z b).isSome then skim .plain rest behind
      else (.error ⟨.invalidEscape, some behind⟩, ⟨rest, behind⟩)
    | .unit before digits => skim (.unit before (digits ++ [b])) rest behind
    | .surrogate _ | .surrogateEscape _ => skim .plain rest behind

/-- Moves over a string from behind its opening quote. -/
def skipOver : Reader Unit := fun cursor => skim .plain cursor.rest cursor.position

end Reply.Json.StringLiteral
