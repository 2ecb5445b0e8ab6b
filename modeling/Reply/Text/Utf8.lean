import Reply.Bytes

/-!
# Reply.Text.Utf8

How far a sequence of bytes is UTF-8.

`charLength?` is the length of the character that bytes begin with: the rows
of the table of well-formed sequences, which leaves out overlong forms, the
surrogates and what lies above the last code point. `validLength` is the
number of bytes before the first one that begins no character.
-/

namespace Reply.Text.Utf8

/-- A byte that continues a character. -/
def isTail (b : UInt8) : Bool := 0x80 ≤ b && b ≤ 0xbf

/-- The range of the byte after the first one, and the number of bytes behind that. -/
def lead? (b : UInt8) : Option (UInt8 × UInt8 × Nat) :=
  if 0xc2 ≤ b && b ≤ 0xdf then some (0x80, 0xbf, 0)
  else if b == 0xe0 then some (0xa0, 0xbf, 1)
  else if b == 0xed then some (0x80, 0x9f, 1)
  else if 0xe1 ≤ b && b ≤ 0xef then some (0x80, 0xbf, 1)
  else if b == 0xf0 then some (0x90, 0xbf, 2)
  else if 0xf1 ≤ b && b ≤ 0xf3 then some (0x80, 0xbf, 2)
  else if b == 0xf4 then some (0x80, 0x8f, 2)
  else none

/-- The length of the character that bytes begin with. -/
def charLength? : Bytes → Option Nat
  | [] => none
  | b :: rest =>
    if b < 0x80 then some 1
    else
      match lead? b, rest with
      | some (low, high, more), second :: rest =>
        let tails := rest.take more
        if low ≤ second && second ≤ high && tails.length == more && tails.all isTail then
          some (more + 2)
        else none
      | _, _ => none

/-- Walks over characters; `skip` bytes belong to the present one. -/
def walk : (skip count : Nat) → Bytes → Nat
  | _, count, [] => count
  | skip + 1, count, _ :: rest => walk skip (count + 1) rest
  | 0, count, b :: rest =>
    match charLength? (b :: rest) with
    | some length => walk (length - 1) (count + 1) rest
    | none => count

/-- The number of bytes before the first one that begins no character. -/
def validLength (bytes : Bytes) : Nat := walk 0 0 bytes

/-- The UTF-8 bytes of a code point. -/
def encode (codePoint : Nat) : Bytes := Bytes.ofString (Char.ofNat codePoint).toString

end Reply.Text.Utf8
