import Reply.Bytes
import Reply.Json.Error

/-!
# Reply.Json.Cursor

A place in a text that is being read: the bytes that are left and the
position behind those that were taken.

A `Reader` takes bytes from a cursor. It leaves the cursor where it stopped
even when it fails, because a fault without a place gets the one where the
reading of the surrounding brackets stops.

* `fail` reports a fault behind the last byte taken;
* `failNext` reports it at the next byte, which stays untaken.
-/

namespace Reply.Json

/-- The position behind one more byte. -/
def Position.after (p : Position) (b : UInt8) : Position :=
  if b == 0x0a then ⟨p.line + 1, 0⟩ else ⟨p.line, p.column + 1⟩

/-- The position so many bytes earlier on the same line. -/
def Position.before (p : Position) (bytes : Nat) : Position := ⟨p.line, p.column - bytes⟩

/-- A place in a text. -/
structure Cursor where
  rest : Bytes
  position : Position := {}

namespace Cursor

/-- The position behind the next byte, or behind the last one at the end. -/
def nextPosition (cursor : Cursor) : Position :=
  match cursor.rest with
  | [] => cursor.position
  | b :: _ => cursor.position.after b

/-- Moves over the bytes of a class. -/
def skipWhile (p : UInt8 → Bool) : Bytes → Position → Cursor
  | [], position => ⟨[], position⟩
  | b :: rest, position =>
    if p b then skipWhile p rest (position.after b) else ⟨b :: rest, position⟩

end Cursor

/-- What takes bytes from a cursor and gives a value or a fault. -/
abbrev Reader (α : Type) := Cursor → Except Error α × Cursor

namespace Reader

variable {α β : Type}

protected def pure (a : α) : Reader α := fun cursor => (.ok a, cursor)

/-- Goes on with what was read; a fault ends the reading where it stands. -/
protected def bind (r : Reader α) (f : α → Reader β) : Reader β := fun cursor =>
  match r cursor with
  | (.ok a, cursor) => f a cursor
  | (.error e, cursor) => (.error e, cursor)

instance : Monad Reader where
  pure := Reader.pure
  bind := Reader.bind

/-- Reports a fault behind the last byte taken. -/
def fail (fault : Fault) : Reader α := fun cursor =>
  (.error ⟨fault, some cursor.position⟩, cursor)

/-- Reports a fault at the next byte. -/
def failNext (fault : Fault) : Reader α := fun cursor =>
  (.error ⟨fault, some cursor.nextPosition⟩, cursor)

/-- Reports a fault whose place is yet to be found. -/
def failSomewhere (fault : Fault) : Reader α := fun cursor => (.error ⟨fault, none⟩, cursor)

/-- The next byte, which stays untaken. -/
def peek? : Reader (Option UInt8) := fun cursor => (.ok cursor.rest.head?, cursor)

/-- Takes the next byte, if there is one. -/
def take? : Reader (Option UInt8) := fun cursor =>
  match cursor.rest with
  | [] => (.ok none, cursor)
  | b :: rest => (.ok (some b), ⟨rest, cursor.position.after b⟩)

/-- Takes the next byte. -/
def skip : Reader Unit := do let _ ← take?

/-- White space: space, tab, line feed and carriage return. -/
def isSpace (b : UInt8) : Bool := b == 0x20 || b == 0x09 || b == 0x0a || b == 0x0d

/-- The next byte behind white space. -/
def peekSolid? : Reader (Option UInt8) := fun cursor =>
  let cursor := Cursor.skipWhile isSpace cursor.rest cursor.position
  (.ok cursor.rest.head?, cursor)

/-- Takes the digits that come next. -/
def digits : Reader Bytes := fun cursor =>
  (.ok (cursor.rest.takeWhile isDigit), Cursor.skipWhile isDigit cursor.rest cursor.position)

/-- Takes the bytes of a literal; the first one that differs is a fault. -/
def literal : Bytes → Reader Unit
  | [] => pure ()
  | expected :: rest => do
    match ← take? with
    | none => fail .endInValue
    | some b => if b == expected then literal rest else fail .expectedIdent

end Reader

end Reply.Json
