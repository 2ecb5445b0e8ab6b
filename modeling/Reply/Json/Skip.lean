import Reply.Json.Number
import Reply.Json.StringLiteral

/-!
# Reply.Json.Skip

Moving over a value that nobody asked for.

The open brackets are held in a list, so nesting has no limit here. A comma
is followed by a value, or by a key and a value; what stands there instead
is reported as what is missing, never as a trailing comma.
-/

namespace Reply.Json.Skip

open Reader

/-- A bracket that is open. -/
inductive Bracket
  | list
  | object
deriving DecidableEq

namespace Bracket

def closer : Bracket → UInt8
  | list => 0x5d
  | object => 0x7d

/-- The text ends inside the bracket. -/
def ended : Bracket → Fault
  | list => .endInList
  | object => .endInObject

/-- Neither a comma nor the closing bracket follows a value. -/
def unfinished : Bracket → Fault
  | list => .expectedListEnd
  | object => .expectedObjectEnd

end Bracket

/-- Where the reading of a value stands. -/
inductive Place
  /-- Before a value. -/
  | value
  /-- Behind a value. -/
  | behind
  /-- Behind an opening bracket. -/
  | opened

/-- Moves over a key and its colon. -/
def key : Reader Unit := do
  match ← peekSolid? with
  | none => failNext .endInObject
  | some b =>
    if b != StringLiteral.quote then failNext .keyNotString
    else
      skip
      StringLiteral.skipOver
      match ← peekSolid? with
      | none => failNext .endInObject
      | some b => if b == 0x3a then skip else failNext .expectedColon

/-- Moves to the next value in a bracket. -/
def advance (bracket : Bracket) : Reader Unit :=
  match bracket with
  | .list => pure ()
  | .object => key

/-- Moves over one scalar or bracket; nothing is left to do once the value is complete. -/
def step (place : Place) (open? : List Bracket) : Reader (Option (Place × List Bracket)) := do
  match place, open? with
  | .value, _ =>
    match ← peekSolid? with
    | none => failNext .endInValue
    | some b =>
      if b == 0x6e then do skip; literal (Bytes.ascii "ull"); return some (.behind, open?)
      else if b == 0x74 then do skip; literal (Bytes.ascii "rue"); return some (.behind, open?)
      else if b == 0x66 then do skip; literal (Bytes.ascii "alse"); return some (.behind, open?)
      else if b == 0x2d then do skip; Number.skipOver; return some (.behind, open?)
      else if isDigit b then do Number.skipOver; return some (.behind, open?)
      else if b == StringLiteral.quote then do
        skip
        StringLiteral.skipOver
        return some (.behind, open?)
      else if b == 0x5b then do skip; return some (.opened, .list :: open?)
      else if b == 0x7b then do skip; return some (.opened, .object :: open?)
      else failNext .expectedValue
  | _, [] => return none
  | .opened, bracket :: outer =>
    match ← peekSolid? with
    | none => failNext bracket.ended
    | some b =>
      if b == bracket.closer then do skip; return some (.behind, outer)
      else do advance bracket; return some (.value, open?)
  | .behind, bracket :: outer =>
    match ← peekSolid? with
    | none => failNext bracket.ended
    | some b =>
      if b == 0x2c then do skip; advance bracket; return some (.value, open?)
      else if b == bracket.closer then do skip; return some (.behind, outer)
      else failNext bracket.unfinished

/-- Takes steps until the value is complete. -/
def run : Nat → Place → List Bracket → Cursor → Except Error Unit × Cursor
  | 0, _, _, cursor => fail .endInValue cursor
  | fuel + 1, place, open?, cursor =>
    match step place open? cursor with
    | (.error e, cursor) => (.error e, cursor)
    | (.ok none, cursor) => (.ok (), cursor)
    | (.ok (some (place, open?)), cursor) => run fuel place open? cursor

/-- Moves over a value. Of two steps in a row one takes a byte, so twice the bytes that are left,
and a few for the end, are steps enough. -/
def value : Reader Unit := fun cursor => run (2 * cursor.rest.length + 3) .value [] cursor

end Reply.Json.Skip
