/-!
# Reply.Payload

The size of a payload: the number of bytes written so far while it is small
enough to be announced, and unknown from `chunkThreshold` on.

1. `advance` accounts for further bytes; a payload moves from a known length
   to chunked and never back.
2. `signed` is the number older peers put on the wire, with -1 for unknown.
3. Lengths are counted in a 64-bit word that stays at its greatest value
   instead of wrapping round.
-/

namespace Reply

/-- The size information of a payload. -/
inductive PayloadSize
  /-- The exact number of bytes written so far. -/
  | known (length : Nat)
  /-- An unknown length, framed in chunks. -/
  | chunked
deriving DecidableEq, Repr

namespace PayloadSize

/-- From this many bytes on a payload goes out in chunks. -/
def chunkThreshold : Nat := 5000000

/-- The greatest length that is counted. -/
def maxLength : Nat := UInt64.size - 1

/-- The greatest length that older peers can be told. -/
def maxSigned : Nat := 0x7fffffffffffffff

instance : Inhabited PayloadSize := ⟨.known 0⟩

/-- A length where there is one, chunked where there is none. -/
def ofLength? : Option Nat → PayloadSize
  | some length => .known length
  | none => .chunked

/-- The known length, if any. -/
def length? : PayloadSize → Option Nat
  | known length => some length
  | chunked => none

def isChunked : PayloadSize → Bool
  | known _ => false
  | chunked => true

/-- The length after `written` more bytes, held at `maxLength`. -/
def total (length written : Nat) : Nat := min (length + written) maxLength

/-- Accounts for `written` more bytes. -/
def advance : PayloadSize → Nat → PayloadSize
  | known length, written =>
    if chunkThreshold ≤ total length written then chunked else known (total length written)
  | chunked, _ => chunked

/-- The total at which `written` more bytes turn a known length into an unknown one. -/
def crossing? : PayloadSize → Nat → Option Nat
  | known length, written =>
    if chunkThreshold ≤ total length written then some (total length written) else none
  | chunked, _ => none

/-- The signed form: the length, or -1 where it is unknown or too great for the word. -/
def signed : PayloadSize → Int
  | known length => if length ≤ maxSigned then length else -1
  | chunked => -1

/-- The size as one word of text. -/
def describe : PayloadSize → String
  | known length => s!"Length({length})"
  | chunked => "Chunked"

/-- A crossing is exactly a step from a known length to chunked. -/
theorem isSome_crossing? (size : PayloadSize) (written : Nat) :
    (size.crossing? written).isSome = (!size.isChunked && (size.advance written).isChunked) := by
  cases size with
  | known length => simp only [crossing?, advance]; split <;> rfl
  | chunked => rfl

end PayloadSize

end Reply
