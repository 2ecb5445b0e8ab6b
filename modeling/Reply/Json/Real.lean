import Reply.Decimal.Shortest

/-!
# Reply.Json.Real

Numbers with a fraction or an exponent, and whole numbers too great for a
word: binary fractions of 53 bits, kept by their bit pattern.

1. `ofParts?` puts a number together from its digits and its power of ten,
   with one rounding for the digits and one for each scaling; nothing comes
   of a number that is too great.
2. `text` writes the shortest digits that read back: positional while the
   point lies behind the fifth zero and before the seventeenth digit, with a
   signed exponent otherwise.
-/

namespace Reply.Json

/-- A real number in the binary interchange format of 64 bits. -/
structure Real where
  bits : UInt64
deriving DecidableEq, Repr

namespace Real

def ofFloat (x : Float) : Real := ⟨x.toBits⟩

def toFloat (x : Real) : Float := .ofBits x.bits

/-! ## putting a number together -/

/-- The greatest power of ten that is a number. -/
def maxPower : Nat := 308

/-- A power of ten, rounded to the nearest number. -/
def power (n : Nat) : Float := .ofScientific 1 false n

/-- Divides by a power of ten, in steps no greater than `maxPower`. -/
def scaleDown (x : Float) (n : Nat) : Float :=
  if n ≤ maxPower then x / power n
  else if x == 0 then x
  else scaleDown (x / power maxPower) (n - maxPower)
termination_by n
decreasing_by simp only [maxPower] at *; omega

/-- The number `significand * 10 ^ exponent`, unless it is too great. -/
def ofParts? (negative : Bool) (significand : UInt64) (exponent : Int) : Option Real :=
  let x := significand.toFloat
  let signed (x : Float) := ofFloat (if negative then -x else x)
  if exponent ≥ 0 then
    if exponent.toNat ≤ maxPower then
      let product := x * power exponent.toNat
      if product.isInf then none else some (signed product)
    else if x == 0 then some (signed x)
    else none
  else some (signed (scaleDown x (-exponent).toNat))

/-- Zero, of either sign. -/
def zero (negative : Bool) : Real := ⟨if negative then 0x8000000000000000 else 0⟩

/-! ## text -/

def isNegative (x : Real) : Bool := 0x8000000000000000 ≤ x.bits

/-- The bit above the fraction, which a normal number has without its being written. -/
def hiddenBit : Nat := 0x10000000000000

/-- The fraction and exponent behind the sign, for a number that is not zero. -/
def magnitude (x : Real) : Decimal.Binary :=
  let fraction := x.bits.toNat % hiddenBit
  let biased := x.bits.toNat / hiddenBit % 0x800
  if biased = 0 then ⟨fraction, -1074, false⟩
  else ⟨fraction + hiddenBit, (biased : Int) - 1075, decide (fraction = 0) && decide (1 < biased)⟩

/-- The point of a positional number stands at most here. -/
def lastPoint : Int := 16

/-- The point of a positional number stands behind this place. -/
def firstPoint : Int := -5

/-- Decimal digits as text. -/
def render (x : Decimal.Scaled) : String :=
  let digits := (Nat.repr x.digits).toList
  let point : Int := digits.length + x.exponent
  let zeros (n : Int) := List.replicate n.toNat '0'
  if 0 ≤ x.exponent ∧ point ≤ lastPoint then
    String.ofList (digits ++ zeros x.exponent ++ ['.', '0'])
  else if 0 < point ∧ point ≤ lastPoint then
    String.ofList (digits.take point.toNat ++ '.' :: digits.drop point.toNat)
  else if firstPoint < point ∧ point ≤ 0 then
    String.ofList ('0' :: '.' :: zeros (-point) ++ digits)
  else
    let lead := match digits with
      | first :: [] => [first]
      | first :: rest => first :: '.' :: rest
      | [] => []
    String.ofList lead ++ (if point > 0 then "e+" else "e-") ++ toString (point - 1).natAbs

/-- The number as text. -/
def text (x : Real) : String :=
  let sign := if x.isNegative then "-" else ""
  if x.bits &&& 0x7fffffffffffffff = 0 then sign ++ "0.0"
  else sign ++ render x.magnitude.nearest

end Real

end Reply.Json
