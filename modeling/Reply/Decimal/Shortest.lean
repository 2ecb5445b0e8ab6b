import Reply.Decimal

/-!
# Reply.Decimal.Shortest

The shortest decimal text of a binary fraction.

A positive number `m * 2 ^ q` stands for every real that rounds to it: those
between the halves of its gaps to both neighbours, both ends included when
`m` is even. `nearest` takes the coarsest power of ten that has a multiple in
that range, and of its multiples the one nearest the number itself.
-/

namespace Reply.Decimal

/-- A decimal number `digits * 10 ^ exponent`. -/
structure Scaled where
  digits : Nat
  exponent : Int
deriving DecidableEq, Repr

/-- A positive binary fraction `mantissa * 2 ^ exponent`, with its gap to the next smaller one:
as wide as the gap above it, or half as wide where `narrow` holds. -/
structure Binary where
  mantissa : Nat
  exponent : Int
  narrow : Bool
deriving DecidableEq, Repr

namespace Binary

/-- Four times a number of units, as a fraction of two naturals. -/
def quarters (n : Nat) (exponent : Int) : Nat × Nat :=
  if exponent ≥ 2 then (n * Nat.pow 2 (exponent - 2).toNat, 1)
  else (n, Nat.pow 2 (2 - exponent).toNat)

/-- The multiple of `10 ^ k` among the reals that round to the number, if there is one. -/
def multiple? (x : Binary) (k : Int) : Option Nat :=
  let (mid, den) := quarters (4 * x.mantissa) x.exponent
  let (low, _) := quarters (4 * x.mantissa - if x.narrow then 1 else 2) x.exponent
  let (high, _) := quarters (4 * x.mantissa + 2) x.exponent
  -- every side is brought over the common denominator `den * 10 ^ -k`
  let grid := if k ≥ 0 then den * Nat.pow 10 k.toNat else den
  let scale := if k ≥ 0 then 1 else Nat.pow 10 (-k).toNat
  let inside (d : Nat) : Bool :=
    let point := d * grid
    if x.mantissa % 2 = 0 then decide (low * scale ≤ point) && decide (point ≤ high * scale)
    else decide (low * scale < point) && decide (point < high * scale)
  let below := mid * scale / grid
  let above := below + 1
  let toBelow := mid * scale - below * grid
  let toAbove := above * grid - mid * scale
  match decide (0 < below) && inside below, inside above with
  | true, true =>
    if toBelow < toAbove then some below
    else if toAbove < toBelow then some above
    else if below % 2 = 0 then some below else some above
  | true, false => some below
  | false, true => some above
  | false, false => none

/-- The powers of ten that come into question, the greatest first. -/
def exponents : List Int := (List.range 650).map fun (i : Nat) => 310 - (i : Int)

/-- The shortest decimal number that rounds to `x`. -/
def nearest (x : Binary) : Scaled :=
  (exponents.findSome? fun k => (x.multiple? k).map (⟨·, k⟩)).getD ⟨0, 0⟩

end Binary

end Reply.Decimal
