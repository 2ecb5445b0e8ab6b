import Reply.Bytes

/-!
# Reply.Decimal

Natural numbers as decimal digits.

* `digits n` writes `n` without leading zeros;
* `value? bytes` reads one or more digits, leading zeros allowed;
* `value?_digits`: what is written reads back.
-/

namespace Reply.Decimal

/-- The digit of a number below ten. -/
def digit (n : Nat) : UInt8 := UInt8.ofNat (0x30 + n)

/-- The decimal digits of `n`, most significant first, without leading zeros. -/
def digits (n : Nat) : Bytes :=
  if n < 10 then [digit n] else digits (n / 10) ++ [digit (n % 10)]

/-- The number that a run of digits continues to, when `high` stands before it. -/
def valueFrom (high : Nat) (bytes : Bytes) : Nat :=
  bytes.foldl (fun n b => 10 * n + (b.toNat - 0x30)) high

/-- The number written by one or more digits; nothing for any other text. -/
def value? (bytes : Bytes) : Option Nat :=
  if bytes ≠ [] ∧ bytes.all isDigit then some (valueFrom 0 bytes) else none

/-! ## reading what was written -/

theorem toNat_digit {n : Nat} (h : n < 10) : (digit n).toNat = 0x30 + n := by
  simp [digit, UInt8.toNat_ofNat']; omega

theorem isDigit_digit {n : Nat} (h : n < 10) : isDigit (digit n) = true := by
  simp only [isDigit, Bool.and_eq_true, decide_eq_true_eq, UInt8.le_iff_toNat_le, toNat_digit h]
  constructor
  · show 48 ≤ 48 + n
    omega
  · show 48 + n ≤ 57
    omega

theorem digits_ne_nil (n : Nat) : digits n ≠ [] := by
  unfold digits; split <;> simp

theorem all_isDigit_digits (n : Nat) : (digits n).all isDigit = true := by
  induction n using digits.induct with
  | case1 n h => unfold digits; simp [h, isDigit_digit h]
  | case2 n h ih =>
    unfold digits
    rw [if_neg h, List.all_append, ih]
    simp [isDigit_digit (Nat.mod_lt n (by decide : 0 < 10))]

theorem valueFrom_append (high : Nat) (a b : Bytes) :
    valueFrom high (a ++ b) = valueFrom (valueFrom high a) b := by
  simp [valueFrom]

theorem valueFrom_digits (n : Nat) : valueFrom 0 (digits n) = n := by
  induction n using digits.induct with
  | case1 n h => unfold digits; simp [h, valueFrom, toNat_digit h]
  | case2 n h ih =>
    unfold digits
    rw [if_neg h, valueFrom_append, ih]
    simp only [valueFrom, List.foldl_cons, List.foldl_nil,
      toNat_digit (Nat.mod_lt n (by decide : 0 < 10))]
    omega

/-- Every number reads back from its digits. -/
theorem value?_digits (n : Nat) : value? (digits n) = some n := by
  simp [value?, digits_ne_nil, all_isDigit_digits, valueFrom_digits]

end Reply.Decimal
