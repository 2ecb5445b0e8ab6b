/-!
# Reply.Bytes

Octets, and the character classes by which header fields, media types and
numbers are read:

* `isVisible`: the octets of readable header text, 0x20 to 0x7e and the tab;
* `isToken`: the octets of a token, that is of a method, a field name or
  one half of a media type;
* `isFieldOctet`: the octets a field value may hold.

Everything a body, a field or a stream carries is a `Bytes`, so that each law
of the library is a law on lists.
-/

namespace Reply

/-- A sequence of octets. -/
abbrev Bytes := List UInt8

namespace Bytes

/-- The UTF-8 octets of a text. -/
def ofString (text : String) : Bytes := text.toUTF8.data.toList

/-- One octet for each character. On ASCII text these are its UTF-8 octets. -/
def ascii (text : String) : Bytes := text.toList.map fun c => UInt8.ofNat c.toNat

/-- The text whose UTF-8 octets these are, or nothing where they are no UTF-8. -/
def text? (bytes : Bytes) : Option String := String.fromUTF8? ⟨bytes.toArray⟩

/-- One character for each octet. On ASCII octets this is the text they spell. -/
def latin (bytes : Bytes) : String :=
  String.ofList (bytes.map fun b => Char.ofNat b.toNat)

/-- `part` occurs in `bytes` as a run of adjacent octets. -/
def contains (part : Bytes) : Bytes → Bool
  | [] => part.isEmpty
  | b :: rest => part.isPrefixOf (b :: rest) || contains part rest

/-- An occurrence is a run of adjacent octets, with anything before and behind it. -/
theorem contains_iff {part bytes : Bytes} : contains part bytes = true ↔ part <:+: bytes := by
  induction bytes with
  | nil => simp [contains]
  | cons b rest ih =>
    simp [contains, ih, List.infix_cons_iff, List.isPrefixOf_iff_prefix]

/-- Cuts bytes into slices of `size` each, the last of which may be shorter. Slices hold at least
one byte, whatever the size. -/
def slices (size : Nat) (bytes : Bytes) : List Bytes :=
  cut [] bytes
where
  /-- Goes on behind the slices in `done`, which are in reverse order. -/
  cut (done : List Bytes) (left : Bytes) : List Bytes :=
    if left.isEmpty then done.reverse
    else cut (left.take (max size 1) :: done) (left.drop (max size 1))
  termination_by left.length
  decreasing_by
    rename_i some
    have : 0 < left.length := List.length_pos_iff.2 fun none => some (by simp [none])
    simp only [List.length_drop]
    omega

/-- The slices in order are the bytes. -/
theorem flatten_slices (size : Nat) (bytes : Bytes) : (bytes.slices size).flatten = bytes := by
  suffices h : ∀ done left, (slices.cut size done left).flatten = done.reverse.flatten ++ left from
    h [] bytes
  intro done left
  fun_induction slices.cut size done left with
  | case1 done left none => simp [List.isEmpty_iff.1 none]
  | case2 done left _ ih => rw [ih]; simp

end Bytes

/-! ## character classes -/

/-- A decimal digit. -/
def isDigit (b : UInt8) : Bool := 0x30 ≤ b && b ≤ 0x39

/-- A capital letter of ASCII. -/
def isCapital (b : UInt8) : Bool := 0x41 ≤ b && b ≤ 0x5a

/-- A small letter of ASCII. -/
def isSmall (b : UInt8) : Bool := 0x61 ≤ b && b ≤ 0x7a

/-- A letter or digit of ASCII. -/
def isAlphanumeric (b : UInt8) : Bool := isDigit b || isCapital b || isSmall b

/-- The fifteen marks a token may hold: ``!#$%&'*+-.^_`|~``. -/
def isTokenMark (b : UInt8) : Bool :=
  b == 0x21 || (0x23 ≤ b && b ≤ 0x27) || b == 0x2a || b == 0x2b || b == 0x2d || b == 0x2e ||
    (0x5e ≤ b && b ≤ 0x60) || b == 0x7c || b == 0x7e

/-- An octet of a token. -/
def isToken (b : UInt8) : Bool := isAlphanumeric b || isTokenMark b

/-- An octet of readable header text: the printable ASCII characters and the tab. -/
def isVisible (b : UInt8) : Bool := (0x20 ≤ b && b ≤ 0x7e) || b == 0x09

/-- An octet a field value may hold: all but the control characters, the tab excepted. -/
def isFieldOctet (b : UInt8) : Bool := (0x20 ≤ b && b != 0x7f) || b == 0x09

/-- A space or a tab. -/
def isBlank (b : UInt8) : Bool := b == 0x20 || b == 0x09

/-- The small letter of a capital one; any other octet as it is. -/
def lower (b : UInt8) : UInt8 := if isCapital b then b + 0x20 else b

/-- A digit is readable. -/
theorem isVisible_of_isDigit {b : UInt8} (h : isDigit b = true) : isVisible b = true := by
  simp only [isDigit, isVisible, Bool.or_eq_true, Bool.and_eq_true, decide_eq_true_eq] at h ⊢
  exact .inl ⟨UInt8.le_trans (by decide) h.1, UInt8.le_trans h.2 (by decide)⟩

/-- Readable text is a legal field value. -/
theorem isFieldOctet_of_isVisible {b : UInt8} (h : isVisible b = true) : isFieldOctet b = true := by
  simp only [isVisible, isFieldOctet, Bool.or_eq_true, Bool.and_eq_true, decide_eq_true_eq,
    beq_iff_eq, bne_iff_ne] at h ⊢
  rcases h with ⟨low, high⟩ | tab
  · refine .inl ⟨low, ?_⟩
    rintro rfl
    exact absurd high (by decide)
  · exact .inr tab

theorem isFieldOctet_of_isDigit {b : UInt8} (h : isDigit b = true) : isFieldOctet b = true :=
  isFieldOctet_of_isVisible (isVisible_of_isDigit h)

end Reply
