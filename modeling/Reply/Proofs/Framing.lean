import Reply.Framing

/-!
# Reply.Proofs.Framing

Headers that say in one way where the body ends, and are read as saying it.

1. `framed_frame`: whatever framings headers carry, and however often,
   `Headers.frame` leaves the one that belongs to the payload size.
2. `values_frame_of_ne`: it leaves all other fields alone.
3. `announcedSize_frame`: a peer reads back the size that was framed, with the
   length of the body in the place of whatever length was known.
4. `frame_frame`: framing again for the same body changes nothing.
-/

namespace Reply

/-! ## decimal text -/

namespace Decimal

theorem digit_eq_digitChar : ∀ n < 10, digit n = UInt8.ofNat n.digitChar.toNat := by decide

/-- Lengths are written the way numbers are shown. -/
theorem digits_eq_ascii (n : Nat) : digits n = Bytes.ascii (toString n) := by
  show digits n = (toString n).toList.map fun c => UInt8.ofNat c.toNat
  rw [Nat.toString_eq_repr, Nat.toList_repr]
  induction n using digits.induct with
  | case1 n h =>
    rw [digits, if_pos h, Nat.toDigits_of_lt_base h, digit_eq_digitChar n h]
    rfl
  | case2 n h ih =>
    have last : n % 10 < 10 := Nat.mod_lt n (by decide)
    rw [digits, if_neg h, ih, digit_eq_digitChar _ last,
      Nat.toDigits_of_base_le (n := n) (by decide) (Nat.le_of_not_lt h), List.map_append]
    rfl

end Decimal

/-! ## reading a length -/

theorem isBlank_eq_false_of_isDigit {b : UInt8} (h : isDigit b = true) : isBlank b = false := by
  cases blank : isBlank b with
  | false => rfl
  | true =>
    simp only [isBlank, Bool.or_eq_true, beq_iff_eq] at blank
    rcases blank with rfl | rfl <;> exact absurd h (by decide)

/-- There are no blanks in front of a run of digits. -/
theorem dropWhile_isBlank_digits {text : Bytes} (h : text.all isDigit = true) :
    text.dropWhile isBlank = text := by
  cases text with
  | nil => rfl
  | cons b rest =>
    rw [List.all_cons, Bool.and_eq_true] at h
    rw [List.dropWhile_cons_of_neg (by simp [isBlank_eq_false_of_isDigit h.1])]

theorem trimBlanks_digits {text : Bytes} (h : text.all isDigit = true) :
    trimBlanks text = text := by
  rw [trimBlanks, dropWhile_isBlank_digits h,
    dropWhile_isBlank_digits (by rwa [List.all_reverse]), List.reverse_reverse]

/-- A number of one word reads back from its digits. -/
theorem word?_digits {n : Nat} (h : n ≤ PayloadSize.maxLength) :
    word? (Decimal.digits n) = some n := by
  have all := Decimal.all_isDigit_digits n
  unfold word?
  split
  · rename_i digits plus
    rw [plus, List.all_cons, Bool.and_eq_true] at all
    exact absurd all.1 (by decide)
  · simp [Decimal.value?_digits, h]

namespace FieldValue

theorem visible?_ofNat (n : Nat) : (ofNat n).visible? = some (Decimal.digits n) := by
  have all : (Decimal.digits n).all isVisible = true := by
    have digits := List.all_eq_true.1 (Decimal.all_isDigit_digits n)
    exact List.all_eq_true.2 fun b h => isVisible_of_isDigit (digits b h)
  exact if_pos all

end FieldValue

/-! ## framing -/

namespace Headers

/-- Headers with one framing and no other, for a payload of this size in so many bytes. -/
def Framed (headers : Headers) (size : PayloadSize) (bodyLength : Nat) : Prop :=
  match size with
  | .known _ =>
    (headers.values .contentLength).map (·.bytes) = [Bytes.ascii (toString bodyLength)] ∧
      headers.values .transferEncoding = []
  | .chunked =>
    (headers.values .transferEncoding).map (·.bytes) = [Bytes.ascii "chunked"] ∧
      headers.values .contentLength = []

theorem contentLength_ne_transferEncoding :
    FieldName.contentLength ≠ FieldName.transferEncoding := by decide

/-- A known length is one Content-Length, however many there were of it and of any other. -/
theorem values_frame_known (headers : Headers) (length bodyLength : Nat) :
    (headers.frame (.known length) bodyLength).values .contentLength = [.ofNat bodyLength] ∧
      (headers.frame (.known length) bodyLength).values .transferEncoding = [] := by
  simp [frame, values_insert, values_remove, contentLength_ne_transferEncoding]

/-- An unknown length is one Transfer-Encoding. -/
theorem values_frame_chunked (headers : Headers) (bodyLength : Nat) :
    (headers.frame .chunked bodyLength).values .transferEncoding = [.chunked] ∧
      (headers.frame .chunked bodyLength).values .contentLength = [] := by
  simp [frame, values_insert, values_remove, contentLength_ne_transferEncoding.symm]

theorem framed_frame (headers : Headers) (size : PayloadSize) (bodyLength : Nat) :
    (headers.frame size bodyLength).Framed size bodyLength := by
  cases size with
  | known length =>
    obtain ⟨one, none⟩ := values_frame_known headers length bodyLength
    rw [Framed, one, none]
    exact ⟨congrArg ([·]) (Decimal.digits_eq_ascii bodyLength), rfl⟩
  | chunked =>
    obtain ⟨one, none⟩ := values_frame_chunked headers bodyLength
    rw [Framed, one, none]
    exact ⟨rfl, rfl⟩

/-- Fields that do not say where the body ends stay as they are. -/
theorem values_frame_of_ne (headers : Headers) (size : PayloadSize) (bodyLength : Nat)
    {name : FieldName} (notLength : name ≠ .contentLength) (notCoding : name ≠ .transferEncoding) :
    (headers.frame size bodyLength).values name = headers.values name := by
  cases size <;> simp [frame, values_insert, values_remove, notLength.symm, notCoding.symm]

/-- What was framed is what a peer takes the headers to announce. -/
theorem announcedSize_frame (headers : Headers) (size : PayloadSize) {bodyLength : Nat}
    (fits : size.isChunked = false → bodyLength ≤ PayloadSize.maxLength) :
    (headers.frame size bodyLength).announcedSize =
      if size.isChunked then .chunked else .known bodyLength := by
  cases size with
  | known length =>
    have one := (values_frame_known headers length bodyLength).1
    have digits := Decimal.all_isDigit_digits bodyLength
    simp [announcedSize, visible?, get?, one, FieldValue.visible?_ofNat, trimBlanks_digits digits,
      word?_digits (fits rfl), PayloadSize.ofLength?, PayloadSize.isChunked]
  | chunked =>
    have none := (values_frame_chunked headers bodyLength).2
    simp [announcedSize, visible?, get?, none, PayloadSize.ofLength?, PayloadSize.isChunked]

end Headers

/-! ## framing again -/

namespace Fields

/-- A name that has no values stands nowhere, so there is no gap to fill. -/
theorem remove_eq_self {name : FieldName} {fields : List Field}
    (absent : values name fields = []) : remove name fields = fields := by
  induction fields with
  | nil => rfl
  | cons field rest ih =>
    by_cases h : field.name = name
    · simp [values, h, Field.values] at absent
    · simp only [values, h, if_false] at absent
      simp [remove, h, ih absent]

/-- A field that has this value alone stays what it is, and where it is. -/
theorem insert_eq_self {name : FieldName} {value : FieldValue} {fields : List Field}
    (alone : values name fields = [value]) : insert name value fields = fields := by
  induction fields with
  | nil => simp [values] at alone
  | cons field rest ih =>
    by_cases h : field.name = name
    · rw [values, if_pos h, Field.values, List.cons.injEq] at alone
      obtain ⟨first, none⟩ := alone
      rw [insert, if_pos h, ← h, ← first, ← none]
    · simp only [values, h, if_false] at alone
      simp [insert, h, ih alone]

end Fields

namespace Headers

theorem eq_of_fields {a b : Headers} (h : a.fields = b.fields) : a = b := by
  cases a
  cases b
  cases h
  rfl

theorem remove_eq_self {headers : Headers} {name : FieldName}
    (absent : headers.values name = []) : headers.remove name = headers :=
  eq_of_fields (Fields.remove_eq_self absent)

theorem insert_eq_self {headers : Headers} {name : FieldName} {value : FieldValue}
    (alone : headers.values name = [value]) : headers.insert name value = headers :=
  eq_of_fields (Fields.insert_eq_self alone)

/-- Framing is a fixed point of itself, whatever length was known before. -/
theorem frame_frame (headers : Headers) {size again : PayloadSize} (bodyLength : Nat)
    (same : again.isChunked = size.isChunked) :
    (headers.frame size bodyLength).frame again bodyLength = headers.frame size bodyLength := by
  cases size with
  | known length =>
    obtain ⟨one, none⟩ := values_frame_known headers length bodyLength
    cases again with
    | chunked => cases same
    | known => rw [frame, remove_eq_self none, insert_eq_self one]
  | chunked =>
    obtain ⟨one, none⟩ := values_frame_chunked headers bodyLength
    cases again with
    | known => cases same
    | chunked => rw [frame, remove_eq_self none, insert_eq_self one]

end Headers

end Reply
