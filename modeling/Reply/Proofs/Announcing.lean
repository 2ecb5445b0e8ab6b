import Mathlib.Data.List.TakeWhile
import Mathlib.Data.Nat.Digits.Defs
import Reply.Proofs.Framing

/-!
# Reply.Proofs.Announcing

Which headers announce a length.

1. Trimming takes off the blanks around a text and nothing else
   (`exists_trimBlanks`, `trimBlanks_around`).
2. What is read as a number of one word is a run of digits, perhaps behind a plus
   sign (`word?_eq_some_iff`).
3. So headers announce a length just if their first Content-Length spells it, with
   or without a plus sign; anything else announces no length
   (`announced_length_is_spelled`).
4. By the grammar of the field there is no sign: `signed_length_is_announced` is a
   length that is announced against it.
-/

namespace Reply

/-! ## blanks -/

/-- The blanks are in front of and behind what is left. -/
theorem exists_trimBlanks (text : Bytes) :
    ∃ before after, text = before ++ trimBlanks text ++ after ∧
      (∀ b ∈ before, isBlank b = true) ∧ ∀ b ∈ after, isBlank b = true := by
  let rest := text.dropWhile isBlank
  refine ⟨text.takeWhile isBlank, (rest.reverse.takeWhile isBlank).reverse, ?_, ?_, ?_⟩
  · have cut : rest = trimBlanks text ++ (rest.reverse.takeWhile isBlank).reverse := by
      rw [trimBlanks, ← List.reverse_append, List.takeWhile_append_dropWhile, List.reverse_reverse]
    rw [List.append_assoc, ← cut, List.takeWhile_append_dropWhile]
  · exact fun b member => List.mem_takeWhile_imp member
  · exact fun b member => List.mem_takeWhile_imp (List.mem_reverse.1 member)

/-- Dropping stops at a text that neither is empty nor has a blank. -/
theorem dropWhile_isBlank_around {before core after : Bytes} (some : core ≠ [])
    (blanks : ∀ b ∈ before, isBlank b = true) (compact : ∀ b ∈ core, isBlank b = false) :
    (before ++ core ++ after).dropWhile isBlank = core ++ after := by
  obtain ⟨b, rest, rfl⟩ := List.exists_cons_of_ne_nil some
  rw [List.append_assoc, List.dropWhile_append_of_pos blanks, List.cons_append,
    List.dropWhile_cons_of_neg (by simp [compact])]

/-- What stands between blanks is what is left of it. -/
theorem trimBlanks_around {before core after : Bytes} (some : core ≠ [])
    (blanksBefore : ∀ b ∈ before, isBlank b = true) (compact : ∀ b ∈ core, isBlank b = false)
    (blanksAfter : ∀ b ∈ after, isBlank b = true) :
    trimBlanks (before ++ core ++ after) = core := by
  have behind : (after.reverse ++ core.reverse ++ []).dropWhile isBlank = core.reverse ++ [] :=
    dropWhile_isBlank_around (by simpa using some) (by simpa using blanksAfter)
      (by simpa using compact)
  rw [trimBlanks, dropWhile_isBlank_around some blanksBefore compact, List.reverse_append]
  simpa using congrArg List.reverse behind

/-! ## numbers -/

namespace Decimal

/-- The value of a run of digits, the most significant first. -/
theorem valueFrom_eq_ofDigits (digits : Bytes) :
    valueFrom 0 digits = Nat.ofDigits 10 ((digits.map fun b => b.toNat - 0x30).reverse) := by
  rw [Nat.ofDigits_eq_foldr, List.foldr_reverse, List.foldl_map]
  simp only [valueFrom, Nat.add_comm, Nat.cast_id]

end Decimal

/-- The plus sign. -/
def plus : Bytes := [0x2b]

/-- A number of one word: a sign, and behind it one or more decimal digits, of which the first ones
may be zeros. -/
structure Numeral (sign text : Bytes) (n : Nat) : Prop where
  digits : ∃ digits ≠ [], text = sign ++ digits ∧ (∀ b ∈ digits, isDigit b = true) ∧
    Nat.ofDigits 10 ((digits.map fun b => b.toNat - 0x30).reverse) = n
  fits : n < 2 ^ 64

theorem value?_eq_some_iff {text : Bytes} {n : Nat} :
    (Decimal.value? text).filter (· ≤ PayloadSize.maxLength) = some n ↔ Numeral [] text n := by
  have word : n ≤ PayloadSize.maxLength ↔ n < 2 ^ 64 := by
    simp only [PayloadSize.maxLength, UInt64.size]
    omega
  rw [Option.filter_eq_some_iff, decide_eq_true_eq, word, Decimal.value?,
    Option.ite_none_right_eq_some, Decimal.valueFrom_eq_ofDigits, List.all_eq_true,
    Option.some.injEq]
  constructor
  · rintro ⟨⟨⟨some, digit⟩, value⟩, fits⟩
    exact ⟨⟨text, some, rfl, digit, value⟩, fits⟩
  · rintro ⟨⟨_, some, rfl, digit, value⟩, fits⟩
    exact ⟨⟨⟨some, digit⟩, value⟩, fits⟩

/-- A sign is no digit. -/
theorem not_numeral_plus {text : Bytes} {n : Nat} : ¬Numeral [] (0x2b :: text) n := by
  rintro ⟨⟨_, -, rfl, digit, -⟩, -⟩
  exact absurd (digit 0x2b (List.mem_cons_self ..)) (by decide)

theorem numeral_plus_iff {text : Bytes} {n : Nat} :
    Numeral plus (0x2b :: text) n ↔ Numeral [] text n := by
  constructor
  · rintro ⟨⟨digits, some, same, digit, value⟩, fits⟩
    cases same
    exact ⟨⟨digits, some, rfl, digit, value⟩, fits⟩
  · rintro ⟨⟨_, some, rfl, digit, value⟩, fits⟩
    exact ⟨⟨text, some, rfl, digit, value⟩, fits⟩

/-- What is read as a number has no sign, or a plus sign. -/
theorem word?_eq_some_iff {text : Bytes} {n : Nat} :
    word? text = some n ↔ Numeral [] text n ∨ Numeral plus text n := by
  unfold word?
  split
  · rw [value?_eq_some_iff, numeral_plus_iff, or_iff_right not_numeral_plus]
  · rename_i unsigned
    have other : ¬Numeral plus text n := by
      rintro ⟨⟨digits, -, signed, -⟩, -⟩
      exact unsigned digits signed
    rw [value?_eq_some_iff, or_iff_left other]

/-! ## texts that spell a number -/

/-- A number behind a sign, with nothing but spaces and tabs around it. -/
def Spells (sign text : Bytes) (n : Nat) : Prop :=
  ∃ before number after, text = before ++ number ++ after ∧
    (∀ b ∈ before, isBlank b = true) ∧ (∀ b ∈ after, isBlank b = true) ∧ Numeral sign number n

section Signs

variable {sign text : Bytes} {n : Nat} (signs : sign = [] ∨ sign = plus)
include signs

theorem Numeral.compact (number : Numeral sign text n) :
    text ≠ [] ∧ ∀ b ∈ text, isBlank b = false := by
  obtain ⟨⟨digits, some, rfl, digit, -⟩, -⟩ := number
  have compact : ∀ b ∈ digits, isBlank b = false := fun b member =>
    isBlank_eq_false_of_isDigit (digit b member)
  rcases signs with rfl | rfl
  · exact ⟨some, compact⟩
  · exact ⟨List.cons_ne_nil _ _, List.forall_mem_cons.2 ⟨rfl, compact⟩⟩

/-- The number is what is left without the blanks. -/
theorem spells_iff : Spells sign text n ↔ Numeral sign (trimBlanks text) n := by
  constructor
  · rintro ⟨before, number, after, rfl, blanksBefore, blanksAfter, numeral⟩
    obtain ⟨some, compact⟩ := numeral.compact signs
    rwa [trimBlanks_around some blanksBefore compact blanksAfter]
  · intro numeral
    obtain ⟨before, after, whole, blanksBefore, blanksAfter⟩ := exists_trimBlanks text
    exact ⟨before, trimBlanks text, after, whole, blanksBefore, blanksAfter, numeral⟩

/-- All of it is readable. -/
theorem Spells.visible (spells : Spells sign text n) : ∀ b ∈ text, isVisible b = true := by
  obtain ⟨before, _, after, rfl, blanksBefore, blanksAfter, ⟨digits, -, rfl, digit, -⟩, -⟩ := spells
  have blank (b : UInt8) (h : isBlank b = true) : isVisible b = true := by
    simp only [isBlank, Bool.or_eq_true, beq_iff_eq] at h
    rcases h with rfl | rfl <;> rfl
  have signed : ∀ b ∈ sign, isVisible b = true := by
    rcases signs with rfl | rfl
    · exact List.forall_mem_nil _
    · exact List.forall_mem_singleton.2 rfl
  simp only [List.forall_mem_append]
  exact ⟨⟨fun b h => blank b (blanksBefore b h), signed,
    fun b h => isVisible_of_isDigit (digit b h)⟩, fun b h => blank b (blanksAfter b h)⟩

end Signs

/-! ## headers that announce a length -/

namespace Headers

/-- The first Content-Length spells this length, behind this sign. -/
def Announces (headers : Headers) (sign : Bytes) (length : Nat) : Prop :=
  ∃ value more, headers.values .contentLength = value :: more ∧ Spells sign value.bytes length

variable {headers : Headers} {length : Nat}

/-- Headers announce a length with or without a plus sign. -/
theorem announcedSize_eq_known_iff :
    headers.announcedSize = .known length ↔
      headers.Announces [] length ∨ headers.Announces plus length := by
  have spelled (text : Bytes) : word? (trimBlanks text) = some length ↔
      Spells [] text length ∨ Spells plus text length := by
    rw [word?_eq_some_iff, spells_iff (.inl rfl), spells_iff (.inr rfl)]
  have read : headers.announcedSize = .known length ↔
      ∃ text, headers.visible? .contentLength = some text ∧
        word? (trimBlanks text) = some length := by
    rw [announcedSize, ← Option.bind_eq_some_iff]
    cases (headers.visible? .contentLength).bind _ <;> simp [PayloadSize.ofLength?]
  simp only [read, spelled, visible?_eq_some_iff]
  constructor
  · rintro ⟨_, ⟨value, more, first, rfl, -⟩, unsigned | signed⟩
    · exact .inl ⟨value, more, first, unsigned⟩
    · exact .inr ⟨value, more, first, signed⟩
  · rintro (⟨value, more, first, unsigned⟩ | ⟨value, more, first, signed⟩)
    · exact ⟨_, ⟨value, more, first, rfl, unsigned.visible (.inl rfl)⟩, .inl unsigned⟩
    · exact ⟨_, ⟨value, more, first, rfl, signed.visible (.inr rfl)⟩, .inr signed⟩

/-- A length is not announced both ways. -/
theorem Announces.unsigned {other : Nat} (unsigned : headers.Announces [] length) :
    ¬headers.Announces plus other := by
  rintro ⟨value, more, first, signed⟩
  obtain ⟨_, _, same, spelled⟩ := unsigned
  cases first.symm.trans same
  obtain ⟨digits, -, text, -⟩ := ((spells_iff (.inr rfl)).1 signed).digits
  have number := (spells_iff (.inl rfl)).1 spelled
  rw [text] at number
  exact not_numeral_plus number

/-- **Announced lengths**: headers announce a length just if their first Content-Length spells it in
decimal digits, as a number of one word, with no more around it than spaces and tabs, or with a plus
sign in front.  All other headers leave the length unknown.  The digits alone, without the sign, are
the rule for just those headers that have no such sign. -/
theorem announced_length_is_spelled (headers : Headers) :
    (∀ length, headers.announcedSize = .known length ↔
      headers.Announces [] length ∨ headers.Announces plus length) ∧
    (headers.announcedSize = .chunked ↔
      ∀ length, ¬headers.Announces [] length ∧ ¬headers.Announces plus length) ∧
    ((∀ length, headers.announcedSize = .known length ↔ headers.Announces [] length) ↔
      ∀ length, ¬headers.Announces plus length) := by
  refine ⟨fun length => announcedSize_eq_known_iff, ?_, ?_⟩
  · have unknown : headers.announcedSize = .chunked ↔
        ∀ length, ¬headers.announcedSize = .known length := by
      cases headers.announcedSize <;> simp
    simp only [unknown, announcedSize_eq_known_iff, not_or]
  · simp only [announcedSize_eq_known_iff]
    constructor
    · intro rule length signed
      exact ((rule length).1 (.inr signed)).unsigned signed
    · intro unsigned length
      exact or_iff_left (unsigned length)

/-- A length behind a plus sign is announced, though the field has no such form. -/
theorem signed_length_is_announced :
    ¬∀ (headers : Headers) (length : Nat),
      headers.announcedSize = .known length ↔ headers.Announces [] length := by
  intro rule
  let value : FieldValue := ⟨[0x2b, 0x35], by decide⟩
  let headers : Headers := .ofList [(.contentLength, value)]
  have signed : headers.Announces plus 5 :=
    ⟨value, [], rfl, [], value.bytes, [], rfl, nofun, nofun,
      ⟨[0x35], by decide, rfl, List.forall_mem_singleton.2 rfl, by decide⟩, by decide⟩
  exact ((rule headers 5).1 (announcedSize_eq_known_iff.2 (.inr signed))).unsigned signed

end Headers

end Reply
