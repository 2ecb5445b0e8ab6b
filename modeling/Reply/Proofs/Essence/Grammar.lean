import Mathlib.Data.List.TakeWhile
import Reply.MediaType

/-!
# Reply.Proofs.Essence.Grammar

How a media type is written, as a grammar beside the reader.

1. `Value` and `Parameters` are the forms of a parameter's value and of a list of
   parameters.  A list ends, or goes on behind a semicolon (`Tail`).
2. The reader of a list stands somewhere inside it, and `Place.Rest` is what the grammar
   lets stand behind each place.  Taken back one octet at a time, what is accepted is of
   that form (`rest_of_accepts`).
3. The other way round the reader walks over the parts of a list, each of them at once
   (`accepts_named`, `accepts_value`).  So it accepts just the lists (`isParameters_iff`).
4. A type, a slash and a subtype make an `Essence`, and a text is a media type if it is
   one, with or without parameters behind it (`Written`).  The essence is the `front` of
   the text, before its first semicolon, and the parameters are `behind` it.
-/

namespace Reply.MediaType

/-! ## the forms -/

/-- One or more token octets. -/
def Token (text : Bytes) : Prop := text ≠ [] ∧ ∀ b ∈ text, isToken b = true

/-- Spaces alone, or nothing. -/
def Spaces (text : Bytes) : Prop := ∀ b ∈ text, b = space

/-- The octets of a quoted value behind its first one. -/
def Quotable (text : Bytes) : Prop := ∀ b ∈ text, isQuotable b = true ∧ b ≠ quote

/-- The value of a parameter: a token, or at least one octet between quotes, of which only the first
may be a quote itself. -/
inductive Value : Bytes → Prop
  | plain {text : Bytes} (token : Token text) : Value text
  | quoted {first : UInt8} {more spaces : Bytes} (some : isQuotable first = true)
      (quotable : Quotable more) (blank : Spaces spaces) :
      Value (quote :: first :: more ++ quote :: spaces)

/-- A list of parameters. -/
inductive Parameters : Bytes → Prop
  | none {spaces : Bytes} (blank : Spaces spaces) : Parameters spaces
  /-- At the very end a parameter may be left without a value. -/
  | unset {spaces name : Bytes} (blank : Spaces spaces) (named : Token name) :
      Parameters (spaces ++ name ++ [equals])
  | last {spaces name value : Bytes} (blank : Spaces spaces) (named : Token name)
      (set : Value value) : Parameters (spaces ++ name ++ equals :: value)
  | more {spaces name value rest : Bytes} (blank : Spaces spaces) (named : Token name)
      (set : Value value) (others : Parameters rest) :
      Parameters (spaces ++ name ++ equals :: (value ++ semicolon :: rest))

/-- Nothing, or parameters behind a semicolon. -/
inductive Tail : Bytes → Prop
  | none : Tail []
  | parameters {rest : Bytes} (list : Parameters rest) : Tail (semicolon :: rest)

/-- What may stand behind an equals sign: a value with a tail, or nothing. -/
inductive Setting : Bytes → Prop
  | unset : Setting []
  | set {value tail : Bytes} (fits : Value value) (ends : Tail tail) : Setting (value ++ tail)

theorem spaces_nil : Spaces [] := List.forall_mem_nil _

theorem spaces_cons {spaces : Bytes} (blank : Spaces spaces) : Spaces (space :: spaces) :=
  List.forall_mem_cons.2 ⟨rfl, blank⟩

theorem ne_of_isToken {b mark : UInt8} (token : isToken b = true)
    (special : isToken mark = false) : b ≠ mark := by
  rintro rfl
  exact Bool.false_ne_true (special.symm.trans token)

theorem token_cons {b : UInt8} {text : Bytes} (first : isToken b = true)
    (more : ∀ b ∈ text, isToken b = true) : Token (b :: text) :=
  ⟨List.cons_ne_nil _ _, List.forall_mem_cons.2 ⟨first, more⟩⟩

theorem Token.exists_cons {text : Bytes} (token : Token text) :
    ∃ first more, text = first :: more ∧ isToken first = true ∧ ∀ b ∈ more, isToken b = true := by
  obtain ⟨some, tokens⟩ := token
  obtain ⟨first, more, rfl⟩ := List.exists_cons_of_ne_nil some
  exact ⟨first, more, rfl, List.forall_mem_cons.1 tokens⟩

/-! ## what is accepted is of that form -/

theorem parameters_of_setting {spaces name rest : Bytes} (blank : Spaces spaces)
    (named : Token name) (setting : Setting rest) :
    Parameters (spaces ++ name ++ equals :: rest) := by
  cases setting with
  | unset => exact .unset blank named
  | set value tail =>
    cases tail with
    | none => rw [List.append_nil]; exact .last blank named value
    | parameters list => exact .more blank named value list

theorem setting_quoted {first : UInt8} {more spaces tail : Bytes}
    (some : isQuotable first = true) (quotable : Quotable more) (blank : Spaces spaces)
    (ends : Tail tail) :
    Setting (quote :: first :: (more ++ quote :: (spaces ++ tail))) := by
  have setting := Setting.set (.quoted some quotable blank) ends
  simpa only [List.cons_append, List.append_assoc] using setting

/-- A space may come before a list of parameters. -/
theorem parameters_space {rest : Bytes} (list : Parameters rest) : Parameters (space :: rest) := by
  cases list with
  | none blank => exact .none (spaces_cons blank)
  | unset blank named => exact .unset (spaces_cons blank) named
  | last blank named set => exact .last (spaces_cons blank) named set
  | more blank named set others => exact .more (spaces_cons blank) named set others

namespace Place

/-- What may stand behind a place. -/
inductive Rest : Place → Bytes → Prop
  | start {rest : Bytes} (list : Parameters rest) : Rest start rest
  | name {more rest : Bytes} (token : ∀ b ∈ more, isToken b = true) (setting : Setting rest) :
      Rest name (more ++ equals :: rest)
  | value {rest : Bytes} (setting : Setting rest) : Rest value rest
  | plain {more rest : Bytes} (token : ∀ b ∈ more, isToken b = true) (tail : Tail rest) :
      Rest plain (more ++ rest)
  | opened {first : UInt8} {more spaces rest : Bytes} (some : isQuotable first = true)
      (quotable : Quotable more) (blank : Spaces spaces) (tail : Tail rest) :
      Rest opened (first :: (more ++ quote :: (spaces ++ rest)))
  | quoted {more spaces rest : Bytes} (quotable : Quotable more) (blank : Spaces spaces)
      (tail : Tail rest) : Rest quoted (more ++ quote :: (spaces ++ rest))
  | closed {spaces rest : Bytes} (blank : Spaces spaces) (tail : Tail rest) :
      Rest closed (spaces ++ rest)

theorem step_of_ite {condition : Bool} {place next : Place}
    (step : (if condition then some place else none) = some next) :
    condition = true ∧ place = next := by
  simpa using step

theorem rest_of_mayEnd {place : Place} (ends : place.mayEnd = true) : place.Rest [] := by
  cases place with
  | start => exact .start (.none spaces_nil)
  | value => exact .value .unset
  | plain => exact (.plain nofun .none : Rest plain ([] ++ []))
  | closed => exact (.closed spaces_nil .none : Rest closed ([] ++ []))
  | name | opened | quoted => cases ends

/-- One octet further back: what may stand behind the next place, with the octet that leads there
before it, may stand behind this one. -/
theorem rest_of_next {place next : Place} {b : UInt8} {rest : Bytes}
    (step : place.next? b = some next) (behind : next.Rest rest) : place.Rest (b :: rest) := by
  cases place with
  | start =>
    simp only [next?] at step
    split at step
    next blank =>
      cases step
      cases behind with
      | start list => exact .start (beq_iff_eq.1 blank ▸ parameters_space list)
    next =>
      obtain ⟨token, rfl⟩ := step_of_ite step
      cases behind with
      | name tokens setting =>
        exact .start (parameters_of_setting spaces_nil (token_cons token tokens) setting)
  | name =>
    simp only [next?] at step
    split at step
    next sign =>
      cases step
      cases behind with
      | value setting =>
        rw [beq_iff_eq.1 sign]
        exact (.name nofun setting : Rest name ([] ++ equals :: rest))
    next =>
      obtain ⟨token, rfl⟩ := step_of_ite step
      cases behind with
      | name tokens setting => exact .name (List.forall_mem_cons.2 ⟨token, tokens⟩) setting
  | value =>
    simp only [next?] at step
    split at step
    next opens =>
      cases step
      cases behind with
      | opened some quotable blank tail =>
        rw [beq_iff_eq.1 opens]
        exact .value (setting_quoted some quotable blank tail)
    next =>
      obtain ⟨token, rfl⟩ := step_of_ite step
      cases behind with
      | plain tokens tail => exact .value (.set (.plain (token_cons token tokens)) tail)
  | plain =>
    simp only [next?] at step
    split at step
    next ends =>
      cases step
      cases behind with
      | start list =>
        rw [beq_iff_eq.1 ends]
        exact (.plain nofun (.parameters list) : Rest plain ([] ++ semicolon :: rest))
    next =>
      obtain ⟨token, rfl⟩ := step_of_ite step
      cases behind with
      | plain tokens tail => exact .plain (List.forall_mem_cons.2 ⟨token, tokens⟩) tail
  | opened =>
    obtain ⟨some, rfl⟩ := step_of_ite step
    cases behind with
    | quoted quotable blank tail => exact .opened some quotable blank tail
  | quoted =>
    simp only [next?] at step
    split at step
    next ends =>
      cases step
      cases behind with
      | closed blank tail =>
        rw [beq_iff_eq.1 ends]
        exact (.quoted nofun blank tail : Rest quoted ([] ++ quote :: _))
    next inside =>
      obtain ⟨some, rfl⟩ := step_of_ite step
      cases behind with
      | quoted quotable blank tail =>
        exact .quoted (List.forall_mem_cons.2 ⟨⟨some, by simpa using inside⟩, quotable⟩) blank tail
  | closed =>
    simp only [next?] at step
    split at step
    next ends =>
      cases step
      cases behind with
      | start list =>
        rw [beq_iff_eq.1 ends]
        exact (.closed spaces_nil (.parameters list) : Rest closed ([] ++ semicolon :: rest))
    next =>
      obtain ⟨blank, rfl⟩ := step_of_ite step
      cases behind with
      | closed spaces tail => exact .closed (beq_iff_eq.1 blank ▸ spaces_cons spaces) tail

theorem rest_of_accepts {text : Bytes} {place : Place} (accepted : place.accepts text = true) :
    place.Rest text := by
  induction text generalizing place with
  | nil => exact rest_of_mayEnd accepted
  | cons b rest ih =>
    simp only [accepts] at accepted
    split at accepted
    next after step => exact rest_of_next step (ih accepted)
    next => cases accepted

/-! ## what is of that form is accepted -/

theorem accepts_cons {place next : Place} {b : UInt8} {rest : Bytes}
    (step : place.next? b = some next) : place.accepts (b :: rest) = next.accepts rest := by
  simp only [accepts, step]

/-- The reader goes over octets that leave it where it stands. -/
theorem accepts_of_stays {place : Place} {text rest : Bytes}
    (stays : ∀ b ∈ text, place.next? b = some place) :
    place.accepts (text ++ rest) = place.accepts rest := by
  induction text with
  | nil => rfl
  | cons b text ih =>
    obtain ⟨step, stays⟩ := List.forall_mem_cons.1 stays
    exact (accepts_cons step).trans (ih stays)

theorem accepts_spaces {place : Place} {spaces rest : Bytes}
    (stays : place.next? space = some place) (blank : Spaces spaces) :
    place.accepts (spaces ++ rest) = place.accepts rest := by
  refine accepts_of_stays fun b here => ?_
  rw [blank b here]
  exact stays

/-- A token octet is none of the marks that a place looks for. -/
theorem next?_token {b : UInt8} (token : isToken b = true) :
    start.next? b = some name ∧ name.next? b = some name ∧
      value.next? b = some plain ∧ plain.next? b = some plain := by
  have blank : b ≠ space := ne_of_isToken token rfl
  have sign : b ≠ equals := ne_of_isToken token rfl
  have opens : b ≠ quote := ne_of_isToken token rfl
  have ends : b ≠ semicolon := ne_of_isToken token rfl
  simp [next?, blank, sign, opens, ends, token]

theorem next?_quoted {b : UInt8} (inside : isQuotable b = true ∧ b ≠ quote) :
    quoted.next? b = some quoted := by
  simp [next?, inside.1, inside.2]

/-- Behind a name with its equals sign the reader stands before a value. -/
theorem accepts_named {spaces name rest : Bytes} (blank : Spaces spaces) (named : Token name) :
    start.accepts (spaces ++ name ++ equals :: rest) = value.accepts rest := by
  obtain ⟨first, more, rfl, token, tokens⟩ := named.exists_cons
  calc start.accepts (spaces ++ first :: more ++ equals :: rest)
      = start.accepts (first :: more ++ equals :: rest) := by
        rw [List.append_assoc, accepts_spaces rfl blank]
    _ = Place.name.accepts (more ++ equals :: rest) := accepts_cons (next?_token token).1
    _ = Place.name.accepts (equals :: rest) :=
        accepts_of_stays fun b here => (next?_token (tokens b here)).2.1
    _ = value.accepts rest := rfl

/-- Behind a value the text may end, or go on behind a semicolon. -/
theorem accepts_value {text : Bytes} (fits : Value text) :
    value.accepts text = true ∧
      ∀ rest, value.accepts (text ++ semicolon :: rest) = start.accepts rest := by
  cases fits with
  | plain token =>
    obtain ⟨first, more, rfl, token, tokens⟩ := token.exists_cons
    have walk (rest : Bytes) :
        value.accepts (first :: more ++ rest) = Place.plain.accepts rest :=
      (accepts_cons (next?_token token).2.2.1).trans
        (accepts_of_stays fun b here => (next?_token (tokens b here)).2.2.2)
    exact ⟨List.append_nil (first :: more) ▸ walk [], fun rest => walk (semicolon :: rest)⟩
  | @quoted first more spaces some quotable blank =>
    have walk (rest : Bytes) :
        value.accepts (quote :: first :: more ++ quote :: spaces ++ rest) =
          closed.accepts rest := by
      calc value.accepts (quote :: first :: more ++ quote :: spaces ++ rest)
          = opened.accepts (first :: (more ++ (quote :: (spaces ++ rest)))) := by
            simp only [List.cons_append, List.append_assoc]
            rfl
        _ = Place.quoted.accepts (more ++ quote :: (spaces ++ rest)) :=
            accepts_cons (by simp [next?, some])
        _ = Place.quoted.accepts (quote :: (spaces ++ rest)) :=
            accepts_of_stays fun b here => next?_quoted (quotable b here)
        _ = closed.accepts (spaces ++ rest) := rfl
        _ = closed.accepts rest := accepts_spaces rfl blank
    exact ⟨List.append_nil (quote :: first :: more ++ quote :: spaces) ▸ walk [],
      fun rest => walk (semicolon :: rest)⟩

end Place

/-- The reader of parameters takes just the lists of parameters. -/
theorem isParameters_iff {text : Bytes} : isParameters text = true ↔ Parameters text := by
  constructor
  · intro accepted
    cases Place.rest_of_accepts accepted with
    | start list => exact list
  · intro list
    induction list with
    | @none spaces blank =>
      have walk : Place.start.accepts (spaces ++ []) = Place.start.accepts [] :=
        Place.accepts_spaces rfl blank
      exact List.append_nil spaces ▸ walk
    | unset blank named => exact Place.accepts_named blank named
    | last blank named set =>
      exact (Place.accepts_named blank named).trans (Place.accepts_value set).1
    | more blank named set others ih =>
      rw [isParameters, Place.accepts_named blank named, (Place.accepts_value set).2]
      exact ih

/-! ## a type, a subtype and a tail -/

/-- A type and a subtype with a slash between them. -/
inductive Essence : Bytes → Prop
  | mk {type subtype : Bytes} (kind : Token type) (sort : Token subtype) :
      Essence (type ++ slash :: subtype)

/-- A media type: its essence, with or without parameters. -/
inductive Written : Bytes → Prop
  | mk {essence tail : Bytes} (named : Essence essence) (ends : Tail tail) :
      Written (essence ++ tail)

theorem isTokenText_iff {text : Bytes} : isTokenText text = true ↔ Token text := by
  simp [isTokenText, Token]

/-- A text is cut at a mark that stands nowhere before it. -/
theorem cut_at_mark {front rest : Bytes} {mark : UInt8} (free : mark ∉ front) :
    (front ++ mark :: rest).takeWhile (· != mark) = front ∧
      (front ++ mark :: rest).dropWhile (· != mark) = mark :: rest := by
  have passed : ∀ b ∈ front, (b != mark) = true := by
    intro b here
    exact bne_iff_ne.2 (ne_of_mem_of_not_mem here free)
  constructor
  · rw [List.takeWhile_append_of_pos passed, List.takeWhile_cons_of_neg (by simp), List.append_nil]
  · rw [List.dropWhile_append_of_pos passed, List.dropWhile_cons_of_neg (by simp)]

theorem Token.free {text : Bytes} {mark : UInt8} (token : Token text)
    (special : isToken mark = false) : mark ∉ text :=
  fun here => ne_of_isToken (token.2 mark here) special rfl

theorem isEssence_cut {type subtype : Bytes} (free : slash ∉ type) :
    isEssence (type ++ slash :: subtype) = (isTokenText type && isTokenText subtype) := by
  simp only [isEssence, (cut_at_mark free).1, (cut_at_mark free).2]

theorem isEssence_iff {text : Bytes} : isEssence text = true ↔ Essence text := by
  constructor
  · intro named
    by_cases cut : slash ∈ text
    · obtain ⟨type, subtype, rfl, free⟩ := List.eq_append_cons_of_mem cut
      rw [isEssence_cut free, Bool.and_eq_true, isTokenText_iff, isTokenText_iff] at named
      exact .mk named.1 named.2
    · have uncut : text.dropWhile (· != slash) = [] := by
        simpa [List.dropWhile_eq_nil_iff] using fun b here => ne_of_mem_of_not_mem here cut
      simp [isEssence, uncut] at named
  · rintro ⟨kind, sort⟩
    rw [isEssence_cut (kind.free rfl), isTokenText_iff.2 kind, isTokenText_iff.2 sort]
    rfl

theorem Essence.free {text : Bytes} (named : Essence text) : semicolon ∉ text := by
  obtain ⟨kind, sort⟩ := named
  simp only [List.mem_append, List.mem_cons, not_or]
  exact ⟨kind.free rfl, by decide, sort.free rfl⟩

/-! ## the front of a text -/

/-- What stands before the first semicolon. -/
def front (text : Bytes) : Bytes := text.takeWhile (· != semicolon)

/-- What stands from the first semicolon on. -/
def behind (text : Bytes) : Bytes := text.dropWhile (· != semicolon)

theorem front_append_behind (text : Bytes) : front text ++ behind text = text :=
  List.takeWhile_append_dropWhile

/-- Parameters never move the end of the essence. -/
theorem cut_at_tail {essence tail : Bytes} (free : semicolon ∉ essence) (ends : Tail tail) :
    front (essence ++ tail) = essence ∧ behind (essence ++ tail) = tail := by
  cases ends with
  | none =>
    have passed : ∀ b ∈ essence, (b != semicolon) = true :=
      fun b here => bne_iff_ne.2 (ne_of_mem_of_not_mem here free)
    rw [List.append_nil]
    exact ⟨List.takeWhile_eq_self_iff.2 passed, List.dropWhile_eq_nil_iff.2 passed⟩
  | parameters list => exact cut_at_mark free

/-- The front of a media type is its essence. -/
theorem written_iff {text : Bytes} :
    Written text ↔ Essence (front text) ∧ Tail (behind text) := by
  constructor
  · rintro ⟨named, ends⟩
    rw [(cut_at_tail named.free ends).1, (cut_at_tail named.free ends).2]
    exact ⟨named, ends⟩
  · rintro ⟨named, ends⟩
    exact front_append_behind text ▸ .mk named ends

/-! ## the reader of a media type -/

/-- What is behind the front is well formed just if the list behind its semicolon is. -/
theorem isParameters_behind {text : Bytes} :
    isParameters ((behind text).drop 1) = true ↔ Tail (behind text) := by
  by_cases cut : semicolon ∈ text
  · obtain ⟨essence, rest, rfl, free⟩ := List.eq_append_cons_of_mem cut
    have after : behind (essence ++ semicolon :: rest) = semicolon :: rest := (cut_at_mark free).2
    rw [after, List.drop_one, List.tail_cons, isParameters_iff]
    constructor
    · exact .parameters
    · intro ends
      cases ends with
      | parameters list => exact list
  · have after : behind text = [] := List.append_nil text ▸ (cut_at_tail cut .none).2
    rw [after]
    exact iff_of_true rfl .none

/-- A text is read as a media type just when it is written as one, and then by what stands before
its first semicolon. -/
theorem parse?_eq_some_iff {text : Bytes} {mediaType : MediaType} :
    parse? text = some mediaType ↔ Written text ∧ mediaType = ⟨(front text).map lower⟩ := by
  have parsed : parse? text =
      if isEssence (front text) && isParameters ((behind text).drop 1)
      then some ⟨(front text).map lower⟩ else none := rfl
  rw [parsed, Option.ite_none_right_eq_some, Bool.and_eq_true, isEssence_iff, isParameters_behind,
    written_iff, Option.some.injEq, @eq_comm _ mediaType]

end Reply.MediaType
