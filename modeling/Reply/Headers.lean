import Reply.Bytes

/-!
# Reply.Headers

Header fields, under names that do not distinguish capital from small letters.

1. A name is a token, held in small letters; a value is a sequence of field
   octets.
2. A name stands once, with one or more values in the order they came.
3. `insert` replaces all values of a name and leaves it in its place;
   `append` adds a value to a name, or the name at the end; `remove` takes a
   name out and the last field moves into the gap.

Each operation is described by what it does to `values`, the values of a
name: `values_insert`, `values_append`, `values_remove`.
-/

namespace Reply

/-! ## names and values -/

/-- A character of a field name: a token octet that is no capital letter. -/
def isNameChar (c : Char) : Bool :=
  decide (c.toNat < 0x80) && isToken (UInt8.ofNat c.toNat) && !isCapital (UInt8.ofNat c.toNat)

/-- The name of a header field, in small letters. -/
structure FieldName where
  text : String
  valid : text.toList ≠ [] ∧ text.toList.all isNameChar = true
deriving DecidableEq

namespace FieldName

/-- Reads a name, in letters of either case. -/
def ofString? (s : String) : Option FieldName :=
  let text := s.map Char.toLower
  if valid : text.toList ≠ [] ∧ text.toList.all isNameChar = true then some ⟨text, valid⟩ else none

def accept : FieldName := ⟨"accept", by decide⟩
def contentLength : FieldName := ⟨"content-length", by decide⟩
def contentType : FieldName := ⟨"content-type", by decide⟩
def transferEncoding : FieldName := ⟨"transfer-encoding", by decide⟩

end FieldName

/-- The value of a header field. -/
structure FieldValue where
  bytes : Bytes
  valid : bytes.all isFieldOctet = true
deriving DecidableEq

namespace FieldValue

/-- Takes octets as a value if all of them are field octets. -/
def ofBytes? (bytes : Bytes) : Option FieldValue :=
  if valid : bytes.all isFieldOctet = true then some ⟨bytes, valid⟩ else none

/-- The octets of a value that is readable text. -/
def visible? (value : FieldValue) : Option Bytes :=
  if value.bytes.all isVisible then some value.bytes else none

end FieldValue

/-- A name with its values; there is at least one. -/
structure Field where
  name : FieldName
  first : FieldValue
  more : List FieldValue := []
deriving DecidableEq

namespace Field

def values (field : Field) : List FieldValue := field.first :: field.more

/-- Adds a value behind the others. -/
def push (field : Field) (value : FieldValue) : Field :=
  { field with more := field.more ++ [value] }

end Field

/-! ## lists of fields -/

namespace Fields

/-- Moves the last field to the front. -/
def rotate : List Field → List Field
  | [] => []
  | field :: rest => (field :: rest).getLast (by simp) :: (field :: rest).dropLast

/-- Takes out the field of a name; the last field moves into the gap. -/
def remove (name : FieldName) : List Field → List Field
  | [] => []
  | field :: rest => if field.name = name then rotate rest else field :: remove name rest

/-- Gives a name one value alone, in its place or at the end. -/
def insert (name : FieldName) (value : FieldValue) : List Field → List Field
  | [] => [{ name, first := value }]
  | field :: rest =>
    if field.name = name then { name, first := value } :: rest else field :: insert name value rest

/-- Adds a value to a name, which comes in at the end if it is new. -/
def append (name : FieldName) (value : FieldValue) : List Field → List Field
  | [] => [{ name, first := value }]
  | field :: rest =>
    if field.name = name then field.push value :: rest else field :: append name value rest

/-- The values of a name, in the order they came. -/
def values (name : FieldName) : List Field → List FieldValue
  | [] => []
  | field :: rest => if field.name = name then field.values else values name rest

/-! ### names after an operation -/

theorem rotate_perm (fields : List Field) : (rotate fields).Perm fields := by
  cases fields with
  | nil => exact .refl _
  | cons field rest =>
    have split := List.dropLast_concat_getLast (l := field :: rest) (by simp)
    exact (List.perm_append_singleton _ _).symm.trans (.of_eq split)

theorem nodup_names_remove (name : FieldName) {fields : List Field}
    (distinct : (fields.map (·.name)).Nodup) : ((remove name fields).map (·.name)).Nodup := by
  suffices kept : ∃ kept, (remove name fields).Perm kept ∧ kept.Sublist fields by
    obtain ⟨kept, perm, sub⟩ := kept
    exact (perm.map _).nodup_iff.2 (distinct.sublist (sub.map _))
  clear distinct
  induction fields with
  | nil => exact ⟨[], .refl _, .refl _⟩
  | cons field rest ih =>
    unfold remove
    split
    · exact ⟨rest, rotate_perm rest, .cons _ (.refl _)⟩
    · obtain ⟨kept, perm, sub⟩ := ih
      exact ⟨field :: kept, perm.cons _, sub.cons_cons _⟩

theorem names_insert (name : FieldName) (value : FieldValue) (fields : List Field) :
    (insert name value fields).map (·.name) =
      if name ∈ fields.map (·.name) then fields.map (·.name)
      else fields.map (·.name) ++ [name] := by
  induction fields with
  | nil => simp [insert]
  | cons field rest ih =>
    unfold insert
    by_cases h : field.name = name
    · simp [h]
    · simp only [h, if_false, List.map_cons, ih, List.mem_cons, Ne.symm h, false_or]
      split <;> simp

theorem names_append (name : FieldName) (value : FieldValue) (fields : List Field) :
    (append name value fields).map (·.name) =
      if name ∈ fields.map (·.name) then fields.map (·.name)
      else fields.map (·.name) ++ [name] := by
  induction fields with
  | nil => simp [append]
  | cons field rest ih =>
    unfold append
    by_cases h : field.name = name
    · simp [h, Field.push]
    · simp only [h, if_false, List.map_cons, ih, List.mem_cons, Ne.symm h, false_or]
      split <;> simp

theorem nodup_extend {names : List FieldName} {name : FieldName} (h : names.Nodup) :
    (if name ∈ names then names else names ++ [name]).Nodup := by
  split
  · exact h
  · rename_i fresh
    refine List.nodup_append.2 ⟨h, by simp, ?_⟩
    rintro a ha b hb rfl
    exact fresh (List.mem_singleton.1 hb ▸ ha)

end Fields

/-! ## headers -/

/-- Header fields with distinct names. -/
structure Headers where
  fields : List Field
  distinct : (fields.map (·.name)).Nodup
deriving DecidableEq

namespace Headers

instance : EmptyCollection Headers := ⟨⟨[], .nil⟩⟩

/-- The values of a name, in the order they came; none for a name that is absent. -/
def values (headers : Headers) (name : FieldName) : List FieldValue :=
  Fields.values name headers.fields

/-- The first value of a name. -/
def get? (headers : Headers) (name : FieldName) : Option FieldValue := (headers.values name).head?

/-- The first value of a name, if it is readable text. -/
def visible? (headers : Headers) (name : FieldName) : Option Bytes :=
  (headers.get? name).bind (·.visible?)

/-- Gives a name one value alone. -/
def insert (headers : Headers) (name : FieldName) (value : FieldValue) : Headers :=
  ⟨Fields.insert name value headers.fields, by
    rw [Fields.names_insert]; exact Fields.nodup_extend headers.distinct⟩

/-- Adds a value to a name. -/
def append (headers : Headers) (name : FieldName) (value : FieldValue) : Headers :=
  ⟨Fields.append name value headers.fields, by
    rw [Fields.names_append]; exact Fields.nodup_extend headers.distinct⟩

/-- Takes a name out with all its values. -/
def remove (headers : Headers) (name : FieldName) : Headers :=
  ⟨Fields.remove name headers.fields, Fields.nodup_names_remove name headers.distinct⟩

/-- The headers that hold the given name and value pairs, added one after the other. -/
def ofList (pairs : List (FieldName × FieldValue)) : Headers :=
  pairs.foldl (fun headers pair => headers.append pair.1 pair.2) ∅

/-- Every field as name and value pairs, the values of one name together. -/
def toList (headers : Headers) : List (FieldName × FieldValue) :=
  headers.fields.flatMap fun field => field.values.map (field.name, ·)

end Headers

/-! ## what an operation does to the values -/

namespace Fields

theorem values_eq_nil {name : FieldName} {fields : List Field} (h : name ∉ fields.map (·.name)) :
    values name fields = [] := by
  induction fields with
  | nil => rfl
  | cons field rest ih =>
    simp only [List.map_cons, List.mem_cons, not_or] at h
    simp [values, Ne.symm h.1, ih h.2]

theorem values_of_mem {fields : List Field} (distinct : (fields.map (·.name)).Nodup) {field : Field}
    (h : field ∈ fields) : values field.name fields = field.values := by
  induction fields with
  | nil => cases h
  | cons head rest ih =>
    simp only [List.map_cons, List.nodup_cons] at distinct
    rcases List.mem_cons.1 h with rfl | h
    · simp [values]
    · have ne : head.name ≠ field.name := fun e => distinct.1 (e ▸ List.mem_map_of_mem h)
      simp [values, ne, ih distinct.2 h]

/-- The values do not depend on the order of the fields. -/
theorem values_perm {a b : List Field} (distinct : (a.map (·.name)).Nodup) (h : a.Perm b)
    (name : FieldName) : values name a = values name b := by
  by_cases mem : name ∈ a.map (·.name)
  · obtain ⟨field, ha, rfl⟩ := List.mem_map.1 mem
    rw [values_of_mem distinct ha, values_of_mem ((h.map _).nodup_iff.1 distinct) (h.subset ha)]
  · rw [values_eq_nil mem, values_eq_nil fun hb => mem ((h.map _).mem_iff.2 hb)]

theorem values_insert (name other : FieldName) (value : FieldValue) (fields : List Field) :
    values other (insert name value fields) =
      if name = other then [value] else values other fields := by
  induction fields with
  | nil => simp [insert, values, Field.values]
  | cons field rest ih =>
    unfold insert
    by_cases h : field.name = name
    · by_cases o : name = other <;> simp_all [values, Field.values]
    · by_cases f : field.name = other
      · have : name ≠ other := fun e => h (f.trans e.symm)
        simp [values, f, this, Ne.symm this]
      · simp [h, values, f, ih]

theorem values_append (name other : FieldName) (value : FieldValue) (fields : List Field) :
    values other (append name value fields) =
      if name = other then values other fields ++ [value] else values other fields := by
  induction fields with
  | nil => simp [append, values, Field.values]
  | cons field rest ih =>
    unfold append
    by_cases h : field.name = name
    · by_cases o : name = other <;> simp_all [values, Field.values, Field.push]
    · by_cases f : field.name = other
      · have : name ≠ other := fun e => h (f.trans e.symm)
        simp [values, f, this, Ne.symm this]
      · simp [h, values, f, ih]

theorem values_remove {fields : List Field} (distinct : (fields.map (·.name)).Nodup)
    (name other : FieldName) :
    values other (remove name fields) = if name = other then [] else values other fields := by
  induction fields with
  | nil => simp [remove, values]
  | cons field rest ih =>
    simp only [List.map_cons, List.nodup_cons] at distinct
    unfold remove
    by_cases h : field.name = name
    · rw [if_pos h, values_perm
        ((((rotate_perm rest).map (·.name)).nodup_iff).2 distinct.2) (rotate_perm rest) other]
      by_cases o : name = other
      · subst h o
        simp [values_eq_nil distinct.1]
      · have : field.name ≠ other := h ▸ o
        simp [values, o, this]
    · by_cases f : field.name = other
      · have : name ≠ other := fun e => h (f.trans e.symm)
        simp [values, f, this, Ne.symm this]
      · simp [h, values, f, ih distinct.2]

end Fields

namespace Headers

@[simp] theorem values_empty (name : FieldName) : (∅ : Headers).values name = [] := rfl

theorem values_insert (headers : Headers) (name other : FieldName) (value : FieldValue) :
    (headers.insert name value).values other =
      if name = other then [value] else headers.values other :=
  Fields.values_insert name other value headers.fields

theorem values_append (headers : Headers) (name other : FieldName) (value : FieldValue) :
    (headers.append name value).values other =
      if name = other then headers.values other ++ [value] else headers.values other :=
  Fields.values_append name other value headers.fields

theorem values_remove (headers : Headers) (name other : FieldName) :
    (headers.remove name).values other = if name = other then [] else headers.values other :=
  Fields.values_remove headers.distinct name other

/-- The first value of a name, as it is read: readable text, or nothing. -/
theorem visible?_eq_some_iff {headers : Headers} {name : FieldName} {text : Bytes} :
    headers.visible? name = some text ↔
      ∃ value rest, headers.values name = value :: rest ∧ value.bytes = text ∧
        ∀ b ∈ text, isVisible b = true := by
  unfold visible? get? FieldValue.visible?
  cases headers.values name with
  | nil => simp
  | cons value rest =>
    simp only [List.head?_cons, Option.bind_some, Option.ite_none_right_eq_some,
      List.all_eq_true, Option.some.injEq]
    constructor
    · rintro ⟨readable, rfl⟩
      exact ⟨value, rest, rfl, rfl, readable⟩
    · rintro ⟨_, _, same, rfl, readable⟩
      cases same
      exact ⟨readable, rfl⟩

end Headers

end Reply
