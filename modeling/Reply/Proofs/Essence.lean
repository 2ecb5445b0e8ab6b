import Reply.Proofs.Decoding
import Reply.Proofs.Essence.Grammar
import Reply.Proofs.Mirroring

/-!
# Reply.Proofs.Essence

A Content-Type says by its essence alone which codec reads a body.

1. A text names protobuf just if what stands before its first semicolon does, in letters
   of either case, and what is behind that is well formed (`isProtobuf_iff_tail`).
2. So a change of case in the front, or other parameters behind it, make no difference
   (`Recased`, `Reparametrised`).
3. The headers have no say in a decode but for the codec they name (`run_decode_withHeaders`).
   A field value has to be readable text for that, and other parameters may make it
   readable or unreadable (`Respelled`); an unreadable one names no codec, and the body
   is read as JSON (`isProtobuf_of_unreadable`).
-/

namespace Reply

/-! ## letters of either case -/

/-- Only a capital letter is changed, and into a small one. -/
theorem lower_cases (b : UInt8) : lower b = b ∨ isCapital b = true ∧ isSmall (lower b) = true := by
  unfold lower
  split
  next capital =>
    refine .inr ⟨capital, ?_⟩
    simp only [isCapital, isSmall, Bool.and_eq_true, decide_eq_true_eq, UInt8.le_iff_toNat_le,
      UInt8.toNat_add, UInt8.reduceToNat] at capital ⊢
    omega
  next => exact .inl rfl

theorem isVisible_of_letter {b : UInt8} (letter : isCapital b = true ∨ isSmall b = true) :
    isVisible b = true := by
  simp only [isCapital, isSmall, isVisible, Bool.or_eq_true, Bool.and_eq_true, decide_eq_true_eq,
    UInt8.le_iff_toNat_le, UInt8.reduceToNat] at letter ⊢
  omega

theorem isToken_of_letter {b : UInt8} (letter : isCapital b = true ∨ isSmall b = true) :
    isToken b = true := by
  rcases letter with capital | small
  · simp [isToken, isAlphanumeric, capital]
  · simp [isToken, isAlphanumeric, small]

theorem isVisible_lower (b : UInt8) : isVisible (lower b) = isVisible b := by
  rcases lower_cases b with same | ⟨capital, small⟩
  · rw [same]
  · rw [isVisible_of_letter (.inl capital), isVisible_of_letter (.inr small)]

theorem isToken_lower (b : UInt8) : isToken (lower b) = isToken b := by
  rcases lower_cases b with same | ⟨capital, small⟩
  · rw [same]
  · rw [isToken_of_letter (.inl capital), isToken_of_letter (.inr small)]

/-- A mark is the small letter of nothing else. -/
theorem eq_of_lower_eq {b mark : UInt8} (special : isToken mark = false) (same : lower b = mark) :
    b = mark := by
  rcases lower_cases b with kept | ⟨-, small⟩
  · exact kept.symm.trans same
  · have token : isToken mark = true := same ▸ isToken_of_letter (.inr small)
    cases special.symm.trans token

namespace MediaType

theorem token_of_map_lower {text : Bytes} (token : Token (text.map lower)) : Token text := by
  obtain ⟨some, tokens⟩ := token
  refine ⟨fun none => some (by rw [none, List.map_nil]), fun b here => ?_⟩
  exact (isToken_lower b).symm.trans (tokens _ (List.mem_map_of_mem here))

theorem essence_of_map_lower {text : Bytes} (named : Essence (text.map lower)) : Essence text := by
  generalize spelled : text.map lower = small at named
  obtain ⟨kind, sort⟩ := named
  obtain ⟨type, more, rfl, rfl, mark⟩ := List.map_eq_append_iff.1 spelled
  obtain ⟨b, subtype, rfl, cut, rfl⟩ := List.map_eq_cons_iff.1 mark
  rw [eq_of_lower_eq rfl cut]
  exact .mk (token_of_map_lower kind) (token_of_map_lower sort)

/-! ## the protobuf media types -/

theorem essence_of_protobuf {essence : Bytes} (protobuf : essence ∈ protobufTypes) :
    Essence essence := by
  have all : protobufTypes.all isEssence = true := by decide
  exact isEssence_iff.1 (List.all_eq_true.1 all essence protobuf)

theorem isProtobuf_iff {text : Bytes} :
    isProtobuf text = true ↔ Written text ∧ (front text).map lower ∈ protobufTypes := by
  unfold isProtobuf
  cases read : parse? text with
  | none =>
    have unread : ¬Written text := by
      intro written
      cases read.symm.trans (parse?_eq_some_iff.2 ⟨written, rfl⟩)
    simp [unread]
  | some mediaType =>
    obtain ⟨written, rfl⟩ := parse?_eq_some_iff.1 read
    simp [written]

/-- The essence of a protobuf media type is well formed, so it is only behind it that a text can
be malformed. -/
theorem isProtobuf_iff_tail {text : Bytes} :
    isProtobuf text = true ↔ Tail (behind text) ∧ (front text).map lower ∈ protobufTypes := by
  rw [isProtobuf_iff, written_iff]
  constructor
  · rintro ⟨⟨-, ends⟩, protobuf⟩
    exact ⟨ends, protobuf⟩
  · rintro ⟨ends, protobuf⟩
    exact ⟨⟨essence_of_map_lower (essence_of_protobuf protobuf), ends⟩, protobuf⟩

/-- A text without a semicolon is all front. -/
theorem isProtobuf_iff_of_free {text : Bytes} (free : semicolon ∉ text) :
    isProtobuf text = true ↔ text.map lower ∈ protobufTypes := by
  obtain ⟨whole, nothing⟩ := cut_at_tail free .none
  rw [List.append_nil] at whole nothing
  rw [isProtobuf_iff_tail, whole, nothing]
  exact and_iff_right .none

/-- A suffix makes another subtype. -/
example : isProtobuf (Bytes.ascii "application/protobuf+proto") = false := by decide

/-! ## changes that make no difference -/

/-- Only the case of letters before the first semicolon has changed. -/
structure Recased (text text' : Bytes) : Prop where
  front : (front text).map lower = (MediaType.front text').map lower
  behind : behind text = MediaType.behind text'

/-- Only the parameters have changed, if there were any, and there need not be any more. -/
structure Reparametrised (text text' : Bytes) : Prop where
  front : front text = MediaType.front text'
  behind : Tail (behind text)
  behind' : Tail (MediaType.behind text')

variable {text text' : Bytes}

theorem Recased.isProtobuf_eq (recased : Recased text text') :
    isProtobuf text = isProtobuf text' := by
  rw [Bool.eq_iff_iff, isProtobuf_iff_tail, isProtobuf_iff_tail, recased.front, recased.behind]

theorem Reparametrised.isProtobuf_eq (reparametrised : Reparametrised text text') :
    isProtobuf text = isProtobuf text' := by
  rw [Bool.eq_iff_iff, isProtobuf_iff_tail, isProtobuf_iff_tail, reparametrised.front]
  simp only [reparametrised.behind, reparametrised.behind']

/-- Readable text, as a field value has to be for its media type to be read. -/
def Readable (text : Bytes) : Prop := ∀ b ∈ text, isVisible b = true

theorem readable_map_lower : Readable (text.map lower) ↔ Readable text := by
  simp only [Readable, List.forall_mem_map, isVisible_lower]

theorem Recased.readable_iff (recased : Recased text text') : Readable text ↔ Readable text' := by
  have spelled : text.map lower = text'.map lower := by
    rw [← front_append_behind text, ← front_append_behind text', List.map_append, List.map_append,
      recased.front, recased.behind]
  rw [← readable_map_lower, spelled, readable_map_lower]

/-- Another spelling of a value that is read as the same media type: in other case, or with other
parameters, if these leave it as readable as it was. -/
def Respelled (text text' : Bytes) : Prop :=
  Recased text text' ∨ Reparametrised text text' ∧ (Readable text ↔ Readable text')

theorem Respelled.readable_iff (respelled : Respelled text text') :
    Readable text ↔ Readable text' :=
  respelled.elim Recased.readable_iff And.right

theorem Respelled.isProtobuf_eq (respelled : Respelled text text') :
    isProtobuf text = isProtobuf text' :=
  respelled.elim Recased.isProtobuf_eq fun other => other.1.isProtobuf_eq

end MediaType

/-! ## the codec of a decode -/

namespace Response

open MediaType

variable {α : Type} {r : Response} {message : Message Body}

theorem isProtobuf_of_respelled {headers headers' : Headers} {value value' : FieldValue}
    (first : headers.get? .contentType = some value)
    (first' : headers'.get? .contentType = some value')
    (respelled : Respelled value.bytes value'.bytes) :
    isProtobuf headers = isProtobuf headers' := by
  have readable : value.bytes.all isVisible = value'.bytes.all isVisible := by
    rw [Bool.eq_iff_iff, List.all_eq_true, List.all_eq_true]
    exact respelled.readable_iff
  simp only [isProtobuf, Headers.visible?, first, first', Option.bind_some, FieldValue.visible?,
    readable]
  split
  next => exact respelled.isProtobuf_eq
  next => rfl

theorem isProtobuf_of_unreadable {headers : Headers} {value : FieldValue}
    (first : headers.get? .contentType = some value) (unreadable : ¬Readable value.bytes) :
    isProtobuf headers = false := by
  have hidden : value.visible? = none := by
    rw [FieldValue.visible?, if_neg]
    exact fun all => unreadable (List.all_eq_true.1 all)
  rw [isProtobuf, Headers.visible?, first, Option.bind_some, hidden, Option.any_none]

/-- Without a protobuf media type the answer is what the target makes of the body as JSON. -/
theorem answer_decode_json {bytes : Bytes} (clean : r.failure? = none)
    (present : r.message? = some message) (readable : message.body.contents = .ok bytes)
    (format : isProtobuf message.headers = false) (target : Decodable α) :
    ((decode target).run r).answer = (target.json bytes).mapError .json := by
  obtain ⟨answered, -⟩ := decode_readable clean present readable target
  rw [answered, format]
  cases read : target.json bytes <;> simp [decodeBody, read, settle, record, Except.mapError]

/-- The response with other headers on its message, if it has one. -/
def withHeaders (headers : Headers) (r : Response) : Response :=
  { r with message? := r.message?.map fun message => { message with headers } }

theorem withHeaders_of_some (present : r.message? = some message) (headers : Headers) :
    (r.withHeaders headers).message? = some { message with headers } := by
  rw [withHeaders, present, Option.map_some]

/-- What has to do with the body alone does not look at the headers, and leaves them. -/
theorem unseen_withHeaders (headers : Headers) : Unseen (withHeaders headers) where
  absent r none := by rw [withHeaders, none, Option.map_none]
  present r message present := ⟨_, withHeaders_of_some present headers⟩
  onBody op r message present := by
    have relabelled := withHeaders_of_some present headers
    simp only [onBody, run_onMessage, Message.run_onBody, creation, message_of_some present,
      message_of_some relabelled, present, relabelled]
    rfl
  setFailure _ _ := rfl

/-- The headers decide on the codec of a decode, and on nothing else. -/
theorem run_decode_withHeaders {headers : Headers} (present : r.message? = some message)
    (codec : isProtobuf headers = isProtobuf message.headers) (target : Decodable α) :
    (decode target).run (r.withHeaders headers) =
      ⟨((decode target).run r).answer, ((decode target).run r).state.withHeaders headers,
        ((decode target).run r).trail⟩ := by
  refine (unseen_withHeaders headers).run_decode rfl rfl (fun before after was is => ?_) target
  cases was.symm.trans present
  cases is.symm.trans (withHeaders_of_some present headers)
  exact codec

/-- **The essence names the codec**: a text names protobuf just if it is written as a media type
and what stands before its first semicolon is one of the protobuf media types, in letters of either
case; a text without a semicolon, just if it is one of them.  So neither another case there nor
other parameters behind it change the answer.  Nor do they change what a decode of any response
comes to, into any target, but for the headers themselves: as long as other parameters do not make
a readable value unreadable, or the other way round.  For behind an unreadable value the body is
read as JSON, whatever its essence is. -/
theorem essence_names_the_codec (target : Decodable α) :
    (∀ text, MediaType.isProtobuf text = true ↔
      Written text ∧ (front text).map lower ∈ protobufTypes) ∧
    (∀ text, semicolon ∉ text →
      (MediaType.isProtobuf text = true ↔ text.map lower ∈ protobufTypes)) ∧
    (∀ text text', Recased text text' ∨ Reparametrised text text' →
      MediaType.isProtobuf text = MediaType.isProtobuf text') ∧
    (∀ (r : Response) (message : Message Body) (headers : Headers) (value value' : FieldValue),
      r.message? = some message → message.headers.get? .contentType = some value →
      headers.get? .contentType = some value' → Respelled value.bytes value'.bytes →
      (decode target).run (r.withHeaders headers) =
        ⟨((decode target).run r).answer, ((decode target).run r).state.withHeaders headers,
          ((decode target).run r).trail⟩) ∧
    ∀ (r : Response) (message : Message Body) (value : FieldValue) (bytes : Bytes),
      r.failure? = none → r.message? = some message → message.body.contents = .ok bytes →
      message.headers.get? .contentType = some value → ¬Readable value.bytes →
      ((decode target).run r).answer = (target.json bytes).mapError .json := by
  refine ⟨fun text => isProtobuf_iff, fun text => isProtobuf_iff_of_free, ?_, ?_, ?_⟩
  · rintro text text' (recased | reparametrised)
    · exact recased.isProtobuf_eq
    · exact reparametrised.isProtobuf_eq
  · intro r message headers value value' present first first' respelled
    have codec := isProtobuf_of_respelled first first' respelled
    exact run_decode_withHeaders present codec.symm target
  · intro r message value bytes clean present readable first unreadable
    exact answer_decode_json clean present readable (isProtobuf_of_unreadable first unreadable) target

/-- A quoted semicolon behind a type in capital letters, and then a quoted letter that is not
readable. -/
theorem essence_names_the_codec_quoted :
    let plain : FieldValue := ⟨Bytes.ascii "APPLICATION/Protobuf", by decide⟩
    let quoted : FieldValue := ⟨Bytes.ascii "APPLICATION/Protobuf; q=\"a;b\"", by decide⟩
    let accented : FieldValue :=
      ⟨Bytes.ascii "APPLICATION/Protobuf; q=" ++ [0x22, 0xc3, 0xa9, 0x22], by decide⟩
    let message : Message Body := {
      headers := Headers.insert ∅ .contentType plain
      body := .ofBytes [8, 7] }
    let r : Response := { message? := some message }
    let target : Decodable Bool :=
      { json := fun _ => .ok false, protobuf? := some fun _ => .ok true }
    let headers := Headers.insert ∅ .contentType quoted
    let unread := { message with headers := Headers.insert ∅ .contentType accented }
    semicolon ∉ plain.bytes ∧ Respelled plain.bytes quoted.bytes ∧
      MediaType.isProtobuf plain.bytes = true ∧ MediaType.isProtobuf quoted.bytes = true ∧
      ((decode target).run (r.withHeaders headers)).answer = .ok true ∧
      ¬Readable accented.bytes ∧
      ((decode target).run { message? := some unread }).answer = .ok false := by
  intro plain quoted accented message r target headers unread
  obtain ⟨-, free, same, kept, asJson⟩ := essence_names_the_codec target
  have uncut : semicolon ∉ plain.bytes := by decide
  have protobuf := (free plain.bytes uncut).2 (by decide)
  have listed : Parameters (Bytes.ascii " q=\"a;b\"") := isParameters_iff.1 (by decide)
  have reparametrised : Reparametrised plain.bytes quoted.bytes :=
    ⟨by decide, .none, .parameters listed⟩
  have respelled : Respelled plain.bytes quoted.bytes :=
    .inr ⟨reparametrised,
      iff_of_true (List.all_eq_true.1 (by decide)) (List.all_eq_true.1 (by decide))⟩
  have unreadable : ¬Readable accented.bytes := fun all => by
    cases all 0xc3 (by decide)
  refine ⟨uncut, respelled, protobuf, (same _ _ (.inr reparametrised)).symm.trans protobuf, ?_,
    unreadable, asJson _ unread accented [8, 7] rfl rfl rfl rfl unreadable⟩
  rw [kept r message headers plain quoted rfl rfl rfl respelled]
  rfl

/-- A parameter outside of ASCII takes a body from the protobuf codec to the JSON one. -/
theorem unreadable_parameter_changes_codec :
    ¬∀ (target : Decodable Bool) (r : Response) (message : Message Body) (headers : Headers)
      (value value' : FieldValue), r.message? = some message →
      message.headers.get? .contentType = some value →
      headers.get? .contentType = some value' → Reparametrised value.bytes value'.bytes →
      ((decode target).run (r.withHeaders headers)).answer = ((decode target).run r).answer := by
  intro rule
  let plain : FieldValue := ⟨Bytes.ascii "application/protobuf", by decide⟩
  -- the parameter is a letter of two octets, between quotes
  let listed : Bytes := Bytes.ascii " a=" ++ [0x22, 0xc3, 0xa9, 0x22]
  let accented : FieldValue := ⟨plain.bytes ++ semicolon :: listed, by decide⟩
  let message : Message Body := {
    headers := Headers.insert ∅ .contentType plain
    body := .ofBytes [8, 7] }
  let target : Decodable Bool :=
    { json := fun _ => .ok false, protobuf? := some fun _ => .ok true }
  have reparametrised : Reparametrised plain.bytes accented.bytes :=
    ⟨by decide, .none, .parameters (isParameters_iff.1 (by decide))⟩
  have kept := rule target { message? := some message } message
    (Headers.insert ∅ .contentType accented) plain accented rfl rfl rfl reparametrised
  cases kept

end Response

end Reply
