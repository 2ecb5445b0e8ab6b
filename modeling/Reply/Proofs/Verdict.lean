import Reply.Proofs.Decoding

/-!
# Reply.Proofs.Verdict

What comes of reading a value out of a response on which no failure is recorded.

1. `Verdict` has one rule for each way in which that can go: there is no message, the
   body cannot be read, one of the two codecs gets the bytes, or the target lacks the
   form that the body has.  Each rule says what is answered and what is recorded.
2. A failure is logged where it is recorded, and only there (`run_settle`,
   `run_decodeBody`).
3. The body is spent; of the rest of the response nothing changes but the record
   (`decode_gives_verdict`).
-/

namespace Reply

/-! ## what is left of a body -/

namespace Body

/-- The body behind its being taken: a buffer is empty, and any other body is closed. -/
def spent : Body → Body
  | buffered _ => empty
  | _ => closed

theorem state_readAll (body : Body) : (readAll.run body).state = body.spent := by
  cases body <;> rfl

end Body

/-- The message behind its body's being taken. -/
def Message.spent (message : Message Body) : Message Body :=
  { message with body := message.body.spent }

/-! ## what is logged -/

namespace Event

/-- The event of a decode that recorded a failure. -/
def isDecodingFailed : Event → Bool
  | decodingFailed _ => true
  | _ => false

end Event

/-- The events of decodes that recorded a failure. -/
def Trail.decodingFailures (trail : Trail) : List Event := trail.log.filter Event.isDecodingFailed

theorem decodingFailures_append (a b : Trail) :
    (a ++ b).decodingFailures = a.decodingFailures ++ b.decodingFailures := List.filter_append ..

/-- Of a body that is taken at most the failure of a close is logged. -/
theorem decodingFailures_readAll (body : Body) :
    (Body.readAll.run body).trail.decodingFailures = [] := by
  cases body with
  | buffered | closed => rfl
  | streaming stream =>
    show stream.gather.stream.release.decodingFailures = []
    unfold Stream.release
    split <;> rfl

namespace Response

variable {α : Type}

/-! ## the rules -/

/-- The first Content-Type is readable text, and names a protobuf media type. -/
def NamesProtobuf (headers : Headers) : Prop :=
  ∃ value rest mediaType, headers.values .contentType = value :: rest ∧
    (∀ b ∈ value.bytes, isVisible b = true) ∧
    MediaType.parse? value.bytes = some mediaType ∧
    mediaType.essence ∈ MediaType.protobufTypes

theorem isProtobuf_iff (headers : Headers) : isProtobuf headers = true ↔ NamesProtobuf headers := by
  have names (text : Bytes) : MediaType.isProtobuf text = true ↔
      ∃ mediaType, MediaType.parse? text = some mediaType ∧
        mediaType.essence ∈ MediaType.protobufTypes := by
    unfold MediaType.isProtobuf
    cases MediaType.parse? text <;> simp
  simp only [isProtobuf, Option.any_eq_true, Headers.visible?_eq_some_iff, names]
  constructor
  · rintro ⟨_, ⟨value, rest, first, rfl, readable⟩, mediaType, parsed, named⟩
    exact ⟨value, rest, mediaType, first, readable, parsed, named⟩
  · rintro ⟨value, rest, mediaType, first, readable, parsed, named⟩
    exact ⟨value.bytes, ⟨value, rest, first, rfl, readable⟩, mediaType, parsed, named⟩

/-- The failure that an answer is. -/
def failureOf? : Except Failure α → Option Failure
  | .ok _ => none
  | .error failure => some failure

/-- What a decode answers on this message, and what it records, where nothing was recorded. -/
inductive Verdict (target : Decodable α) :
    Option (Message Body) → Except Failure α → Option Failure → Prop
  | noMessage {failure : Failure}
      (internal : failure = .service .internalService "Response has no body" none none) :
      Verdict target none (.error failure) (some failure)
  | unreadable {message : Message Body} {error : IoError} {failure : Failure}
      (stopped : message.body.contents = .error error)
      (wrapped : failure =
        .service .badResponse (Failure.io error).message none (some (.io error))) :
      Verdict target (some message) (.error failure) (some failure)
  | protobuf {message : Message Body} {bytes : Bytes}
      {read : Bytes → Except Protobuf.DecodeError α} {answer : Except Failure α}
      (readable : message.body.contents = .ok bytes) (named : NamesProtobuf message.headers)
      (form : target.protobuf? = some read)
      (decoded : answer = (read bytes).mapError .protobufDecode) :
      Verdict target (some message) answer (failureOf? answer)
  | json {message : Message Body} {bytes : Bytes} {answer : Except Failure α}
      (readable : message.body.contents = .ok bytes) (other : ¬NamesProtobuf message.headers)
      (decoded : answer = (target.json bytes).mapError .json) :
      Verdict target (some message) answer (failureOf? answer)
  | lacksForm {message : Message Body} {bytes : Bytes} {failure : Failure}
      (readable : message.body.contents = .ok bytes) (named : NamesProtobuf message.headers)
      (lacks : target.protobuf? = none)
      (invalid : failure = .service .internalService "could not decode proto message"
        (some .invalidType) none) :
      Verdict target (some message) (.error failure) none

/-! ## recording -/

/-- Nothing is done but to answer, and to record this failure, if any, with one event. -/
def ruled (r : Response) (answer : Except Failure α) (recorded? : Option Failure) :
    Outcome Response (Except Failure α) where
  answer
  state := { r with failure? := recorded? }
  trail := { log := (recorded?.map .decodingFailed).toList }

theorem run_record (failure : Failure) (r : Response) :
    (record failure : Operation Response (Except Failure α)).run r =
      r.ruled (.error failure) (some failure) := rfl

section Clean

variable {r : Response} (clean : r.failure? = none)
include clean

/-- What is answered without a record leaves the response alone. -/
theorem run_pure_clean (answer : Except Failure α) :
    (pure answer : Operation Response (Except Failure α)).run r = r.ruled answer none := by
  have kept : { r with failure? := none } = r := by rw [← clean]
  rw [ruled, kept]
  rfl

theorem run_settle (answer : Except Failure α) :
    (settle answer).run r = r.ruled answer (failureOf? answer) := by
  cases answer with
  | ok a => exact run_pure_clean clean (.ok a)
  | error failure => exact run_record failure r

/-- The bytes go to the codec that the headers name, if the target has its form. -/
theorem run_decodeBody {message : Message Body} {bytes : Bytes}
    (readable : message.body.contents = .ok bytes) (target : Decodable α) :
    ∃ answer recorded?, Verdict target (some message) answer recorded? ∧
      (decodeBody target (isProtobuf message.headers) bytes).run r = r.ruled answer recorded? := by
  cases format : isProtobuf message.headers with
  | false =>
    have other : ¬NamesProtobuf message.headers := by simp [← isProtobuf_iff, format]
    exact ⟨_, _, .json readable other rfl, run_settle clean _⟩
  | true =>
    have named := (isProtobuf_iff _).1 format
    cases form : target.protobuf? with
    | none =>
      refine ⟨_, _, .lacksForm readable named form rfl, ?_⟩
      simp only [decodeBody, form, if_true]
      exact run_pure_clean clean _
    | some read =>
      refine ⟨_, _, .protobuf readable named form rfl, ?_⟩
      simp only [decodeBody, form, if_true]
      exact run_settle clean _

end Clean

/-! ## the verdict -/

/-- The body is taken, and then the rest of the response is ruled on as it was. -/
theorem run_decode_present {r : Response} {message : Message Body} (clean : r.failure? = none)
    (present : r.message? = some message) (target : Decodable α) :
    ∃ answer recorded?, Verdict target (some message) answer recorded? ∧
      (decode target).run r =
        ({ r with message? := some message.spent }.ruled answer recorded?).after
          (Body.readAll.run message.body).trail := by
  have taken : (bodyBytes true).run r =
      ⟨message.body.contents, { r with message? := some message.spent },
        (Body.readAll.run message.body).trail⟩ := by
    rw [run_bodyBytes_of_some present, if_pos rfl, onBody, run_onMessage,
      message_of_some present, Message.run_onBody, Body.answer_readAll, Body.state_readAll,
      creation, present]
    rfl
  rw [run_decode_message clean present, Operation.run_bind, taken]
  cases readable : message.body.contents with
  | error error => exact ⟨_, _, .unreadable readable rfl, rfl⟩
  | ok bytes =>
    have kept : { r with message? := some message.spent }.failure? = none := clean
    obtain ⟨answer, recorded?, verdict, run⟩ := run_decodeBody kept readable target
    refine ⟨answer, recorded?, verdict, ?_⟩
    simp only [run]
    rfl

/-- **A decode gives its verdict**: what it answers and what it records is what the one rule says
that fits the message, where no failure was recorded before.  If there is a message its body has
been taken; besides the record nothing else has changed.  What is recorded is logged, once, and
nothing is logged as a failure to decode that is not. -/
theorem decode_gives_verdict {r : Response} (clean : r.failure? = none) (target : Decodable α) :
    let outcome := (decode target).run r
    let recorded? := outcome.state.failure?
    Verdict target r.message? outcome.answer recorded? ∧
      outcome.state =
        { r with message? := r.message?.map Message.spent, failure? := recorded? } ∧
      outcome.trail.decodingFailures = (recorded?.map Event.decodingFailed).toList := by
  have logged (recorded? : Option Failure) :
      Trail.decodingFailures { log := (recorded?.map .decodingFailed).toList } =
        (recorded?.map Event.decodingFailed).toList := by
    cases recorded? <;> rfl
  intro outcome recorded?
  cases present : r.message? with
  | none =>
    have run : outcome = r.ruled (.error .noBody) (some .noBody) :=
      (run_decode_noMessage clean present target).trans (run_record _ r)
    simp only [recorded?, run]
    exact ⟨.noMessage rfl, by rw [ruled, Option.map_none, ← present], logged _⟩
  | some message =>
    obtain ⟨answer, ruling?, verdict, run⟩ := run_decode_present clean present target
    have run : outcome = _ := run
    simp only [recorded?, run]
    refine ⟨verdict, rfl, ?_⟩
    show Trail.decodingFailures (_ ++ _) = _
    rw [decodingFailures_append, decodingFailures_readAll]
    exact logged _

/-- A protobuf message that comes in two pieces, for a target that is read from JSON alone. -/
theorem decode_gives_verdict_lacksForm :
    let octets : FieldValue := ⟨Bytes.ascii "application/octet-stream", by decide⟩
    let message : Message Body := {
      headers := Headers.insert ∅ .contentType octets
      body := .streaming {
        deliveries := [.data [8], .failure (.ofKind .interrupted), .data [7]] } }
    let r : Response := { message? := some message, size := .known 2, hijacked := true }
    let target : Decodable Bool := { json := fun _ => .ok true }
    let outcome := (decode target).run r
    r.failure? = none ∧ Verdict target (some message) outcome.answer outcome.state.failure? ∧
      outcome.answer = .error (.invalidType "could not decode proto message") ∧
      outcome.state = { r with message? := some { message with body := .closed } } ∧
      outcome.trail.decodingFailures = [] := by
  intro octets message r target outcome
  have clean : r.failure? = none := rfl
  have readable : message.body.contents = .ok [8, 7] := rfl
  have named : NamesProtobuf message.headers := (isProtobuf_iff _).1 (by decide)
  obtain ⟨verdict, left, logged⟩ := decode_gives_verdict clean target
  -- of the five rules only one is for a readable protobuf body and such a target
  have lacks : outcome.answer = .error (.invalidType "could not decode proto message") ∧
      outcome.state.failure? = none := by
    generalize outcome.answer = answer, outcome.state.failure? = recorded? at verdict
    cases verdict with
    | unreadable stopped => cases readable.symm.trans stopped
    | protobuf _ _ form => cases form
    | json _ other => exact absurd named other
    | lacksForm _ _ _ invalid => exact ⟨congrArg Except.error invalid, rfl⟩
  refine ⟨clean, verdict, lacks.1, ?_, ?_⟩
  · exact left.trans (by rw [lacks.2]; rfl)
  · exact logged.trans (by rw [lacks.2]; rfl)

end Response

end Reply
