import Reply.Proofs.Framing
import Reply.Proofs.Putting

/-!
# Reply.Proofs.Shortfall

What becomes of a response when its body takes less than it is given.

1. A message goes out with one write, and what that write takes is taken for the
   message.  So a message that no failure is recorded for is whole unless a stream
   cuts the write short (`message_is_whole_iff`), and one that is cut short is not
   reported (`message_may_be_cut_short`).
2. JSON whose bytes are refused leaves the head alone, and counts what was taken.  A
   message that is refused is labelled all the same, and nought is its size
   (`refusal_spares_json_alone`), so the label may be that of bytes that are not there
   (`refused_message_is_labelled`).
-/

namespace Reply.Response

/-! ## messages that go in -/

/-- All of these bytes went behind what the body held, and their number is the payload size. -/
structure Complete (before after : Response) (bytes : Bytes) : Prop where
  body : after.message.body.held = before.message.body.held ++ bytes
  size : after.size = .known bytes.length

section Message

variable {r : Response} {put : Put} {bytes : Bytes} (form : put.form r = .protobuf (.ok bytes))
include form

/-- The response behind a message whose write is answered a count. -/
theorem state_perform_counted {count : Nat}
    (answered : ((Body.write bytes).run r.message.body).answer = .ok count) :
    (put.perform.run r).state.message.body = ((Body.write bytes).run r.message.body).state ∧
      (put.perform.run r).state.message.head =
        { r.message.head with
          headers := r.message.headers.insert .contentType MediaType.protobufValue } ∧
      (put.perform.run r).state.size = .known count := by
  rw [← put.message_prepare r] at answered ⊢
  rw [put.state_perform, form,
    state_put_protobuf_ok ((answer_write bytes (put.prepare r)).trans answered), state_write]
  exact ⟨rfl, rfl, rfl⟩

/-- The response behind a message whose write is refused. -/
theorem state_perform_refused {error : IoError}
    (answered : ((Body.write bytes).run r.message.body).answer = .error error) :
    (put.perform.run r).state.message.head =
        { r.message.head with
          headers := r.message.headers.insert .contentType MediaType.protobufValue } ∧
      (put.perform.run r).state.size = .known 0 := by
  rw [← put.message_prepare r] at answered ⊢
  rw [put.state_perform, form,
    state_put_protobuf_error ((answer_write bytes (put.prepare r)).trans answered), state_write]
  exact ⟨rfl, rfl⟩

end Message

/-- **A message is whole, or cut short by a stream**: where a message goes out as protobuf and no
failure is recorded, so many of its bytes went into the body as the payload size says, from its
front on.  They are all of them just if the body does not cut the write short. -/
theorem message_is_whole_iff {r : Response} {put : Put}
    {encoded : Except Protobuf.EncodeError Bytes} (form : put.form r = .protobuf encoded)
    (clean : recorded? put.perform r = none) :
    let after := (put.perform.run r).state
    ∃ bytes, encoded = .ok bytes ∧
      (∃ count ≤ bytes.length,
        after.message.body.held = r.message.body.held ++ bytes.take count ∧
          after.size = .known count) ∧
      (Complete r after bytes ↔ r.message.body.cutsShort bytes = false) := by
  intro after
  rw [recorded?_perform, Option.map_eq_none_iff, form] at clean
  obtain ⟨bytes, count, rfl, answered⟩ := Form.counted_of_stop?_protobuf clean
  obtain ⟨body, -, size⟩ := state_perform_counted form answered
  obtain ⟨fits, whole⟩ := Body.count_write answered
  have held : after.message.body.held = r.message.body.held ++ bytes.take count := by
    rw [body]
    exact Body.held_write answered
  refine ⟨bytes, rfl, ⟨count, fits, held, size⟩, ?_⟩
  rw [← whole]
  constructor
  · intro complete
    have counted := size.symm.trans complete.size
    exact PayloadSize.known.inj counted
  · intro all
    rw [all, List.take_length] at held
    exact ⟨held, all ▸ size⟩

/-- A message behind an unread byte, into a stream that takes five bytes at once. -/
theorem message_is_whole_iff_unread :
    let stream : Stream :=
      { deliveries := [.data [1]], writable := true, acceptances := [.upTo 5] }
    let r : Response := { message? := some { body := .streaming stream } }
    let put : Put := .message (.ok [8, 7])
    (put.form r = .protobuf (.ok [8, 7]) ∧ recorded? put.perform r = none) ∧
      Complete r (put.perform.run r).state [8, 7] := by
  intro stream r put
  have form : put.form r = .protobuf (.ok [8, 7]) := rfl
  have clean : recorded? put.perform r = none := by rfl
  refine ⟨⟨form, clean⟩, ?_⟩
  obtain ⟨bytes, same, -, whole⟩ := message_is_whole_iff form clean
  cases same
  exact whole.2 rfl

/-- A stream that takes one byte of two leaves half a message, and no failure. -/
theorem message_may_be_cut_short :
    ¬∀ (r : Response) (put : Put) (bytes : Bytes), put.form r = .protobuf (.ok bytes) →
      recorded? put.perform r = none → Complete r (put.perform.run r).state bytes := by
  intro always
  let stream : Stream := { writable := true, acceptances := [.upTo 1] }
  let r : Response := { message? := some { body := .streaming stream } }
  have complete := always r (.message (.ok [8, 7])) [8, 7] rfl (by rfl)
  have size : ((Put.message (.ok [8, 7])).perform.run r).state.size = .known 1 := by rfl
  exact absurd (size.symm.trans complete.size) (by decide)

/-! ## bytes that are refused -/

/-- The head is what it was, and the payload size has moved on by these counts. -/
structure Unlabelled (before after : Response) (counts : List Nat) : Prop where
  head : after.message.head = before.message.head
  size : after.size = before.sizeAfter counts

/-- JSON that is refused leaves no label, and what was taken of it is counted. -/
theorem unlabelled_of_json {r : Response} {put : Put} {attempt : JsonAttempt} {error : IoError}
    (form : put.form r = .json attempt)
    (stopped : (Form.json attempt).stop? r.message.body = some (.io error)) :
    Unlabelled r (put.perform.run r).state (Sink.counts attempt.written r.message.body) := by
  obtain ⟨sound, answered⟩ := Form.refused_of_stop?_json stopped
  have present := Put.message?_prepare form
  rw [put.state_perform, form,
    state_put_json_error sound ((answer_writeAll attempt.written present).trans answered),
    state_writeAll attempt.written present]
  cases put with
  | value => exact ⟨rfl, rfl⟩
  | message => cases form

/-- Labelling headers again changes nothing just if they have this label alone. -/
theorem insert_eq_self_iff {headers : Headers} {name : FieldName} {value : FieldValue} :
    headers.insert name value = headers ↔ headers.values name = [value] := by
  refine ⟨fun same => ?_, Headers.insert_eq_self⟩
  rw [← same, Headers.values_insert, if_pos rfl]

/-- **A refusal spares the label of JSON alone**: where the body refuses the bytes that a call
writes, JSON leaves the head as it was, and the payload size only goes on by what was taken of it.
A message makes protobuf the Content-Type all the same, and nought the payload size, which goes
unnoticed only where they were that before. -/
theorem refusal_spares_json_alone {r : Response} {put : Put} {error : IoError}
    (refused : recorded? put.perform r = some (Failure.io error).wrap) :
    let after := (put.perform.run r).state
    (∃ attempt, put.form r = .json attempt ∧
        Unlabelled r after (Sink.counts attempt.written r.message.body)) ∨
      ∃ bytes, put.form r = .protobuf (.ok bytes) ∧
        after.message.head =
          { r.message.head with
            headers := r.message.headers.insert .contentType MediaType.protobufValue } ∧
        after.size = .known 0 ∧
        (Unlabelled r after [] ↔
          r.message.headers.values .contentType = [MediaType.protobufValue] ∧
            r.size = .known 0) := by
  intro after
  rw [recorded?_perform] at refused
  obtain ⟨failure, stopped, same⟩ := Option.map_eq_some_iff.1 refused
  obtain rfl := Failure.wrap_inj (Form.isService_of_stop? stopped) rfl same
  cases form : put.form r with
  | raw body =>
    rw [form] at stopped
    cases stopped
  | json attempt =>
    rw [form] at stopped
    exact .inl ⟨attempt, rfl, unlabelled_of_json form stopped⟩
  | protobuf encoded =>
    rw [form] at stopped
    obtain ⟨bytes, rfl, answered⟩ := Form.refused_of_stop?_protobuf stopped
    obtain ⟨head, size⟩ := state_perform_refused form answered
    refine .inr ⟨bytes, rfl, head, size, ?_⟩
    rw [← insert_eq_self_iff]
    constructor
    · intro unlabelled
      have headers := congrArg Message.headers (head.symm.trans unlabelled.head)
      exact ⟨headers, unlabelled.size.symm.trans size⟩
    · rintro ⟨alone, nought⟩
      rw [alone] at head
      exact ⟨head, size.trans nought.symm⟩

/-- JSON into a pipe that breaks behind its first byte, on a response with a Content-Type. -/
theorem refusal_spares_json_alone_pipe :
    let text : FieldValue := ⟨Bytes.ascii "text/plain", by decide⟩
    let stream : Stream :=
      { writable := true, acceptances := [.upTo 1, .failure (.ofKind .brokenPipe)] }
    let r : Response := {
      message? := some
        { headers := Headers.insert ∅ .contentType text, body := .streaming stream }
      size := .known 7 }
    let put : Put := .value (.value { written := [0x7b, 0x7d] })
    let after := (put.perform.run r).state
    recorded? put.perform r = some (Failure.io (.ofKind .brokenPipe)).wrap ∧
      after.message.headers.values .contentType = [text] ∧ after.size = .known 8 := by
  intro text stream r put after
  let broken : Stream := (stream.write [0x7b, 0x7d]).2
  have first : (Sink.write [0x7b, 0x7d]).run r.message.body =
      ⟨.ok 1, .streaming broken, {}⟩ := rfl
  have second : (Sink.write [0x7d]).run (Body.streaming broken) =
      ⟨.error (.ofKind .brokenPipe), .streaming (broken.write [0x7d]).2, {}⟩ := rfl
  have failed : ((Body.writeAll [0x7b, 0x7d]).run r.message.body).answer =
      .error (.ofKind .brokenPipe) := by
    show (Sink.writeAll _ _).answer = _
    rw [Sink.writeAll_taken (by decide) first]
    show (Sink.writeAll [0x7d] _).answer = _
    rw [Sink.writeAll_failed (by decide) second]
    rfl
  have counts : Sink.counts [0x7b, 0x7d] r.message.body = [1] := by
    rw [Sink.counts_taken (by decide) first]
    show 1 :: Sink.counts [0x7d] _ = _
    rw [Sink.counts_failed (by decide) second]
    rfl
  have stopped : (put.form r).stop? r.message.body = some (.io (.ofKind .brokenPipe)) := by
    show Option.map Failure.io (Form.refusal? _ (.json _)) = _
    rw [Form.refusal?, failed]
    rfl
  have refused : recorded? put.perform r = some (Failure.io (.ofKind .brokenPipe)).wrap := by
    rw [recorded?_perform, stopped]
    rfl
  rcases refusal_spares_json_alone refused with ⟨attempt, form, unlabelled⟩ | ⟨bytes, form, -⟩
  · cases form
    have headers := congrArg Message.headers unlabelled.head
    have size := unlabelled.size
    rw [counts] at size
    exact ⟨refused, congrArg (Headers.values · .contentType) headers, size⟩
  · cases form

/-- A pipe that is broken from the start leaves nothing but a failure and the label of a message
that is not there. -/
theorem refused_message_is_labelled :
    ¬∀ (r : Response) (put : Put) (error : IoError),
      recorded? put.perform r = some (Failure.io error).wrap →
        ∃ counts, Unlabelled r (put.perform.run r).state counts := by
  intro always
  let stream : Stream := { writable := true, acceptances := [.failure (.ofKind .brokenPipe)] }
  let r : Response := { message? := some { body := .streaming stream } }
  obtain ⟨counts, unlabelled⟩ :=
    always r (.message (.ok [8, 7])) (.ofKind .brokenPipe) (by rfl)
  have before : r.message.headers.values .contentType = [] := by rfl
  have behind : ((Put.message (.ok [8, 7])).perform.run r).state.message.headers.values
      .contentType = [MediaType.protobufValue] := by rfl
  have headers := congrArg Message.headers unlabelled.head
  have same := congrArg (Headers.values · .contentType) headers
  exact absurd (behind.symm.trans (same.trans before)) (by decide)

end Reply.Response
