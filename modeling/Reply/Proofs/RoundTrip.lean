import Reply.Proofs.Decoding
import Reply.Proofs.Encoding
import Reply.Proofs.HandOver
import Reply.Schema.Messages

/-!
# Reply.Proofs.RoundTrip

A value on its way from one end of the wire to the other.

It is put into a fresh response, which is handed over; the head that goes out is
received with a body that brings the same bytes, and the value is read out of
that.  The codecs are open: all that is asked of them is that they read back the
value from what they write (`Wrapper.RoundTrips`).

The format is chosen once, by what the request accepts, and told to the other
end by the Content-Type alone (`isProtobuf_sent`); the length is told by the
framing alone (`announcedSize_sent`).
-/

namespace Reply

/-! ## wrapped values -/

/-- The ways in which values of a type travel. -/
inductive Wrapper (α : Type)
  /-- As JSON. -/
  | json (form : Json.Form α)
  /-- As protobuf where the request accepts it, and as JSON otherwise. -/
  | protobuf (form : Protobuf.Form α)

namespace Wrapper

variable {α : Type}

/-- What is put into a response. -/
def encodable : Wrapper α → α → Encodable
  | json _, a => .json a
  | protobuf _, a => .protobuf a

/-- What is read out of one. -/
def decodable : Wrapper α → Decodable α
  | json _ => .ofJson α
  | protobuf _ => .ofProtobuf α

/-- The codecs of the wrapper read back the value from what they write. -/
def RoundTrips : Wrapper α → α → Prop
  | json _, a => Json.decode Json.Form.decoder (Json.encode a) = .ok a
  | protobuf _, a =>
    Json.decode Json.Form.decoder (Json.encode a) = .ok a ∧
      Protobuf.Form.unmarshal (Protobuf.Form.marshal a) = .ok a

/-- A value put into this response goes out as protobuf. -/
def sendsProtobuf (r : Response) : Wrapper α → Bool
  | json _ => false
  | protobuf _ => r.acceptsProtobuf

/-- The bytes that a value put into this response goes out as. -/
def wire (r : Response) (a : α) : Wrapper α → Bytes
  | json _ => Json.encode a
  | protobuf _ => if r.acceptsProtobuf then Protobuf.Form.marshal a else Json.encode a

end Wrapper

namespace Response

variable {α : Type}

/-- A response to which nothing happened since it was made, without a failure. -/
inductive Fresh : Response → Prop
  | answering (request : Request) (status : Status) : Fresh (.answering request status)
  | default : Fresh {}

section Fresh

variable {r : Response} (fresh : r.Fresh)
include fresh

theorem failure?_fresh : r.failure? = none := by
  cases fresh <;> rfl

theorem size_fresh : r.size = .known 0 := by
  cases fresh <;> rfl

theorem body_fresh : r.message.body = .buffered ∅ := by
  cases fresh <;> rfl

end Fresh

/-- The Content-Type of a format. -/
def contentType (protobuf : Bool) : FieldValue :=
  if protobuf then MediaType.protobufValue else MediaType.jsonValue

/-- The payload size after a value was put into an empty body: a protobuf message sets it, JSON is
counted on top of what it was. -/
def sizeBehind (size : PayloadSize) (protobuf : Bool) (bytes : Bytes) : PayloadSize :=
  if protobuf then .known bytes.length
  else if bytes.isEmpty then size
  else size.advance bytes.length

/-- The payload size of so many bytes that were put into a fresh response. -/
def payloadSize (protobuf : Bool) (length : Nat) : PayloadSize :=
  if protobuf ∨ length < PayloadSize.chunkThreshold then .known length else .chunked

/-- Where nothing was counted before, that is a matter of the format and the length alone. -/
theorem sizeBehind_zero (protobuf : Bool) (bytes : Bytes) :
    sizeBehind (.known 0) protobuf bytes = payloadSize protobuf bytes.length := by
  have small : PayloadSize.chunkThreshold ≤ PayloadSize.maxLength := by decide
  have some : 0 < PayloadSize.chunkThreshold := by decide
  cases protobuf with
  | true => simp [sizeBehind, payloadSize]
  | false =>
    cases bytes with
    | nil => simp [sizeBehind, payloadSize, some]
    | cons b rest =>
      simp only [sizeBehind, PayloadSize.advance, PayloadSize.total, payloadSize,
        List.isEmpty_cons, Bool.false_eq_true, if_false, false_or, Nat.zero_add]
      by_cases short : (b :: rest).length < PayloadSize.chunkThreshold
      · have counted : min (b :: rest).length PayloadSize.maxLength = (b :: rest).length := by
          omega
        rw [counted, if_neg (by omega), if_pos short]
      · rw [if_pos (by omega), if_neg short]

/-- What a response with an empty body in memory, or without a message, is after a value was put
into it. -/
theorem state_encode_empty {r : Response} (empty : r.message.body = .empty) (wrapper : Wrapper α)
    (a : α) :
    ((encode (wrapper.encodable a)).run r).state =
      { r.holding (r.message.headers.insert .contentType (contentType (wrapper.sendsProtobuf r)))
          (.push ∅ (wrapper.wire r a)) with
        size := sizeBehind r.size (wrapper.sendsProtobuf r) (wrapper.wire r a) } := by
  have asJson {protobuf? : Option (Except Protobuf.EncodeError Bytes)} (bytes : Bytes)
      (negotiated : r.negotiate protobuf? = none) :=
    state_encode_json empty negotiated bytes
  cases wrapper with
  | json form => exact asJson (Json.encode a) (by simp [negotiate])
  | protobuf form =>
    simp only [Wrapper.encodable, Wrapper.sendsProtobuf, Wrapper.wire]
    cases accepts : r.acceptsProtobuf with
    | false => exact asJson (Json.encode a) (by simp [negotiate, accepts])
    | true =>
      have negotiated : r.negotiate (some (.ok (Protobuf.Form.marshal a))) =
          some (.ok (Protobuf.Form.marshal a)) := by simp [negotiate, accepts]
      exact state_encode_protobuf empty negotiated { written := Json.encode a }

/-- What a fresh response is after a value was put into it. -/
theorem state_encode_fresh {r : Response} (fresh : r.Fresh) (wrapper : Wrapper α) (a : α) :
    ((encode (wrapper.encodable a)).run r).state =
      { r.holding (r.message.headers.insert .contentType (contentType (wrapper.sendsProtobuf r)))
          (.push ∅ (wrapper.wire r a)) with
        size := payloadSize (wrapper.sendsProtobuf r) (wrapper.wire r a).length } := by
  rw [state_encode_empty (body_fresh fresh), size_fresh fresh, sizeBehind_zero]

/-- What goes out then. -/
theorem handOver_encode_fresh {r : Response} (fresh : r.Fresh) (wrapper : Wrapper α) (a : α) :
    ((encode (wrapper.encodable a)).run r).state.handOver.1 =
      .ok {
        status := r.message.status
        version := r.message.version
        headers :=
          (r.message.headers.insert .contentType (contentType (wrapper.sendsProtobuf r))).frame
            (payloadSize (wrapper.sendsProtobuf r) (wrapper.wire r a).length)
            (wrapper.wire r a).length
        body := wrapper.wire r a } := by
  let message : Message Body :=
    { r.message with
      headers := r.message.headers.insert .contentType (contentType (wrapper.sendsProtobuf r))
      body := .buffered (.push ∅ (wrapper.wire r a)) }
  have encoded := state_encode_fresh fresh wrapper a
  have none := failure?_fresh fresh
  have clean : ((encode (wrapper.encodable a)).run r).state.failure? = .none := by
    rw [encoded]
    exact none
  have present : ((encode (wrapper.encodable a)).run r).state.message? = some message := by
    rw [encoded]
    rfl
  have readable : message.body.contents = .ok (wrapper.wire r a) := by
    simp [message, Body.contents]
  rw [handOver_sent clean present readable, encoded]
  rfl

/-! ## what the other end gets -/

/-- A Content-Type that is the only one tells its format. -/
theorem isProtobuf_alone {headers : Headers} {protobuf : Bool}
    (alone : headers.values .contentType = [contentType protobuf]) :
    isProtobuf headers = protobuf := by
  rw [isProtobuf, Headers.visible?, Headers.get?, alone]
  cases protobuf <;> decide

/-- The format that the other end reads off the head is that of the value. -/
theorem isProtobuf_sent (protobuf : Bool) (headers : Headers) (size : PayloadSize)
    (bodyLength : Nat) :
    isProtobuf ((headers.insert .contentType (contentType protobuf)).frame size bodyLength) =
      protobuf := by
  have one : (headers.insert .contentType (contentType protobuf)).values .contentType =
      [contentType protobuf] := by rw [Headers.values_insert, if_pos rfl]
  have kept : ((headers.insert .contentType (contentType protobuf)).frame size bodyLength).values
      .contentType = [contentType protobuf] := by
    rw [Headers.values_frame_of_ne _ _ _ (by decide) (by decide), one]
  exact isProtobuf_alone kept

/-- The size that the other end reads off the head is the one that was framed. -/
theorem announcedSize_sent (protobuf : Bool) (headers : Headers) {length : Nat}
    (fits : length ≤ PayloadSize.maxLength) :
    (headers.frame (payloadSize protobuf length) length).announcedSize =
      payloadSize protobuf length := by
  rw [Headers.announcedSize_frame headers (payloadSize protobuf length) fun _ => fits]
  unfold payloadSize
  split <;> rfl

/-- The wrapper reads back the value from the bytes it went out as, in the format it went out in. -/
theorem decode_wire {wrapper : Wrapper α} {a : α} (roundTrips : wrapper.RoundTrips a)
    (r incoming : Response) {message : Message Body} (clean : incoming.failure? = none)
    (present : incoming.message? = some message)
    (readable : message.body.contents = .ok (wrapper.wire r a))
    (format : isProtobuf message.headers = wrapper.sendsProtobuf r) :
    ((decode wrapper.decodable).run incoming).answer = .ok a ∧
      ((decode wrapper.decodable).run incoming).state = incoming.emptied message := by
  cases wrapper with
  | json form => exact decode_json clean present readable format roundTrips
  | protobuf form =>
    obtain ⟨asJson, asProtobuf⟩ := roundTrips
    simp only [Wrapper.wire, Wrapper.sendsProtobuf] at readable format
    cases accepts : r.acceptsProtobuf with
    | false =>
      rw [accepts] at readable format
      exact decode_json clean present readable format asJson
    | true =>
      rw [accepts] at readable format
      exact decode_protobuf clean present readable format rfl asProtobuf

/-- **Round trip**: a value put into a fresh response and handed over is read again by whoever
receives the head, for whatever request, and the bytes, in memory or in chunks.  No failure is
recorded.  The size that is received is the number of bytes, unless so many were written as JSON
that they went out in chunks. -/
theorem decode_received_encode {wrapper : Wrapper α} {a : α} (roundTrips : wrapper.RoundTrips a)
    {r : Response} (fresh : r.Fresh) :
    ∃ sent, ((encode (wrapper.encodable a)).run r).state.handOver.1 = .ok sent ∧
      sent.body = wrapper.wire r a ∧
      ∀ (request? : Option Request) (body : Body), body.Delivers sent.body →
        let incoming := received request? { sent with body }
        let outcome := (decode wrapper.decodable).run incoming
        outcome.answer = .ok a ∧ outcome.state.failure? = none ∧
          (sent.body.length ≤ PayloadSize.maxLength →
            incoming.size = payloadSize (wrapper.sendsProtobuf r) sent.body.length) := by
  refine ⟨_, handOver_encode_fresh fresh wrapper a, rfl, ?_⟩
  intro request? body delivered incoming outcome
  have readable := Body.contents_of_delivers delivered
  have format := isProtobuf_sent (wrapper.sendsProtobuf r) r.message.headers
    (payloadSize (wrapper.sendsProtobuf r) (wrapper.wire r a).length) (wrapper.wire r a).length
  obtain ⟨answered, left⟩ :=
    decode_wire roundTrips r incoming rfl rfl readable format
  refine ⟨answered, ?_, fun fits => ?_⟩
  · show ((decode wrapper.decodable).run incoming).state.failure? = none
    rw [left]
    rfl
  · exact announcedSize_sent _ _ fits

/-- A ping that goes out as protobuf and comes in two chunks with an interruption between them. -/
theorem decode_received_encode_ping :
    let wrapper : Wrapper Schema.Ping := .protobuf inferInstance
    let ping : Schema.Ping := { seq := 7 }
    let r : Response :=
      .answering { headers := Headers.insert ∅ .accept MediaType.protobufValue } .ok
    let body : Body := .streaming {
      deliveries := [.data [0x08], .failure (.ofKind .interrupted), .data [0x07]] }
    (wrapper.RoundTrips ping ∧ r.Fresh) ∧
      ∃ sent, ((encode (wrapper.encodable ping)).run r).state.handOver.1 = .ok sent ∧
        body.Delivers sent.body ∧
        ((decode wrapper.decodable).run (received none { sent with body })).answer = .ok ping ∧
        (received none { sent with body }).size = .known 2 := by
  have asJson : Json.decode Json.Form.decoder (Json.encode (⟨7⟩ : Schema.Ping)) =
      .ok (⟨7⟩ : Schema.Ping) := by rfl
  have marshalled : Protobuf.Form.marshal (⟨7⟩ : Schema.Ping) = [0x08, 0x07] := by cbv
  have unmarshalled : Protobuf.Form.unmarshal [0x08, 0x07] = .ok (⟨7⟩ : Schema.Ping) := by rfl
  intro wrapper ping r body
  have roundTrips : wrapper.RoundTrips ping := ⟨asJson, marshalled ▸ unmarshalled⟩
  have accepts : r.acceptsProtobuf = true := by rfl
  have fresh : r.Fresh := .answering _ _
  have wire : wrapper.wire r ping = [0x08, 0x07] := by
    simp only [wrapper, Wrapper.wire, accepts, if_true]
    exact marshalled
  refine ⟨⟨roundTrips, fresh⟩, ?_⟩
  obtain ⟨sent, handedOver, bytes, received⟩ := decode_received_encode roundTrips fresh
  have delivered : body.Delivers sent.body := by
    rw [bytes, wire]
    exact ⟨by decide, by decide⟩
  obtain ⟨answered, -, sized⟩ := received none body delivered
  refine ⟨sent, handedOver, delivered, answered, ?_⟩
  rw [bytes, wire] at sized
  exact sized (by decide)

end Response

end Reply
