import Reply.Proofs.RoundTrip

/-!
# Reply.Proofs.Negotiation

In which format a value goes out, and what its response is then.

1. A request asks for protobuf if its first Accept value is readable and mentions the
   media type anywhere (`AsksForProtobuf`); nothing else of it is looked at
   (`acceptsProtobuf_iff`).
2. Where the body is in memory, or is still to be made, a value that has a protobuf
   form goes out in it if the request asks for that, and any other value as JSON.  Its
   bytes go behind those in memory, under the Content-Type of the format, and are
   counted as the format has it (`value_goes_out_as_negotiated`).
-/

namespace Reply.Response

/-! ## what a request asks for -/

/-- There is a request, and its first Accept value is readable text in which protobuf is
mentioned. -/
def AsksForProtobuf (r : Response) : Prop :=
  ∃ request value rest, r.request? = some request ∧
    request.headers.values .accept = value :: rest ∧
    (∀ b ∈ value.bytes, isVisible b = true) ∧
    Bytes.ascii "application/protobuf" <:+: value.bytes

theorem acceptsProtobuf_iff (r : Response) : r.acceptsProtobuf = true ↔ r.AsksForProtobuf := by
  simp only [acceptsProtobuf, Option.any_eq_true, Option.bind_eq_some_iff, Request.accept?,
    Headers.visible?_eq_some_iff, MediaType.acceptsProtobuf, Bytes.contains_iff]
  constructor
  · rintro ⟨_, ⟨request, answers, value, rest, first, rfl, readable⟩, mentioned⟩
    exact ⟨request, value, rest, answers, first, readable, mentioned⟩
  · rintro ⟨request, value, rest, answers, first, readable, mentioned⟩
    exact ⟨value.bytes, ⟨request, answers, value, rest, first, rfl, readable⟩, mentioned⟩

/-! ## what the response is then -/

/-- These bytes have gone out in this format, behind those in the buffer: under its Content-Type
alone, and counted.  The response is the same otherwise. -/
structure Sends (before : Response) (buffer : Buffer) (protobuf : Bool) (bytes : Bytes)
    (after : Response) : Prop where
  body : after.body? = some (.ofBytes (buffer.toList ++ bytes))
  label : after.message.headers.values .contentType = [contentType protobuf]
  values : ∀ name, name ≠ .contentType →
    after.message.headers.values name = before.message.headers.values name
  status : after.message.status = before.message.status
  version : after.message.version = before.message.version
  size : after.size = sizeBehind before.size protobuf bytes
  rest : after = { before with message? := after.message?, size := after.size }

theorem sends_holding (r : Response) (buffer : Buffer) (protobuf : Bool) (bytes : Bytes) :
    r.Sends buffer protobuf bytes
      { r.holding (r.message.headers.insert .contentType (contentType protobuf))
          (buffer.push bytes) with size := sizeBehind r.size protobuf bytes } where
  body := congrArg (fun filled => some (Body.buffered filled)) (Buffer.eq_of_toList (by simp))
  label := (Headers.values_insert ..).trans (if_pos rfl)
  values _ other := (Headers.values_insert ..).trans (if_neg other.symm)
  status := rfl
  version := rfl
  size := rfl
  rest := rfl

/-- **A value goes out as negotiated**: as protobuf exactly if the request asks for it and the value
has that form, and else as JSON, where the body is in memory or there is no message yet.  The bytes
that its codec makes of it stand behind those in memory then.  A protobuf message is the payload
size; JSON is added to what that was, unless it has no bytes. -/
theorem value_goes_out_as_negotiated {r : Response} {buffer : Buffer}
    (inMemory : r.message.body = .buffered buffer) (json : JsonAttempt)
    (protobuf? : Option (Except Protobuf.EncodeError Bytes)) :
    ∃ protobuf : Bool,
      (protobuf = true ↔ r.AsksForProtobuf ∧ protobuf?.isSome = true) ∧
      ∀ bytes, (if protobuf then protobuf? = some (.ok bytes) else json = { written := bytes }) →
        r.Sends buffer protobuf bytes ((encode (.value json protobuf?)).run r).state := by
  refine ⟨r.acceptsProtobuf && protobuf?.isSome, by rw [Bool.and_eq_true, acceptsProtobuf_iff], ?_⟩
  intro bytes made
  cases format : r.acceptsProtobuf && protobuf?.isSome with
  | true =>
    rw [Bool.and_eq_true] at format
    rw [format.1, format.2] at made
    have negotiated : r.negotiate protobuf? = some (.ok bytes) := (if_pos format.1).trans made
    rw [state_encode_protobuf inMemory negotiated json]
    exact sends_holding r buffer true bytes
  | false =>
    rw [format] at made
    obtain rfl : json = { written := bytes } := made
    have negotiated : r.negotiate protobuf? = none := by
      rw [Bool.and_eq_false_iff] at format
      rw [negotiate]
      split
      · exact Option.not_isSome_iff_eq_none.1 (by simp_all)
      · rfl
    rw [state_encode_json inMemory negotiated bytes]
    exact sends_holding r buffer false bytes

/-- A request that mentions protobuf behind other media types, in the first of two values; there is
no message yet. -/
theorem value_goes_out_as_negotiated_missing :
    let first : FieldValue := ⟨Bytes.ascii "text/html, application/protobuf;q=0.5", by decide⟩
    let request : Request := {
      version := .http2
      headers := (Headers.insert ∅ .accept first).append .accept MediaType.jsonValue }
    let r : Response := { size := .known 7, request? := some request }
    let after := ((encode (.value { written := [0x31] } (some (.ok [8, 7])))).run r).state
    r.message.body = .buffered ∅ ∧ r.AsksForProtobuf ∧ r.Sends ∅ true [8, 7] after ∧
      after.message.version = .http2 ∧ after.size = .known 2 := by
  intro first request r after
  have inMemory : r.message.body = .buffered ∅ := rfl
  have readable : first.bytes.all isVisible = true := by decide
  have asks : r.AsksForProtobuf :=
    ⟨request, first, [MediaType.jsonValue], rfl, by decide, List.all_eq_true.1 readable,
      Bytes.contains_iff.1 (by decide)⟩
  obtain ⟨protobuf, format, sends⟩ :=
    value_goes_out_as_negotiated inMemory { written := [0x31] } (some (.ok [8, 7]))
  obtain rfl : protobuf = true := format.2 ⟨asks, rfl⟩
  have sent : r.Sends ∅ true [8, 7] after := sends [8, 7] rfl
  exact ⟨inMemory, asks, sent, sent.version, sent.size⟩

end Reply.Response
