import Reply.Proofs.RoundTrip
import Reply.Schema.Records

/-!
# Reply.Proofs.Reuse

One response, used for one exchange after the other.

A value is put into the response and read out of it again, by its own wrapper.  A
response is *ready* for that if no failure is recorded and there is nothing in its
body; nothing is asked of its head, of its payload size or of its request.

1. Encoding replaces the Content-Type, whatever it was, by one that tells the format
   of the value (`labelled_encode`).
2. Decoding reads the value back and takes the body, which leaves a buffer that is
   empty but can be written again (`echo_ready`).  So the response is ready for the
   next value, of whatever type and in whatever format.
-/

namespace Reply.Response

/-! ## ready responses -/

/-- Nothing is recorded, and there is nothing in the body, or no message at all. -/
structure Ready (r : Response) : Prop where
  clean : r.failure? = none
  empty : r.body? = none ∨ r.body? = some .empty

theorem body_ready {r : Response} (ready : r.Ready) : r.message.body = .empty := by
  cases present : r.message? with
  | none =>
    rw [message, present]
    rfl
  | some message =>
    have held : r.body? = some message.body := by rw [body?, present, Option.map_some]
    rw [message_of_some present]
    rcases ready.empty with none | empty
    · rw [held] at none
      cases none
    · exact Option.some.inj (held.symm.trans empty)

/-! ## wrapped values of several types -/

/-- A value of one of several types, and the way in which it travels. -/
structure Parcel {ι : Type} (β : ι → Type) where
  kind : ι
  wrapper : Wrapper (β kind)
  value : β kind

section Parcels

variable {ι : Type} {β : ι → Type}

/-- The codecs of its wrapper read the value back. -/
def Parcel.RoundTrips (parcel : Parcel β) : Prop := parcel.wrapper.RoundTrips parcel.value

/-- Puts a value into the response and reads one out of it; the answer is what was read, and the
failure and the body that the response has then. -/
def echo (parcel : Parcel β) :
    Operation Response (((i : ι) × Except Failure (β i)) × Option Failure × Option Body) := do
  encode (parcel.wrapper.encodable parcel.value)
  let answer ← decode parcel.wrapper.decodable
  let r ← Operation.get
  return (⟨parcel.kind, answer⟩, r.failure?, r.body?)

/-! ## one exchange -/

section Encoded

variable {α : Type} {r : Response} (ready : r.Ready) (wrapper : Wrapper α) (a : α)
include ready

/-- A value that was put into a ready response is all that is in it, under a label that tells its
format. -/
theorem labelled_encode :
    ∃ message, ((encode (wrapper.encodable a)).run r).state.message? = some message ∧
      message.body = .buffered (.push ∅ (wrapper.wire r a)) ∧
      isProtobuf message.headers = wrapper.sendsProtobuf r := by
  have encoded := state_encode_empty (body_ready ready) wrapper a
  refine ⟨_, congrArg Response.message? encoded, rfl, ?_⟩
  have alone : (r.message.headers.insert .contentType
      (contentType (wrapper.sendsProtobuf r))).values .contentType =
        [contentType (wrapper.sendsProtobuf r)] := by
    rw [Headers.values_insert, if_pos rfl]
  exact isProtobuf_alone alone

theorem clean_encode : ((encode (wrapper.encodable a)).run r).state.failure? = none := by
  rw [state_encode_empty (body_ready ready)]
  exact ready.clean

/-- It is read back, and nothing is left in the body. -/
theorem decode_encode (roundTrips : wrapper.RoundTrips a) :
    let encoded := ((encode (wrapper.encodable a)).run r).state
    let outcome := (decode wrapper.decodable).run encoded
    outcome.answer = .ok a ∧ outcome.state.failure? = none ∧ outcome.state.body? = some .empty := by
  intro encoded outcome
  obtain ⟨message, present, body, format⟩ := labelled_encode ready wrapper a
  have clean := clean_encode ready wrapper a
  have readable : message.body.contents = .ok (wrapper.wire r a) := by
    rw [body, Body.contents, Buffer.toList_push, Buffer.toList_empty, List.nil_append]
  obtain ⟨answered, left⟩ := decode_wire roundTrips r encoded clean present readable format
  have emptied : (Body.readAll.run message.body).state = .empty := by
    rw [body]
    rfl
  refine ⟨answered, ?_, ?_⟩
  · show outcome.state.failure? = none
    rw [show outcome.state = encoded.emptied message from left]
    exact clean
  · show outcome.state.body? = some .empty
    rw [show outcome.state = encoded.emptied message from left]
    exact congrArg some emptied

end Encoded

/-- An exchange on a ready response answers the value and leaves the response ready. -/
theorem echo_ready {r : Response} (ready : r.Ready) {parcel : Parcel β}
    (roundTrips : parcel.RoundTrips) :
    ((echo parcel).run r).answer = (⟨parcel.kind, .ok parcel.value⟩, none, some .empty) ∧
      ((echo parcel).run r).state.Ready := by
  obtain ⟨answered, clean, empty⟩ := decode_encode ready parcel.wrapper parcel.value roundTrips
  constructor
  · simp only [echo, Operation.run_bind, Operation.run_get, Operation.run_pure]
    rw [answered, clean, empty]
  · exact ⟨clean, .inr empty⟩

/-! ## any number of exchanges -/

/-- **Reuse**: a response without a recorded failure, whose message is missing or has nothing in its
body, takes any number of values of any types, each in its own wrapper.  Each of them is read back
as it was, no failure is recorded, and the body is in memory and empty behind each exchange. -/
theorem every_exchange_echoes {r : Response} (clean : r.failure? = none)
    (empty : r.body? = none ∨ r.body? = some .empty) {parcels : List (Parcel β)}
    (roundTrip : ∀ parcel ∈ parcels, parcel.RoundTrips) :
    ((Operation.each echo parcels).run r).answer =
      parcels.map fun parcel => (⟨parcel.kind, .ok parcel.value⟩, none, some .empty) := by
  have ready : r.Ready := ⟨clean, empty⟩
  clear clean empty
  induction parcels generalizing r with
  | nil => rfl
  | cons parcel rest ih =>
    rw [List.forall_mem_cons] at roundTrip
    obtain ⟨answered, still⟩ := echo_ready ready roundTrip.1
    rw [Operation.run_each_cons, List.map_cons, answered, ih roundTrip.2 still]

/-- A record as JSON, then a ping as protobuf, on a response that is labelled as text and about to
reach the length from which on it is chunked. -/
theorem every_exchange_echoes_mixed :
    let β : Bool → Type := fun
      | true => Schema.Plain
      | false => Schema.Ping
    let plain : Parcel β := ⟨true, .json (inferInstanceAs (Json.Form Schema.Plain)), ⟨"hi"⟩⟩
    let ping : Parcel β :=
      ⟨false, .protobuf (inferInstanceAs (Protobuf.Form Schema.Ping)), (⟨7⟩ : Schema.Ping)⟩
    let text : FieldValue := ⟨Bytes.ascii "text/plain", by decide⟩
    let r : Response := {
      message? := some { headers := Headers.insert ∅ .contentType text, body := .empty }
      size := .known 4999999
      request? := some { headers := Headers.insert ∅ .accept MediaType.protobufValue } }
    (r.failure? = none ∧ (r.body? = none ∨ r.body? = some .empty) ∧
        ∀ parcel ∈ [plain, ping, plain], parcel.RoundTrips) ∧
      ((Operation.each echo [plain, ping, plain]).run r).answer =
        [(⟨true, .ok (⟨"hi"⟩ : Schema.Plain)⟩, none, some .empty),
          (⟨false, .ok (⟨7⟩ : Schema.Ping)⟩, none, some .empty),
          (⟨true, .ok (⟨"hi"⟩ : Schema.Plain)⟩, none, some .empty)] := by
  have plainJson : Json.decode Json.Form.decoder (Json.encode (⟨"hi"⟩ : Schema.Plain)) =
      .ok (⟨"hi"⟩ : Schema.Plain) := by rfl
  have pingJson : Json.decode Json.Form.decoder (Json.encode (⟨7⟩ : Schema.Ping)) =
      .ok (⟨7⟩ : Schema.Ping) := by rfl
  have marshalled : Protobuf.Form.marshal (⟨7⟩ : Schema.Ping) = [0x08, 0x07] := by cbv
  have unmarshalled : Protobuf.Form.unmarshal [0x08, 0x07] = .ok (⟨7⟩ : Schema.Ping) := by rfl
  intro β plain ping text r
  have plainReturns : plain.RoundTrips := plainJson
  have pingReturns : ping.RoundTrips := ⟨pingJson, marshalled ▸ unmarshalled⟩
  have roundTrip : ∀ parcel ∈ [plain, ping, plain], parcel.RoundTrips := by
    simp [plainReturns, pingReturns]
  exact ⟨⟨rfl, .inr rfl, roundTrip⟩, every_exchange_echoes rfl (.inr rfl) roundTrip⟩

end Parcels

end Reply.Response
