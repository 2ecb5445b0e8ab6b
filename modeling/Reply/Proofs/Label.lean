import Reply.Proofs.Framing
import Reply.Proofs.KnownLength
import Reply.Proofs.Putting
import Reply.Proofs.RoundTrip

/-!
# Reply.Proofs.Label

The Content-Type of a response that several values are put into, one after the
other.

1. JSON and protobuf come with a Content-Type, which takes the place of any other.
   A raw body comes with none, and none is taken away for it (`bears_put`).
2. No other call has a say in the headers but those on the headers themselves
   (`bears_perform`, `Writer.bears_perform`).
3. So the Content-Type is that of the last value that came with one
   (`content_type_is_last_label`), and a raw body may stand under that of a value
   which is gone (`label_outlives_value`).
-/

namespace Reply

open Operation (Keeps)

/-! ## headers that are replaced -/

namespace Fields

/-- Of two values that a name is given alone the later one counts. -/
theorem insert_insert (name : FieldName) (earlier later : FieldValue) (fields : List Field) :
    insert name later (insert name earlier fields) = insert name later fields := by
  induction fields with
  | nil => simp [insert]
  | cons field rest ih =>
    by_cases h : field.name = name
    · simp [insert, h]
    · simp [insert, h, ih]

end Fields

theorem Headers.insert_insert (headers : Headers) (name : FieldName) (earlier later : FieldValue) :
    (headers.insert name earlier).insert name later = headers.insert name later :=
  eq_of_fields (Fields.insert_insert name earlier later headers.fields)

namespace Response

variable {α : Type}

/-! ## labels -/

/-- The Content-Type that a form comes with. -/
def Form.label? : Form → Option FieldValue
  | raw _ => none
  | json _ => some MediaType.jsonValue
  | protobuf _ => some MediaType.protobufValue

/-- The Content-Type that a call comes with on this response. -/
def Put.label? (r : Response) (put : Put) : Option FieldValue := (put.form r).label?

/-- The headers under this Content-Type, if there is one. -/
def relabel (headers : Headers) : Option FieldValue → Headers
  | none => headers
  | some contentType => headers.insert .contentType contentType

/-- A call comes with the same Content-Type on all responses to a request. -/
theorem label?_congr {a b : Response} (same : a.request? = b.request?) (put : Put) :
    put.label? a = put.label? b := congrArg Form.label? (put.form_congr same)

/-! ## calls that leave the headers alone -/

/-- The response answers this request, with these headers. -/
structure Bears (request? : Option Request) (headers : Headers) (r : Response) : Prop where
  request : r.request? = request?
  headers : r.message.headers = headers

/-- The calls that have nothing to do with headers. -/
def Action.Aloof : Action α → Prop
  | .header _ | .encode _ | .writeProtobuf _ => False
  | _ => True

section Calls

variable {request? : Option Request} {headers : Headers}

theorem bears_onBody (op : Operation Body α) : Keeps (Bears request? headers) (onBody op) :=
  fun _ bears => ⟨bears.request, bears.headers⟩

theorem bears_setStatus (status : Status) : Keeps (Bears request? headers) (setStatus status) :=
  fun _ bears => ⟨bears.request, bears.headers⟩

theorem bears_setSize (size : PayloadSize) : Keeps (Bears request? headers) (setSize size) :=
  .modify fun _ bears => ⟨bears.request, bears.headers⟩

theorem bears_setFailure (failure : Failure) :
    Keeps (Bears request? headers) (setFailure failure) :=
  .modify fun _ bears => ⟨bears.request, bears.headers⟩

theorem bears_takeFailure : Keeps (Bears request? headers) takeFailure :=
  fun _ bears => ⟨bears.request, bears.headers⟩

theorem bears_markHijacked : Keeps (Bears request? headers) markHijacked :=
  .modify fun _ bears => ⟨bears.request, bears.headers⟩

theorem bears_setBody (body : Body) : Keeps (Bears request? headers) (setBody body) :=
  (bears_setSize _).bind fun _ => bears_onBody _

theorem bears_write (data : Bytes) : Keeps (Bears request? headers) (write data) := by
  intro r bears
  rw [state_write]
  exact ⟨bears.request, bears.headers⟩

theorem bears_flush : Keeps (Bears request? headers) flush :=
  keeps_flush_of_onBody (bears_onBody _)

theorem bears_bodyBytes (consume : Bool) : Keeps (Bears request? headers) (bodyBytes consume) :=
  keeps_bodyBytes_of_onBody (bears_onBody _)

theorem bears_record (failure : Failure) :
    Keeps (Bears request? headers) (record failure : Operation Response (Except Failure α)) :=
  (Keeps.log _).bind fun _ => (bears_setFailure failure).bind fun _ => .pure _

theorem bears_settle (answer : Except Failure α) :
    Keeps (Bears request? headers) (settle answer) := by
  cases answer with
  | ok a => exact .pure _
  | error failure => exact bears_record failure

theorem bears_decodeBody (target : Decodable α) (protobuf : Bool) (bytes : Bytes) :
    Keeps (Bears request? headers) (decodeBody target protobuf bytes) := by
  unfold decodeBody
  split
  · split
    · exact .pure _
    · exact bears_settle _
  · exact bears_settle _

theorem bears_decode (target : Decodable α) : Keeps (Bears request? headers) (decode target) := by
  refine .get fun r => ?_
  split
  · exact .pure _
  · exact bears_record _
  · refine (bears_bodyBytes true).bind fun answer => ?_
    cases answer with
    | error error => exact bears_record _
    | ok bytes => exact bears_decodeBody target _ bytes

theorem bears_perform {action : Action α} (aloof : action.Aloof) :
    Keeps (Bears request? headers) (perform action) := by
  cases action with
  | setStatus status => exact (bears_setStatus status).map _
  | setBody body => exact (bears_setBody body).map _
  | setSize size => exact (bears_setSize size).map _
  | setFailure failure => exact (bears_setFailure failure).map _
  | takeFailure => exact bears_takeFailure.map _
  | decode target => exact (bears_decode target).map _
  | write data => exact (bears_write data).map _
  | writeAll data => exact (Keeps.writeAll bears_write data).map _
  | writeSlices slices => exact (keeps_writeSlices bears_write slices).map _
  | flush => exact bears_flush.map _
  | bodyBytes consume => exact (bears_bodyBytes consume).map _
  | body actions => exact (bears_onBody _).map _
  | header | encode | writeProtobuf => exact aloof.elim

end Calls

end Response

/-! ### through a writer -/

namespace Writer

/-- The calls that have nothing to do with headers. -/
def Action.Aloof : Action → Prop
  | .header _ => False
  | _ => True

theorem bears_perform {request? : Option Request} {headers : Headers} {action : Action}
    (aloof : action.Aloof) :
    Keeps (fun writer : Writer => writer.response.Bears request? headers) (perform action) := by
  refine keeps_perform (fun edit same => ?_) Response.bears_setStatus Response.bears_write
    Response.bears_flush Response.bears_setFailure Response.bears_markHijacked
  rw [same] at aloof
  exact aloof.elim

end Writer

namespace Response

/-! ## calls that put something in -/

/-- What goes in without a failure leaves the headers under its Content-Type, if it comes with
one, and as they are if it does not. -/
theorem bears_put {r : Response} {put : Put} (clean : recorded? put.perform r = none) :
    Bears r.request? (relabel r.message.headers (put.label? r)) (put.perform.run r).state := by
  rw [recorded?_perform, Option.map_eq_none_iff, ← put.message_prepare r] at clean
  have request : (put.prepare r).request? = r.request? := by cases put <;> rfl
  rw [put.state_perform, ← put.message_prepare r, ← request, Put.label?]
  cases form : put.form r with
  | raw body => exact ⟨rfl, rfl⟩
  | json attempt =>
    rw [form] at clean
    obtain ⟨sound, written⟩ := Form.written_of_stop?_json clean
    have present : (put.prepare r).message? = some (put.prepare r).message := by
      rw [put.message_prepare]
      exact Put.message?_prepare form
    rw [state_put_json_ok sound ((answer_writeAll _ present).trans written),
      state_writeAll _ present]
    exact ⟨rfl, rfl⟩
  | protobuf encoded =>
    rw [form] at clean
    obtain ⟨bytes, count, rfl, counted⟩ := Form.counted_of_stop?_protobuf clean
    rw [state_put_protobuf_ok ((answer_write bytes _).trans counted), state_write]
    exact ⟨rfl, rfl⟩

/-- The responses that come of a new one by calls that put something in and record no failure, and
by calls that have nothing to do with headers, made directly or through writers; and what was put
in, the latest first. -/
inductive Filled : Response → List Put → Prop
  | fresh {r : Response} (fresh : r.Fresh) : Filled r []
  | put {r : Response} {puts : List Put} (filled : Filled r puts) (put : Put)
      (clean : recorded? put.perform r = none) : Filled (put.perform.run r).state (put :: puts)
  | call {r : Response} {puts : List Put} (filled : Filled r puts) {α : Type} {action : Action α}
      (aloof : action.Aloof) : Filled ((perform action).run r).state puts
  | writer {r : Response} {puts : List Put} (filled : Filled r puts) (transport : Transport)
      {actions : List Writer.Action} (aloof : ∀ action ∈ actions, action.Aloof) :
      Filled ((Operation.each Writer.perform actions).run (r.writer transport)).state.response puts

/-- The Content-Type of the last of these calls that comes with one. -/
def lastLabel? (r : Response) (puts : List Put) : Option FieldValue := puts.findSome? (·.label? r)

theorem lastLabel?_congr {a b : Response} (same : a.request? = b.request?) (puts : List Put) :
    a.lastLabel? puts = b.lastLabel? puts := by
  have labels : Put.label? a = Put.label? b := funext fun put => label?_congr same put
  rw [lastLabel?, lastLabel?, labels]

/-- Under one Content-Type after the other headers are under the last one. -/
theorem relabel_relabel (headers : Headers) (earlier? later? : Option FieldValue) :
    relabel (relabel headers earlier?) later? = relabel headers (later?.or earlier?) := by
  cases later? with
  | none => rfl
  | some later =>
    cases earlier? with
    | none => rfl
    | some earlier => exact headers.insert_insert _ earlier later

/-- The last Content-Type is all that there is in the headers. -/
theorem headers_filled {r : Response} {puts : List Put} (filled : Filled r puts) :
    r.message.headers = relabel ∅ (r.lastLabel? puts) := by
  induction filled with
  | fresh fresh => cases fresh <;> rfl
  | @put r puts _ put clean ih =>
    obtain ⟨request, headers⟩ := bears_put clean
    rw [headers, ih, relabel_relabel, lastLabel?_congr request, lastLabel?, lastLabel?,
      List.findSome?_cons]
    cases put.label? r <;> rfl
  | @call r puts _ α action aloof ih =>
    obtain ⟨request, headers⟩ := bears_perform aloof ⟨rfl, rfl⟩
    rw [headers, ih, lastLabel?_congr request]
  | @writer r puts _ transport actions aloof ih =>
    have kept : Keeps (fun writer : Writer =>
          writer.response.Bears r.request? r.message.headers)
        (Operation.each Writer.perform actions) :=
      Keeps.each fun action member => Writer.bears_perform (aloof action member)
    obtain ⟨request, headers⟩ := kept (a := r.writer transport) ⟨rfl, rfl⟩
    rw [headers, ih, lastLabel?_congr request]

/-- **The Content-Type is the last that any value came with**: of the values that were put into a
new response, the last one that was no raw body.  It is that of the very last one just if that is
no raw body, or there were nothing but raw bodies before. -/
theorem content_type_is_last_label {r : Response} {put : Put} {puts : List Put}
    (filled : Filled r (put :: puts)) :
    r.message.headers.values .contentType = (r.lastLabel? (put :: puts)).toList ∧
      (r.message.headers.values .contentType = (put.label? r).toList ↔
        (put.label? r).isSome = true ∨ ∀ earlier ∈ puts, earlier.label? r = none) := by
  have values : r.message.headers.values .contentType = (r.lastLabel? (put :: puts)).toList := by
    rw [headers_filled filled]
    cases r.lastLabel? (put :: puts) with
    | none => rfl
    | some contentType => rw [relabel, Headers.values_insert, if_pos rfl]; rfl
  refine ⟨values, ?_⟩
  rw [values, lastLabel?, List.findSome?_cons]
  cases put.label? r with
  | some contentType => simp
  | none => simp [List.findSome?_eq_none_iff]

/-- A message that the request accepts goes into a stream that was put in raw; then comes a byte. -/
theorem content_type_is_last_label_mixed :
    let request : Request := { headers := Headers.insert ∅ .accept MediaType.protobufValue }
    let raw : Put := .value (.raw (.streaming { deliveries := [.data [1]], writable := true }))
    let message : Put := .value (.value { written := [0x31] } (some (.ok [8, 7])))
    let first := (raw.perform.run (.answering request)).state
    let second := (message.perform.run first).state
    let r := ((perform (.write [1] : Action Unit)).run second).state
    Filled r [message, raw] ∧
      r.message.headers.values .contentType = [MediaType.protobufValue] := by
  intro request raw message first second r
  have adopted : recorded? raw.perform (.answering request) = none := by rfl
  have sent : recorded? message.perform first = none := by rfl
  have filled : Filled r [message, raw] :=
    .call (.put (.put (.fresh (.answering request .ok)) raw adopted) message sent) trivial
  have last : r.lastLabel? [message, raw] = some MediaType.protobufValue := by rfl
  refine ⟨filled, (content_type_is_last_label filled).1.trans ?_⟩
  rw [last]
  rfl

/-- A raw body behind a message that was accepted stands under the Content-Type of protobuf. -/
theorem label_outlives_value :
    ¬∀ (r : Response) (put : Put) (puts : List Put), Filled r (put :: puts) →
      r.message.headers.values .contentType = (put.label? r).toList := by
  intro always
  let request : Request := { headers := Headers.insert ∅ .accept MediaType.protobufValue }
  let message : Put := .value (.value { written := [0x31] } (some (.ok [8, 7])))
  let raw : Put := .value (.raw .empty)
  let first := (message.perform.run (.answering request)).state
  have sent : recorded? message.perform (.answering request) = none := by rfl
  have adopted : recorded? raw.perform first = none := by rfl
  have filled := Filled.put (.put (.fresh (.answering request .ok)) message sent) raw adopted
  have stale : (raw.perform.run first).state.message.headers.values .contentType =
      [MediaType.protobufValue] := by rfl
  have unlabelled : (raw.label? (raw.perform.run first).state).toList = [] := rfl
  cases stale.symm.trans ((always _ raw [message] filled).trans unlabelled)

end Response

end Reply
