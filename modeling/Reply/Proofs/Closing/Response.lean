import Reply.Proofs.Closing.Body

/-!
# Reply.Proofs.Closing.Response

Responses and the closes of their bodies.

Whatever is asked of a response comes down to calls on its body, made one after the
other, and each of them is discreet.  What a response does besides is to look at its
head, its payload size and its failure, and none of these has a stream.
-/

namespace Reply

open Owner (streams)
open Operation (Discreet DiscreetAt)

/-! ## messages and responses -/

instance : Forgiving (Message Body) where
  forgive message := { message with body := forgive message.body }

namespace Message

variable {α : Type}

theorem discreet_onBody {op op' : Operation Body α} {brought : List Stream}
    (h : Discreet op op' brought) :
    Discreet (onBody op : Operation (Message Body) α) (onBody op') brought :=
  h.zoom (fun _ => rfl) (fun _ _ => rfl) (fun _ => rfl) fun _ _ => rfl

/-- Headers have no streams. -/
theorem discreet_onHeaders {op : Operation Headers α}
    (quiet : ∀ headers, (op.run headers).trail = {}) :
    Discreet (onHeaders op : Operation (Message Body) α) (onHeaders op) [] := by
  refine .of_same (fun message => ?_) (fun _ => rfl) (fun message => ?_) fun message => ?_ <;>
    simp only [run_onHeaders]
  · show Outcome.mk _ _ (op.run message.headers).trail = Outcome.mk _ _ (forgive (op.run _).trail)
    rw [quiet]
    rfl
  · rw [quiet]
  · rw [quiet]
    rfl

end Message

instance : Forgiving Response where
  forgive r := { r with message? := r.message?.map forgive }

namespace Headers

theorem trail_perform (action : Action) (headers : Headers) :
    ((perform action).run headers).trail = {} := by
  cases action <;> rfl

end Headers

namespace Response

variable {α : Type}

theorem message_forgive (r : Response) : (forgive r).message = forgive r.message := by
  obtain ⟨message?⟩ := r
  cases message? <;> rfl

theorem creation_forgive (r : Response) : (forgive r).creation = forgive r.creation := by
  obtain ⟨message?⟩ := r
  cases message? <;> rfl

theorem warnings_creation (r : Response) : r.creation.warnings = [] := by
  unfold creation
  split <;> rfl

theorem release_forgive (r : Response) : (forgive r).release = forgive r.release := by
  obtain ⟨message?⟩ := r
  cases message? with
  | none => rfl
  | some message => exact message.body.release_forgive

theorem settled_release (r : Response) : Settled (streams r) [] r.release := by
  unfold release
  split
  · rename_i message some
    rw [streams_of_message? some]
    exact message.body.settled_release
  · rename_i none
    rw [streams_of_none none]
    exact .refl [] rfl rfl

theorem discreet_onMessage {op op' : Operation (Message Body) α} {brought : List Stream}
    (h : Discreet op op' brought) : Discreet (onMessage op) (onMessage op') brought := by
  intro r
  refine ⟨?_, ?_⟩
  · rw [run_onMessage, run_onMessage, message_forgive, creation_forgive, (h r.message).forgives]
    exact congrArg (Outcome.mk _ _) (Trail.forgive_append r.creation _).symm
  · have made : Settled (streams r) (streams r) r.creation :=
      .refl _ r.released_creation r.warnings_creation
    exact made.trans (h r.message).settles

theorem discreet_onBody {op op' : Operation Body α} {brought : List Stream}
    (h : Discreet op op' brought) : Discreet (onBody op) (onBody op') brought :=
  discreet_onMessage (Message.discreet_onBody h)

theorem discreet_onHeaders {op : Operation Headers α}
    (quiet : ∀ headers, (op.run headers).trail = {}) :
    Discreet (onHeaders op) (onHeaders op) [] :=
  discreet_onMessage (Message.discreet_onHeaders quiet)

theorem discreet_ensureMessage : Discreet ensureMessage ensureMessage [] :=
  discreet_onMessage (.pure ())

theorem discreet_setStatus (status : Status) : Discreet (setStatus status) (setStatus status) [] :=
  discreet_onMessage (.modify (fun _ => rfl) fun _ => rfl)

theorem discreet_setSize (size : PayloadSize) : Discreet (setSize size) (setSize size) [] :=
  .modify (fun _ => rfl) fun _ => rfl

theorem discreet_setFailure (failure : Failure) :
    Discreet (setFailure failure) (setFailure failure) [] :=
  .modify (fun _ => rfl) fun _ => rfl

theorem discreet_markHijacked : Discreet markHijacked markHijacked [] :=
  .modify (fun _ => rfl) fun _ => rfl

theorem discreet_takeFailure : Discreet takeFailure takeFailure [] :=
  .of_same (fun _ => rfl) (fun _ => rfl) (fun _ => rfl) fun _ => rfl

theorem discreet_account (count : Nat) : Discreet (account count) (account count) [] := by
  have silent (r : Response) : ((account count).run r).trail.warnings = [] := by
    rw [run_account]
    cases r.size.crossing? count <;> rfl
  refine .of_same (fun r => ?_) (fun _ => rfl) (fun _ => rfl) silent
  exact congrArg (Outcome.mk () _) (Trail.forgive_eq_self rfl (silent r)).symm

theorem discreet_setBody (body : Body) :
    Discreet (setBody body) (setBody (forgive body)) (streams body) := by
  have same : (forgive body).buffer? = body.buffer? := by cases body <;> rfl
  unfold setBody
  rw [same]
  exact (discreet_setSize _).before fun _ => discreet_onBody body.discreet_replace

/-! ### writing and reading -/

theorem discreet_write (data : Bytes) : Discreet (write data) (write data) [] := by
  refine (discreet_onBody (Body.discreet_write data)).before fun answer => ?_
  cases answer with
  | error error => exact .pure _
  | ok count => exact (discreet_account count).before fun _ => .pure _

theorem discreet_writeAll (data : Bytes) : Discreet (writeAll data) (writeAll data) [] :=
  Discreet.writeAll discreet_write data

theorem discreet_writeSlices (slices : List Bytes) :
    Discreet (writeSlices slices) (writeSlices slices) [] := by
  induction slices with
  | nil => exact .pure _
  | cons slice rest ih =>
    refine (discreet_writeAll slice).before fun answer => ?_
    cases answer with
    | error error => exact .pure _
    | ok => exact ih

/-- A call on the body of a response that has one.  To forgive neither makes nor takes a message. -/
theorem discreet_of_onBody {op : Operation Response α} {body : Operation Body α} {answer : α}
    (absent : ∀ {r : Response}, r.message? = none → op.run r = ⟨answer, r, {}⟩)
    (present : ∀ {r : Response} {message : Message Body}, r.message? = some message →
      op.run r = (onBody body).run r)
    (h : Discreet body body []) : Discreet op op [] := by
  intro r
  cases found : r.message? with
  | none =>
    have still : (forgive r).message? = none := congrArg (Option.map forgive) found
    refine ⟨by rw [absent found, absent still]; rfl, ?_⟩
    rw [absent found, List.append_nil]
    exact .refl _ rfl rfl
  | some message =>
    have still : (forgive r).message? = some (forgive message) :=
      congrArg (Option.map forgive) found
    obtain ⟨forgives, settles⟩ := discreet_onBody h r
    exact ⟨by rw [present found, present still, forgives], by rwa [present found]⟩

theorem discreet_flush : Discreet flush flush [] :=
  discreet_of_onBody run_flush_of_none run_flush_of_some Body.discreet_flush

theorem discreet_bodyBytes (consume : Bool) : Discreet (bodyBytes consume) (bodyBytes consume) [] :=
  discreet_of_onBody (run_bodyBytes_of_none · consume) (run_bodyBytes_of_some · consume) <|
    match consume with
    | true => Body.discreet_readAll
    | false => Body.discreet_snapshot

/-! ### encoding and decoding -/

theorem discreet_label (contentType : FieldValue) :
    Discreet (label contentType) (label contentType) [] :=
  discreet_onHeaders fun _ => rfl

theorem discreet_writeJson (attempt : JsonAttempt) :
    Discreet (writeJson attempt) (writeJson attempt) [] := by
  unfold writeJson
  split
  · exact (Discreet.log rfl).before fun _ => discreet_setFailure _
  · refine (discreet_writeAll _).before fun answer => ?_
    cases answer with
    | error error => exact (Discreet.log rfl).before fun _ => discreet_setFailure _
    | ok => exact discreet_label _

theorem discreet_writeOnce (encoded : Bytes) :
    Discreet (writeOnce encoded) (writeOnce encoded) [] := by
  refine (discreet_write encoded).before fun answer => ?_
  cases answer with
  | error error =>
    exact (Discreet.log rfl).before fun _ => (discreet_setFailure _).before fun _ => .pure _
  | ok count => exact .pure _

theorem discreet_writeProtobuf (encoded : Except Protobuf.EncodeError Bytes) :
    Discreet (writeProtobuf encoded) (writeProtobuf encoded) [] := by
  cases encoded with
  | error error => exact (Discreet.log rfl).before fun _ => discreet_setFailure _
  | ok bytes =>
    exact (discreet_writeOnce bytes).before fun _ =>
      (discreet_label _).before fun _ => discreet_setSize _

theorem discreet_adopt (body : Body) :
    Discreet (adopt body) (adopt (forgive body)) (streams body) := by
  refine (Discreet.log rfl).before fun _ => ?_
  have all := (discreet_onBody body.discreet_replace).bind fun _ => discreet_setSize .chunked
  rwa [List.append_nil] at all

end Response

instance : Forgiving Encodable where
  forgive
    | .raw body => .raw (forgive body)
    | value => value

namespace Response

variable {α : Type}

theorem discreet_encode (value : Encodable) :
    Discreet (encode value) (encode (forgive value)) (brought value) := by
  refine discreet_ensureMessage.before fun _ => ?_
  cases value with
  | raw body => exact discreet_adopt body
  | value json protobuf? =>
    refine .get fun r => ?_
    have same : (forgive r).negotiate protobuf? = r.negotiate protobuf? := rfl
    rw [same]
    cases r.negotiate protobuf? with
    | some encoded => exact discreet_writeProtobuf encoded
    | none => exact discreet_writeJson json

theorem discreet_record (failure : Failure) :
    Discreet (record failure : Operation Response (Except Failure α)) (record failure) [] :=
  (Discreet.log rfl).before fun _ => (discreet_setFailure failure).before fun _ => .pure _

theorem discreet_settle (answer : Except Failure α) :
    Discreet (settle answer) (settle answer) [] := by
  cases answer with
  | ok a => exact .pure _
  | error failure => exact discreet_record failure

theorem discreet_decodeBody (target : Decodable α) (protobuf : Bool) (bytes : Bytes) :
    Discreet (decodeBody target protobuf bytes) (decodeBody target protobuf bytes) [] := by
  unfold decodeBody
  split
  · split
    · exact .pure _
    · exact discreet_settle _
  · exact discreet_settle _

theorem discreet_decode (target : Decodable α) : Discreet (decode target) (decode target) [] := by
  refine .get fun r => ?_
  obtain ⟨message?, size, failure?⟩ := r
  match failure?, message? with
  | some failure, _ => exact .pure _
  | none, none => exact discreet_record _
  | none, some message =>
    refine (discreet_bodyBytes true).before fun answer => ?_
    cases answer with
    | error error => exact discreet_record _
    | ok bytes => exact discreet_decodeBody target _ bytes

instance : Forgiving (Action α) where
  forgive
    | .setBody body => .setBody (forgive body)
    | .encode value => .encode (forgive value)
    | .body actions => .body (actions.map forgive)
    | action => action

/-- The call answers no close. -/
def Action.isTacit : Action α → Bool
  | .body actions => actions.all (·.isTacit)
  | _ => true

theorem isTacit_forgive (action : Action α) : (forgive action).isTacit = action.isTacit := by
  cases action with
  | body actions =>
    show (actions.map forgive).all _ = actions.all _
    rw [List.all_map]
    exact congrArg actions.all (funext Body.isTacit_forgive)
  | _ => rfl

theorem discreet_perform (action : Action α) (tacit : action.isTacit = true) :
    Discreet (perform action) (perform (forgive action)) action.brought := by
  cases action with
  | setStatus status => exact (discreet_setStatus status).map _
  | header action => exact (discreet_onHeaders (Headers.trail_perform action)).map _
  | setBody body => exact (discreet_setBody body).map _
  | setSize size => exact (discreet_setSize size).map _
  | setFailure failure => exact (discreet_setFailure failure).map _
  | takeFailure => exact discreet_takeFailure.map _
  | encode value => exact (discreet_encode value).map _
  | writeProtobuf encoded => exact (discreet_writeProtobuf encoded).map _
  | decode target => exact (discreet_decode target).map _
  | write data => exact (discreet_write data).map _
  | writeAll data => exact (discreet_writeAll data).map _
  | writeSlices slices => exact (discreet_writeSlices slices).map _
  | flush => exact discreet_flush.map _
  | bodyBytes consume => exact (discreet_bodyBytes consume).map _
  | body actions =>
    refine (discreet_onBody (Discreet.each fun action asked => ?_)).map _
    exact Body.discreet_perform action (List.all_eq_true.1 tacit action asked)

end Response

end Reply
