import Reply.Proofs.Alike
import Reply.Proofs.Counting
import Reply.Proofs.Ownership
import Reply.Proofs.Wrapping

/-!
# Reply.Proofs.Putting

What becomes of something that is put into a response.

1. A value, or a message, goes out in one *form*, which the request and the value
   settle between them (`Put.form`); from there on its form is all that matters
   (`run_perform`).
2. Something may stop it: its codec, or the body that its bytes are written to
   (`Form.stop?`).  Then that is recorded, wrapped, and otherwise nothing is
   (`failure?_perform`).
3. Where it is the codec, nothing else has happened by then, however often it did
   (`failed_serialisation_is_atomic`).
-/

namespace Reply

namespace Response

/-! ## calls and forms -/

/-- A call that puts something into the body of a response. -/
inductive Put
  /-- A value, in the form that is negotiated. -/
  | value (value : Encodable)
  /-- A message as protobuf, whatever the request accepts. -/
  | message (encoded : Except Protobuf.EncodeError Bytes)

/-- The form in which something is put into a body. -/
inductive Form
  | raw (body : Body)
  | json (attempt : JsonAttempt)
  | protobuf (encoded : Except Protobuf.EncodeError Bytes)

namespace Form

def put : Form → Operation Response Unit
  | raw body => adopt body
  | json attempt => writeJson attempt
  | protobuf encoded => writeProtobuf encoded

/-- The failure of its codec. -/
def fault? : Form → Option Failure
  | raw _ => none
  | json attempt => attempt.fault?.map .json
  | protobuf (.ok _) => none
  | protobuf (.error error) => some (.protobufEncode error)

/-- The failure of the body that its bytes are written to. -/
def refusal? (body : Body) : Form → Option IoError
  | raw _ | protobuf (.error _) => none
  | json attempt =>
    match ((Body.writeAll attempt.written).run body).answer with
    | .ok () => none
    | .error error => some error
  | protobuf (.ok bytes) =>
    match ((Body.write bytes).run body).answer with
    | .ok _ => none
    | .error error => some error

/-- What stops it: its bytes are written only if its codec does not fail. -/
def stop? (body : Body) (form : Form) : Option Failure :=
  form.fault?.or ((form.refusal? body).map .io)

theorem isService_of_fault? {form : Form} {fault : Failure} (h : form.fault? = some fault) :
    fault.isService = false := by
  cases form with
  | raw => cases h
  | json attempt =>
    obtain ⟨error, -, rfl⟩ := Option.map_eq_some_iff.1 h
    rfl
  | protobuf encoded =>
    cases encoded <;> cases h
    rfl

theorem isService_of_stop? {form : Form} {body : Body} {failure : Failure}
    (h : form.stop? body = some failure) : failure.isService = false := by
  rcases Option.or_eq_some_iff.1 h with fault | ⟨-, refused⟩
  · exact isService_of_fault? fault
  · obtain ⟨error, -, rfl⟩ := Option.map_eq_some_iff.1 refused
    rfl

/-- JSON that nothing stops is written whole. -/
theorem written_of_stop?_json {attempt : JsonAttempt} {body : Body}
    (clean : (json attempt).stop? body = none) :
    attempt.fault? = none ∧ ((Body.writeAll attempt.written).run body).answer = .ok () := by
  obtain ⟨passes, taken⟩ := Option.or_eq_none_iff.1 clean
  refine ⟨Option.map_eq_none_iff.1 passes, ?_⟩
  rw [Option.map_eq_none_iff, refusal?] at taken
  split at taken
  · assumption
  · cases taken

/-- A message that nothing stops is there, and its write is answered a count. -/
theorem counted_of_stop?_protobuf {encoded : Except Protobuf.EncodeError Bytes} {body : Body}
    (clean : (protobuf encoded).stop? body = none) :
    ∃ bytes count, encoded = .ok bytes ∧ ((Body.write bytes).run body).answer = .ok count := by
  obtain ⟨passes, taken⟩ := Option.or_eq_none_iff.1 clean
  cases encoded with
  | error => cases passes
  | ok bytes =>
    rw [Option.map_eq_none_iff, refusal?] at taken
    split at taken
    · exact ⟨bytes, _, rfl, ‹_›⟩
    · cases taken

/-- JSON that the body stops has no fault of its own. -/
theorem refused_of_stop?_json {attempt : JsonAttempt} {body : Body} {error : IoError}
    (stopped : (json attempt).stop? body = some (.io error)) :
    attempt.fault? = none ∧
      ((Body.writeAll attempt.written).run body).answer = .error error := by
  rcases Option.or_eq_some_iff.1 stopped with fault | ⟨passes, refused⟩
  · obtain ⟨fault, -, other⟩ := Option.map_eq_some_iff.1 fault
    cases other
  · obtain ⟨refusal, refused, same⟩ := Option.map_eq_some_iff.1 refused
    cases same
    refine ⟨Option.map_eq_none_iff.1 passes, ?_⟩
    rw [refusal?] at refused
    split at refused <;> cases refused
    assumption

/-- A message that the body stops is there. -/
theorem refused_of_stop?_protobuf {encoded : Except Protobuf.EncodeError Bytes} {body : Body}
    {error : IoError} (stopped : (protobuf encoded).stop? body = some (.io error)) :
    ∃ bytes, encoded = .ok bytes ∧ ((Body.write bytes).run body).answer = .error error := by
  cases encoded with
  | error => cases stopped
  | ok bytes =>
    rcases Option.or_eq_some_iff.1 stopped with fault | ⟨-, refused⟩
    · cases fault
    · obtain ⟨refusal, refused, same⟩ := Option.map_eq_some_iff.1 refused
      cases same
      refine ⟨bytes, rfl, ?_⟩
      rw [refusal?] at refused
      split at refused <;> cases refused
      assumption

end Form

namespace Put

def perform : Put → Operation Response Unit
  | .value a => encode a
  | .message encoded => writeProtobuf encoded

/-- The form that comes of a value and of what the request accepts. -/
def form (r : Response) : Put → Form
  | .value (.raw body) => .raw body
  | .value (.value json protobuf?) =>
    match r.negotiate protobuf? with
    | some encoded => .protobuf encoded
    | none => .json json
  | .message encoded => .protobuf encoded

/-- The form of a call is up to the request alone. -/
theorem form_congr {a b : Response} (same : a.request? = b.request?) (put : Put) :
    put.form a = put.form b := by
  have accepts : a.acceptsProtobuf = b.acceptsProtobuf := by
    rw [acceptsProtobuf, same]
    rfl
  cases put with
  | message encoded => rfl
  | value a =>
    cases a with
    | raw body => rfl
    | value json protobuf? => simp only [form, negotiate, accepts]

/-- The response that the form is put into: for a value a message is made first. -/
def prepare (r : Response) : Put → Response
  | .value _ => { r with message? := some r.message }
  | .message _ => r

theorem message_prepare (put : Put) (r : Response) : (put.prepare r).message = r.message := by
  cases put <;> rfl

theorem failure?_prepare (put : Put) (r : Response) : (put.prepare r).failure? = r.failure? := by
  cases put <;> rfl

/-- Only a value goes out as JSON, so there is a message by then. -/
theorem message?_prepare {put : Put} {r : Response} {attempt : JsonAttempt}
    (form : put.form r = .json attempt) : (put.prepare r).message? = some r.message := by
  cases put with
  | value a => rfl
  | message encoded => cases form

/-- What becomes of a call is up to the form; no stream is let go of before. -/
theorem run_perform (put : Put) (r : Response) :
    ∃ made : Trail, made.released = [] ∧
      put.perform.run r = ((put.form r).put.run (put.prepare r)).after made := by
  cases put with
  | message encoded => exact ⟨{}, rfl, by simp [perform, form, prepare, Form.put, Outcome.after]⟩
  | value a =>
    have none : (ensureMessage.run r).trail.released = [] := by
      simp [ensureMessage, released_creation]
    refine ⟨(ensureMessage.run r).trail, none, ?_⟩
    cases a with
    | raw body => rfl
    | value json protobuf? =>
      have negotiated : (ensureMessage.run r).state.negotiate protobuf? = r.negotiate protobuf? :=
        rfl
      simp only [perform, encode, form, Operation.run_bind, Operation.run_get, negotiated]
      cases r.negotiate protobuf? <;> rfl

theorem state_perform (put : Put) (r : Response) :
    (put.perform.run r).state = ((put.form r).put.run (put.prepare r)).state := by
  obtain ⟨made, -, run⟩ := put.run_perform r
  rw [run]
  rfl

end Put

/-! ## what a form does to a response -/

/-- The response with this as its only Content-Type. -/
def labelled (r : Response) (contentType : FieldValue) : Response :=
  { r with
    message? := some {
      r.message with headers := r.message.headers.insert .contentType contentType } }

/-- The response with this failure recorded, wrapped. -/
def blamed (r : Response) (failure : Failure) : Response :=
  { r with failure? := some failure.wrap }

/-- Where the codec fails, that is recorded, and nothing else is done. -/
theorem run_put_fault {form : Form} {fault : Failure} (fails : form.fault? = some fault)
    (r : Response) :
    (form.put.run r).state = r.blamed fault ∧ (form.put.run r).trail.released = [] := by
  cases form with
  | raw => cases fails
  | json attempt =>
    obtain ⟨error, failed, rfl⟩ := Option.map_eq_some_iff.1 fails
    simp [Form.put, writeJson, failed, setFailure, blamed]
  | protobuf encoded =>
    cases encoded with
    | ok bytes => cases fails
    | error error =>
      cases fails
      simp [Form.put, writeProtobuf, setFailure, blamed]

section Json

variable {attempt : JsonAttempt} (sound : attempt.fault? = none) {r : Response}
include sound

/-- JSON that is written whole is labelled as such. -/
theorem state_put_json_ok (answered : ((writeAll attempt.written).run r).answer = .ok ()) :
    ((Form.json attempt).put.run r).state =
      ((writeAll attempt.written).run r).state.labelled MediaType.jsonValue := by
  simp [Form.put, writeJson, sound, answered, label, onHeaders, labelled]

/-- JSON that is not written whole leaves the failure, and no label. -/
theorem state_put_json_error {error : IoError}
    (answered : ((writeAll attempt.written).run r).answer = .error error) :
    ((Form.json attempt).put.run r).state =
      ((writeAll attempt.written).run r).state.blamed (.io error) := by
  simp [Form.put, writeJson, sound, answered, setFailure, blamed]

end Json

section Protobuf

variable {bytes : Bytes} {r : Response}

/-- A message whose write is answered a count is labelled, and has that count as its size. -/
theorem state_put_protobuf_ok {count : Nat} (answered : ((write bytes).run r).answer = .ok count) :
    ((Form.protobuf (.ok bytes)).put.run r).state =
      { ((write bytes).run r).state.labelled MediaType.protobufValue with
        size := .known count } := by
  simp [Form.put, writeProtobuf, writeOnce, answered, label, onHeaders, setSize, labelled]

/-- A message whose write fails is labelled all the same, and has no size. -/
theorem state_put_protobuf_error {error : IoError}
    (answered : ((write bytes).run r).answer = .error error) :
    ((Form.protobuf (.ok bytes)).put.run r).state =
      { (((write bytes).run r).state.blamed (.io error)).labelled MediaType.protobufValue with
        size := .known 0 } := by
  simp [Form.put, writeProtobuf, writeOnce, answered, setFailure, label, onHeaders, setSize,
    labelled, blamed, message]

end Protobuf

/-! ## what is recorded -/

/-- The failure that a call records, whatever was recorded before. -/
def recorded? {α : Type} (op : Operation Response α) (r : Response) : Option Failure :=
  (op.run { r with failure? := none }).state.failure?

theorem failure?_put_json (attempt : JsonAttempt) {r : Response} {message : Message Body}
    (present : r.message? = some message) :
    ((Form.json attempt).put.run r).state.failure? =
      (((Form.json attempt).stop? message.body).map Failure.wrap).or r.failure? := by
  cases sound : attempt.fault? with
  | some error =>
    have fails : (Form.json attempt).fault? = some (.json error) := congrArg (Option.map _) sound
    rw [(run_put_fault fails r).1, Form.stop?, fails]
    rfl
  | none =>
    have passes : (Form.json attempt).fault? = none := congrArg (Option.map _) sound
    have answered := answer_writeAll attempt.written present
    have kept : ((writeAll attempt.written).run r).state.failure? = r.failure? := by
      rw [state_writeAll attempt.written present]
      rfl
    rw [Form.stop?, passes, Form.refusal?]
    cases written : ((Body.writeAll attempt.written).run message.body).answer with
    | ok =>
      rw [state_put_json_ok sound (answered.trans written)]
      exact kept
    | error error =>
      rw [state_put_json_error sound (answered.trans written)]
      rfl

theorem failure?_put_protobuf (encoded : Except Protobuf.EncodeError Bytes) (r : Response) :
    ((Form.protobuf encoded).put.run r).state.failure? =
      (((Form.protobuf encoded).stop? r.message.body).map Failure.wrap).or r.failure? := by
  cases encoded with
  | error error =>
    have fails : (Form.protobuf (.error error)).fault? = some (.protobufEncode error) := rfl
    rw [(run_put_fault fails r).1]
    rfl
  | ok bytes =>
    have answered := answer_write bytes r
    have kept : ((write bytes).run r).state.failure? = r.failure? := by
      rw [state_write]
      rfl
    rw [Form.stop?, Form.fault?, Form.refusal?]
    cases written : ((Body.write bytes).run r.message.body).answer with
    | ok count =>
      rw [state_put_protobuf_ok (answered.trans written)]
      exact kept
    | error error =>
      rw [state_put_protobuf_error (answered.trans written)]
      rfl

/-- What stops something from being put in is recorded, and nothing is if it goes in. -/
theorem failure?_perform (put : Put) (r : Response) :
    (put.perform.run r).state.failure? =
      (((put.form r).stop? r.message.body).map Failure.wrap).or r.failure? := by
  rw [put.state_perform]
  cases form : put.form r with
  | raw body => exact put.failure?_prepare r
  | json attempt =>
    rw [failure?_put_json attempt (Put.message?_prepare form), put.failure?_prepare]
  | protobuf encoded =>
    rw [failure?_put_protobuf, put.message_prepare, put.failure?_prepare]

theorem recorded?_perform (put : Put) (r : Response) :
    recorded? put.perform r = ((put.form r).stop? r.message.body).map Failure.wrap := by
  have form : put.form { r with failure? := none } = put.form r := Put.form_congr rfl put
  have body : ({ r with failure? := none } : Response).message = r.message := rfl
  rw [recorded?, failure?_perform, form, body, Option.or_none]

/-! ## codecs that fail -/

namespace Put

/-- A call that makes a message if there is none. -/
def makesMessage : Put → Bool
  | .value _ => true
  | .message _ => false

end Put

/-- The response, but for what is recorded, and for the message that these calls make. -/
def spared (r : Response) (puts : List Put) (failure? : Option Failure) : Response :=
  { r with
    message? := if puts.any Put.makesMessage then some r.message else r.message?
    failure? }

theorem message_spared (r : Response) (puts : List Put) (failure? : Option Failure) :
    (r.spared puts failure?).message = r.message := by
  unfold spared
  split <;> rfl

theorem spared_spared (r : Response) (some others : List Put) (first? last? : Option Failure) :
    (r.spared some first?).spared others last? = r.spared (some ++ others) last? := by
  rw [spared, message_spared, spared, spared, List.any_append]
  cases some.any Put.makesMessage <;> cases others.any Put.makesMessage <;> rfl

/-- One call whose codec fails. -/
theorem perform_fault {put : Put} {r : Response} {fault : Failure}
    (fails : (put.form r).fault? = some fault) :
    (put.perform.run r).state = r.spared [put] (some fault.wrap) ∧
      (put.perform.run r).trail.released = [] := by
  obtain ⟨made, none, run⟩ := put.run_perform r
  obtain ⟨state, released⟩ := run_put_fault fails (put.prepare r)
  rw [run]
  constructor
  · refine Eq.trans state ?_
    cases put <;> rfl
  · show made.released ++ ((put.form r).put.run (put.prepare r)).trail.released = []
    rw [none, released]
    rfl

/-- Any number of them: what is recorded is the failure of the last one. -/
theorem run_each_fault {r : Response} {puts : List Put} {last : Put} {fault : Failure}
    (failed : ∀ put ∈ puts, (put.form r).fault?.isSome = true)
    (fails : (last.form r).fault? = some fault) :
    ((Operation.each Put.perform (puts ++ [last])).run r).state =
        r.spared (puts ++ [last]) (some fault.wrap) ∧
      ((Operation.each Put.perform (puts ++ [last])).run r).trail.released = [] := by
  induction puts generalizing r with
  | nil =>
    obtain ⟨state, released⟩ := perform_fault fails
    simp [state, released]
  | cons put rest ih =>
    rw [List.forall_mem_cons] at failed
    obtain ⟨first, failsFirst⟩ := Option.isSome_iff_exists.1 failed.1
    obtain ⟨state, released⟩ := perform_fault failsFirst
    -- What has been recorded by now has no say in the forms of the calls to come.
    have same (later : Put) : later.form (r.spared [put] (some first.wrap)) = later.form r :=
      Put.form_congr rfl later
    have again := ih (r := r.spared [put] (some first.wrap))
      (fun later member => by rw [same]; exact failed.2 later member) (by rw [same]; exact fails)
    rw [List.cons_append, Operation.run_each_cons, state]
    refine ⟨again.1.trans (spared_spared r [put] _ _ _), ?_⟩
    rw [Trail.released_append, released, again.2]
    rfl

/-- **A serialisation that fails is atomic**: a call whose codec fails, by itself or behind others
that failed, leaves the response as it was, with its body and the stream in it, and lets go of
nothing.  Only the blank message comes in that a value needs, if there was none, and the failure
of the codec is recorded, as the cause of an internal one. -/
theorem failed_serialisation_is_atomic {r : Response} {puts : List Put} {last : Put}
    {fault : Failure} (failed : ∀ put ∈ puts, (put.form r).fault?.isSome = true)
    (fails : (last.form r).fault? = some fault) :
    let outcome := (Operation.each Put.perform (puts ++ [last])).run r
    outcome.state =
        { r with
          message? :=
            if (puts ++ [last]).any Put.makesMessage then
              some (r.message?.getD (.blank r.request?))
            else r.message?
          failure? := some (.service .internalService fault.message none (some fault)) } ∧
      outcome.trail.released = [] := by
  intro outcome
  have plain : fault.isService = false := Form.isService_of_fault? fails
  rw [← Failure.wrap_of_isService plain]
  exact run_each_fault failed fails

/-- A message that does not fit, behind JSON that breaks off in the middle, on a response that
answers a request for protobuf and has an unread stream in it. -/
theorem failed_serialisation_is_atomic_unread :
    let request : Request := { headers := Headers.insert ∅ .accept MediaType.protobufValue }
    let stream : Stream := { deliveries := [.data [1]], writable := true }
    let r : Response := {
      message? := some { body := .streaming stream }
      size := .known 7
      failure? := some (.internal "too late")
      request? := some request }
    let broken : Put := .value (.value { written := [0x7b], fault? := some ⟨.custom "no", none⟩ })
    let large : Put :=
      .value (.value { written := [0x7b, 0x7d] } (some (.error { required := 9, remaining := 4 })))
    let fault : Failure := .protobufEncode { required := 9, remaining := 4 }
    ((∀ put ∈ [broken], (put.form r).fault?.isSome = true) ∧
        (large.form r).fault? = some fault) ∧
      ((Operation.each Put.perform ([broken] ++ [large])).run r).state =
        { r with
          message? := some { body := .streaming stream }
          failure? := some (.service .internalService fault.message none (some fault)) } := by
  intro request stream r broken large fault
  have failed : ∀ put ∈ [broken], (put.form r).fault?.isSome = true := by
    simp [broken, Put.form, negotiate, Form.fault?]
  have fails : (large.form r).fault? = some fault := by rfl
  exact ⟨⟨failed, fails⟩, (failed_serialisation_is_atomic failed fails).1⟩

end Response

end Reply
