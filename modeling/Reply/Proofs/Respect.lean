import Reply.Exchange
import Reply.Proofs.Agreement

/-!
# Reply.Proofs.Respect

Relations on responses that all calls respect, because the few calls do of which
they are made.

1. A relation is `Respected` if the calls on the parts of a response (message,
   headers, body, payload size, recorded failure) agree on related responses and
   leave related ones.
2. Then so do all calls that put something into a response
   (`Response.Respected.agree_perform`), made directly or through a writer
   (`Writer.agree_perform`), in an exchange (`Exchange.agree_perform`), and hence in
   any run of these.

What a relation is about is thus shown once, on the parts.
-/

namespace Reply

open Operation (Agree)

namespace Response

variable {α : Type}

/-- The calls that put something into a response, or set something on it.  The bodies that they
install are of this kind. -/
def Action.Puts (kind : Body → Prop) : Action α → Prop
  | .setBody installed => kind installed
  | .encode value => ∀ installed, value.body? = some installed → kind installed
  | .decode _ | .bodyBytes _ | .body _ => False
  | _ => True

/-- Calls on the parts of related responses agree, and keep the responses related, with bodies of
this kind coming in. -/
structure Respected (kind : Body → Prop) (R : Response → Response → Prop) : Prop where
  request : ∀ ⦃a b⦄, R a b → a.request? = b.request?
  ensureMessage : Agree R ensureMessage ensureMessage R
  onHeaders : ∀ {β : Type} (op : Operation Headers β), Agree R (onHeaders op) (onHeaders op) R
  setStatus : ∀ status, Agree R (setStatus status) (setStatus status) R
  writeBody : ∀ data, Agree R (onBody (Body.write data)) (onBody (Body.write data)) R
  replaceBody : ∀ ⦃body⦄, kind body →
    Agree R (onBody (Body.replace body)) (onBody (Body.replace body)) R
  flush : Agree R flush flush R
  setSize : ∀ size, Agree R (setSize size) (setSize size) R
  account : ∀ count, Agree R (account count) (account count) R
  setFailure : ∀ failure, Agree R (setFailure failure) (setFailure failure) R
  takeFailure : Agree R takeFailure takeFailure R
  markHijacked : Agree R markHijacked markHijacked R

namespace Respected

variable {kind : Body → Prop} {R : Response → Response → Prop} (respected : Respected kind R)
include respected

theorem agree_setBody {body : Body} (fits : kind body) :
    Agree R (Response.setBody body) (Response.setBody body) R :=
  (respected.setSize _).bind fun _ => respected.replaceBody fits

theorem agree_adopt {body : Body} (fits : kind body) : Agree R (adopt body) (adopt body) R :=
  (Agree.log _ _).bind fun _ =>
    (respected.replaceBody fits).bind fun _ => respected.setSize .chunked

theorem agree_write (data : Bytes) : Agree R (write data) (write data) R := by
  refine (respected.writeBody data).bind fun answer => ?_
  cases answer with
  | error error => exact .pure _
  | ok count => exact (respected.account count).bind fun _ => .pure _

theorem agree_writeAll (data : Bytes) : Agree R (writeAll data) (writeAll data) R :=
  Agree.writeAll respected.agree_write data

theorem agree_writeSlices (slices : List Bytes) :
    Agree R (writeSlices slices) (writeSlices slices) R := by
  induction slices with
  | nil => exact .pure _
  | cons slice rest ih =>
    refine (respected.agree_writeAll slice).bind fun answer => ?_
    cases answer with
    | error error => exact .pure _
    | ok => exact ih

theorem agree_writeJson (attempt : JsonAttempt) :
    Agree R (writeJson attempt) (writeJson attempt) R := by
  unfold writeJson
  split
  · exact (Agree.log _ _).bind fun _ => respected.setFailure _
  · refine (respected.agree_writeAll _).bind fun answer => ?_
    cases answer with
    | error error => exact (Agree.log _ _).bind fun _ => respected.setFailure _
    | ok => exact respected.onHeaders _

theorem agree_writeOnce (encoded : Bytes) :
    Agree R (writeOnce encoded) (writeOnce encoded) R := by
  refine (respected.agree_write encoded).bind fun answer => ?_
  cases answer with
  | error error =>
    exact (Agree.log _ _).bind fun _ => (respected.setFailure _).bind fun _ => .pure _
  | ok count => exact .pure _

theorem agree_writeProtobuf (encoded : Except Protobuf.EncodeError Bytes) :
    Agree R (writeProtobuf encoded) (writeProtobuf encoded) R := by
  cases encoded with
  | error error => exact (Agree.log _ _).bind fun _ => respected.setFailure _
  | ok bytes =>
    exact (respected.agree_writeOnce bytes).bind fun written =>
      (respected.onHeaders _).bind fun _ => respected.setSize (.known written)

theorem negotiate_eq {a b : Response} (related : R a b)
    (protobuf? : Option (Except Protobuf.EncodeError Bytes)) :
    a.negotiate protobuf? = b.negotiate protobuf? := by
  rw [negotiate, acceptsProtobuf, respected.request related]
  rfl

theorem agree_encode {value : Encodable}
    (fits : ∀ body, value.body? = some body → kind body) :
    Agree R (encode value) (encode value) R := by
  refine respected.ensureMessage.bind fun _ => ?_
  cases value with
  | raw body => exact respected.agree_adopt (fits body rfl)
  | value json protobuf? =>
    -- Which form goes out is up to the request, which both have in common.
    intro a b related
    simp only [Operation.run_bind, Operation.run_get, respected.negotiate_eq related protobuf?,
      true_and]
    cases b.negotiate protobuf? with
    | some encoded => exact (respected.agree_writeProtobuf encoded related).2
    | none => exact (respected.agree_writeJson json related).2

/-- Every call that puts something into related responses answers the same on both and leaves them
related. -/
theorem agree_perform {action : Action α} (puts : action.Puts kind) :
    Agree R (perform action) (perform action) R := by
  cases action with
  | setStatus status => exact (respected.setStatus status).map _
  | header action => exact (respected.onHeaders (Headers.perform action)).map _
  | setBody body => exact (respected.agree_setBody puts).map _
  | setSize size => exact (respected.setSize size).map _
  | setFailure failure => exact (respected.setFailure failure).map _
  | takeFailure => exact respected.takeFailure.map _
  | encode value => exact (respected.agree_encode puts).map _
  | writeProtobuf encoded => exact (respected.agree_writeProtobuf encoded).map _
  | write data => exact (respected.agree_write data).map _
  | writeAll data => exact (respected.agree_writeAll data).map _
  | writeSlices slices => exact (respected.agree_writeSlices slices).map _
  | flush => exact respected.flush.map _
  | decode | bodyBytes | body => exact puts.elim

end Respected

end Response

/-! ## through a writer -/

namespace Writer

variable {α : Type} {kind : Body → Prop} {R : Response → Response → Prop}

/-- Writers that see the same transport, on related responses. -/
structure Related (R : Response → Response → Prop) (a b : Writer) : Prop where
  transport : a.transport? = b.transport?
  response : R a.response b.response

theorem agree_onResponse {op op' : Operation Response α} (h : Agree R op op' R) :
    Agree (Related R) (onResponse op) (onResponse op') (Related R) := by
  intro a b related
  obtain ⟨same, kept⟩ := h related.response
  exact ⟨same, related.transport, kept⟩

/-- What the transport answers is up to the transport alone; the response is only marked. -/
theorem agree_hijack (respected : Response.Respected kind R) :
    Agree (Related R) hijack hijack (Related R) := by
  rintro ⟨r, transport?⟩ ⟨s, _⟩ ⟨rfl, related⟩
  cases transport? with
  | none => exact ⟨rfl, rfl, related⟩
  | some transport =>
    have marked : R (Response.markHijacked.run r).state (Response.markHijacked.run s).state :=
      (respected.markHijacked related).2
    simp only [hijack, Operation.run_bind, Operation.run_get, Operation.run_modify]
    split
    · exact ⟨rfl, rfl, marked⟩
    · exact ⟨rfl, rfl, related⟩

theorem agree_perform (respected : Response.Respected kind R) (action : Action) :
    Agree (Related R) (perform action) (perform action) (Related R) := by
  cases action with
  | header action => exact (agree_onResponse (respected.onHeaders _)).map _
  | writeHeader status => exact (agree_onResponse (respected.setStatus status)).map _
  | write data => exact (agree_onResponse (respected.agree_write data)).map _
  | writeAll data =>
    exact (Agree.writeAll (fun data => agree_onResponse (respected.agree_write data)) data).map _
  | flush => exact (agree_onResponse respected.flush).map _
  | writeError failure => exact (agree_onResponse (respected.setFailure failure)).map _
  | hijack => exact (agree_hijack respected).map _

end Writer

/-! ## in an exchange -/

namespace Exchange

variable {α : Type} {kind : Body → Prop} {R : Response → Response → Prop}

/-- The calls that put something into the response, directly or through a writer. -/
def Action.Puts (kind : Body → Prop) : Action α → Prop
  | .call action => action.Puts kind
  | .writer _ => True
  | _ => False

/-- Exchanges of the same request over the same transport, whose responses are related. -/
structure Related (R : Response → Response → Prop) (a b : Exchange) : Prop where
  request : a.request? = b.request?
  transport : a.transport = b.transport
  responses : ∃ r s, a.response? = some r ∧ b.response? = some s ∧ R r s

theorem agree_perform (respected : Response.Respected kind R) {action : Action α}
    (puts : action.Puts kind) :
    Agree (Related R) (perform action) (perform action) (Related R) := by
  rintro ⟨request?, transport, _⟩ ⟨_, _, _⟩ ⟨rfl, rfl, r, s, rfl, rfl, related⟩
  cases action with
  | call action =>
    obtain ⟨same, kept⟩ := (respected.agree_perform puts).map Answer.called related
    exact ⟨same, rfl, rfl, _, _, rfl, rfl, kept⟩
  | writer actions =>
    -- The request says whether the transport can be seen, and both have the same.
    have writers : Writer.Related R (r.writer transport) (s.writer transport) :=
      ⟨by rw [Response.writer, Response.writer, respected.request related], related⟩
    have calls : Agree (Writer.Related R) (Operation.each Writer.perform actions)
        (Operation.each Writer.perform actions) (Writer.Related R) :=
      Agree.each fun action _ => Writer.agree_perform respected action
    obtain ⟨same, kept⟩ := calls.map Answer.writer writers
    refine ⟨same, rfl, ?_, _, _, rfl, rfl, kept.response⟩
    exact congrArg (·.getD transport) kept.transport
  | install | drop | handOver | relay => exact puts.elim

end Exchange

end Reply
