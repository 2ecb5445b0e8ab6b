import Reply.Proofs.Advancing
import Reply.Proofs.Agreement
import Reply.Proofs.Encoding
import Reply.Response.Action
import Reply.Response.Writer

/-!
# Reply.Proofs.KnownLength

A known length is the truth.

1. A payload size *measures* a body if a known length is the number of bytes in
   its buffer.  An unknown length measures every body, and what has an unknown
   length is never counted again; so nothing has to be known of streams.
2. A response is *truthful* if its payload size measures its body.  Calls that
   change only one of the two may break this: they are not `Accountable`.
3. Every other call keeps it (`keeps_perform`), also through a writer
   (`Writer.keeps_perform`), and so does a run of them
   (`truthful_of_reached`).
-/

namespace Reply

open Operation (Keeps)

/-! ## sizes and bodies -/

namespace PayloadSize

/-- A known length is the number of bytes in memory. -/
def Measures : PayloadSize → Body → Prop
  | known length, body => ∃ buffer, body = .buffered buffer ∧ buffer.length = length
  | chunked, _ => True

theorem measures_buffered (buffer : Buffer) :
    (known buffer.length).Measures (.buffered buffer) := ⟨buffer, rfl, rfl⟩

theorem measures_ofLength? (body : Body) :
    (ofLength? (body.buffer?.map (·.length))).Measures body := by
  cases body with
  | buffered buffer => exact measures_buffered buffer
  | streaming stream => exact trivial
  | closed => exact trivial

/-- A length that stays known counts everything: it is too small to be held at the greatest. -/
theorem advance_known (length count : Nat) :
    (known length).advance count = chunked ∨
      (known length).advance count = known (length + count) := by
  rw [advance_known_eq]
  split
  · exact .inl rfl
  · exact .inr rfl

section Calls

variable {size : PayloadSize} {body : Body} (measures : size.Measures body)
include measures

/-- A write that fails is not counted; nothing in memory refuses it. -/
theorem measures_write_failed {data : Bytes} {error : IoError}
    (failed : ((Body.write data).run body).answer = .error error) :
    size.Measures ((Body.write data).run body).state := by
  cases size with
  | known length =>
    obtain ⟨buffer, rfl, -⟩ := measures
    cases failed
  | chunked => exact trivial

/-- A write that is answered with a count is counted. -/
theorem measures_write {data : Bytes} {count : Nat}
    (taken : ((Body.write data).run body).answer = .ok count) :
    (size.advance count).Measures ((Body.write data).run body).state := by
  cases size with
  | known length =>
    obtain ⟨buffer, rfl, rfl⟩ := measures
    cases taken
    rcases advance_known buffer.length data.length with unknown | counted
    · rw [unknown]
      exact trivial
    · rw [counted, ← Buffer.length_push]
      exact measures_buffered (buffer.push data)
  | chunked => exact trivial

theorem measures_flush : size.Measures (Body.flush.run body).state := by
  cases size with
  | known length =>
    obtain ⟨buffer, rfl, counted⟩ := measures
    exact ⟨buffer, rfl, counted⟩
  | chunked => exact trivial

theorem measures_snapshot : size.Measures (Body.snapshot.run body).state := by
  cases size with
  | known length =>
    obtain ⟨buffer, rfl, counted⟩ := measures
    exact ⟨buffer, rfl, counted⟩
  | chunked => exact trivial

end Calls

end PayloadSize

/-! ## truthful responses -/

namespace Response

variable {α : Type}

/-- The payload size measures the body. -/
def Truthful (r : Response) : Prop := r.size.Measures r.message.body

/-- There is nothing in the body yet: there is no message, or nothing in memory. -/
def Vacant (r : Response) : Prop := r.message.body = .empty

/-! ### calls -/

theorem keeps_onMessage {op : Operation (Message Body) α}
    (kept : ∀ message, (op.run message).state.body = message.body) :
    Keeps Truthful (onMessage op) := by
  intro r truthful
  show r.size.Measures (op.run r.message).state.body
  rw [kept]
  exact truthful

theorem keeps_onBody {op : Operation Body α}
    (kept : ∀ ⦃size : PayloadSize⦄ ⦃body⦄, size.Measures body → size.Measures (op.run body).state) :
    Keeps Truthful (onBody op) := fun _ truthful => kept truthful

theorem keeps_onHeaders (op : Operation Headers α) : Keeps Truthful (onHeaders op) :=
  keeps_onMessage fun _ => rfl

theorem keeps_setStatus (status : Status) : Keeps Truthful (setStatus status) :=
  keeps_onMessage fun _ => rfl

theorem keeps_setFailure (failure : Failure) : Keeps Truthful (setFailure failure) :=
  .modify fun _ truthful => truthful

theorem keeps_takeFailure : Keeps Truthful takeFailure := fun _ truthful => truthful

theorem keeps_markHijacked : Keeps Truthful markHijacked := .modify fun _ truthful => truthful

/-- The new size is that of the new body. -/
theorem keeps_setBody (body : Body) : Keeps Truthful (setBody body) :=
  -- Not step by step: between the two the size is that of a body that is still to come.
  fun _ _ => PayloadSize.measures_ofLength? body

/-- The length is unknown. -/
theorem keeps_adopt (body : Body) : Keeps Truthful (adopt body) := fun _ _ => trivial

theorem keeps_write (data : Bytes) : Keeps Truthful (write data) := by
  intro r truthful
  simp only [write, onBody, Operation.run_bind, run_onMessage, Message.run_onBody]
  cases answered : ((Body.write data).run r.message.body).answer with
  | error error => exact PayloadSize.measures_write_failed truthful answered
  | ok count => exact PayloadSize.measures_write truthful answered

theorem keeps_writeAll (data : Bytes) : Keeps Truthful (writeAll data) :=
  Keeps.writeAll keeps_write data

theorem keeps_writeSlices {P : Response → Prop} (kept : ∀ data, Keeps P (write data))
    (slices : List Bytes) : Keeps P (writeSlices slices) := by
  induction slices with
  | nil => exact .pure _
  | cons slice rest ih =>
    refine Keeps.bind (Keeps.writeAll kept slice) fun answer => ?_
    cases answer with
    | error error => exact .pure _
    | ok => exact ih

/-- A flush is one of the body, or nothing. -/
theorem keeps_flush_of_onBody {P : Response → Prop} (kept : Keeps P (onBody Body.flush)) :
    Keeps P flush := by
  intro r holds
  cases present : r.message? with
  | none => exact run_flush_of_none present ▸ holds
  | some message => exact run_flush_of_some present ▸ kept holds

/-- Taking the bytes is a call on the body, or nothing. -/
theorem keeps_bodyBytes_of_onBody {P : Response → Prop} {consume : Bool}
    (kept : Keeps P (onBody (if consume then Body.readAll else Body.snapshot))) :
    Keeps P (bodyBytes consume) := by
  intro r holds
  cases present : r.message? with
  | none => exact run_bodyBytes_of_none present consume ▸ holds
  | some message => exact run_bodyBytes_of_some present consume ▸ kept holds

theorem keeps_flush : Keeps Truthful flush :=
  keeps_flush_of_onBody (keeps_onBody fun _ _ => PayloadSize.measures_flush)

theorem keeps_look : Keeps Truthful (bodyBytes false) :=
  keeps_bodyBytes_of_onBody (keeps_onBody fun _ _ => PayloadSize.measures_snapshot)

theorem keeps_writeJson (attempt : JsonAttempt) : Keeps Truthful (writeJson attempt) := by
  unfold writeJson
  split
  · exact (Keeps.log _).bind fun _ => keeps_setFailure _
  · refine (keeps_writeAll _).bind fun answer => ?_
    cases answer with
    | error error => exact (Keeps.log _).bind fun _ => keeps_setFailure _
    | ok => exact keeps_onHeaders _

/-- A message that is written first is all that is in the body, and its length is the new size. -/
theorem truthful_writeProtobuf {r : Response} (truthful : r.Truthful) (vacant : r.Vacant)
    (encoded : Except Protobuf.EncodeError Bytes) :
    ((writeProtobuf encoded).run r).state.Truthful := by
  cases encoded with
  | error error => exact ((Keeps.log _).bind fun _ => keeps_setFailure _) truthful
  | ok bytes =>
    rw [state_writeProtobuf vacant]
    refine ⟨(∅ : Buffer).push bytes, rfl, ?_⟩
    rw [Buffer.length_push]
    exact Nat.zero_add _

/-- A raw body or a value that goes out as JSON keeps the size right, and so does one that goes out
as protobuf, if it is the first in the body. -/
theorem truthful_encode {r : Response} (truthful : r.Truthful) {value : Encodable}
    (vacant : (r.negotiate value.encodeProtobuf?).isSome = true → r.Vacant) :
    ((encode value).run r).state.Truthful := by
  cases value with
  | raw body => exact keeps_adopt body truthful
  | value json protobuf? =>
    have made : (ensureMessage.run r).state.Truthful := truthful
    have negotiated : (ensureMessage.run r).state.negotiate protobuf? = r.negotiate protobuf? := rfl
    simp only [encode, Operation.run_bind, Operation.run_get, negotiated]
    cases form : r.negotiate protobuf? with
    | some encoded =>
      have empty := vacant (Option.isSome_iff_exists.2 ⟨_, form⟩)
      exact truthful_writeProtobuf made empty encoded
    | none => exact keeps_writeJson json made

/-! ## runs -/

/-- The calls that keep the payload size right: none that sets it, takes the body or goes behind its
back, and no protobuf message behind other bytes. -/
def Accountable (r : Response) : Action α → Prop
  | .encode value => (r.negotiate value.encodeProtobuf?).isSome = true → r.Vacant
  | .writeProtobuf _ => r.Vacant
  | .setSize _ | .decode _ | .bodyBytes true | .body _ => False
  | _ => True

theorem truthful_perform {r : Response} (truthful : r.Truthful) {action : Action α}
    (accountable : r.Accountable action) : ((perform action).run r).state.Truthful := by
  cases action with
  | setStatus status => exact (keeps_setStatus status).map _ truthful
  | header action => exact (keeps_onHeaders (Headers.perform action)).map _ truthful
  | setBody body => exact (keeps_setBody body).map _ truthful
  | setSize size => exact accountable.elim
  | setFailure failure => exact (keeps_setFailure failure).map _ truthful
  | takeFailure => exact keeps_takeFailure.map _ truthful
  | encode value => exact truthful_encode truthful accountable
  | writeProtobuf encoded => exact truthful_writeProtobuf truthful accountable encoded
  | decode target => exact accountable.elim
  | write data => exact (keeps_write data).map _ truthful
  | writeAll data => exact (keeps_writeAll data).map _ truthful
  | writeSlices slices => exact (keeps_writeSlices keeps_write slices).map _ truthful
  | flush => exact keeps_flush.map _ truthful
  | bodyBytes consume =>
    cases consume with
    | true => exact accountable.elim
    | false => exact keeps_look.map _ truthful
  | body actions => exact accountable.elim

end Response

/-! ### through a writer -/

namespace Writer

variable {α : Type}

section Keeps

variable {P : Response → Prop}

theorem keeps_onResponse {op : Operation Response α} (kept : Keeps P op) :
    Keeps (fun writer : Writer => P writer.response) (onResponse op) := fun _ holds => kept holds

theorem keeps_hijack (marked : Keeps P Response.markHijacked) :
    Keeps (fun writer : Writer => P writer.response) hijack := by
  refine .get fun writer => ?_
  cases writer.transport? with
  | none => exact .pure _
  | some transport =>
    dsimp only
    generalize transport.handOver = asked
    obtain ⟨answer, transport⟩ := asked
    refine Keeps.bind (.modify fun _ holds => holds) fun _ => ?_
    split
    · exact (keeps_onResponse marked).bind fun _ => .pure _
    · exact .pure _

/-- A call on a writer keeps what the calls keep that it is passed on as. -/
theorem keeps_perform {action : Action}
    (header : ∀ edit, action = .header edit → Keeps P (Response.onHeaders (Headers.perform edit)))
    (setStatus : ∀ status, Keeps P (Response.setStatus status))
    (write : ∀ data, Keeps P (Response.write data)) (flush : Keeps P Response.flush)
    (setFailure : ∀ failure, Keeps P (Response.setFailure failure))
    (marked : Keeps P Response.markHijacked) :
    Keeps (fun writer : Writer => P writer.response) (perform action) := by
  cases action with
  | header edit => exact (keeps_onResponse (header edit rfl)).map _
  | writeHeader status => exact (keeps_onResponse (setStatus status)).map _
  | write data => exact (keeps_onResponse (write data)).map _
  | writeAll data =>
    exact (Keeps.writeAll (fun data => keeps_onResponse (write data)) data).map _
  | flush => exact (keeps_onResponse flush).map _
  | writeError failure => exact (keeps_onResponse (setFailure failure)).map _
  | hijack => exact (keeps_hijack marked).map _

end Keeps

/-- The response behind the writer is truthful. -/
def Truthful (writer : Writer) : Prop := writer.response.Truthful

theorem truthful_perform (action : Action) : Keeps Truthful (perform action) :=
  keeps_perform (fun _ _ => Response.keeps_onHeaders _) Response.keeps_setStatus
    Response.keeps_write Response.keeps_flush Response.keeps_setFailure Response.keeps_markHijacked

end Writer

namespace Response

/-- The responses that come of a new one by accountable calls, made directly or through writers. -/
inductive Reached : Response → Prop
  | answering (request : Request) (status : Status) : Reached (.answering request status)
  | empty : Reached {}
  | failed (request? : Option Request) (failure : Failure) : Reached (.failed request? failure)
  | call {r : Response} {α : Type} {action : Action α} (reached : Reached r)
      (accountable : r.Accountable action) : Reached ((perform action).run r).state
  | writer {r : Response} (reached : Reached r) (transport : Transport)
      (actions : List Writer.Action) :
      Reached ((Operation.each Writer.perform actions).run (r.writer transport)).state.response

theorem truthful_of_reached {r : Response} (reached : Reached r) : r.Truthful := by
  induction reached with
  | answering | empty | failed => exact PayloadSize.measures_buffered ∅
  | call _ accountable truthful => exact truthful_perform truthful accountable
  | writer _ transport actions truthful =>
    exact Keeps.each (fun action _ => Writer.truthful_perform action) truthful

/-- **A known length is the truth**: after any accountable calls on a new response, a known length
is that of the bytes in memory, or nought if there is no message. -/
theorem known_length_is_true {r : Response} (reached : Reached r) {length : Nat}
    (known : r.size = .known length) :
    (r.message? = none ∧ length = 0) ∨
      ∃ buffer, r.body? = some (.buffered buffer) ∧ buffer.length = length := by
  have measures : (PayloadSize.known length).Measures r.message.body :=
    known ▸ truthful_of_reached reached
  obtain ⟨buffer, inMemory, counted⟩ := measures
  cases present : r.message? with
  | none =>
    have blank : r.message.body = .empty := by
      rw [message, present]
      rfl
    rw [blank] at inMemory
    cases inMemory
    exact .inl ⟨rfl, counted.symm⟩
  | some message =>
    refine .inr ⟨buffer, ?_, counted⟩
    rw [message_of_some present] at inMemory
    rw [body?, present, Option.map_some, inMemory]

/-- A message of one byte, with two bytes behind it that come through a writer. -/
theorem known_length_is_true_writer :
    let first := ((perform (.writeProtobuf (.ok [7]) : Action Unit)).run {}).state
    let actions : List Writer.Action := [.writeAll [1, 2], .flush]
    let r := ((Operation.each Writer.perform actions).run (first.writer {})).state.response
    (Reached r ∧ r.size = .known 3) ∧
      ∃ buffer, r.body? = some (.buffered buffer) ∧ buffer.length = 3 := by
  intro first actions r
  have vacant : Accountable {} (.writeProtobuf (.ok [7]) : Action Unit) := rfl
  have reached : Reached r := .writer (.call .empty vacant) {} actions
  have known : r.size = .known 3 := by
    unfold r first actions
    cbv
  refine ⟨⟨reached, known⟩, ?_⟩
  exact (known_length_is_true reached known).resolve_left fun none => by cases none.2

end Response

end Reply
