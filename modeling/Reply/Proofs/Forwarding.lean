import Reply.Exchange
import Reply.Proofs.KnownLength
import Reply.Proofs.Mirroring

/-!
# Reply.Proofs.Forwarding

A writer is the response behind it, and the transport beside it.

1. No call on a response looks at the flag that says whether the connection was handed
   over, and none sets or clears it (`Response.blind_perform`).
2. Each call on a writer but `hijack` is one call on the response (`direct`), and a
   `hijack` asks the transport and sets the flag (`forwards_perform`).
3. What a run of calls comes to is put together of what its parts come to
   (`Forwards.append`).  So it makes no difference how the calls are divided among writers
   of the response.
-/

namespace Reply

open Operation (Blind Keeps Mirrors)

/-! ## the flag -/

namespace Response

variable {α : Type}

/-- The response with its flag set this way. -/
def flagged (hijacked : Bool) (r : Response) : Response := { r with hijacked }

section Flag

variable (hijacked : Bool)

theorem blind_onMessage (op : Operation (Message Body) α) :
    Blind (flagged hijacked) (onMessage op) := fun _ => rfl

theorem blind_setSize (size : PayloadSize) : Blind (flagged hijacked) (setSize size) := fun _ => rfl

theorem blind_setFailure (failure : Failure) : Blind (flagged hijacked) (setFailure failure) :=
  fun _ => rfl

theorem blind_takeFailure : Blind (flagged hijacked) takeFailure := fun _ => rfl

theorem blind_account (count : Nat) : Blind (flagged hijacked) (account count) := fun _ => rfl

theorem unseen_flagged : Unseen (flagged hijacked) where
  absent _ none := none
  present _ message present := ⟨message, present⟩
  onBody _ _ _ _ := rfl
  setFailure := blind_setFailure hijacked

theorem blind_write (data : Bytes) : Blind (flagged hijacked) (write data) := by
  refine (blind_onMessage hijacked _).bind fun answer => ?_
  cases answer with
  | error error => exact .pure _
  | ok count => exact (blind_account hijacked count).bind fun _ => .pure _

theorem blind_writeAll (data : Bytes) : Blind (flagged hijacked) (writeAll data) :=
  Mirrors.writeAll (blind_write hijacked) data

theorem blind_writeSlices (slices : List Bytes) :
    Blind (flagged hijacked) (writeSlices slices) := by
  induction slices with
  | nil => exact .pure _
  | cons slice rest ih =>
    refine (blind_writeAll hijacked slice).bind fun answer => ?_
    cases answer with
    | error error => exact .pure _
    | ok => exact ih

theorem blind_writeJson (attempt : JsonAttempt) :
    Blind (flagged hijacked) (writeJson attempt) := by
  unfold writeJson
  split
  · exact (Mirrors.log _).bind fun _ => blind_setFailure hijacked _
  · refine (blind_writeAll hijacked _).bind fun answer => ?_
    cases answer with
    | error error => exact (Mirrors.log _).bind fun _ => blind_setFailure hijacked _
    | ok => exact blind_onMessage hijacked _

theorem blind_writeOnce (encoded : Bytes) : Blind (flagged hijacked) (writeOnce encoded) := by
  refine (blind_write hijacked encoded).bind fun answer => ?_
  cases answer with
  | error error =>
    exact (Mirrors.log _).bind fun _ => (blind_setFailure hijacked _).bind fun _ => .pure _
  | ok count => exact .pure _

theorem blind_writeProtobuf (encoded : Except Protobuf.EncodeError Bytes) :
    Blind (flagged hijacked) (writeProtobuf encoded) := by
  cases encoded with
  | error error => exact (Mirrors.log _).bind fun _ => blind_setFailure hijacked _
  | ok bytes =>
    exact (blind_writeOnce hijacked bytes).bind fun written =>
      (blind_onMessage hijacked _).bind fun _ => blind_setSize hijacked (.known written)

theorem blind_encode (value : Encodable) : Blind (flagged hijacked) (encode value) := by
  refine (blind_onMessage hijacked _).bind fun _ => ?_
  cases value with
  | raw body =>
    exact (Mirrors.log _).bind fun _ => (blind_onMessage hijacked _).bind fun _ =>
      blind_setSize hijacked .chunked
  | value json protobuf? =>
    -- the form is negotiated with the request, not with the flag
    intro r
    have same : (r.flagged hijacked).negotiate protobuf? = r.negotiate protobuf? := rfl
    simp only [Operation.run_bind, Operation.run_get, same, Trail.empty_append]
    cases r.negotiate protobuf? with
    | some encoded => exact blind_writeProtobuf hijacked encoded r
    | none => exact blind_writeJson hijacked json r

theorem blind_decode (target : Decodable α) : Blind (flagged hijacked) (decode target) := by
  intro r
  refine (unseen_flagged hijacked).run_decode rfl rfl (fun before after was is => ?_) target
  cases was.symm.trans is
  rfl

/-- No call looks at the flag, or changes it. -/
theorem blind_perform (action : Action α) : Blind (flagged hijacked) (perform action) := by
  cases action with
  | setStatus status => exact (blind_onMessage hijacked _).map _
  | header action => exact (blind_onMessage hijacked _).map _
  | setBody body =>
    exact ((blind_setSize hijacked _).bind fun _ => blind_onMessage hijacked _).map _
  | setSize size => exact (blind_setSize hijacked size).map _
  | setFailure failure => exact (blind_setFailure hijacked failure).map _
  | takeFailure => exact (blind_takeFailure hijacked).map _
  | encode value => exact (blind_encode hijacked value).map _
  | writeProtobuf encoded => exact (blind_writeProtobuf hijacked encoded).map _
  | decode target => exact (blind_decode hijacked target).map _
  | write data => exact (blind_write hijacked data).map _
  | writeAll data => exact (blind_writeAll hijacked data).map _
  | writeSlices slices => exact (blind_writeSlices hijacked slices).map _
  | flush => exact (unseen_flagged hijacked).blind_flush.map _
  | bodyBytes consume => exact ((unseen_flagged hijacked).blind_bodyBytes consume).map _
  | body actions => exact (blind_onMessage hijacked _).map _

end Flag

/-- The flag is as it was behind every call that does not look at it. -/
theorem hijacked_of_blind {op : Operation Response α}
    (blind : ∀ hijacked, Blind (flagged hijacked) op) (r : Response) :
    (op.run r).state.hijacked = r.hijacked :=
  (congrArg Response.hijacked ((blind r.hijacked).fixed (rfl : r.flagged r.hijacked = r)) :).symm

end Response

/-! ## asking for the connection -/

namespace Transport

/-- What is answered when the connection is asked for so many times in a row. -/
def replies (transport : Transport) : Nat → List (Except IoError Buffer)
  | 0 => []
  | count + 1 => transport.handOver.1 :: transport.handOver.2.replies count

/-- The transport behind that. -/
def asked (transport : Transport) : Nat → Transport
  | 0 => transport
  | count + 1 => transport.handOver.2.asked count

theorem asked_add (transport : Transport) (first second : Nat) :
    transport.asked (first + second) = (transport.asked first).asked second := by
  induction first generalizing transport with
  | zero => rw [Nat.zero_add, asked]
  | succ first ih => rw [Nat.add_right_comm, asked, asked, ih]

theorem replies_add (transport : Transport) (first second : Nat) :
    transport.replies (first + second) =
      transport.replies first ++ (transport.asked first).replies second := by
  induction first generalizing transport with
  | zero => rw [Nat.zero_add, asked, replies, List.nil_append]
  | succ first ih => rw [Nat.add_right_comm, replies, replies, asked, ih, List.cons_append]

/-- The same through a writer, where nothing is answered if there is no transport to be asked. -/
def repliesOf : Option Transport → Nat → List (Option (Except IoError Buffer))
  | none, count => List.replicate count none
  | some transport, count => (transport.replies count).map some

theorem repliesOf_add (transport? : Option Transport) (first second : Nat) :
    repliesOf transport? (first + second) =
      repliesOf transport? first ++ repliesOf (transport?.map (·.asked first)) second := by
  cases transport? with
  | none => exact (List.replicate_append_replicate).symm
  | some transport => rw [repliesOf, replies_add, List.map_append]; rfl

end Transport

/-! ## one call -/

namespace Writer

/-- The call asks for the connection. -/
def Action.isHijack : Action → Bool
  | hijack => true
  | _ => false

/-- The call on the response itself, in the place of one on its writer; there is none in the place
of asking for the connection. -/
def direct : Action → Operation Response (Option Answer)
  | .header action => (fun answer => some (.header answer)) <$>
      Response.onHeaders (Headers.perform action)
  | .writeHeader status => (fun _ => some .done) <$> Response.setStatus status
  | .write data => (fun answer => some (.count answer)) <$> Response.write data
  | .writeAll data => (fun answer => some (.outcome answer)) <$> Response.writeAll data
  | .flush => (fun answer => some (.outcome answer)) <$> Response.flush
  | .writeError failure => (fun _ => some .done) <$> Response.setFailure failure
  | .hijack => pure none

namespace Answer

/-- What the response itself answered. -/
def direct? : Answer → Option Answer
  | connection _ => none
  | answer => some answer

/-- What was answered to asking for the connection. -/
def connection? : Answer → Option (Option (Except IoError Buffer))
  | connection answer? => some answer?
  | _ => none

end Answer

/-- A connection is among the answers. -/
def HandedOver (answers : List Answer) : Prop :=
  ∃ connection, .connection (some (.ok connection)) ∈ answers

/-- What calls through writers of a response come to: what the direct calls come to, and the replies
of the transport, if there is one that can be asked. -/
structure Forwards (before : Response) (transport? : Option Transport) (actions : List Action)
    (answers : List Answer) (after : Response) (left? : Option Transport) (trail : Trail) :
    Prop where
  direct : answers.map Answer.direct? = ((Operation.each direct actions).run before).answer
  connections : answers.filterMap Answer.connection? =
    Transport.repliesOf transport? (actions.countP Action.isHijack)
  response : after =
    { ((Operation.each Writer.direct actions).run before).state with hijacked := after.hijacked }
  hijacked : after.hijacked = true ↔ before.hijacked = true ∨ HandedOver answers
  transport : left? = transport?.map (·.asked (actions.countP Action.isHijack))
  trail : trail = ((Operation.each Writer.direct actions).run before).trail

theorem blind_direct (hijacked : Bool) (action : Action) :
    Blind (Response.flagged hijacked) (direct action) := by
  cases action with
  | header action => exact (Response.blind_onMessage hijacked _).map _
  | writeHeader status => exact (Response.blind_onMessage hijacked _).map _
  | write data => exact (Response.blind_write hijacked data).map _
  | writeAll data => exact (Response.blind_writeAll hijacked data).map _
  | flush => exact (Response.unseen_flagged hijacked).blind_flush.map _
  | writeError failure => exact (Response.blind_setFailure hijacked failure).map _
  | hijack => exact .pure _

/-- Writing all of some data to the writer makes the writes to the response. -/
theorem writeAll_eq (data : Bytes) : writeAll data = onResponse (Response.writeAll data) := by
  funext ⟨r, transport?⟩
  have single (data : Bytes) : Mirrors (Writer.mk · transport?)
      (Sink.write data : Operation Response _) (Sink.write data) := fun _ => rfl
  exact Mirrors.writeAll single data r

/-- What the response itself answered is no connection. -/
theorem Answer.connection?_of_direct? {answer passed : Answer}
    (same : answer.direct? = some passed) : answer.connection? = none := by
  cases answer with
  | connection => cases same
  | _ => rfl

/-- A call that is passed on to the response comes to what the direct call comes to. -/
theorem forwards_onResponse {β : Type} {action : Action} {op : Operation Response β}
    {answer : β → Answer} (other : action.isHijack = false)
    (performed : perform action = answer <$> onResponse op)
    (directed : Writer.direct action = (fun b => some (answer b)) <$> op)
    (plain : ∀ b, (answer b).direct? = some (answer b)) (writer : Writer) :
    let outcome := (perform action).run writer
    Forwards writer.response writer.transport? [action] [outcome.answer] outcome.state.response
      outcome.state.transport? outcome.trail := by
  have kept := Response.hijacked_of_blind (blind_direct · action) writer.response
  rw [directed, Operation.run_map] at kept
  have unasked (b : β) := Answer.connection?_of_direct? (plain b)
  have none : [action].countP Action.isHijack = 0 := by simp [other]
  have one : (Operation.each Writer.direct [action]).run writer.response =
      ⟨[some (answer (op.run writer.response).answer)], (op.run writer.response).state,
        (op.run writer.response).trail⟩ := by
    simp [directed]
  simp only [performed, Operation.run_map, run_onResponse]
  constructor
  · rw [one, List.map_singleton, plain]
  · rw [none]
    cases writer.transport? <;> simp [unasked, Transport.repliesOf, Transport.replies]
  · rw [one]
  · rw [kept]
    refine (or_iff_left ?_).symm
    rintro ⟨connection, here⟩
    have same := unasked (op.run writer.response).answer
    rw [← List.mem_singleton.1 here] at same
    cases same
  · rw [none]
    cases writer.transport? <;> rfl
  · rw [one]

theorem run_hijack_none (r : Response) : hijack.run ⟨r, none⟩ = ⟨none, ⟨r, none⟩, {}⟩ := rfl

/-- The transport answers, and the flag is set if that is a connection. -/
theorem run_hijack_some (r : Response) (transport : Transport) :
    hijack.run ⟨r, some transport⟩ =
      ⟨some transport.handOver.1,
        ⟨r.flagged (r.hijacked || transport.handOver.1.isOk), some transport.handOver.2⟩, {}⟩ := by
  simp only [hijack, Operation.run_bind, Operation.run_get, Operation.run_modify]
  cases granted : transport.handOver.1.isOk with
  | true =>
    rw [Bool.or_true]
    rfl
  | false =>
    rw [Bool.or_false]
    rfl

theorem handedOver_singleton {answer : Except IoError Buffer} :
    HandedOver [.connection (some answer)] ↔ answer.isOk = true := by
  cases answer <;> simp [HandedOver, Except.isOk, Except.toBool]

/-- Asking for the connection is between the writer and the transport, but for the flag. -/
theorem forwards_hijack (writer : Writer) :
    let outcome := (perform .hijack).run writer
    Forwards writer.response writer.transport? [.hijack] [outcome.answer] outcome.state.response
      outcome.state.transport? outcome.trail := by
  obtain ⟨r, transport?⟩ := writer
  simp only [perform, Operation.run_map]
  cases transport? with
  | none =>
    rw [run_hijack_none]
    have refused : ¬HandedOver [.connection none] := by simp [HandedOver]
    exact ⟨rfl, rfl, rfl, (or_iff_left refused).symm, rfl, rfl⟩
  | some transport =>
    rw [run_hijack_some]
    refine ⟨rfl, rfl, rfl, ?_, rfl, rfl⟩
    rw [handedOver_singleton, ← Bool.or_eq_true]
    rfl

/-- Every call is passed on to the response, or asks for the connection. -/
theorem forwards_perform (action : Action) (writer : Writer) :
    let outcome := (perform action).run writer
    Forwards writer.response writer.transport? [action] [outcome.answer] outcome.state.response
      outcome.state.transport? outcome.trail := by
  cases action with
  | writeAll data =>
    have performed : perform (.writeAll data) = .outcome <$> onResponse (Response.writeAll data) :=
      congrArg (Answer.outcome <$> ·) (writeAll_eq data)
    exact forwards_onResponse rfl performed rfl (fun _ => rfl) writer
  | hijack => exact forwards_hijack writer
  | header | writeHeader | write | flush | writeError =>
    exact forwards_onResponse rfl rfl rfl (fun _ => rfl) writer

/-! ## runs of calls -/

theorem handedOver_append {first second : List Answer} :
    HandedOver (first ++ second) ↔ HandedOver first ∨ HandedOver second := by
  simp [HandedOver, exists_or]

/-- Without a call nothing happens. -/
theorem forwards_nil (before : Response) (transport? : Option Transport) :
    Forwards before transport? [] [] before transport? {} where
  direct := rfl
  connections := by cases transport? <;> rfl
  response := rfl
  hijacked := by simp [HandedOver]
  transport := by cases transport? <;> rfl
  trail := rfl

/-- What calls come to can be told from what some of them come to and then the others. -/
theorem Forwards.append {before mid after : Response} {transport? mid? left? : Option Transport}
    {first second : List Action} {xs ys : List Answer} {trail next : Trail}
    (h : Forwards before transport? first xs mid mid? trail)
    (h' : Forwards mid mid? second ys after left? next) :
    Forwards before transport? (first ++ second) (xs ++ ys) after left? (trail ++ next) := by
  -- the direct calls go on without the flag that a writer may have set
  have goOn := Mirrors.each (blind_direct mid.hijacked) second
    ((Operation.each Writer.direct first).run before).state
  have same : mid = Response.flagged mid.hijacked _ := h.response
  rw [← same] at goOn
  constructor
  · rw [List.map_append, h.direct, h'.direct, goOn, Operation.run_each_append]
  · rw [List.filterMap_append, List.countP_append, Transport.repliesOf_add, h.connections,
      h'.connections, h.transport]
  · rw [Operation.run_each_append]
    exact h'.response.trans (by rw [goOn]; rfl)
  · rw [handedOver_append, h'.hijacked, h.hijacked, or_assoc]
  · rw [h'.transport, h.transport, Option.map_map, List.countP_append]
    simp only [Function.comp_def, ← Transport.asked_add]
  · rw [Operation.run_each_append, h.trail, h'.trail, goOn]

/-- A run of calls through one writer. -/
theorem forwards_each (actions : List Action) (writer : Writer) :
    let outcome := (Operation.each perform actions).run writer
    Forwards writer.response writer.transport? actions outcome.answer outcome.state.response
      outcome.state.transport? outcome.trail := by
  induction actions generalizing writer with
  | nil => exact forwards_nil ..
  | cons action rest ih =>
    simp only [Operation.run_each_cons]
    exact (forwards_perform action writer).append (ih _)

/-- The response goes on answering the same request. -/
theorem keeps_direct (request? : Option Request) (action : Action) :
    Keeps (fun r : Response => r.request? = request?) (direct action) := by
  have write (data : Bytes) : Keeps (fun r : Response => r.request? = request?)
      (Response.write data) := by
    refine Keeps.bind (fun _ same => same) fun answer => ?_
    cases answer with
    | error error => exact .pure _
    | ok count => exact Keeps.bind (fun _ same => same) fun _ => .pure _
  cases action with
  | write data => exact (write data).map _
  | writeAll data => exact (Keeps.writeAll write data).map _
  | flush => exact (Response.keeps_flush_of_onBody fun _ same => same).map _
  | hijack => exact .pure _
  | header | writeHeader | writeError => exact Keeps.map _ fun _ same => same

theorem Forwards.request {before after : Response} {transport? left? : Option Transport}
    {actions : List Action} {answers : List Answer} {trail : Trail}
    (h : Forwards before transport? actions answers after left? trail) :
    after.request? = before.request? := by
  rw [h.response]
  exact Keeps.each (fun action _ => keeps_direct before.request? action) rfl

/-- The next writer of the response sees the transport as the last one left it. -/
theorem Forwards.next {before after : Response} {transport : Transport} {left? : Option Transport}
    {actions : List Action} {answers : List Answer} {trail : Trail}
    (h : Forwards before (before.writer transport).transport? actions answers after left? trail) :
    (after.writer (left?.getD transport)).transport? = left? := by
  rw [h.transport, Response.writer, Response.writer, h.request]
  dsimp only
  split <;> rfl

end Writer

namespace Exchange

variable {α : Type}

/-- Calls through writers of the response, one writer after the other. -/
theorem forwards_writers (request? : Option Request) (transport : Transport) (r : Response)
    (batches : List (List Writer.Action)) :
    let outcome :=
      Operation.run (.each perform (batches.map .writer)) ⟨request?, transport, some r⟩
    ∃ (answers : List (List Writer.Answer)) (after : Response) (left? : Option Transport),
      outcome.answer = answers.map (.writer : _ → Answer α) ∧
      outcome.state = ⟨request?, left?.getD transport, some after⟩ ∧
      Writer.Forwards r (r.writer transport).transport? batches.flatten answers.flatten after left?
        outcome.trail := by
  induction batches generalizing transport r with
  | nil =>
    refine ⟨[], r, (r.writer transport).transport?, rfl, ?_, Writer.forwards_nil ..⟩
    rw [Response.writer]
    dsimp only
    split <;> rfl
  | cons batch rest ih =>
    have calls := Writer.forwards_each batch (r.writer transport)
    have first : (perform (.writer batch) : Operation Exchange (Answer α)).run
        ⟨request?, transport, some r⟩ = _ := run_onWriter_some request? transport r _
    rw [Operation.run_map] at first
    simp only [List.map_cons, Operation.run_each_cons, first]
    generalize (Operation.each Writer.perform batch).run (r.writer transport) = made at calls
    obtain ⟨answers, ⟨next, left?⟩, trail⟩ := made
    have seen : (next.writer (left?.getD transport)).transport? = left? := calls.next
    obtain ⟨others, after, last?, answered, state, forwards⟩ := ih (left?.getD transport) next
    rw [seen] at forwards
    refine ⟨answers :: others, after, last?, ?_, ?_, ?_⟩
    · rw [List.map_cons, ← answered]
    · have last := forwards.transport
      rw [state, last]
      cases left? <;> rfl
    · exact calls.append forwards

/-! ## runs on one response -/

/-- The calls that are made on the response in its place, or on a writer of it. -/
def Action.InPlace : Action α → Prop
  | .call _ | .writer _ => True
  | _ => False

/-- A connection is among the answers. -/
def HandedOver (answers : List (Answer α)) : Prop :=
  ∃ calls, .writer calls ∈ answers ∧ Writer.HandedOver calls

theorem handedOver_cons {answer : Answer α} {answers : List (Answer α)} :
    HandedOver (answer :: answers) ↔ HandedOver [answer] ∨ HandedOver answers := by
  simp [HandedOver, or_and_right, exists_or]

/-- One call leaves the flag as it was, or sets it because there is a connection. -/
theorem hijacked_perform (request? : Option Request) (transport : Transport) (r : Response)
    {action : Action α} (inPlace : action.InPlace) :
    let outcome := (perform action).run ⟨request?, transport, some r⟩
    ∃ (left : Transport) (after : Response), outcome.state = ⟨request?, left, some after⟩ ∧
      (after.hijacked = true ↔ r.hijacked = true ∨ HandedOver [outcome.answer]) := by
  cases action with
  | call action =>
    have called : (perform (.call action) : Operation Exchange (Answer α)).run
        ⟨request?, transport, some r⟩ = _ := run_onResponse_some request? transport r _
    rw [Operation.run_map] at called
    have kept := Response.hijacked_of_blind (Response.blind_perform · action) r
    rw [called]
    refine ⟨_, _, rfl, ?_⟩
    rw [kept]
    simp [HandedOver]
  | writer actions =>
    have called : (perform (.writer actions) : Operation Exchange (Answer α)).run
        ⟨request?, transport, some r⟩ = _ := run_onWriter_some request? transport r _
    rw [Operation.run_map] at called
    have flag := (Writer.forwards_each actions (r.writer transport)).hijacked
    rw [called]
    refine ⟨_, _, rfl, flag.trans ?_⟩
    simp [HandedOver, Response.writer]
  | install | drop | handOver | relay => exact inPlace.elim

/-- The flag is set just if it was so before, or there has been a connection. -/
theorem hijacked_each (request? : Option Request) (transport : Transport) (r : Response)
    {actions : List (Action α)} (inPlace : ∀ action ∈ actions, action.InPlace) :
    let outcome := (Operation.each perform actions).run ⟨request?, transport, some r⟩
    ∃ (left : Transport) (after : Response), outcome.state = ⟨request?, left, some after⟩ ∧
      (after.hijacked = true ↔ r.hijacked = true ∨ HandedOver outcome.answer) := by
  induction actions generalizing transport r with
  | nil => exact ⟨transport, r, rfl, by simp [HandedOver]⟩
  | cons action rest ih =>
    rw [List.forall_mem_cons] at inPlace
    obtain ⟨left, next, state, first⟩ := hijacked_perform request? transport r inPlace.1
    simp only [Operation.run_each_cons, state]
    obtain ⟨last, after, state', others⟩ := ih left next inPlace.2
    exact ⟨last, after, state', by rw [others, first, or_assoc, ← handedOver_cons]⟩

end Exchange

/-! ## what a writer is -/

namespace Response

/-- The responses as they are made: for a request, out of nothing, of a failure, or of a message
that came in. -/
inductive Made : Response → Prop
  | answering (request : Request) (status : Status) : Made (.answering request status)
  | default : Made {}
  | failed (request? : Option Request) (failure : Failure) : Made (.failed request? failure)
  | received (request? : Option Request) (message : Message Body) :
    Made (.received request? message)

theorem Made.hijacked {r : Response} (made : r.Made) : r.hijacked = false := by
  cases made <;> rfl

end Response

namespace Exchange

variable {α : Type}

/-- **A writer is the response behind it**: calls through writers of a response, however they are
divided among these, are answered as the direct calls on the response are, and leave what those
leave, but for the flag.  Asking for the connection is answered by the transport, if the request
says that it can hand it over, and by nothing otherwise; it does nothing to the response but to set
the flag if there is a connection.  And in any run of calls, on the response or through writers, the
flag of a response is set just if a connection has been answered since it was made. -/
theorem writer_is_the_response {exchange : Exchange} {r : Response}
    (present : exchange.response? = some r) :
    (∀ batches : List (List Writer.Action),
      let outcome := Operation.run (.each perform (batches.map .writer)) exchange
      ∃ (answers : List (List Writer.Answer)) (after : Response) (left? : Option Transport),
        outcome.answer = answers.map (.writer : _ → Answer α) ∧
        outcome.state = { exchange with
          transport := left?.getD exchange.transport, response? := some after } ∧
        Writer.Forwards r (if r.request?.any (·.handsOver) then some exchange.transport else none)
          batches.flatten answers.flatten after left? outcome.trail) ∧
    (r.Made → ∀ actions : List (Action α), (∀ action ∈ actions, action.InPlace) →
      let outcome := (Operation.each perform actions).run exchange
      ∃ after, outcome.state.response? = some after ∧
        (after.hijacked = true ↔ HandedOver outcome.answer)) := by
  obtain ⟨request?, transport, _⟩ := exchange
  obtain rfl := present
  refine ⟨forwards_writers request? transport r, fun made actions inPlace => ?_⟩
  obtain ⟨left, after, state, flag⟩ := hijacked_each request? transport r inPlace
  refine ⟨after, congrArg response? state, flag.trans (or_iff_right ?_)⟩
  rw [made.hijacked]
  exact Bool.false_ne_true

/-- A transport that refuses once and then gives its connection, asked by two writers. -/
theorem writer_is_the_response_refused :
    let request : Request := { handsOver := true }
    let r : Response := .answering request
    let refusal : IoError := .ofKind .brokenPipe
    let exchange : Exchange := {
      request? := some request
      transport := ⟨[.error refusal, .ok ∅]⟩
      response? := some r }
    let batches : List (List Writer.Action) := [[.write [1], .hijack], [.hijack, .write [2, 3]]]
    let actions : List (Action Unit) := .call .flush :: batches.map .writer
    exchange.response? = some r ∧ r.Made ∧ (∀ action ∈ actions, action.InPlace) ∧
      (∃ (answers : List Writer.Answer) (after : Response) (left? : Option Transport)
        (trail : Trail), Writer.Forwards r (some exchange.transport) batches.flatten answers after
          left? trail ∧
        answers.filterMap Writer.Answer.connection? = [some (.error refusal), some (.ok ∅)] ∧
        after.body?.map Body.contents = some (.ok [1, 2, 3]) ∧ left? = some ⟨[]⟩) ∧
      ∃ after, ((Operation.each perform actions).run exchange).state.response? = some after ∧
        after.hijacked = true := by
  intro request r refusal exchange batches actions
  have present : exchange.response? = some r := rfl
  have made : r.Made := .answering request .ok
  have inPlace : ∀ action ∈ actions, action.InPlace := by
    simp [actions, batches, Action.InPlace]
  obtain ⟨forwarded, flag⟩ := writer_is_the_response (α := Unit) present
  obtain ⟨answers, after, left?, -, -, forwards⟩ := forwarded batches
  obtain ⟨last, state, hijacked⟩ := flag made actions inPlace
  refine ⟨present, made, inPlace, ⟨_, _, _, _, forwards, forwards.connections, ?_,
    forwards.transport⟩, last, state, hijacked.2 ?_⟩
  · rw [forwards.response]
    rfl
  · have last : .writer [.connection (some (.ok ∅)), .count (.ok 2)] ∈
        ((Operation.each perform actions).run exchange).answer := .tail _ (.tail _ (.head _))
    exact ⟨_, last, ∅, .head _⟩

end Exchange

end Reply
