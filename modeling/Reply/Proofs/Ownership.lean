import Reply.Exchange
import Reply.Proofs.Ownership.Ledger

/-!
# Reply.Proofs.Ownership

Who owns a stream, and who closes it.

A body owns at most one stream, and a message, a response, a writer and an
exchange own what their body does.  Each call keeps the ledger of
`Ownership.Ledger`: a stream that comes in is held until it is let go of, and
it is let go of by closing it once.  The calls are taken layer by layer, from
the body to the exchange.

The main statement is `streams_closed_once`: over any run of an exchange every
stream that ever came in is either still held, and was not closed since, or it
was released, and then its close came once and last.
-/

namespace Reply

open Owner (streams)

/-! ## bodies -/

/-- A streaming body owns its stream. -/
instance : Owner Body := ⟨fun body => body.stream?.toList⟩

theorem Stream.released_release (stream : Stream) :
    stream.release.released = [stream.close.2] := by
  unfold release
  split <;> rename_i closed <;> rw [closed]

theorem accounted_release (stream : Stream) : Accounted [stream] [] stream.release.released := by
  rw [Stream.released_release]
  exact .finish stream.finished_close

/-- A stream that is read to its end and let go of. -/
theorem accounted_drain (room : Nat) (stream : Stream) :
    Accounted [stream] [] (stream.pour room ∅).stream.release.released := by
  have poured := Accounted.use (stream.inUse_pour room ∅)
  exact poured.next (accounted_release (stream.pour room ∅).stream)

namespace Body

/-- A body that is let go of keeps no stream. -/
theorem accounted_release (body : Body) : Accounted (streams body) [] body.release.released := by
  cases body with
  | streaming stream => exact Reply.accounted_release stream
  | buffered | closed => exact .refl []

/-- A call accounts for what it does to a stream.  Other bodies have none, and may not get one. -/
theorem accounts_of_stream {α : Type} {op : Operation Body α}
    (memory : ∀ buffer, Accounted [] (streams (op.run (buffered buffer)).state)
      (op.run (buffered buffer)).trail.released)
    (consumed : Accounted [] (streams (op.run closed).state) (op.run closed).trail.released)
    (stream : ∀ stream, Accounted [stream] (streams (op.run (streaming stream)).state)
      (op.run (streaming stream)).trail.released) : op.Accounts [] := by
  intro body
  rw [List.append_nil]
  cases body with
  | buffered buffer => exact memory buffer
  | streaming owned => exact stream owned
  | closed => exact consumed

theorem accounts_write (data : Bytes) : (write data).Accounts [] := by
  refine accounts_of_stream (fun _ => .refl []) (.refl []) fun stream => ?_
  simp only [Operation.run, write]
  split
  · exact .use (stream.inUse_write data)
  · split
    · exact .use (stream.inUse_pour Stream.copyRoom ∅)
    · exact accounted_drain Stream.copyRoom stream

theorem accounts_writeInPlace (data : Bytes) : (writeInPlace data).Accounts [] := by
  intro body
  simp only [Operation.run, writeInPlace]
  split
  · exact accounts_write data body
  · simpa using Accounted.refl _

theorem accounts_writeAll (data : Bytes) : (writeAll data).Accounts [] :=
  Operation.Accounts.writeAll accounts_write data

theorem accounts_flush : flush.Accounts [] := by
  refine accounts_of_stream (fun _ => .refl []) (.refl []) fun stream => ?_
  simp only [Operation.run, flush]
  split
  · exact .use stream.inUse_flush
  · exact .refl _

theorem accounts_read (room : Nat) : (read room).Accounts [] := by
  refine accounts_of_stream (fun _ => .refl []) (.refl []) fun stream => ?_
  exact .use (stream.inUse_read room)

theorem accounts_readToEnd : readToEnd.Accounts [] := by
  refine accounts_of_stream (fun _ => .refl []) (.refl []) fun stream => ?_
  exact .use (stream.inUse_pour Stream.gatherRoom ∅)

theorem accounts_readAll : readAll.Accounts [] := by
  refine accounts_of_stream (fun _ => .refl []) (.refl []) fun stream => ?_
  exact accounted_drain Stream.gatherRoom stream

theorem accounts_snapshot : snapshot.Accounts [] := by
  refine accounts_of_stream (fun _ => .refl []) (.refl []) fun stream => ?_
  exact accounted_drain Stream.copyRoom stream

theorem accounts_close : close.Accounts [] := by
  refine accounts_of_stream (fun _ => .refl []) (.refl []) fun stream => ?_
  exact .finish stream.finished_close

theorem accounts_replace (body : Body) : (replace body).Accounts (streams body) := by
  intro old
  exact (accounted_release old).refill (streams body)

/-- The streams that come in with a call on a body. -/
def Action.brought : Action → List Stream
  | .replace body => streams body
  | _ => []

theorem accounts_perform (action : Action) : (perform action).Accounts action.brought := by
  cases action with
  | write data => exact (accounts_write data).map _
  | writeAll data => exact (accounts_writeAll data).map _
  | writeInPlace data => exact (accounts_writeInPlace data).map _
  | flush => exact accounts_flush.map _
  | read room => exact (accounts_read room).map _
  | readToEnd => exact accounts_readToEnd.map _
  | readAll => exact accounts_readAll.map _
  | snapshot => exact accounts_snapshot.map _
  | close => exact accounts_close.map _
  | replace body => exact (accounts_replace body).map _

end Body

/-! ## messages and responses -/

/-- A message owns the stream of its body. -/
instance : Owner (Message Body) := ⟨fun message => streams message.body⟩

namespace Message

variable {α : Type}

theorem accounts_onBody {op : Operation Body α} {brought : List Stream} (h : op.Accounts brought) :
    (onBody op : Operation (Message Body) α).Accounts brought :=
  h.zoom (fun _ => rfl) fun _ _ => rfl

/-- Headers own no streams. -/
theorem accounts_onHeaders {op : Operation Headers α}
    (quiet : ∀ headers, (op.run headers).trail.released = []) :
    (onHeaders op : Operation (Message Body) α).Accounts [] :=
  .of_same (fun _ => rfl) fun message => quiet message.headers

end Message

/-- A response owns the stream of its message; a blank message has none. -/
instance : Owner Response := ⟨fun r => streams r.message⟩

namespace Headers

theorem released_perform (action : Action) (headers : Headers) :
    ((perform action).run headers).trail.released = [] := by
  cases action <;> rfl

end Headers

namespace Response

variable {α : Type}

theorem streams_of_message? {r : Response} {message : Message Body}
    (h : r.message? = some message) : streams r = streams message := by
  show streams r.message = _
  rw [Response.message, h]
  rfl

theorem streams_of_none {r : Response} (h : r.message? = none) : streams r = [] := by
  show streams r.message = _
  rw [Response.message, h]
  rfl

theorem released_creation (r : Response) : r.creation.released = [] := by
  unfold creation
  split <;> rfl

theorem accounted_release (r : Response) : Accounted (streams r) [] r.release.released := by
  unfold release
  split
  · rename_i message some
    rw [streams_of_message? some]
    exact message.body.accounted_release
  · rename_i none
    rw [streams_of_none none]
    exact .refl []

theorem accounts_onMessage {op : Operation (Message Body) α} {brought : List Stream}
    (h : op.Accounts brought) : (onMessage op).Accounts brought := by
  intro r
  rw [run_onMessage, Trail.released_append, released_creation, List.nil_append]
  exact h r.message

theorem accounts_onBody {op : Operation Body α} {brought : List Stream} (h : op.Accounts brought) :
    (onBody op).Accounts brought :=
  accounts_onMessage (Message.accounts_onBody h)

theorem accounts_onHeaders {op : Operation Headers α}
    (quiet : ∀ headers, (op.run headers).trail.released = []) : (onHeaders op).Accounts [] :=
  accounts_onMessage (Message.accounts_onHeaders quiet)

theorem accounts_ensureMessage : ensureMessage.Accounts [] := accounts_onMessage (.pure ())

theorem accounts_setStatus (status : Status) : (setStatus status).Accounts [] :=
  accounts_onMessage (.of_same (fun _ => rfl) fun _ => rfl)

theorem accounts_setSize (size : PayloadSize) : (setSize size).Accounts [] :=
  .of_same (fun _ => rfl) fun _ => rfl

theorem accounts_setFailure (failure : Failure) : (setFailure failure).Accounts [] :=
  .of_same (fun _ => rfl) fun _ => rfl

theorem accounts_takeFailure : takeFailure.Accounts [] := .of_same (fun _ => rfl) fun _ => rfl

theorem accounts_account (count : Nat) : (account count).Accounts [] :=
  .of_same (fun _ => rfl) fun _ => rfl

theorem accounts_setBody (body : Body) : (setBody body).Accounts (streams body) :=
  (accounts_setSize _).before fun _ => accounts_onBody body.accounts_replace

/-! ### writing and reading -/

theorem accounts_write (data : Bytes) : (write data).Accounts [] := by
  refine (accounts_onBody (Body.accounts_write data)).before fun answer => ?_
  cases answer with
  | error error => exact .pure _
  | ok count => exact (accounts_account count).before fun _ => .pure _

theorem accounts_writeAll (data : Bytes) : (writeAll data).Accounts [] :=
  Operation.Accounts.writeAll accounts_write data

theorem accounts_writeSlices (slices : List Bytes) : (writeSlices slices).Accounts [] := by
  induction slices with
  | nil => exact .pure _
  | cons slice rest ih =>
    refine (accounts_writeAll slice).before fun answer => ?_
    cases answer with
    | error error => exact .pure _
    | ok => exact ih

theorem accounts_flush : flush.Accounts [] := by
  intro r
  simp only [Operation.run, flush]
  split
  · exact accounts_onBody Body.accounts_flush r
  · simpa using Accounted.refl _

theorem accounts_bodyBytes (consume : Bool) : (bodyBytes consume).Accounts [] := by
  intro r
  simp only [Operation.run, bodyBytes]
  split
  · simpa using Accounted.refl _
  · cases consume with
    | true => exact accounts_onBody Body.accounts_readAll r
    | false => exact accounts_onBody Body.accounts_snapshot r

/-! ### encoding and decoding -/

theorem accounts_label (contentType : FieldValue) : (label contentType).Accounts [] :=
  accounts_onHeaders fun _ => rfl

theorem accounts_writeJson (attempt : JsonAttempt) : (writeJson attempt).Accounts [] := by
  unfold writeJson
  split
  · exact (Operation.Accounts.log _).before fun _ => accounts_setFailure _
  · refine (accounts_writeAll _).before fun answer => ?_
    cases answer with
    | error error => exact (Operation.Accounts.log _).before fun _ => accounts_setFailure _
    | ok => exact accounts_label _

theorem accounts_writeOnce (encoded : Bytes) : (writeOnce encoded).Accounts [] := by
  refine (accounts_write encoded).before fun answer => ?_
  cases answer with
  | error error =>
    exact (Operation.Accounts.log _).before fun _ =>
      (accounts_setFailure _).before fun _ => .pure _
  | ok count => exact .pure _

theorem accounts_writeProtobuf (encoded : Except Protobuf.EncodeError Bytes) :
    (writeProtobuf encoded).Accounts [] := by
  cases encoded with
  | error error => exact (Operation.Accounts.log _).before fun _ => accounts_setFailure _
  | ok bytes =>
    exact (accounts_writeOnce bytes).before fun _ =>
      (accounts_label _).before fun _ => accounts_setSize _

theorem accounts_adopt (body : Body) : (adopt body).Accounts (streams body) := by
  refine (Operation.Accounts.log _).before fun _ => ?_
  have all := (accounts_onBody body.accounts_replace).bind fun _ => accounts_setSize .chunked
  rwa [List.append_nil] at all

/-- The streams of a value that is a raw body. -/
def brought (value : Encodable) : List Stream := (value.body?.map streams).getD []

theorem accounts_encode (value : Encodable) : (encode value).Accounts (brought value) := by
  refine accounts_ensureMessage.before fun _ => ?_
  cases value with
  | raw body => exact accounts_adopt body
  | value json protobuf? =>
    refine (Operation.Accounts.of_same (fun _ => rfl) fun _ => rfl).before fun r => ?_
    cases r.negotiate protobuf? with
    | some encoded => exact accounts_writeProtobuf encoded
    | none => exact accounts_writeJson json

theorem accounts_record (failure : Failure) :
    (record failure : Operation Response (Except Failure α)).Accounts [] :=
  (Operation.Accounts.log _).before fun _ => (accounts_setFailure failure).before fun _ => .pure _

theorem accounts_settle (answer : Except Failure α) : (settle answer).Accounts [] := by
  cases answer with
  | ok a => exact .pure _
  | error failure => exact accounts_record failure

theorem accounts_decodeBody (target : Decodable α) (protobuf : Bool) (bytes : Bytes) :
    (decodeBody target protobuf bytes).Accounts [] := by
  unfold decodeBody
  split
  · split
    · exact .pure _
    · exact accounts_settle _
  · exact accounts_settle _

theorem accounts_decode (target : Decodable α) : (decode target).Accounts [] := by
  refine (Operation.Accounts.of_same (fun _ => rfl) fun _ => rfl).before fun r => ?_
  split
  · exact .pure _
  · exact accounts_record _
  · refine (accounts_bodyBytes true).before fun answer => ?_
    cases answer with
    | error error => exact accounts_record _
    | ok bytes => exact accounts_decodeBody target _ bytes

/-- The streams that come in with a call on a response. -/
def Action.brought : Action α → List Stream
  | .setBody replacement => streams replacement
  | .encode value => Response.brought value
  | .body actions => actions.flatMap Body.Action.brought
  | _ => []

theorem accounts_perform (action : Action α) : (perform action).Accounts action.brought := by
  cases action with
  | setStatus status => exact (accounts_setStatus status).map _
  | header action => exact (accounts_onHeaders (Headers.released_perform action)).map _
  | setBody body => exact (accounts_setBody body).map _
  | setSize size => exact (accounts_setSize size).map _
  | setFailure failure => exact (accounts_setFailure failure).map _
  | takeFailure => exact accounts_takeFailure.map _
  | encode value => exact (accounts_encode value).map _
  | writeProtobuf encoded => exact (accounts_writeProtobuf encoded).map _
  | decode target => exact (accounts_decode target).map _
  | write data => exact (accounts_write data).map _
  | writeAll data => exact (accounts_writeAll data).map _
  | writeSlices slices => exact (accounts_writeSlices slices).map _
  | flush => exact accounts_flush.map _
  | bodyBytes consume => exact (accounts_bodyBytes consume).map _
  | body actions =>
    exact (accounts_onBody (Operation.Accounts.each Body.accounts_perform actions)).map _

end Response

/-! ## writers -/

/-- A writer owns the stream of its response. -/
instance : Owner Writer := ⟨fun writer => streams writer.response⟩

namespace Writer

variable {α : Type}

theorem accounts_onResponse {op : Operation Response α} {brought : List Stream}
    (h : op.Accounts brought) : (onResponse op).Accounts brought :=
  h.zoom (fun _ => rfl) fun _ _ => rfl

theorem accounts_write (data : Bytes) : (write data).Accounts [] :=
  accounts_onResponse (Response.accounts_write data)

theorem accounts_hijack : hijack.Accounts [] := by
  refine (Operation.Accounts.of_same (fun _ => rfl) fun _ => rfl).before fun writer => ?_
  cases writer.transport? with
  | none => exact .pure _
  | some transport =>
    dsimp only
    generalize transport.handOver = asked
    obtain ⟨answer, transport⟩ := asked
    refine (Operation.Accounts.of_same (fun _ => rfl) fun _ => rfl).before fun _ => ?_
    split
    · exact (accounts_onResponse (.of_same (fun _ => rfl) fun _ => rfl)).before fun _ => .pure _
    · exact .pure _

theorem accounts_perform (action : Action) : (perform action).Accounts [] := by
  cases action with
  | header action =>
    exact (accounts_onResponse
      (Response.accounts_onHeaders (Headers.released_perform action))).map _
  | writeHeader status => exact (accounts_onResponse (Response.accounts_setStatus status)).map _
  | write data => exact (accounts_write data).map _
  | writeAll data => exact (Operation.Accounts.writeAll accounts_write data).map _
  | flush => exact (accounts_onResponse Response.accounts_flush).map _
  | writeError failure => exact (accounts_onResponse (Response.accounts_setFailure failure)).map _
  | hijack => exact accounts_hijack.map _

end Writer

/-! ## exchanges -/

namespace Response

theorem released_mismatch (size : PayloadSize) (bodyLength : Nat) :
    (mismatch size bodyLength).released = [] := by
  unfold mismatch
  split
  · split <;> rfl
  · rfl

/-- Handing a response over leaves none of its streams behind, whether it succeeds or not. -/
theorem accounted_handOver (r : Response) : Accounted (streams r) [] r.handOver.2.released := by
  unfold handOver
  split
  · exact accounted_release r
  · rename_i none
    rw [streams_of_none none]
    exact .refl []
  · rename_i message _ some
    rw [streams_of_message? some]
    have taken := Body.accounts_readAll message.body
    rw [List.append_nil] at taken
    have left := Body.accounted_release (Body.readAll.run message.body).state
    dsimp only
    split
    · exact taken.next left
    · rw [Trail.released_append, Trail.released_append, released_mismatch, List.append_nil]
      exact taken.next left

end Response

/-- An exchange owns the stream of its response. -/
instance : Owner Exchange := ⟨fun exchange => (exchange.response?.map streams).getD []⟩

namespace Exchange

variable {α : Type}

/-- The message as it comes back from a relay. -/
def returned (streamed : Bool) (message : Message Bytes) : Message Body :=
  if streamed then message.streamed else message.buffered

/-- The streams that come in with an action.  Without a response there is nothing to call, and what
a relay fails to hand over does not come back. -/
def Action.brought : Action α → Exchange → List Stream
  | .install response, _ => streams response
  | .call action, exchange => if exchange.response?.isSome then action.brought else []
  | .relay streamed, exchange =>
    ((exchange.response?.bind (·.handOver.1.toOption)).map (streams ∘ returned streamed)).getD []
  | _, _ => []

/-- The streams that come in with a run. -/
def brought : List (Action α) → Exchange → List Stream
  | [], _ => []
  | action :: rest, exchange =>
    action.brought exchange ++ brought rest ((perform action).run exchange).state

theorem accounted_release (exchange : Exchange) :
    Accounted (streams exchange) [] exchange.release.released := by
  obtain ⟨request?, transport, response?⟩ := exchange
  cases response? with
  | none => exact .refl []
  | some response => exact response.accounted_release

/-- A new response takes the place of one that is let go of. -/
theorem accounted_install (response? : Option Response) (exchange : Exchange) :
    Accounted (streams exchange ++ (response?.map streams).getD [])
      (streams ((install response?).run exchange).state)
      ((install response?).run exchange).trail.released :=
  (accounted_release exchange).refill ((response?.map streams).getD [])

/-- What comes back after a response was handed over takes its place. -/
theorem accounted_handOver (next : Message Bytes → Option Response) (exchange : Exchange) :
    Accounted
      (streams exchange ++
        (((exchange.response?.bind (·.handOver.1.toOption)).bind next).map streams).getD [])
      (streams ((handOver next : Operation Exchange (Answer α)).run exchange).state)
      ((handOver next : Operation Exchange (Answer α)).run exchange).trail.released := by
  obtain ⟨request?, transport, response?⟩ := exchange
  cases response? with
  | none => exact .refl []
  | some response => exact response.accounted_handOver.refill _

theorem accounted_perform (action : Action α) (exchange : Exchange) :
    Accounted (streams exchange ++ action.brought exchange)
      (streams ((perform action).run exchange).state)
      ((perform action).run exchange).trail.released := by
  cases action with
  | install response =>
    rw [perform, Operation.run_map]
    exact accounted_install (some response) exchange
  | drop =>
    rw [perform, Operation.run_map]
    exact accounted_install none exchange
  | call action =>
    obtain ⟨request?, transport, response?⟩ := exchange
    cases response? with
    | none => exact .refl []
    | some response => exact ((Response.accounts_perform action).map Answer.called) response
  | writer actions =>
    obtain ⟨request?, transport, response?⟩ := exchange
    cases response? with
    | none => exact .refl []
    | some response =>
      have calls := Operation.Accounts.each Writer.accounts_perform actions
      rw [List.flatMap_eq_nil_iff.2 fun _ _ => rfl] at calls
      exact (calls.map Answer.writer) (response.writer transport)
  | handOver =>
    have all := accounted_handOver (α := α) (fun _ => none) exchange
    rwa [Option.bind_fun_none] at all
  | relay streamed =>
    have all := accounted_handOver (α := α)
      (some ∘ fun message => .received exchange.request? (returned streamed message)) exchange
    rwa [← Option.map_eq_bind, Option.map_map] at all

/-- A run accounts for all streams that the exchange had, and that came in on the way. -/
theorem accounted_run (actions : List (Action α)) (exchange : Exchange) :
    Accounted (streams exchange ++ brought actions exchange)
      (streams ((Operation.each perform actions).run exchange).state)
      ((Operation.each perform actions).run exchange).trail.released := by
  induction actions generalizing exchange with
  | nil => simpa [brought] using Accounted.refl _
  | cons action rest ih =>
    rw [Operation.run_each_cons, brought, ← List.append_assoc]
    exact (accounted_perform action exchange).trans (ih _)

/-- **Ownership over whole runs**: every stream that ever came into a response is either still held
and was not closed since, or it was released, and its close came once and as the last call on it.
After the final drop all are released, and what was released stays as it is. -/
theorem streams_closed_once (actions : List (Action α)) (exchange : Exchange) :
    let outcome := (Operation.each perform actions).run exchange
    let came := streams exchange ++ brought actions exchange
    Accounted came (streams outcome.state) outcome.trail.released ∧
      Accounted came [] (outcome.trail.released ++ outcome.state.release.released) ∧
      ∀ more, outcome.trail.released <+:
        ((Operation.each perform (actions ++ more)).run exchange).trail.released := by
  refine ⟨accounted_run actions exchange, ?_, fun more => ?_⟩
  · exact (accounted_run actions exchange).next (accounted_release _)
  · rw [Operation.run_each_append]
    exact List.prefix_append _ _

end Exchange

end Reply
