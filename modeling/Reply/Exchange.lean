import Reply.Response.Action
import Reply.Response.Transfer
import Reply.Response.Writer

/-!
# Reply.Exchange

An exchange: a request, the transport it came by, and the response that is
being made or read, if there is one.

1. Installing a response lets go of the one before it.
2. Handing over ends with the response gone, whether it succeeds or not.
3. A relay hands the response over and takes the message in again, as the
   response of the same request.
-/

namespace Reply

namespace Message

/-- The message with its body as one stream, the way it comes from a connection. -/
def streamed (message : Message Bytes) : Message Body :=
  { message with body := .streaming { deliveries := [.data message.body] } }

/-- The message with its body in memory. -/
def buffered (message : Message Bytes) : Message Body :=
  { message with body := .ofBytes message.body }

end Message

/-- A request, the transport it came by, and its response. -/
structure Exchange where
  request? : Option Request := none
  transport : Transport := {}
  response? : Option Response := none

namespace Exchange

variable {α : Type}

/-! ## calls as values -/

/-- Something that happens in an exchange; `α` is what bodies are decoded into. -/
inductive Action (α : Type)
  /-- Another response takes the place of the present one. -/
  | install (response : Response)
  | drop
  | call (action : Response.Action α)
  /-- Calls through one writer of the response. -/
  | writer (actions : List Writer.Action)
  | handOver
  /-- A relay; the message comes back as a stream, or else in memory. -/
  | relay (streamed : Bool)

/-- What an action answers. -/
inductive Answer (α : Type)
  | done
  /-- There is no response to call. -/
  | noResponse
  | called (answer : Response.Answer α)
  | writer (answers : List Writer.Answer)
  | handedOver (answer : Except Failure (Message Bytes))

/-! ## performing them -/

/-- Lets go of whatever the exchange still holds. -/
def release (exchange : Exchange) : Trail :=
  match exchange.response? with
  | some response => response.release
  | none => {}

/-- Puts a response, or none, in the place of the present one, of which it lets go. -/
def install (response? : Option Response) : Operation Exchange Unit := fun exchange =>
  ⟨(), { exchange with response? }, exchange.release⟩

/-- A call on the response, if there is one. -/
def onResponse (op : Operation Response (Answer α)) : Operation Exchange (Answer α) :=
  fun exchange =>
    match exchange.response? with
    | none => ⟨.noResponse, exchange, {}⟩
    | some response =>
      let outcome := op.run response
      ⟨outcome.answer, { exchange with response? := some outcome.state }, outcome.trail⟩

/-- Calls through one writer of the response, if there is one. -/
def onWriter (op : Operation Writer (Answer α)) : Operation Exchange (Answer α) :=
  fun exchange =>
    match exchange.response? with
    | none => ⟨.noResponse, exchange, {}⟩
    | some response =>
      let outcome := op.run (response.writer exchange.transport)
      ⟨outcome.answer,
        { exchange with
          transport := outcome.state.transport?.getD exchange.transport
          response? := some outcome.state.response },
        outcome.trail⟩

/-- Hands the response over, and goes on with what `next` makes of the message. -/
def handOver (next : Message Bytes → Option Response) : Operation Exchange (Answer α) :=
  fun exchange =>
    match exchange.response? with
    | none => ⟨.noResponse, exchange, {}⟩
    | some response =>
      let (answer, trail) := response.handOver
      ⟨.handedOver answer, { exchange with response? := answer.toOption.bind next }, trail⟩

/-- Does what is asked. -/
def perform : Action α → Operation Exchange (Answer α)
  | .install response => (fun _ => .done) <$> install (some response)
  | .drop => (fun _ => .done) <$> install none
  | .call action => onResponse (.called <$> Response.perform action)
  | .writer actions => onWriter (.writer <$> Operation.each Writer.perform actions)
  | .handOver => handOver fun _ => none
  | .relay streamed => fun exchange =>
    handOver (fun message =>
      some (.received exchange.request? (if streamed then message.streamed else message.buffered)))
      exchange

/-! ## calls where there is a response -/

section Present

variable (request? : Option Request) (transport : Transport) (response : Response)

theorem run_onResponse_some (op : Operation Response (Answer α)) :
    (onResponse op).run ⟨request?, transport, some response⟩ =
      ⟨(op.run response).answer, ⟨request?, transport, some (op.run response).state⟩,
        (op.run response).trail⟩ := rfl

theorem run_onWriter_some (op : Operation Writer (Answer α)) :
    (onWriter op).run ⟨request?, transport, some response⟩ =
      ⟨(op.run (response.writer transport)).answer,
        ⟨request?, (op.run (response.writer transport)).state.transport?.getD transport,
          some (op.run (response.writer transport)).state.response⟩,
        (op.run (response.writer transport)).trail⟩ := rfl

theorem run_handOver_some (next : Message Bytes → Option Response) :
    (handOver next : Operation Exchange (Answer α)).run ⟨request?, transport, some response⟩ =
      ⟨.handedOver response.handOver.1,
        ⟨request?, transport, response.handOver.1.toOption.bind next⟩, response.handOver.2⟩ := rfl

end Present

end Exchange

end Reply
