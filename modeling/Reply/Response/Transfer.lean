import Reply.Framing
import Reply.Response.Basic

/-!
# Reply.Response.Transfer

Handing a response over to the transport, and taking one from it.

1. A recorded failure is handed over instead of the response.
2. The body is taken whole. A known payload size frames it by the number of
   bytes it really has, whatever the size says; an unknown one in chunks.
3. A response that comes in has the size that its headers announce.
-/

namespace Reply.Response

/-- A response that came from the transport. -/
def received (request? : Option Request) (message : Message Body) : Response where
  message? := some message
  size := message.headers.announcedSize
  request?

/-- What is logged when a known size is not that of the body. -/
def mismatch (size : PayloadSize) (bodyLength : Nat) : Trail :=
  match size with
  | .known length =>
    if length ≠ bodyLength then { log := [.sizeMismatch length bodyLength] } else {}
  | .chunked => {}

/-- The message with the framing of its payload size, and its body in one piece. -/
def transfer (message : Message Body) (size : PayloadSize) (bytes : Bytes) : Message Bytes where
  status := message.status
  version := message.version
  headers := message.headers.frame size bytes.length
  body := bytes

/-- Hands the response over; there is no response any more. -/
def handOver (r : Response) : Except Failure (Message Bytes) × Trail :=
  match r.failure?, r.message? with
  | some failure, _ => (.error failure, r.release)
  | none, none => (.error .noBody, {})
  | none, some message =>
    let taken := Body.readAll.run message.body
    match taken.answer with
    | .error error => (.error (Failure.io error).wrap, taken.trail ++ taken.state.release)
    | .ok bytes =>
      (.ok (transfer message r.size bytes),
        taken.trail ++ mismatch r.size bytes.length ++ taken.state.release)

end Reply.Response
