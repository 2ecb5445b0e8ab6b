import Reply.Failure
import Reply.Payload

/-!
# Reply.Event

What is logged: each event is a level, a sentence and the values it speaks of.
-/

namespace Reply

/-- How much an event matters. -/
inductive Level
  | trace
  | debug
  | warn
deriving DecidableEq, Repr

def Level.text : Level → String
  | .trace => "TRACE"
  | .debug => "DEBUG"
  | .warn => "WARN"

/-- Something worth a line in the log. -/
inductive Event
  | headCreated
  | rawBodyAdopted
  | streamCopied
  | streamDrained
  | drainFailed (cause : IoError)
  | closeFailed (cause : IoError)
  | thresholdCrossed (total : Nat)
  | jsonEncodingFailed (cause : Json.Error)
  | jsonWriteFailed (cause : IoError)
  | protobufEncodingFailed (cause : Protobuf.EncodeError)
  | protobufWriteFailed (cause : IoError)
  | decodingFailed (cause : Failure)
  | sizeMismatch (payloadSize bodyLength : Nat)

namespace Event

def level : Event → Level
  | headCreated | rawBodyAdopted | streamCopied | streamDrained => .trace
  | drainFailed _ | closeFailed _ => .warn
  | _ => .debug

/-- The sentence and the values of an event. -/
def sentence : Event → String
  | headCreated => "response has no head yet, create a 200 one"
  | rawBodyAdopted => "adopt raw stream as response body"
  | streamCopied => "copy body stream into deferred buffer"
  | streamDrained => "drain body stream before writing"
  | drainFailed cause =>
    s!"failed to drain body stream, part of the body may be lost cause={cause.message}"
  | closeFailed cause => s!"failed to close body stream cause={cause.message}"
  | thresholdCrossed total =>
    s!"payload crossed chunk threshold, switch to chunked total={total} " ++
      s!"threshold={PayloadSize.chunkThreshold}"
  | jsonEncodingFailed cause => s!"failed to encode response body as json cause={cause.message}"
  | jsonWriteFailed cause => s!"failed to write json body cause={cause.message}"
  | protobufEncodingFailed cause => s!"failed to marshal protobuf message cause={cause.message}"
  | protobufWriteFailed cause => s!"failed to write protobuf body cause={cause.message}"
  | decodingFailed cause => s!"failed to decode response cause={cause.message}"
  | sizeMismatch payloadSize bodyLength =>
    s!"payload size does not match body, frame with body length payload_size={payloadSize} " ++
      s!"body_len={bodyLength}"

/-- The line of an event. -/
def render (event : Event) : String := event.level.text ++ " " ++ event.sentence

end Event

end Reply
