import Reply.Body
import Reply.Body.Action
import Reply.Buffer
import Reply.Buffer.Action
import Reply.Bytes
import Reply.Codec
import Reply.Decimal
import Reply.Decimal.Shortest
import Reply.Event
import Reply.Exchange
import Reply.Failure
import Reply.Framing
import Reply.Headers
import Reply.Headers.Action
import Reply.IoError
import Reply.Json.Cursor
import Reply.Json.Decoder
import Reply.Json.Error
import Reply.Json.Form
import Reply.Json.Number
import Reply.Json.Real
import Reply.Json.Skip
import Reply.Json.StringLiteral
import Reply.Json.Value
import Reply.MediaType
import Reply.Message
import Reply.Operation
import Reply.Payload
import Reply.Proofs.Agreement
import Reply.Proofs.Alike
import Reply.Proofs.Blank
import Reply.Proofs.Counting
import Reply.Proofs.Decoding
import Reply.Proofs.Delivery
import Reply.Proofs.Encoding
import Reply.Proofs.Framing
import Reply.Proofs.HandOver
import Reply.Proofs.KnownLength
import Reply.Proofs.Label
import Reply.Proofs.Lifecycle
import Reply.Proofs.Ownership
import Reply.Proofs.Ownership.Ledger
import Reply.Proofs.Peeking
import Reply.Proofs.Pouring
import Reply.Proofs.Putting
import Reply.Proofs.Queue
import Reply.Proofs.Recorded
import Reply.Proofs.Relay
import Reply.Proofs.Respect
import Reply.Proofs.Reuse
import Reply.Proofs.RoundTrip
import Reply.Proofs.Shortfall
import Reply.Proofs.Writing
import Reply.Protobuf.Form
import Reply.Protobuf.Message
import Reply.Protobuf.Wire
import Reply.Request
import Reply.Response.Action
import Reply.Response.Basic
import Reply.Response.Decoding
import Reply.Response.Encoding
import Reply.Response.Transfer
import Reply.Response.Writer
import Reply.Schema.Messages
import Reply.Schema.Records
import Reply.Sink
import Reply.Stream
import Reply.Text.Quoted
import Reply.Text.Unshown
import Reply.Text.Utf8
import Reply.Uri
import Reply.Workload
import Reply.Proofs.Negotiation
import Reply.Proofs.Draining
import Reply.Proofs.Verdict
import Reply.Proofs.Retrying
import Reply.Proofs.Advancing
import Reply.Proofs.Slicing
import Reply.Proofs.Announcing
import Reply.Proofs.Closing.Discretion
import Reply.Proofs.Closing.Body
import Reply.Proofs.Closing.Response
import Reply.Proofs.Closing
import Reply.Proofs.Buffering
import Reply.Proofs.Downstream
import Reply.Proofs.Mirroring
import Reply.Proofs.Essence.Grammar
import Reply.Proofs.Essence
import Reply.Proofs.Forwarding
import Reply.Proofs.Wrapping
