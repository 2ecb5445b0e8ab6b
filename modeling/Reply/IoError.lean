/-!
# Reply.IoError

Failures of reading, writing, flushing and closing: a kind, by which callers
decide, the text that is shown, and the texts of what the failure comes from in
turn, where it carries another one.
-/

namespace Reply

/-- What went wrong, as far as a caller may act on it. Only an interrupted call is told from the
others; a kind that is not listed here is like `other` to every caller, and shows a text of its
own. -/
inductive IoError.Kind
  | brokenPipe
  | connectionReset
  | interrupted
  | invalidData
  | notFound
  | other
  | permissionDenied
  | timedOut
  | unexpectedEof
  | unsupported
  | wouldBlock
  | writeZero
deriving DecidableEq, Repr, Inhabited

/-- The text shown for a failure of which only the kind is known. -/
def IoError.Kind.text : IoError.Kind → String
  | .brokenPipe => "broken pipe"
  | .connectionReset => "connection reset"
  | .interrupted => "operation interrupted"
  | .invalidData => "invalid data"
  | .notFound => "entity not found"
  | .other => "other error"
  | .permissionDenied => "permission denied"
  | .timedOut => "timed out"
  | .unexpectedEof => "unexpected end of file"
  | .unsupported => "unsupported"
  | .wouldBlock => "operation would block"
  | .writeZero => "write zero"

/-- A failed call on a body, a stream or a connection. -/
structure IoError where
  kind : IoError.Kind
  message : String
  /-- The texts of what it comes from, from the outside in. -/
  sources : List String := []
deriving DecidableEq, Repr, Inhabited

namespace IoError

/-- The failure of which nothing but the kind is known. -/
def ofKind (kind : Kind) : IoError := { kind, message := kind.text }

/-- An interrupted call has had no effect and may simply be made again. -/
def isInterrupted (e : IoError) : Bool := e.kind == .interrupted

/-- A closed body has no bytes and takes none. -/
def consumed : IoError := { kind := .other, message := "body has been consumed" }

/-- A writer took nothing of a non-empty slice, so going on would not end. -/
def writeZero : IoError :=
  { kind := .writeZero, message := "failed to write whole buffer" }

/-- Fewer bytes were left than had to be read. -/
def shortRead : IoError :=
  { kind := .unexpectedEof, message := "failed to fill whole buffer" }

/-- Without a head there is no body to read. -/
def noBody : IoError := { kind := .notFound, message := "response has no body" }

/-- The transport has no connection left to hand over. -/
def alreadyHijacked : IoError := { kind := .unsupported, message := "already hijacked" }

end IoError

end Reply
