import Reply.Headers.Action
import Reply.Response.Basic

/-!
# Reply.Response.Writer

The output side of a handler: headers, status and body of a response, and the
connection itself where the transport hands it over.

A writer holds nothing of its own; every call goes straight to the response
or to the transport. Taking over the connection changes nothing in the
response but the flag that says so.
-/

namespace Reply

/-! ## connections -/

/-- The transport of an exchange: what it will answer when its connection is asked for. -/
structure Transport where
  answers : List (Except IoError Buffer) := []

/-- Asks for the connection. Past the last answer it has been handed over already. -/
def Transport.handOver (transport : Transport) : Except IoError Buffer × Transport :=
  match transport.answers with
  | [] => (.error .alreadyHijacked, transport)
  | answer :: rest => (answer, ⟨rest⟩)

/-! ## the writer -/

/-- A response as a handler sees it, and the transport, if its connection can be asked for. -/
structure Writer where
  response : Response
  transport? : Option Transport := none

namespace Response

/-- The writer of a response; the request says whether the connection can be asked for. -/
def writer (transport : Transport) (r : Response) : Writer where
  response := r
  transport? := if r.request?.any (·.handsOver) then some transport else none

/-- Notes that the connection was handed over. -/
def markHijacked : Operation Response Unit := .modify ({ · with hijacked := true })

end Response

namespace Writer

variable {α : Type}

/-- A call on the response behind the writer. -/
def onResponse (op : Operation Response α) : Operation Writer α :=
  .zoom (·.response) (fun response writer => { writer with response }) op

@[simp] theorem run_onResponse (op : Operation Response α) (writer : Writer) :
    (onResponse op).run writer =
      ⟨(op.run writer.response).answer, { writer with response := (op.run writer.response).state },
        (op.run writer.response).trail⟩ := rfl

def onHeaders (op : Operation Headers α) : Operation Writer α := onResponse (Response.onHeaders op)

def writeHeader (status : Status) : Operation Writer Unit := onResponse (Response.setStatus status)

/-- Records the failure that ends the exchange. -/
def writeError (failure : Failure) : Operation Writer Unit :=
  onResponse (Response.setFailure failure)

def write (data : Bytes) : Operation Writer (Except IoError Nat) := onResponse (Response.write data)

def flush : Operation Writer (Except IoError Unit) := onResponse Response.flush

/-- Takes over the connection; nothing is answered where it cannot be asked for. -/
def hijack : Operation Writer (Option (Except IoError Buffer)) := do
  match (← Operation.get).transport? with
  | none => return none
  | some transport =>
    let (answer, transport) := transport.handOver
    Operation.modify ({ · with transport? := some transport })
    if answer.isOk then onResponse Response.markHijacked
    return some answer

instance : Sink Writer where
  write := write
  patience writer := writer.response.patience
  patience_ok data writer count := Sink.patience_ok data writer.response count
  patience_interrupted data writer error := Sink.patience_interrupted data writer.response error

/-- Writes all of the data. -/
def writeAll (data : Bytes) : Operation Writer (Except IoError Unit) := Sink.writeAll data

/-! ## calls as values -/

/-- Something that is asked of a writer. -/
inductive Action
  | header (action : Headers.Action)
  | writeHeader (status : Status)
  | write (data : Bytes)
  | writeAll (data : Bytes)
  | flush
  | writeError (failure : Failure)
  | hijack

/-- What a call on a writer answers. -/
inductive Answer
  | done
  | header (answer : Headers.Answer)
  /-- The number of bytes taken. -/
  | count (answer : Except IoError Nat)
  | outcome (answer : Except IoError Unit)
  /-- The connection, if it can be asked for. -/
  | connection (answer? : Option (Except IoError Buffer))

/-- Does what is asked. -/
def perform : Action → Operation Writer Answer
  | .header action => .header <$> onHeaders (Headers.perform action)
  | .writeHeader status => (fun _ => .done) <$> writeHeader status
  | .write data => .count <$> write data
  | .writeAll data => .outcome <$> writeAll data
  | .flush => .outcome <$> flush
  | .writeError failure => (fun _ => .done) <$> writeError failure
  | .hijack => .connection <$> hijack

end Writer

end Reply
