import Reply.MediaType
import Reply.Message
import Reply.Payload

/-!
# Reply.Response.Basic

The response value shared by clients and servers: a message, which may be
missing, with the payload size it has reached, the failure recorded on it,
the request it answers, and whether its connection was handed over.

1. What needs a message makes a blank `200` one if there is none
   (`onMessage`).
2. Writing goes to the body and adds what was taken to the payload size.
3. Replacing the body sets the payload size to the bytes of a buffered body,
   and to unknown for any other.
-/

namespace Reply

/-- A response. -/
structure Response where
  message? : Option (Message Body) := none
  size : PayloadSize := .known 0
  /-- The failure that ends the exchange. -/
  failure? : Option Failure := none
  request? : Option Request := none
  hijacked : Bool := false

namespace Response

variable {α : Type}

instance : Inhabited Response := ⟨{}⟩

/-! ## making a response -/

/-- The response to a request, with a status and an empty body. -/
def answering (request : Request) (status : Status := .ok) : Response where
  message? := some (.blank (some request) status)
  request? := some request

/-- The response that is nothing but a failure. -/
def failed (request? : Option Request) (failure : Failure) : Response where
  failure? := some failure
  request?

/-- Lets go of the response. -/
def release (r : Response) : Trail :=
  match r.message? with
  | some message => message.body.release
  | none => {}

/-! ## parts -/

def body? (r : Response) : Option Body := r.message?.map (·.body)

/-- The request accepts protobuf. -/
def acceptsProtobuf (r : Response) : Bool :=
  (r.request?.bind (·.accept?)).any MediaType.acceptsProtobuf

/-- The request wants failures from further down to be wrapped. -/
def wrapsDownstream (r : Response) : Bool := r.request?.any (·.wrapsDownstream)

/-- The response as one line of text. -/
def describe (r : Response) : String :=
  let status := match r.message? with
    | some message => toString message.status.code
    | none => "???"
  let failure := match r.failure? with
    | some failure => ", error: " ++ failure.message
    | none => ""
  "Response(" ++ status ++ failure ++ ")"

/-- The message, or the blank one that would be made. -/
def message (r : Response) : Message Body := r.message?.getD (.blank r.request?)

theorem message_of_some {r : Response} {message : Message Body}
    (present : r.message? = some message) : r.message = message := by
  rw [Response.message, present]
  rfl

/-- What making the message leaves in the log. -/
def creation (r : Response) : Trail :=
  match r.message? with
  | some _ => {}
  | none => { log := [.headCreated] }

/-- A call on the message, which is made first if there is none. -/
def onMessage (op : Operation (Message Body) α) : Operation Response α := fun r =>
  let outcome := op.run r.message
  ⟨outcome.answer, { r with message? := some outcome.state }, r.creation ++ outcome.trail⟩

@[simp] theorem run_onMessage (op : Operation (Message Body) α) (r : Response) :
    (onMessage op).run r =
      ⟨(op.run r.message).answer, { r with message? := some (op.run r.message).state },
        r.creation ++ (op.run r.message).trail⟩ := rfl

/-- Makes the message if there is none. -/
def ensureMessage : Operation Response Unit := onMessage (pure ())

def onHeaders (op : Operation Headers α) : Operation Response α := onMessage (Message.onHeaders op)

def onBody (op : Operation Body α) : Operation Response α := onMessage (Message.onBody op)

def setStatus (status : Status) : Operation Response Unit :=
  onMessage (.modify fun message => { message with status })

def setSize (size : PayloadSize) : Operation Response Unit := .modify ({ · with size })

/-- Records a failure. -/
def setFailure (failure : Failure) : Operation Response Unit :=
  .modify ({ · with failure? := some failure })

/-- Takes the recorded failure off the response. -/
def takeFailure : Operation Response (Option Failure) := fun r =>
  ⟨r.failure?, { r with failure? := none }, {}⟩

/-- Replaces the body and lets go of the old one. -/
def setBody (body : Body) : Operation Response Unit := do
  setSize (.ofLength? (body.buffer?.map (·.length)))
  onBody (Body.replace body)

/-! ## writing -/

/-- Accounts for bytes that were written. -/
def account (count : Nat) : Operation Response Unit := fun r =>
  ⟨(), { r with size := r.size.advance count },
    { log := (r.size.crossing? count).toList.map .thresholdCrossed }⟩

@[simp] theorem run_account (count : Nat) (r : Response) :
    (account count).run r =
      ⟨(), { r with size := r.size.advance count },
        { log := (r.size.crossing? count).toList.map .thresholdCrossed }⟩ := rfl

/-- Writes data to the body; the answer is the number of bytes taken. -/
def write (data : Bytes) : Operation Response (Except IoError Nat) := do
  match ← onBody (Body.write data) with
  | .error error => return .error error
  | .ok count =>
    account count
    return .ok count

/-- Passes on what was written. -/
def flush : Operation Response (Except IoError Unit) := fun r =>
  match r.message? with
  | some _ => onBody Body.flush r
  | none => ⟨.ok (), r, {}⟩

theorem run_flush_of_none {r : Response} (none : r.message? = none) :
    flush.run r = ⟨.ok (), r, {}⟩ := by
  simp only [Operation.run, flush, none]

theorem run_flush_of_some {r : Response} {message : Message Body}
    (present : r.message? = some message) : flush.run r = (onBody Body.flush).run r := by
  simp only [Operation.run, flush, present]

/-! ## patience -/

/-- How many more writes to the response may be interrupted. -/
def patience (r : Response) : Nat := r.message.body.patience

/-- A write answers what writing to the body does. -/
theorem answer_write (data : Bytes) (r : Response) :
    ((write data).run r).answer = ((Body.write data).run r.message.body).answer := by
  simp only [write, onBody, Operation.run_bind, run_onMessage, Message.run_onBody]
  split <;> simp_all

/-- A write leaves in the body what writing to the body does. -/
theorem body_write (data : Bytes) (r : Response) :
    ((write data).run r).state.message.body = ((Body.write data).run r.message.body).state := by
  simp only [write, onBody, Operation.run_bind, run_onMessage, Message.run_onBody]
  split <;> simp [message]

instance : Sink Response where
  write := write
  patience := patience
  patience_ok data r count _ := by
    simpa only [patience, body_write] using Body.patience_write_le data r.message.body
  patience_interrupted data r error failed h := by
    simpa only [patience, body_write] using Body.patience_write_lt (answer_write data r ▸ failed) h

/-- Writes all of the data. -/
def writeAll (data : Bytes) : Operation Response (Except IoError Unit) := Sink.writeAll data

/-- Writes slices one after the other, each of them whole, up to the first failure. -/
def writeSlices : List Bytes → Operation Response (Except IoError Unit)
  | [] => return .ok ()
  | slice :: rest => do
    match ← writeAll slice with
    | .error error => return .error error
    | .ok () => writeSlices rest

end Response

end Reply
