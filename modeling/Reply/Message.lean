import Reply.Body
import Reply.Request

/-!
# Reply.Message

A head with a body: what goes over the wire, but for the framing.
-/

namespace Reply

/-- A status code of three digits. -/
structure Status where
  code : Nat
  valid : 100 ≤ code ∧ code ≤ 999
deriving DecidableEq

namespace Status

def ok : Status := ⟨200, by decide⟩

def ofNat? (code : Nat) : Option Status :=
  if valid : 100 ≤ code ∧ code ≤ 999 then some ⟨code, valid⟩ else none

end Status

/-- A head and a body. -/
structure Message (β : Type) where
  status : Status := .ok
  version : Version := .http11
  headers : Headers := ∅
  body : β

namespace Message

variable {α β : Type}

/-- The message that answers a request before anybody filled it in. -/
def blank (request? : Option Request) (status : Status := .ok) : Message Body where
  status
  version := (request?.map (·.version)).getD .http11
  body := .empty

/-- A call on the headers. -/
def onHeaders (op : Operation Headers α) : Operation (Message β) α :=
  .zoom (·.headers) (fun headers message => { message with headers }) op

/-- A call on the body. -/
def onBody (op : Operation β α) : Operation (Message β) α :=
  .zoom (·.body) (fun body message => { message with body }) op

@[simp] theorem run_onHeaders (op : Operation Headers α) (message : Message β) :
    (onHeaders op).run message =
      ⟨(op.run message.headers).answer, { message with headers := (op.run message.headers).state },
        (op.run message.headers).trail⟩ := rfl

@[simp] theorem run_onBody (op : Operation β α) (message : Message β) :
    (onBody op).run message =
      ⟨(op.run message.body).answer, { message with body := (op.run message.body).state },
        (op.run message.body).trail⟩ := rfl

end Message

end Reply
