import Reply.Proofs.Respect

/-!
# Reply.Proofs.Blank

A missing message is as good as a blank one.

Some calls make the message before they do anything, some only when they come to
the body, and some not at all: passing on what was written, writing all of no data,
recording a failure, a protobuf message that cannot be encoded.  None of them tells
a response that has yet to make its message from one that has the blank message
already.

`Unmade` relates the two.  A call that makes the message leaves both sides equal,
since it starts from the same message on both (`agree_onMessage_unmade`); any other
call leaves the missing message missing and the blank one blank.  The relation is
thus respected by the parts of a response (`respected_unmade`), and by all that is
made of them.
-/

namespace Reply

open Operation (Agree)

namespace Response

/-- The responses are the same, or the first has no message and would make this one, which the
second has already. -/
inductive Unmade (blank : Message Body) : Response → Response → Prop
  | made (r : Response) : Unmade blank r r
  | unmade {r : Response} (missing : r.message? = none) (makes : r.message = blank) :
      Unmade blank r { r with message? := some blank }

variable {α : Type} {blank : Message Body}

/-- A missing message is made blank, with nothing in its body. -/
theorem body_of_missing {r : Response} (missing : r.message? = none) :
    r.message.body = .empty := by
  rw [message, missing]
  rfl

/-- A call on the message does the same on both sides, and leaves the same. -/
theorem agree_onMessage_unmade (op : Operation (Message Body) α) :
    Agree (Unmade blank) (onMessage op) (onMessage op) (Unmade blank) := by
  intro a b related
  cases related with
  | made => exact ⟨rfl, .made _⟩
  | unmade missing makes =>
    have started : ({ a with message? := some blank } : Response).message = a.message := by
      rw [message_of_some rfl, makes]
    rw [run_onMessage, run_onMessage, started]
    exact ⟨rfl, .made _⟩

/-- A call that changes other things than the message, and does not look at it. -/
theorem agree_beside_unmade {op : Operation Response α}
    (blind : ∀ (r : Response) (message? : Option (Message Body)),
      (op.run { r with message? }).answer = (op.run r).answer ∧
      (op.run { r with message? }).state = { (op.run r).state with message? })
    (kept : ∀ r : Response, (op.run r).state.request? = r.request?) :
    Agree (Unmade blank) op op (Unmade blank) := by
  intro a b related
  cases related with
  | made => exact ⟨rfl, .made _⟩
  | unmade missing makes =>
    obtain ⟨same, left⟩ := blind a (some blank)
    have still : (op.run a).state.message? = none := by
      have alone := (blind a none).2
      rw [← missing] at alone
      exact (congrArg Response.message? alone).trans missing
    have makesStill : (op.run a).state.message = blank := by
      rw [← makes, message, message, still, missing, kept a]
    rw [same, left]
    exact ⟨rfl, .unmade still makesStill⟩

/-- With nothing in the body there is nothing to be passed on. -/
theorem agree_flush_unmade : Agree (Unmade blank) flush flush (Unmade blank) := by
  intro a b related
  cases related with
  | made => exact ⟨rfl, .made _⟩
  | unmade missing makes =>
    have empty : blank.body = .empty := makes ▸ body_of_missing missing
    have untouched : (onBody Body.flush).run { a with message? := some blank } =
        ⟨.ok (), { a with message? := some blank }, {}⟩ := by
      rw [onBody, run_onMessage, message_of_some rfl, Message.run_onBody, empty]
      simp only [creation, Trail.empty_append]
      rw [show Body.flush.run .empty = ⟨.ok (), .empty, {}⟩ from rfl, ← empty]
    rw [run_flush_of_none missing, run_flush_of_some rfl, untouched]
    exact ⟨rfl, .unmade missing makes⟩

/-- No call on the parts of a response tells whether its message was made. -/
theorem respected_unmade (kind : Body → Prop) : Respected kind (Unmade blank) where
  request _ _ related := by cases related <;> rfl
  ensureMessage := agree_onMessage_unmade _
  onHeaders _ := agree_onMessage_unmade _
  setStatus _ := agree_onMessage_unmade _
  writeBody _ := agree_onMessage_unmade _
  replaceBody _ _ := agree_onMessage_unmade _
  flush := agree_flush_unmade
  setSize _ := agree_beside_unmade (fun _ _ => ⟨rfl, rfl⟩) fun _ => rfl
  account _ := agree_beside_unmade (fun _ _ => ⟨rfl, rfl⟩) fun _ => rfl
  setFailure _ := agree_beside_unmade (fun _ _ => ⟨rfl, rfl⟩) fun _ => rfl
  takeFailure := agree_beside_unmade (fun _ _ => ⟨rfl, rfl⟩) fun _ => rfl
  markHijacked := agree_beside_unmade (fun _ _ => ⟨rfl, rfl⟩) fun _ => rfl

end Response

namespace Exchange

variable {α : Type}

/-- **A missing message is as good as a blank one**: from a response without a message, and from the
same response with a `200` head of the request's version, no headers and nothing in its body, any
calls that put something into the response, or set something on it, made directly or through
writers, answer the same.  Behind them the responses are the same, or the message is still missing
on the one side and still that blank one on the other. -/
theorem missing_message_is_blank {lazy : Exchange} {r : Response}
    (present : lazy.response? = some r) (missing : r.message? = none) {actions : List (Action α)}
    (puts : ∀ action ∈ actions, action.Puts fun _ => True) :
    let blank : Message Body := {
      status := ⟨200, by decide⟩
      version := (r.request?.map (·.version)).getD .http11
      headers := ∅
      body := .empty }
    let eager : Exchange := { lazy with response? := some { r with message? := some blank } }
    let lazily := (Operation.each perform actions).run lazy
    let eagerly := (Operation.each perform actions).run eager
    lazily.answer = eagerly.answer ∧
      (lazily.state = eagerly.state ∨
        ∃ left : Response, lazily.state.response? = some left ∧ left.message? = none ∧
          eagerly.state =
            { lazily.state with response? := some { left with message? := some blank } }) := by
  intro blank eager lazily eagerly
  have makes : r.message = blank := by
    rw [Response.message, missing]
    rfl
  have start : Related (Response.Unmade blank) lazy eager :=
    ⟨rfl, rfl, r, _, present, rfl, .unmade missing makes⟩
  have run : Agree (Related (Response.Unmade blank)) (Operation.each perform actions)
      (Operation.each perform actions) (Related (Response.Unmade blank)) :=
    Agree.each fun action member =>
      agree_perform (Response.respected_unmade fun _ => True) (puts action member)
  obtain ⟨same, after⟩ := run start
  obtain ⟨request, transport, left, right, isLeft, isRight, related⟩ := after
  refine ⟨same, ?_⟩
  have whole : eagerly.state = { lazily.state with response? := some right } := by
    have parts : eagerly.state =
        ⟨eagerly.state.request?, eagerly.state.transport, eagerly.state.response?⟩ := rfl
    rw [parts, ← request, ← transport, isRight]
  cases related with
  | made =>
    left
    rw [whole, ← isLeft]
  | unmade stillMissing =>
    right
    exact ⟨left, isLeft, stillMissing, whole⟩

/-- A response that was nothing but a failure, which was taken off it.  Passing on, writing all of
no data and a protobuf message that cannot be encoded make no message; then the writer hands over
the connection and writes a byte, which makes one. -/
theorem missing_message_is_blank_failed :
    let request : Request := { version := .http2, handsOver := true }
    let r : Response :=
      (Response.takeFailure.run (.failed (some request) (.internal "too late"))).state
    let lazy : Exchange := {
      request? := some request
      transport := ⟨[.ok ∅]⟩
      response? := some r }
    let eager : Exchange := { lazy with
      response? := some { r with message? := some { version := .http2, body := .empty } } }
    let unmaking : List (Action Unit) :=
      [.call .flush, .call (.writeAll []), .call (.writeProtobuf (.error ⟨2, 1⟩))]
    let making : List (Action Unit) := [.writer [.hijack, .write [1]], .call (.setStatus .ok)]
    let lazily := (Operation.each perform (unmaking ++ making)).run lazy
    let eagerly := (Operation.each perform (unmaking ++ making)).run eager
    r.message? = none ∧ (∀ action ∈ unmaking ++ making, action.Puts fun _ => True) ∧
      lazily.answer = eagerly.answer ∧ lazily.state = eagerly.state := by
  intro request r lazy eager unmaking making lazily eagerly
  have puts : ∀ action ∈ unmaking ++ making, action.Puts fun _ => True := by
    simp [unmaking, making, Action.Puts, Response.Action.Puts]
  have present : lazy.response? = some r := rfl
  obtain ⟨same, after⟩ := missing_message_is_blank present rfl puts
  have made : (lazily.state.response?.bind (·.message?)).isSome = true := rfl
  refine ⟨rfl, puts, same, after.resolve_right ?_⟩
  rintro ⟨left, isLeft, missing, -⟩
  rw [show lazily.state.response? = some left from isLeft, Option.bind_some, missing] at made
  cases made

end Exchange

end Reply
