import Reply.Proofs.Respect

/-!
# Reply.Proofs.Alike

Responses that differ in their bodies alone.

1. Responses are `Alike` if the same is seen of them (head, payload size and
   recorded failure) and they answer the same request.
2. They are `Related` by a relation on bodies if their bodies are, too.
3. If the calls on a body respect a relation, the calls on the parts of a response
   do (`respected_related`), and so do the calls that fill one: from related
   responses they give the same answer and leave related responses
   (`agree_perform`).

What a relation has to say of bodies is thus said once, for bodies.
-/

namespace Reply

open Operation (Agree)

/-! ## relations on bodies -/

namespace Body

/-- Calls on bodies in this relation agree, and keep it. -/
structure Respected (B : Body → Body → Prop) : Prop where
  write : ∀ data, Agree B (write data) (write data) B
  flush : Agree B flush flush B
  snapshot : Agree B snapshot snapshot B

theorem agree_replace {B : Body → Body → Prop} {body : Body} (self : B body body) :
    Agree B (replace body) (replace body) B := fun _ _ _ => ⟨rfl, self⟩

end Body

/-! ## calls that fill a response -/

/-- The calls that put something into a response, or set something on it, or look at it.  The
bodies that they install are of this kind. -/
def Response.Action.Fills {α : Type} (kind : Body → Prop) : Response.Action α → Prop
  | .setBody installed => kind installed
  | .encode value => ∀ installed, value.body? = some installed → kind installed
  | .decode _ | .bodyBytes true | .body _ => False
  | _ => True

/-! ## alike -/

/-- A message without its body. -/
def Message.head {β : Type} (message : Message β) : Message Unit := { message with body := () }

namespace Response

/-- What is seen of a response without touching its body. -/
structure Seen where
  head? : Option (Message Unit)
  size : PayloadSize
  failure? : Option Failure

def seen (r : Response) : Seen := ⟨r.message?.map (·.head), r.size, r.failure?⟩

/-- Responses to the same request, of which the same is seen. -/
structure Alike (a b : Response) : Prop where
  seen : a.seen = b.seen
  request : a.request? = b.request?

namespace Alike

theorem symm {a b : Response} (alike : Alike a b) : Alike b a :=
  ⟨alike.seen.symm, alike.request.symm⟩

theorem trans {a b c : Response} (first : Alike a b) (second : Alike b c) : Alike a c :=
  ⟨first.seen.trans second.seen, first.request.trans second.request⟩

variable {a b : Response} (alike : Alike a b)
include alike

theorem size : a.size = b.size := congrArg Seen.size alike.seen

theorem failure : a.failure? = b.failure? := congrArg Seen.failure? alike.seen

theorem wrapsDownstream : a.wrapsDownstream = b.wrapsDownstream := by
  rw [Response.wrapsDownstream, alike.request]
  rfl

/-- Either both have a message, with the same head, or neither has one. -/
theorem messages : (a.message? = none ∧ b.message? = none) ∨
    ∃ ma mb, a.message? = some ma ∧ b.message? = some mb ∧ ma.head = mb.head := by
  have heads : a.message?.map Message.head = b.message?.map Message.head :=
    congrArg Seen.head? alike.seen
  cases ha : a.message? with
  | none =>
    rw [ha, Option.map_none, eq_comm, Option.map_eq_none_iff] at heads
    exact .inl ⟨rfl, heads⟩
  | some ma =>
    rw [ha, Option.map_some, eq_comm, Option.map_eq_some_iff] at heads
    obtain ⟨mb, hb, same⟩ := heads
    exact .inr ⟨ma, mb, rfl, hb, same.symm⟩

/-- So the messages that they have, or would make, have the same head. -/
theorem head : a.message.head = b.message.head := by
  rcases alike.messages with ⟨ha, hb⟩ | ⟨ma, mb, ha, hb, same⟩
  · rw [message, message, ha, hb, alike.request]
  · rw [message_of_some ha, message_of_some hb, same]

/-- Messages with the same head, put into both. -/
theorem withMessages {ma mb : Message Body} (same : ma.head = mb.head) :
    Alike { a with message? := some ma } { b with message? := some mb } where
  seen := by simp only [Response.seen, Option.map_some, same, alike.size, alike.failure]
  request := alike.request

theorem withFailure (failure? : Option Failure) :
    Alike { a with failure? } { b with failure? } where
  seen := congrArg (fun seen : Seen => { seen with failure? }) alike.seen
  request := alike.request

theorem withSize (size : PayloadSize) : Alike { a with size } { b with size } where
  seen := congrArg (fun seen : Seen => { seen with size }) alike.seen
  request := alike.request

end Alike

/-! ## related -/

/-- Responses that are alike, with bodies that are related. -/
structure Related (B : Body → Body → Prop) (a b : Response) : Prop extends Alike a b where
  bodies : B a.message.body b.message.body

variable {α : Type} {B C : Body → Body → Prop}

theorem Related.mono (weaker : ∀ ⦃x y⦄, B x y → C x y) {a b : Response} (related : Related B a b) :
    Related C a b := { related with bodies := weaker related.bodies }

/-- Calls on bodies that agree, on responses. -/
theorem agree_onBody {op op' : Operation Body α} (h : Agree B op op' C) :
    Agree (Related B) (onBody op) (onBody op') (Related C) := by
  intro a b related
  obtain ⟨same, bodies⟩ := h related.bodies
  refine ⟨same, { toAlike := related.withMessages ?_, bodies }⟩
  exact related.head

/-- A call on the message that neither looks at the body nor changes it. -/
theorem agree_onMessage {op : Operation (Message Body) α}
    (blind : ∀ ⦃ma mb⦄, ma.head = mb.head → (op.run ma).answer = (op.run mb).answer ∧
      (op.run ma).state.head = (op.run mb).state.head)
    (kept : ∀ message, (op.run message).state.body = message.body) :
    Agree (Related B) (onMessage op) (onMessage op) (Related B) := by
  intro a b related
  obtain ⟨same, head⟩ := blind related.head
  refine ⟨same, { toAlike := related.withMessages head, bodies := ?_ }⟩
  show B (op.run a.message).state.body (op.run b.message).state.body
  rw [kept, kept]
  exact related.bodies

theorem agree_onHeaders (op : Operation Headers α) :
    Agree (Related B) (onHeaders op) (onHeaders op) (Related B) := by
  refine agree_onMessage (fun ma mb same => ?_) fun _ => rfl
  have headers : ma.headers = mb.headers := congrArg (·.headers) same
  rw [Message.run_onHeaders, Message.run_onHeaders, headers]
  let relabelled (head : Message Unit) := { head with headers := (op.run mb.headers).state }
  exact ⟨rfl, congrArg relabelled same⟩

theorem agree_ensureMessage : Agree (Related B) ensureMessage ensureMessage (Related B) :=
  agree_onMessage (fun _ _ same => ⟨rfl, same⟩) fun _ => rfl

theorem agree_setStatus (status : Status) :
    Agree (Related B) (setStatus status) (setStatus status) (Related B) :=
  agree_onMessage
    (fun _ _ same => ⟨rfl, congrArg (fun head : Message Unit => { head with status }) same⟩)
    fun _ => rfl

theorem agree_setSize (size : PayloadSize) :
    Agree (Related B) (setSize size) (setSize size) (Related B) :=
  .modify fun _ _ related => { related with toAlike := related.withSize size }

theorem agree_setFailure (failure : Failure) :
    Agree (Related B) (setFailure failure) (setFailure failure) (Related B) :=
  .modify fun _ _ related => { related with toAlike := related.withFailure (some failure) }

theorem agree_takeFailure : Agree (Related B) takeFailure takeFailure (Related B) :=
  fun _ _ related => ⟨related.failure, { related with toAlike := related.withFailure none }⟩

theorem agree_account (count : Nat) :
    Agree (Related B) (account count) (account count) (Related B) := by
  intro a b related
  rw [run_account, run_account, related.size]
  exact ⟨rfl, { related with toAlike := related.withSize _ }⟩

/-! ### calls on a body that respect the relation -/

section Respected

variable (respected : Body.Respected B)
include respected

theorem agree_flush : Agree (Related B) flush flush (Related B) := by
  intro a b related
  rcases related.messages with ⟨ha, hb⟩ | ⟨ma, mb, ha, hb, -⟩
  · rw [run_flush_of_none ha, run_flush_of_none hb]
    exact ⟨rfl, related⟩
  · rw [run_flush_of_some ha, run_flush_of_some hb]
    exact agree_onBody respected.flush related

theorem agree_look : Agree (Related B) (bodyBytes false) (bodyBytes false) (Related B) := by
  intro a b related
  rcases related.messages with ⟨ha, hb⟩ | ⟨ma, mb, ha, hb, -⟩
  · rw [run_bodyBytes_of_none ha, run_bodyBytes_of_none hb]
    exact ⟨rfl, related⟩
  · rw [run_bodyBytes_of_some ha, run_bodyBytes_of_some hb]
    exact agree_onBody respected.snapshot related

/-- The parts of related responses, too. -/
theorem respected_related {kind : Body → Prop} (self : ∀ body, kind body → B body body) :
    Respected kind (Related B) where
  request _ _ related := related.request
  ensureMessage := agree_ensureMessage
  onHeaders := agree_onHeaders
  setStatus := agree_setStatus
  writeBody data := agree_onBody (respected.write data)
  replaceBody body fits := agree_onBody (Body.agree_replace (self body fits))
  flush := agree_flush respected
  setSize := agree_setSize
  account := agree_account
  setFailure := agree_setFailure
  takeFailure := agree_takeFailure
  markHijacked :=
    .modify fun _ _ related => { related with toAlike := ⟨related.seen, related.request⟩ }

/-- **Filling related responses**: every call gives the same answer on both and leaves them
related, if a body that it installs is related to itself. -/
theorem agree_perform {kind : Body → Prop} (self : ∀ body, kind body → B body body)
    {action : Action α} (fills : action.Fills kind) :
    Agree (Related B) (perform action) (perform action) (Related B) := by
  have parts : Respected kind (Related B) := respected_related respected self
  cases action with
  | bodyBytes consume =>
    cases consume with
    | true => exact fills.elim
    | false => exact (agree_look respected).map _
  | decode | body => exact fills.elim
  | _ => exact parts.agree_perform fills

end Respected

end Response

end Reply
