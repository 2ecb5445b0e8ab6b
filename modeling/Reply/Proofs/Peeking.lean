import Reply.Proofs.Delivery

/-!
# Reply.Proofs.Peeking

Looking at the body of a response changes nothing that comes after it.

A look puts a buffer in the place of a stream, so that every later call takes
another way than it would have taken.  Bodies are *twins* if they hold the same
bytes, whatever these are made of: calls on a body respect that
(`respected_twins`), and a look at one response leaves it related to the other
(`glance`).  So runs with looks and without them go on side by side
(`agree_observe`).
-/

namespace Reply

open Operation (Agree)

/-! ## bodies -/

namespace Body

/-- A body in memory, or a stream that is only read and comes to its end. -/
def Peekable : Body → Prop
  | buffered _ => True
  | streaming stream => stream.writable = false ∧ Delivery.stop? stream.deliveries = none
  | closed => False

theorem exists_holds {body : Body} (peekable : body.Peekable) : ∃ bytes, body.Holds bytes := by
  cases body with
  | buffered buffer => exact ⟨_, holds_buffered buffer⟩
  | streaming stream =>
    obtain ⟨readOnly, ended⟩ := peekable
    refine ⟨Delivery.yields stream.deliveries, ?_, ?_⟩
    · simp only [contents, ended]
    · simp only [writesToMemory, readOnly, Bool.not_false]
  | closed => exact peekable.elim

/-- Bodies that hold the same bytes. -/
def Twins (a b : Body) : Prop := ∃ bytes, a.Holds bytes ∧ b.Holds bytes

theorem twins_self {body : Body} (peekable : body.Peekable) : Twins body body :=
  (exists_holds peekable).imp fun _ holds => ⟨holds, holds⟩

theorem sameContents_of_twins ⦃a b : Body⦄ (twins : Twins a b) : SameContents a b := by
  obtain ⟨bytes, ha, hb⟩ := twins
  exact ha.contents.trans hb.contents.symm

theorem respected_twins : Respected Twins where
  write data := by
    rintro a b ⟨bytes, ha, hb⟩
    rw [(write_holds ha data).1, (write_holds hb data).1, (write_holds ha data).2,
      (write_holds hb data).2]
    exact ⟨rfl, bytes ++ data, holds_ofBytes _, holds_ofBytes _⟩
  flush := by
    rintro a b ⟨bytes, ha, hb⟩
    rw [(flush_holds ha).1, (flush_holds hb).1, (flush_holds ha).2, (flush_holds hb).2]
    exact ⟨rfl, bytes, ha, hb⟩
  snapshot := by
    rintro a b ⟨bytes, ha, hb⟩
    rw [answer_snapshot, answer_snapshot, ha.contents, hb.contents, state_snapshot_holds ha,
      state_snapshot_holds hb]
    exact ⟨rfl, bytes, holds_ofBytes _, holds_ofBytes _⟩

end Body

namespace Response

variable {α : Type}

/-! ## looks -/

/-- So many looks at the body, one after the other. -/
def look (count : Nat) : Operation Response (List (Except IoError Bytes)) :=
  Operation.each bodyBytes (List.replicate count false)

section Twins

variable {a b : Response} (twins : Related Body.Twins a b)
include twins

/-- Behind a look the bytes are held in memory. -/
theorem glance : Related Body.Twins ((bodyBytes false).run a).state b where
  toAlike := (alike_bodyBytes false a).trans twins.toAlike
  bodies := by
    obtain ⟨bytes, ha, hb⟩ := twins.bodies
    refine ⟨bytes, ?_, hb⟩
    cases present : a.message? with
    | none =>
      rw [run_bodyBytes_of_none present]
      exact ha
    | some message =>
      -- Of a stream nothing is left but the buffer that its bytes were copied into.
      rw [run_bodyBytes_of_some present]
      show ((Body.snapshot.run a.message.body).state).Holds bytes
      rw [Body.state_snapshot_holds ha]
      exact Body.holds_ofBytes bytes

/-- However often one looks, what is left is related. -/
theorem glances (count : Nat) : Related Body.Twins ((look count).run a).state b := by
  induction count generalizing a with
  | zero => exact twins
  | succ count ih => exact ih (glance twins)

/-- Every look shows the same. -/
theorem answer_look (count : Nat) :
    ((look count).run a).answer = List.replicate count ((bodyBytes false).run b).answer := by
  induction count generalizing a with
  | zero => rfl
  | succ count ih =>
    obtain ⟨same, -⟩ := agree_bodyBytes false (twins.mono Body.sameContents_of_twins)
    rw [List.replicate_succ, ← ih (glance twins), ← same]
    rfl

end Twins

/-! ## runs with looks in between -/

/-- Some looks, then a call: what the call answers, and what is seen of the response then. -/
def observe (looks : Nat) (action : Action α) : Operation Response (Answer α × Seen) := do
  let _ ← look looks
  let answer ← perform action
  return (answer, (← Operation.get).seen)

/-- A run of calls. -/
def observeAll (actions : List (Action α)) : Operation Response (List (Answer α × Seen)) :=
  Operation.each (observe 0) actions

/-- A run of calls, with so many looks before each of them. -/
def observeLooking (steps : List (Nat × Action α)) : Operation Response (List (Answer α × Seen)) :=
  Operation.each (fun step => observe step.1 step.2) steps

theorem agree_observe {action : Action α} (fills : action.Fills Body.Peekable) (looks : Nat) :
    Agree (Related Body.Twins) (observe looks action) (observe 0 action) (Related Body.Twins) := by
  have observed : Agree (Related Body.Twins)
      (do let answer ← perform action; return (answer, (← Operation.get).seen))
      (do let answer ← perform action; return (answer, (← Operation.get).seen))
      (Related Body.Twins) :=
    (agree_perform Body.respected_twins (fun _ => Body.twins_self) fills).bind fun answer =>
      Agree.inspect seen seen (fun _ _ twins => twins.seen) fun seen => .pure (answer, seen)
  exact Agree.ignore (fun _ _ twins => glances twins looks) observed

theorem agree_observeLooking {steps : List (Nat × Action α)}
    (fills : ∀ step ∈ steps, step.2.Fills Body.Peekable) :
    Agree (Related Body.Twins) (observeLooking steps) (observeAll (steps.map (·.2)))
      (Related Body.Twins) := by
  rw [observeAll, Operation.each_map]
  exact Agree.each fun step member => agree_observe (fills step member) step.1

/-- **Looking changes nothing**: calls that fill a response answer the same and leave the same to
be seen, however often the body is looked at before each of them; and so does one more call that
takes the body.  Looks in a row all show the same, which is the bytes of the body if there is a
message. -/
theorem looks_change_nothing {r : Response} (peekable : r.message.body.Peekable)
    {steps : List (Nat × Action α)} (fills : ∀ step ∈ steps, step.2.Fills Body.Peekable)
    (looks : Nat) :
    let plain := (observeAll (steps.map (·.2))).run r
    let looking := (observeLooking steps).run r
    let last := (look looks).run looking.state
    let shown := ((bodyBytes false).run plain.state).answer
    looking.answer = plain.answer ∧
    last.answer = List.replicate looks shown ∧
    (plain.state.message?.isSome = true → ∃ bytes, shown = .ok bytes) ∧
    (let taken := (bodyBytes true).run last.state
     let taken' := (bodyBytes true).run plain.state
     taken.answer = taken'.answer ∧ taken.state.seen = taken'.state.seen) ∧
    (∀ (β : Type) (target : Decodable β),
      let decoded := (decode target).run last.state
      let decoded' := (decode target).run plain.state
      decoded.answer = decoded'.answer ∧ decoded.state.seen = decoded'.state.seen) ∧
    last.state.handOver.1 = plain.state.handOver.1 := by
  intro plain looking last shown
  have start : Related Body.Twins r r :=
    { seen := rfl, request := rfl, bodies := Body.twins_self peekable }
  obtain ⟨same, after⟩ := agree_observeLooking fills start
  have behind : Related Body.SameContents last.state plain.state :=
    (glances after looks).mono Body.sameContents_of_twins
  refine ⟨same, answer_look after looks, fun made => ?_, ?_, fun β target => ?_,
    handOver_contents behind⟩
  · obtain ⟨message, present⟩ := Option.isSome_iff_exists.1 made
    obtain ⟨bytes, -, holds⟩ := after.bodies
    exact ⟨bytes, (answer_bodyBytes present false).trans
      (message_of_some present ▸ holds.contents)⟩
  · obtain ⟨same, alike⟩ := agree_bodyBytes true behind
    exact ⟨same, alike.seen⟩
  · obtain ⟨same, alike⟩ := agree_decode target behind
    exact ⟨same, alike.seen⟩

/-- Looks at a stream before it is written to, and at what is then in memory. -/
theorem looks_change_nothing_stream :
    let stream : Stream :=
      { deliveries := [.data [1], .failure (.ofKind .interrupted), .data [2, 3]] }
    let r : Response := { message? := some { body := .streaming stream } }
    let actions : List (Action Unit) := [.write [4], .setStatus ⟨404, by decide⟩, .flush]
    let steps : List (Nat × Action Unit) := List.zip [2, 0, 3] actions
    let plain := (observeAll actions).run r
    let looking := (observeLooking steps).run r
    (r.message.body.Peekable ∧ ∀ step ∈ steps, step.2.Fills Body.Peekable) ∧
      looking.answer = plain.answer ∧
      ((look 2).run looking.state).answer = [.ok [1, 2, 3, 4], .ok [1, 2, 3, 4]] ∧
      ((look 2).run looking.state).state.handOver.1 = plain.state.handOver.1 := by
  intro stream r actions steps plain looking
  have peekable : r.message.body.Peekable := ⟨rfl, by decide⟩
  have fills : ∀ step ∈ steps, step.2.Fills Body.Peekable := by
    simp [steps, actions, Action.Fills]
  obtain ⟨same, last, -, -, -, handedOver⟩ := looks_change_nothing peekable fills 2
  have shown : ((bodyBytes false).run plain.state).answer = .ok [1, 2, 3, 4] := by cbv
  exact ⟨⟨peekable, fills⟩, same, last.trans (congrArg (List.replicate 2) shown), handedOver⟩

end Response

end Reply
