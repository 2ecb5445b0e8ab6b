import Reply.Proofs.Decoding
import Reply.Proofs.HandOver
import Reply.Proofs.Ownership
import Reply.Schema.Messages
import Reply.Schema.Records

/-!
# Reply.Proofs.Recorded

A recorded failure is the last word on a response.

1. A decode that fails where nothing was recorded records what it answers, unless
   the target merely lacks the form that the body has (`recorded_of_decode`).
2. From then on a decode answers the recorded failure, inside one further failure
   if the request wants it so, and does nothing else.  It leaves the response as it
   is, so the next decode answers the same (`run_each_decodeInto`).
3. Handing the response over answers the recorded failure as it is, and only lets
   go of the body (`handOver_recorded`).

The calls of a run may decode into targets of different types: a run is a list of
indices into a family of targets, and each answer comes with its index.
-/

namespace Reply

namespace Response

variable {α : Type}

/-! ## what a decode records -/

theorem recorded_of_record {r : Response} {given failure : Failure}
    (failed : ((record given : Operation Response (Except Failure α)).run r).answer =
      .error failure) :
    ((record given : Operation Response (Except Failure α)).run r).state.failure? =
      some failure := by
  have same : (Except.error given : Except Failure α) = .error failure := failed
  cases same
  rfl

/-- What is settled as a failure is recorded. -/
theorem recorded_of_settle {r : Response} {result : Except Failure α} {failure : Failure}
    (failed : ((settle result).run r).answer = .error failure) :
    ((settle result).run r).state.failure? = some failure := by
  cases result with
  | ok a => cases failed
  | error given => exact recorded_of_record failed

/-- The failure of a codec is recorded; that there is no codec is not. -/
theorem recorded_of_decodeBody {r : Response} {target : Decodable α} {protobuf : Bool}
    {bytes : Bytes} {failure : Failure}
    (failed : ((decodeBody target protobuf bytes).run r).answer = .error failure)
    (hasForm : failure.tag? ≠ some .invalidType) :
    ((decodeBody target protobuf bytes).run r).state.failure? = some failure := by
  cases protobuf with
  | false => exact recorded_of_settle failed
  | true =>
    cases form : target.protobuf? with
    | some read =>
      simp only [decodeBody, form, if_true] at failed ⊢
      exact recorded_of_settle failed
    | none =>
      simp only [decodeBody, form, if_true, Operation.run_pure, Except.error.injEq] at failed
      subst failed
      exact absurd rfl hasForm

/-- A decode that fails where nothing was recorded records what it answers, except that the target
lacks the form that the body has. -/
theorem recorded_of_decode {r : Response} {target : Decodable α} {failure : Failure}
    (clean : r.failure? = none) (failed : ((decode target).run r).answer = .error failure)
    (hasForm : failure.tag? ≠ some .invalidType) :
    ((decode target).run r).state.failure? = some failure := by
  cases present : r.message? with
  | none =>
    rw [run_decode_noMessage clean present] at failed ⊢
    exact recorded_of_record failed
  | some message =>
    rw [run_decode_message clean present, Operation.run_bind] at failed ⊢
    -- Either the body could not be read, or the rest is up to the codec.
    cases taken : ((bodyBytes true).run r).answer with
    | error error =>
      simp only [taken] at failed ⊢
      exact recorded_of_record failed
    | ok bytes =>
      simp only [taken] at failed ⊢
      exact recorded_of_decodeBody failed hasForm

/-! ## what is answered from then on -/

/-- The request has a policy on failures from further down, and one that is not empty. -/
def WantsWrapping (r : Response) : Prop :=
  ∃ request policy, r.request? = some request ∧ request.wrapDownstream = some policy ∧ policy ≠ ""

theorem wrapsDownstream_iff (r : Response) : r.wrapsDownstream = true ↔ r.WantsWrapping := by
  simp [wrapsDownstream, WantsWrapping, Request.wrapsDownstream, Request.isActive,
    Option.any_eq_true]

/-- `answered` is the recorded failure, inside one downstream failure if the request wants that. -/
def Answers (r : Response) (recorded answered : Failure) : Prop :=
  (r.WantsWrapping ∧ answered =
      .service .internalService "Downstream request error" (some .downstream) (some recorded)) ∨
    (¬r.WantsWrapping ∧ answered = recorded)

theorem exists_answers (r : Response) (recorded : Failure) :
    ∃ answered, r.Answers recorded answered ∧
      (if r.wrapsDownstream then .downstream recorded else recorded) = answered := by
  by_cases wraps : r.wrapsDownstream
  · exact ⟨_, .inl ⟨(wrapsDownstream_iff r).1 wraps, rfl⟩, by rw [if_pos wraps]; rfl⟩
  · exact ⟨_, .inr ⟨fun wants => wraps ((wrapsDownstream_iff r).2 wants), rfl⟩, if_neg wraps⟩

section Runs

variable {ι : Type} {β : ι → Type} (targets : (i : ι) → Decodable (β i))

/-- Decoding into the target of that index. -/
def decodeInto (i : ι) : Operation Response ((i : ι) × Except Failure (β i)) :=
  Sigma.mk i <$> decode (targets i)

/-- With a failure recorded, a run of decodes does nothing but answer it over and over. -/
theorem run_each_decodeInto {r : Response} {failure : Failure}
    (recorded : r.failure? = some failure) (run : List ι) :
    (Operation.each (decodeInto targets) run).run r =
      ⟨run.map fun i => ⟨i, .error (if r.wrapsDownstream then .downstream failure else failure)⟩,
        r, {}⟩ := by
  induction run with
  | nil => rfl
  | cons i rest ih =>
    -- The call leaves the response as it is, so the rest of the run starts where this one did.
    have first : (decodeInto targets i).run r =
        ⟨⟨i, .error (if r.wrapsDownstream then .downstream failure else failure)⟩, r, {}⟩ := by
      rw [decodeInto, Operation.run_map, run_decode_failed recorded]
    rw [Operation.run_each_cons, first, ih]
    rfl

end Runs

/-- With a failure recorded, handing over answers it and lets go of the body as it is. -/
theorem handOver_recorded {r : Response} {failure : Failure}
    (recorded : r.failure? = some failure) : r.handOver = (.error failure, r.release) := by
  simp only [handOver, recorded]

/-- The stream of a response that is let go of is closed, and nothing else is asked of it. -/
theorem released_of_streaming {r : Response} {stream : Stream}
    (streams : r.body? = some (.streaming stream)) :
    ∃ closed, r.release.released = [closed] ∧ closed.calls = .close :: stream.calls ∧
      closed.deliveries = stream.deliveries := by
  obtain ⟨message, present, body⟩ := Option.map_eq_some_iff.1 streams
  have closed : stream.close.2.calls = .close :: stream.calls ∧
      stream.close.2.deliveries = stream.deliveries := by
    unfold Stream.close
    split <;> exact ⟨rfl, rfl⟩
  refine ⟨stream.close.2, ?_, closed⟩
  rw [release, present]
  simp only [body, Body.release]
  exact stream.released_release

/-! ## the last word -/

section Runs

variable {ι : Type} {β : ι → Type} (targets : (i : ι) → Decodable (β i))

/-- **A recorded failure dominates**: wherever a run of decodes has come to, with whatever targets
and on whatever response, one of two things holds.

If a failure is recorded, all further decodes answer it, inside one downstream failure if the
request has a policy for that.  They leave the response as it is, with its body and its stream, and
log nothing.  The response is handed over as that failure, and its stream is closed unread.

If none is recorded, the next decode that fails records what it answers, except that the target
lacks the form that the body has. -/
theorem recorded_failure_dominates (before after : List ι) (r : Response) :
    let now := ((Operation.each (decodeInto targets) before).run r).state
    match now.failure? with
    | some failure =>
      (∃ answered, now.Answers failure answered ∧
        (Operation.each (decodeInto targets) after).run now =
          ⟨after.map fun i => ⟨i, .error answered⟩, now, {}⟩) ∧
      now.handOver = (.error failure, now.release) ∧
      ∀ stream, now.body? = some (.streaming stream) →
        ∃ closed, now.release.released = [closed] ∧ closed.calls = .close :: stream.calls ∧
          closed.deliveries = stream.deliveries
    | none =>
      ∀ i failure, ((decode (targets i)).run now).answer = .error failure →
        failure.tag? ≠ some .invalidType →
        ((decode (targets i)).run now).state.failure? = some failure := by
  intro now
  cases recorded : now.failure? with
  | some failure =>
    obtain ⟨answered, answers, same⟩ := exists_answers now failure
    have run := run_each_decodeInto targets recorded after
    rw [same] at run
    exact ⟨⟨answered, answers, run⟩, handOver_recorded recorded,
      fun stream streams => released_of_streaming streams⟩
  | none => exact fun i failure failed hasForm => recorded_of_decode recorded failed hasForm

/-- A failure set while a stream is unread, and two decodes into different types behind it. -/
theorem recorded_failure_dominates_unread :
    let β : Bool → Type := fun
      | true => Schema.Plain
      | false => Schema.Ping
    let targets : (i : Bool) → Decodable (β i) := fun
      | true => .ofJson Schema.Plain
      | false => .ofProtobuf Schema.Ping
    let late : Failure := .internal "too late"
    let stream : Stream := { deliveries := [.data [1]], calls := [.read] }
    let r : Response := ((setFailure late).run {
      message? := some { body := .streaming stream }
      request? := some { wrapDownstream := some "on" } }).state
    (Operation.each (decodeInto targets) [true, false]).run r =
        ⟨[⟨true, .error (.downstream late)⟩, ⟨false, .error (.downstream late)⟩], r, {}⟩ ∧
      r.handOver = (.error late, r.release) ∧
      ∃ closed, r.release.released = [closed] ∧ closed.calls = [.close, .read] ∧
        closed.deliveries = [.data [1]] := by
  intro β targets late stream r
  have wants : r.WantsWrapping := ⟨_, "on", rfl, rfl, by decide⟩
  obtain ⟨⟨answered, answers, run⟩, handedOver, closed⟩ :=
    recorded_failure_dominates targets [] [true, false] r
  obtain ⟨-, rfl⟩ := answers.resolve_right fun plain => plain.1 wants
  exact ⟨run, handedOver, closed stream rfl⟩

end Runs

end Response

end Reply
