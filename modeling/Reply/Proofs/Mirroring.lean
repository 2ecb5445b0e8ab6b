import Reply.Proofs.Decoding
import Reply.Proofs.Writing

/-!
# Reply.Proofs.Mirroring

Calls that do on the image of a value what others do on the value.

1. A call *mirrors* another under a map of values if it gives the same answer on the
   image, leaves the image of what the other one leaves, and the same trail.  The rules for
   operations that are made of others (`Mirrors.bind`, `Mirrors.each`,
   `Mirrors.writeAll`) carry this from single calls to whole runs.
2. A call is *blind* to a change of the value if it mirrors itself under it.  It leaves
   unchanged what was so before (`Blind.fixed`).
3. A change of a response is `Unseen` if neither the body nor the record of a failure has
   to do with it.  Taking the body and recording a failure to decode are blind to it.
-/

namespace Reply

namespace Operation

variable {σ τ υ α β : Type}

/-- On the image of a value the second call does what the first one does on the value. -/
def Mirrors (f : σ → τ) (op : Operation σ α) (op' : Operation τ α) : Prop :=
  ∀ a, op'.run (f a) = ⟨(op.run a).answer, f (op.run a).state, (op.run a).trail⟩

namespace Mirrors

variable {f : σ → τ}

theorem pure (x : α) : Mirrors f (pure x) (pure x) := fun _ => rfl

theorem log (event : Event) : Mirrors f (log event) (log event) := fun _ => rfl

theorem bind {op : Operation σ α} {op' : Operation τ α} {next : α → Operation σ β}
    {next' : α → Operation τ β} (h : Mirrors f op op') (h' : ∀ x, Mirrors f (next x) (next' x)) :
    Mirrors f (op >>= next) (op' >>= next') := by
  intro a
  simp only [run_bind, h a, h' _ (op.run a).state]

theorem map {op : Operation σ α} {op' : Operation τ α} (g : α → β) (h : Mirrors f op op') :
    Mirrors f (g <$> op) (g <$> op') := by
  intro a
  simp only [run_map, h a]

theorem each {ι : Type} {op : ι → Operation σ α} {op' : ι → Operation τ α}
    (h : ∀ i, Mirrors f (op i) (op' i)) (is : List ι) : Mirrors f (each op is) (each op' is) := by
  induction is with
  | nil => exact pure []
  | cons i rest ih => exact (h i).bind fun x => ih.bind fun xs => pure (x :: xs)

/-- Writing all of some data makes the same writes to the image. -/
theorem writeAll [Sink σ] [Sink τ]
    (h : ∀ data, Mirrors f (Sink.write data : Operation σ _) (Sink.write data)) (data : Bytes) :
    Mirrors f (fun a => Sink.writeAll data a) (fun b => Sink.writeAll data b) := by
  intro a
  obtain ⟨same, answer, state⟩ := Sink.writeAll_part f
    (fun data a => congrArg Outcome.answer (h data a))
    (fun data a => congrArg Outcome.state (h data a)) data a
  -- the trail is that of the writes, one after the other
  have writes := Mirrors.each h ((Sink.attempts data a).map Prod.fst) a
  rw [← same, Sink.run_attempts, same, Sink.run_attempts] at writes
  have trail : (Sink.writeAll data (f a)).trail = (Sink.writeAll data a).trail :=
    congrArg Outcome.trail writes
  exact congr (congr (congrArg Outcome.mk answer) state) trail

end Mirrors

/-- The call does the same after the change, which is still there when it is done. -/
abbrev Blind (f : σ → σ) (op : Operation σ α) : Prop := Mirrors f op op

/-- A change that has been made already is not undone. -/
theorem Blind.fixed {f : σ → σ} {op : Operation σ α} (blind : Blind f op) {a : σ} (made : f a = a) :
    f (op.run a).state = (op.run a).state := by
  have same := blind a
  rw [made] at same
  exact (congrArg Outcome.state same).symm

end Operation

open Operation (Blind Mirrors)

namespace Response

variable {α : Type}

/-- A change that does not make or take away the message, and that calls on the body of a message do
not see, nor those that record a failure. -/
structure Unseen (f : Response → Response) : Prop where
  absent : ∀ ⦃r⦄, r.message? = none → (f r).message? = none
  present : ∀ ⦃r message⦄, r.message? = some message → ∃ message', (f r).message? = some message'
  onBody : ∀ {β : Type} (op : Operation Body β) ⦃r message⦄, r.message? = some message →
    (onBody op).run (f r) =
      ⟨((onBody op).run r).answer, f ((onBody op).run r).state, ((onBody op).run r).trail⟩
  setFailure : ∀ failure, Blind f (setFailure failure)

namespace Unseen

variable {f : Response → Response} (unseen : Unseen f)
include unseen

theorem blind_flush : Blind f flush := by
  intro r
  cases message : r.message? with
  | none => rw [run_flush_of_none message, run_flush_of_none (unseen.absent message)]
  | some _ =>
    obtain ⟨_, message'⟩ := unseen.present message
    rw [run_flush_of_some message, run_flush_of_some message']
    exact unseen.onBody _ message

theorem blind_bodyBytes (consume : Bool) : Blind f (bodyBytes consume) := by
  intro r
  cases message : r.message? with
  | none => rw [run_bodyBytes_of_none message, run_bodyBytes_of_none (unseen.absent message)]
  | some _ =>
    obtain ⟨_, message'⟩ := unseen.present message
    rw [run_bodyBytes_of_some message, run_bodyBytes_of_some message']
    exact unseen.onBody _ message

theorem blind_record (failure : Failure) : Blind f (record failure : Operation _ (Except _ α)) :=
  (Mirrors.log _).bind fun _ => (unseen.setFailure failure).bind fun _ => .pure _

theorem blind_settle (answer : Except Failure α) : Blind f (settle answer) := by
  cases answer with
  | ok a => exact .pure _
  | error failure => exact unseen.blind_record failure

theorem blind_decodeBody (target : Decodable α) (protobuf : Bool) (bytes : Bytes) :
    Blind f (decodeBody target protobuf bytes) := by
  unfold decodeBody
  split
  · split
    · exact .pure _
    · exact unseen.blind_settle _
  · exact unseen.blind_settle _

/-- A decode does the same after a change that leaves the record and the codec. -/
theorem run_decode {r : Response} (recorded : (f r).failure? = r.failure?)
    (wraps : (f r).wrapsDownstream = r.wrapsDownstream)
    (codec : ∀ ⦃message message'⦄, r.message? = some message → (f r).message? = some message' →
      isProtobuf message'.headers = isProtobuf message.headers) (target : Decodable α) :
    (decode target).run (f r) =
      ⟨((decode target).run r).answer, f ((decode target).run r).state,
        ((decode target).run r).trail⟩ := by
  cases record : r.failure? with
  | some failure => rw [run_decode_failed record, run_decode_failed (recorded.trans record), wraps]
  | none =>
    have clean := recorded.trans record
    cases message : r.message? with
    | none =>
      rw [run_decode_noMessage record message, run_decode_noMessage clean (unseen.absent message)]
      exact unseen.blind_record _ r
    | some before =>
      obtain ⟨after, message'⟩ := unseen.present message
      rw [run_decode_message record message, run_decode_message clean message',
        codec message message']
      refine Mirrors.bind (unseen.blind_bodyBytes true) (fun answer => ?_) r
      cases answer with
      | error error => exact unseen.blind_record _
      | ok bytes => exact unseen.blind_decodeBody target _ bytes

end Unseen

end Response

end Reply
