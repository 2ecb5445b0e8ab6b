import Reply.Proofs.Framing
import Reply.Proofs.Pouring
import Reply.Response.Transfer

/-!
# Reply.Proofs.HandOver

What the transport gets when a response is handed over.

A response with a message, a body that can be read to its end and no failure
recorded becomes the same message with one framing.  Any other response becomes
a failure: the recorded one, else that of a missing message, else an internal
one around the failure of the read.
-/

namespace Reply

/-- `sent` is the message as it goes out: its head, all its bytes, and the one framing that belongs
to the payload size. -/
structure Message.SentAs (message : Message Body) (size : PayloadSize) (bytes : Bytes)
    (sent : Message Bytes) : Prop where
  status : sent.status = message.status
  version : sent.version = message.version
  body : sent.body = bytes
  values : ∀ name, name ≠ .contentLength → name ≠ .transferEncoding →
    sent.headers.values name = message.headers.values name
  framed : sent.headers.Framed size bytes.length

namespace Response

theorem sentAs_transfer (message : Message Body) (size : PayloadSize) (bytes : Bytes) :
    message.SentAs size bytes (transfer message size bytes) where
  status := rfl
  version := rfl
  body := rfl
  values _ notLength notCoding :=
    Headers.values_frame_of_ne message.headers size bytes.length notLength notCoding
  framed := Headers.framed_frame message.headers size bytes.length

section Cases

variable {r : Response}

theorem handOver_failed {failure : Failure} (recorded : r.failure? = some failure) :
    r.handOver.1 = .error failure := by
  simp only [handOver, recorded]

theorem handOver_noMessage (clean : r.failure? = none) (none : r.message? = none) :
    r.handOver.1 = .error .noBody := by
  simp only [handOver, clean, none]

theorem handOver_unreadable {message : Message Body} {error : IoError} (clean : r.failure? = none)
    (some : r.message? = some message) (unreadable : message.body.contents = .error error) :
    r.handOver.1 = .error (Failure.io error).wrap := by
  simp only [handOver, clean, some]
  rw [Body.answer_readAll, unreadable]

theorem handOver_sent {message : Message Body} {bytes : Bytes} (clean : r.failure? = none)
    (some : r.message? = some message) (readable : message.body.contents = .ok bytes) :
    r.handOver.1 = .ok (transfer message r.size bytes) := by
  simp only [handOver, clean, some]
  rw [Body.answer_readAll, readable]

end Cases

/-- **Handing over**: it succeeds exactly without a recorded failure, with a message, and with a
body that can be read to its end.  Then the same message goes out with one framing.  Otherwise the
recorded failure is answered as it is, else that there is no body, else an internal failure caused
by the read. -/
theorem handOver_frames_once (r : Response) :
    ((∃ sent, r.handOver.1 = .ok sent) ↔
        r.failure? = none ∧ ∃ message, r.message? = some message ∧
          ∃ bytes, message.body.contents = .ok bytes) ∧
      match r.failure?, r.message? with
      | some failure, _ => r.handOver.1 = .error failure
      | none, none => r.handOver.1 = .error .noBody
      | none, some message =>
        match message.body.contents with
        | .error error =>
          r.handOver.1 =
            .error (.service .internalService (Failure.io error).message none (some (.io error)))
        | .ok bytes => ∃ sent, r.handOver.1 = .ok sent ∧ message.SentAs r.size bytes sent := by
  cases recorded : r.failure? with
  | some failure => simp [handOver_failed recorded]
  | none =>
    cases present : r.message? with
    | none => simp [handOver_noMessage recorded present]
    | some message =>
      cases readable : message.body.contents with
      | error error =>
        have failed := handOver_unreadable recorded present readable
        simp [failed, readable, Failure.wrap]
      | ok bytes =>
        have sent := handOver_sent recorded present readable
        simp [sent, readable, sentAs_transfer]

end Response

end Reply
