import Reply.Proofs.HandOver

/-!
# Reply.Proofs.Relay

A message that is passed on is the message that came.

A relay takes a message in, as the response to whatever request it has, and hands
it over again.  On the way the payload size is read off the headers and written
into them once more; both directions together change nothing (`handOver_received`),
so that it does not matter how many relays a message passes.
-/

namespace Reply

/-- A relay on the way of a message: the request that it answers, and the body that brings it the
bytes of the message. -/
structure Hop where
  request? : Option Request
  body : Body

namespace Hop

/-- The response that the relay makes of a message. -/
def response (hop : Hop) (message : Message Bytes) : Response :=
  .received hop.request? { message with body := hop.body }

/-- What the relay hands over. -/
def passOn (message : Message Bytes) (hop : Hop) : Except Failure (Message Bytes) :=
  (hop.response message).handOver.1

end Hop

namespace Response

variable {r : Response} {sent : Message Bytes}

/-- Whatever is handed over is the message of the response, all of it, with a framing. -/
theorem of_handOver (handedOver : r.handOver.1 = .ok sent) :
    ∃ message bytes, sent = transfer message r.size bytes := by
  cases recorded : r.failure? with
  | some failure => simp [handOver_failed recorded] at handedOver
  | none =>
    cases present : r.message? with
    | none => simp [handOver_noMessage recorded present] at handedOver
    | some message =>
      cases readable : message.body.contents with
      | error error => simp [handOver_unreadable recorded present readable] at handedOver
      | ok bytes =>
        rw [handOver_sent recorded present readable, Except.ok.injEq] at handedOver
        exact ⟨message, bytes, handedOver.symm⟩

/-- To be framed once more changes nothing. -/
theorem transfer_transfer (message : Message Body) {size again : PayloadSize} (bytes : Bytes)
    (body : Body) (same : again.isChunked = size.isChunked) :
    transfer { transfer message size bytes with body } again bytes =
      transfer message size bytes := by
  simp only [transfer, Headers.frame_frame message.headers bytes.length same]

section OneHop

variable (handedOver : r.handOver.1 = .ok sent)
  (fits : r.size.isChunked = false → sent.body.length ≤ PayloadSize.maxLength)
include handedOver fits

/-- A relay takes in the size that was framed. -/
theorem size_received (hop : Hop) :
    (hop.response sent).size =
      if r.size.isChunked then .chunked else .known sent.body.length := by
  obtain ⟨message, bytes, rfl⟩ := of_handOver handedOver
  exact Headers.announcedSize_frame message.headers r.size fits

/-- A relay hands over just what it took in. -/
theorem handOver_received {hop : Hop} (delivered : hop.body.Delivers sent.body) :
    hop.passOn sent = .ok sent := by
  have size := size_received handedOver fits hop
  have same : (hop.response sent).size.isChunked = r.size.isChunked := by
    rw [size]
    cases r.size <;> rfl
  obtain ⟨message, bytes, rfl⟩ := of_handOver handedOver
  rw [Hop.passOn, handOver_sent rfl rfl (Body.contents_of_delivers delivered)]
  exact congrArg Except.ok (transfer_transfer message bytes hop.body same)

end OneHop

/-- **A relay is transparent**: whoever takes in what was handed over, for whatever request and
with the bytes brought in memory or in any chunks, has the payload size that was framed and hands
over the very same message: status, version, fields and bytes.  So any number of relays is as good
as one, or as none.  (A body that has a length at all has one of a machine word.) -/
theorem relays_change_nothing (handedOver : r.handOver.1 = .ok sent)
    (fits : r.size.isChunked = false → sent.body.length ≤ PayloadSize.maxLength) :
    (∀ hop : Hop, hop.body.Delivers sent.body →
      (hop.response sent).size =
          (if r.size.isChunked then .chunked else .known sent.body.length) ∧
        (hop.response sent).handOver.1 = .ok sent) ∧
      ∀ hops : List Hop, (∀ hop ∈ hops, hop.body.Delivers sent.body) →
        hops.foldlM Hop.passOn sent = .ok sent := by
  refine ⟨fun hop delivered => ?_, fun hops delivered => ?_⟩
  · exact ⟨size_received handedOver fits hop, handOver_received handedOver fits delivered⟩
  · induction hops with
    | nil => rfl
    | cons hop rest ih =>
      rw [List.forall_mem_cons] at delivered
      rw [List.foldlM_cons, handOver_received handedOver fits delivered.1]
      exact ih delivered.2

/-- A response with two framings and a stale length, passed on in memory and then in two chunks. -/
theorem relays_change_nothing_stale :
    let message : Message Body := {
      headers := ((∅ : Headers).insert .transferEncoding .chunked).insert .contentLength (.ofNat 9)
      body := .streaming { deliveries := [.failure (.ofKind .interrupted), .data [1, 2, 3]] } }
    let r : Response := { message? := some message, size := .known 7 }
    let sent : Message Bytes := {
      headers := (∅ : Headers).insert .contentLength (.ofNat 3)
      body := [1, 2, 3] }
    let hops : List Hop := [
      ⟨none, .ofBytes [1, 2, 3]⟩,
      ⟨some {}, .streaming {
        deliveries := [.data [1], .failure (.ofKind .interrupted), .data [2, 3]] }⟩]
    (r.handOver.1 = .ok sent ∧
        (r.size.isChunked = false → sent.body.length ≤ PayloadSize.maxLength) ∧
        ∀ hop ∈ hops, hop.body.Delivers sent.body) ∧
      hops.foldlM Hop.passOn sent = .ok sent := by
  intro message r sent hops
  have readable : message.body.contents = .ok [1, 2, 3] := rfl
  have handedOver : r.handOver.1 = .ok sent := (handOver_sent rfl rfl readable).trans (by rfl)
  have fits : r.size.isChunked = false → sent.body.length ≤ PayloadSize.maxLength := by
    intro _
    decide
  have delivered : ∀ hop ∈ hops, hop.body.Delivers sent.body := by
    simp only [hops, List.forall_mem_cons]
    exact ⟨rfl, ⟨by decide, by decide⟩, by simp⟩
  exact ⟨⟨handedOver, fits, delivered⟩, (relays_change_nothing handedOver fits).2 hops delivered⟩

end Response

end Reply
