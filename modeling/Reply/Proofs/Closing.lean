import Reply.Proofs.Closing.Response

/-!
# Reply.Proofs.Closing

A close that fails changes nothing but the log.

Streams are closed on the way: when a body is taken, looked at, drained, replaced or
dropped, and when a response is handed over.  None of these calls lets the outcome of
the close into anything but a warning.  The calls are taken layer by layer, from the
stream (`Closing.Body`) over the response (`Closing.Response`) to the writer and the
exchange; each is discreet in the sense of `Closing.Discretion`, but for `Body.close`,
which answers the outcome.

The main statement is `close_failures_only_warn`: two runs that differ in the outcomes
of closes alone go the same way, and each warns once for each close that failed.
-/

namespace Reply

open Owner (streams)
open Operation (Discreet DiscreetAt)

/-! ## writers -/

instance : Forgiving Writer where
  forgive writer := { writer with response := forgive writer.response }

namespace Writer

variable {α : Type}

theorem discreet_onResponse {op op' : Operation Response α} {brought : List Stream}
    (h : Discreet op op' brought) : Discreet (onResponse op) (onResponse op') brought :=
  h.zoom (fun _ => rfl) (fun _ _ => rfl) (fun _ => rfl) fun _ _ => rfl

theorem discreet_write (data : Bytes) : Discreet (write data) (write data) [] :=
  discreet_onResponse (Response.discreet_write data)

theorem discreet_hijack : Discreet hijack hijack [] := by
  refine .get fun writer => ?_
  have same : (forgive writer).transport? = writer.transport? := rfl
  rw [same]
  cases writer.transport? with
  | none => exact .pure _
  | some transport =>
    dsimp only
    generalize transport.handOver = asked
    obtain ⟨answer, transport⟩ := asked
    refine Discreet.before (.of_same (fun _ => rfl) (fun _ => rfl) (fun _ => rfl) fun _ => rfl)
      fun _ => ?_
    split
    · exact (discreet_onResponse Response.discreet_markHijacked).before fun _ => .pure _
    · exact .pure _

theorem discreet_perform (action : Action) : Discreet (perform action) (perform action) [] := by
  cases action with
  | header action =>
    exact (discreet_onResponse (Response.discreet_onHeaders (Headers.trail_perform action))).map _
  | writeHeader status => exact (discreet_onResponse (Response.discreet_setStatus status)).map _
  | write data => exact (discreet_write data).map _
  | writeAll data => exact (Discreet.writeAll discreet_write data).map _
  | flush => exact (discreet_onResponse Response.discreet_flush).map _
  | writeError failure => exact (discreet_onResponse (Response.discreet_setFailure failure)).map _
  | hijack => exact discreet_hijack.map _

end Writer

/-! ## exchanges -/

namespace Response

theorem warnings_mismatch (size : PayloadSize) (bodyLength : Nat) :
    (mismatch size bodyLength).warnings = [] := by
  unfold mismatch
  split
  · split <;> rfl
  · rfl

/-- Of two responses that are handed over, the closes show in the trails alone. -/
theorem handOver_forgive (r : Response) :
    (forgive r).handOver = (r.handOver.1, forgive r.handOver.2) := by
  obtain ⟨message?, size, failure?, request?, hijacked⟩ := r
  match failure?, message? with
  | some failure, none => rfl
  | some failure, some message => exact congrArg (Prod.mk _) message.body.release_forgive
  | none, none => rfl
  | none, some message =>
    have taken :
        Body.readAll.run (forgive message).body = forgive (Body.readAll.run message.body) :=
      (Body.discreet_readAll message.body).forgives
    have same : forgive (Response.mk (some message) size none request? hijacked) =
      ⟨some (forgive message), size, none, request?, hijacked⟩ := rfl
    simp only [same, handOver, taken, Outcome.answer_forgive, Outcome.state_forgive,
      Outcome.trail_forgive, Body.release_forgive]
    cases (Body.readAll.run message.body).answer with
    | error error => simp only [Trail.forgive_append]
    | ok bytes =>
      have noted := Trail.forgive_eq_self (released_mismatch size bytes.length)
        (warnings_mismatch size bytes.length)
      simp only [Trail.forgive_append, noted]
      rfl

/-- Handing a response over settles its streams, whether it succeeds or not. -/
theorem settled_handOver (r : Response) : Settled (streams r) [] r.handOver.2 := by
  unfold handOver
  split
  · exact settled_release r
  · rename_i none
    rw [streams_of_none none]
    exact .refl [] rfl rfl
  · rename_i message _ some
    rw [streams_of_message? some]
    have taken := (Body.discreet_readAll message.body).settles
    rw [List.append_nil] at taken
    have left := (Body.readAll.run message.body).state.settled_release
    dsimp only
    split
    · exact taken.next left
    · rename_i bytes _
      have noted := Settled.refl (streams (Body.readAll.run message.body).state)
        (released_mismatch r.size bytes.length) (warnings_mismatch r.size bytes.length)
      exact (taken.next noted).next left

end Response

instance : Forgiving Exchange where
  forgive exchange := { exchange with response? := exchange.response?.map forgive }

namespace Exchange

variable {α : Type}

instance : Forgiving (Action α) where
  forgive
    | .install response => .install (forgive response)
    | .call action => .call (forgive action)
    | action => action

/-- The call answers no close. -/
def Action.isTacit : Action α → Bool
  | .call action => action.isTacit
  | _ => true

theorem isTacit_forgive (action : Action α) : (forgive action).isTacit = action.isTacit := by
  cases action with
  | call action => exact Response.isTacit_forgive action
  | _ => rfl

theorem release_forgive (exchange : Exchange) :
    (forgive exchange).release = forgive exchange.release := by
  obtain ⟨request?, transport, response?⟩ := exchange
  cases response? with
  | none => rfl
  | some response => exact response.release_forgive

theorem settled_release (exchange : Exchange) : Settled (streams exchange) [] exchange.release := by
  obtain ⟨request?, transport, response?⟩ := exchange
  cases response? with
  | none => exact .refl [] rfl rfl
  | some response => exact response.settled_release

theorem discreet_install (response? : Option Response) :
    Discreet (install response?) (install (response?.map forgive))
      ((response?.map streams).getD []) := by
  refine fun exchange => ⟨?_, exchange.settled_release.refill _⟩
  exact congrArg (Outcome.mk () _) exchange.release_forgive

theorem discreetAt_onResponse {op op' : Operation Response (Answer α)} {brought : List Stream}
    (h : Discreet op op' brought) (exchange : Exchange) :
    DiscreetAt (onResponse op) (onResponse op')
      (if exchange.response?.isSome then brought else []) exchange := by
  obtain ⟨request?, transport, response?⟩ := exchange
  cases response? with
  | none => exact ⟨rfl, .refl [] rfl rfl⟩
  | some response =>
    obtain ⟨forgives, settles⟩ := h response
    refine ⟨?_, settles⟩
    show (onResponse op').run ⟨request?, transport, some (forgive response)⟩ = _
    rw [run_onResponse_some, forgives]
    rfl

theorem discreetAt_onWriter {op : Operation Writer (Answer α)} (h : Discreet op op [])
    (exchange : Exchange) : DiscreetAt (onWriter op) (onWriter op) [] exchange := by
  obtain ⟨request?, transport, response?⟩ := exchange
  cases response? with
  | none => exact ⟨rfl, .refl [] rfl rfl⟩
  | some response =>
    obtain ⟨forgives, settles⟩ := h (response.writer transport)
    refine ⟨?_, settles⟩
    show (onWriter op).run ⟨request?, transport, some (forgive response)⟩ = _
    have same : (forgive response).writer transport = forgive (response.writer transport) := rfl
    rw [run_onWriter_some, same, forgives]
    rfl

/-- What comes back after a response was handed over has no closes that can fail. -/
theorem discreetAt_handOver (next : Message Bytes → Option Response)
    (fresh : ∀ message, (next message).map forgive = next message) (exchange : Exchange) :
    DiscreetAt (handOver next : Operation Exchange (Answer α)) (handOver next)
      ((((exchange.response?.bind (·.handOver.1.toOption)).bind next).map streams).getD [])
      exchange := by
  obtain ⟨request?, transport, response?⟩ := exchange
  cases response? with
  | none => exact ⟨rfl, .refl [] rfl rfl⟩
  | some response =>
    refine ⟨?_, response.settled_handOver.refill _⟩
    have unchanged (message? : Option (Message Bytes)) :
        (message?.bind next).map forgive = message?.bind next := by
      rw [Option.map_bind]
      exact congrArg message?.bind (funext fresh)
    show (handOver next).run ⟨request?, transport, some (forgive response)⟩ = _
    rw [run_handOver_some, response.handOver_forgive]
    exact congrArg (fun response? => Outcome.mk _ (Exchange.mk _ _ response?) _)
      (unchanged response.handOver.1.toOption).symm

theorem discreetAt_perform (action : Action α) (tacit : action.isTacit = true)
    (exchange : Exchange) :
    DiscreetAt (perform action) (perform (forgive action)) (action.brought exchange) exchange := by
  cases action with
  | install response => exact (discreet_install (some response)).map _ exchange
  | drop => exact (discreet_install none).map _ exchange
  | call action =>
    exact discreetAt_onResponse ((Response.discreet_perform action tacit).map _) exchange
  | writer actions =>
    have calls : Discreet (Operation.each Writer.perform actions)
        (Operation.each Writer.perform (actions.map id)) (actions.flatMap fun _ => []) :=
      Discreet.each fun action _ => Writer.discreet_perform action
    rw [List.map_id, List.flatMap_eq_nil_iff.2 fun _ _ => rfl] at calls
    exact discreetAt_onWriter (calls.map _) exchange
  | handOver =>
    have all := discreetAt_handOver (α := α) (fun _ => none) (fun _ => rfl) exchange
    rwa [Option.bind_fun_none] at all
  | relay streamed =>
    have fresh (message : Message Bytes) :
        forgive (Response.received exchange.request? (returned streamed message)) =
          .received exchange.request? (returned streamed message) := by
      cases streamed <;> rfl
    have all := discreetAt_handOver (α := α)
      (some ∘ fun message => .received exchange.request? (returned streamed message))
      (fun message => congrArg some (fresh message)) exchange
    rw [← Option.map_eq_bind, Option.map_map] at all
    exact ⟨all.forgives, all.settles⟩

theorem all_isTacit_forgive (actions : List (Action α)) :
    (actions.map forgive).all Action.isTacit = actions.all Action.isTacit := by
  rw [List.all_map]
  exact congrArg actions.all (funext isTacit_forgive)

/-- A run is discreet if none of its calls answers a close. -/
theorem discreetAt_run (actions : List (Action α)) (tacit : actions.all Action.isTacit = true)
    (exchange : Exchange) :
    DiscreetAt (Operation.each perform actions) (Operation.each perform (actions.map forgive))
      (brought actions exchange) exchange := by
  induction actions generalizing exchange with
  | nil => exact ⟨rfl, by simpa [brought] using Settled.refl (streams exchange) rfl rfl⟩
  | cons action rest ih =>
    rw [List.all_cons, Bool.and_eq_true] at tacit
    rw [List.map_cons, Operation.each, Operation.each, brought]
    exact (discreetAt_perform action tacit.1 exchange).bind ((ih tacit.2 _).map _)

/-- **Closing**: runs of the same calls on the same streams, but for the outcomes of their closes,
give the same answers and leave the same values after each call.  They close the same streams, with
the same reads and writes behind them, and log the same but for warnings of failed closes.  Of these
each run has one for each stream it closed whose close failed. -/
theorem close_failures_only_warn {actions actions' : List (Action α)}
    {exchange exchange' : Exchange} (sameCalls : actions.map forgive = actions'.map forgive)
    (sameStreams : forgive exchange = forgive exchange')
    (tacit : actions.all Action.isTacit = true) (count : Nat) :
    let first := (Operation.each perform (actions.take count)).run exchange
    let second := (Operation.each perform (actions'.take count)).run exchange'
    first.SameButForCloses second ∧
      Settled (streams exchange ++ brought (actions.take count) exchange)
        (streams first.state) first.trail ∧
      Settled (streams exchange' ++ brought (actions'.take count) exchange')
        (streams second.state) second.trail := by
  have sameCount : (actions.take count).map forgive = (actions'.take count).map forgive := by
    rw [List.map_take, List.map_take, sameCalls]
  have tacitCount : (actions.take count).all Action.isTacit = true :=
    List.all_eq_true.2 fun action asked =>
      List.all_eq_true.1 tacit action (List.mem_of_mem_take asked)
  have tacitCount' : (actions'.take count).all Action.isTacit = true := by
    rw [← all_isTacit_forgive, ← sameCount, all_isTacit_forgive]
    exact tacitCount
  have first := discreetAt_run _ tacitCount exchange
  have second := discreetAt_run _ tacitCount' exchange'
  have same := first.forgives.symm
  rw [sameCount, sameStreams, second.forgives] at same
  exact ⟨Outcome.sameButForCloses_of_forgive same, first.settles, second.settles⟩

/-- A stream breaks in the middle and fails to close, one that takes its place fails to close, and
both runs drop the last one. -/
theorem close_failures_only_warn_broken :
    let broken (closes : List (Except IoError Unit)) : Stream :=
      { id := some 1, deliveries := [.data [1, 2], .failure (.ofKind .timedOut)],
        closing := .watched closes }
    let late (closes : List (Except IoError Unit)) : Stream :=
      { id := some 2, closing := .watched closes }
    let calls (closes : List (Except IoError Unit)) : List (Action Unit) :=
      [.install (.received none { body := .streaming (broken closes) }), .call (.body [.snapshot]),
        .call (.setBody (.streaming (late closes))), .drop]
    let failing := (Operation.each perform (calls [.error .writeZero])).run {}
    let calm := (Operation.each perform (calls [.ok ()])).run {}
    failing.SameButForCloses calm ∧
      failing.trail.warnings = [.writeZero, .writeZero] ∧ calm.trail.warnings = [] := by
  intro broken late calls failing calm
  have sameCalls : (calls [.error .writeZero]).map forgive = (calls [.ok ()]).map forgive := rfl
  have sameStreams : forgive ({} : Exchange) = forgive {} := rfl
  have tacit : (calls [.error .writeZero]).all Action.isTacit = true := rfl
  obtain ⟨same, -, -⟩ := close_failures_only_warn sameCalls sameStreams tacit 4
  exact ⟨same, by cbv, by cbv⟩

end Exchange

end Reply
