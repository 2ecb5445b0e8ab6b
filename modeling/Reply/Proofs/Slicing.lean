import Reply.Proofs.Advancing
import Reply.Proofs.Blank
import Reply.Proofs.Delivery
import Reply.Proofs.Draining

/-!
# Reply.Proofs.Slicing

How a payload is sliced makes no difference.

1. A response *gathers* what is written to it if its message is missing, or its body
   is in memory, or behind a read-only stream that ends: then the first write gets
   the body into memory, and every write is taken whole (`Gathers.holds`,
   `run_write_holds`).
2. The payload size after two writes is that after one write of both, wherever the
   threshold lies (`PayloadSize.advance_advance`), and a body in memory has no stream
   to let go of.  So a run of writes leaves what one write of all the data does
   (`run_each_write_holds`, `slicing_makes_no_difference`).
-/

namespace Reply.Response

/-- What is written to the response gathers in memory behind these bytes: its message is missing, or
its body is in memory, or a stream that takes no bytes itself and can be read to its end. -/
inductive Gathers (r : Response) : Bytes → Prop
  | missing (none : r.message? = none) : Gathers r []
  | buffered {buffer : Buffer} (inMemory : r.body? = some (.buffered buffer)) :
      Gathers r buffer.toList
  | streaming {stream : Stream} (inStream : r.body? = some (.streaming stream))
      (readOnly : stream.writable = false) (ended : Delivery.stop? stream.deliveries = none) :
      Gathers r (Delivery.yields stream.deliveries)

variable {r : Response} {bytes : Bytes}

theorem Gathers.holds (gathers : r.Gathers bytes) : r.message.body.Holds bytes := by
  cases gathers with
  | missing none =>
    rw [message, none]
    exact Body.holds_buffered ∅
  | buffered inMemory =>
    rw [body_message_of_body? inMemory]
    exact Body.holds_buffered _
  | streaming inStream readOnly ended =>
    rw [body_message_of_body? inStream]
    refine ⟨?_, by rw [Body.writesToMemory, readOnly, Bool.not_false]⟩
    simp only [Body.contents, ended]

/-- What a write lets go of is not up to the data. -/
theorem released_write_eq (a b : Bytes) (r : Response) :
    ((write a).run r).trail.released = ((write b).run r).trail.released := by
  rw [released_write, released_write]
  cases r.message.body with
  | buffered | closed => rfl
  | streaming stream =>
    simp only [Operation.run, Body.write]
    split
    · rfl
    · split <;> rfl

/-- With the body in memory there is nothing to let go of. -/
theorem released_write_buffered {buffer : Buffer} (inMemory : r.message.body = .buffered buffer)
    (data : Bytes) : ((write data).run r).trail.released = [] := by
  rw [released_write, inMemory]
  rfl

/-- A run of writes leaves what one write of all the data does. -/
theorem run_each_write_holds (holds : r.message.body.Holds bytes) {slices : List Bytes}
    (some : slices ≠ []) :
    let sliced := (Operation.each write slices).run r
    let whole := (write slices.flatten).run r
    sliced.answer = slices.map (fun slice => .ok slice.length) ∧ sliced.state = whole.state ∧
      sliced.trail.released = whole.trail.released := by
  dsimp only
  induction slices generalizing r bytes with
  | nil => exact absurd rfl some
  | cons slice rest ih =>
    obtain ⟨taken, left⟩ := run_write_holds holds slice
    rw [Operation.run_each_cons, List.flatten_cons]
    dsimp only
    by_cases last : rest = []
    · simp [last, taken]
    · -- The first write leaves the body in memory, so that the others have no stream to let go of.
      have inMemory : ((write slice).run r).state.message.body = .ofBytes (bytes ++ slice) := by
        rw [left]
        rfl
      have behind : ((write slice).run r).state.message.body.Holds (bytes ++ slice) :=
        inMemory ▸ Body.holds_ofBytes _
      obtain ⟨answers, state, released⟩ := ih behind last
      refine ⟨by rw [taken, answers, List.map_cons], ?_, ?_⟩
      · rw [state, (run_write_holds behind rest.flatten).2,
          (run_write_holds holds (slice ++ rest.flatten)).2, left, List.append_assoc,
          List.length_append, ← PayloadSize.advance_advance]
        rfl
      · rw [Trail.released_append, released, released_write_buffered inMemory, List.append_nil]
        exact released_write_eq _ _ r

/-- **Slicing makes no difference**: a response that gathers what is written to it takes the same
data in one write, or in slices of any lengths, with the same outcome.  Every write is taken whole,
the data is in memory behind what the response held before, and a stream that held it is closed,
once. -/
theorem slicing_makes_no_difference (gathers : r.Gathers bytes) {slices : List Bytes}
    (some : slices ≠ []) :
    let sliced := (Operation.each write slices).run r
    let whole := (write slices.flatten).run r
    sliced.answer = slices.map (fun slice => .ok slice.length) ∧
      whole.answer = .ok slices.flatten.length ∧
      sliced.state = whole.state ∧
      sliced.state =
        r.withBody (.ofBytes (bytes ++ slices.flatten)) (r.size.advance slices.flatten.length) ∧
      sliced.trail.released = whole.trail.released ∧
      match r.body? with
      | Option.some (.streaming stream) => stream.SpentBy sliced.trail
      | _ => sliced.trail.released = [] := by
  intro sliced whole
  obtain ⟨answers, state, released⟩ := run_each_write_holds gathers.holds some
  obtain ⟨taken, left⟩ := run_write_holds gathers.holds slices.flatten
  refine ⟨answers, taken, state, state.trans left, released, ?_⟩
  cases gathers with
  | missing none =>
    rw [body?, none]
    exact released.trans (released_write_buffered (body_of_missing none) _)
  | buffered inMemory =>
    rw [inMemory]
    exact released.trans (released_write_buffered (body_message_of_body? inMemory) _)
  | @streaming stream inStream readOnly ended =>
    obtain ⟨trail, written⟩ := Body.run_write_readOnly readOnly slices.flatten
    simp only [ended] at written
    rw [inStream]
    show stream.SpentBy sliced.trail
    rw [Stream.SpentBy, released, released_write, body_message_of_body? inStream, written.1]
    exact written.2

/-- Four slices behind a stream of which a read is interrupted; the third of them, which is empty,
finds the length unknown already. -/
theorem slicing_makes_no_difference_crossing :
    let stream : Stream := { deliveries := [.data [1], .failure (.ofKind .interrupted), .data [2]] }
    let r : Response := { message? := some { body := .streaming stream }, size := .known 4999998 }
    let slices : List Bytes := [[3], [4], [], [5]]
    let sliced := (Operation.each write slices).run r
    r.Gathers [1, 2] ∧ slices ≠ [] ∧ sliced.answer = [.ok 1, .ok 1, .ok 0, .ok 1] ∧
      sliced.state = r.withBody (.ofBytes [1, 2, 3, 4, 5]) .chunked ∧
      sliced.state = ((write [3, 4, 5]).run r).state ∧ stream.SpentBy sliced.trail := by
  intro stream r slices sliced
  have gathers : r.Gathers (Delivery.yields stream.deliveries) := .streaming rfl rfl rfl
  have some : slices ≠ [] := by decide
  obtain ⟨answers, -, state, left, -, spent⟩ := slicing_makes_no_difference gathers some
  exact ⟨gathers, some, answers, left, state, spent⟩

end Reply.Response
