import Reply.Operation

/-!
# Reply.Sink

Values that bytes can be written to, and writing all of some data.

A write may take fewer bytes than it is given, and it may be interrupted.
`writeAll` goes on with what is left, makes an interrupted write again, and
gives up when a write fails or takes nothing. It ends, because a sink has
only so much `patience`: interruptions use it up and nothing restores it.
-/

namespace Reply

/-- A value that bytes can be written to. -/
class Sink (σ : Type) where
  /-- Writes data; the answer is the number of bytes taken. -/
  write : Bytes → Operation σ (Except IoError Nat)
  /-- How many more writes may be interrupted. -/
  patience : σ → Nat
  patience_ok (data : Bytes) (state : σ) (count : Nat) :
    ((write data).run state).answer = .ok count →
      patience ((write data).run state).state ≤ patience state
  patience_interrupted (data : Bytes) (state : σ) (error : IoError) :
    ((write data).run state).answer = .error error → error.isInterrupted = true →
      patience ((write data).run state).state < patience state

namespace Outcome

variable {σ α : Type}

/-- Puts an earlier trail before that of an outcome. -/
def after (trail : Trail) (outcome : Outcome σ α) : Outcome σ α :=
  { outcome with trail := trail ++ outcome.trail }

end Outcome

namespace Sink

variable {σ : Type}

/-- A write that takes something leaves less to be written. -/
theorem measure_taken [Sink σ] {data : Bytes} {state next : σ} {count : Nat} {trail : Trail}
    (some : ¬data.isEmpty)
    (written : (write data).run state = ⟨.ok (count + 1), next, trail⟩) :
    (data.drop (count + 1)).length + patience next < data.length + patience state := by
  have kept := patience_ok data state (count + 1) (by rw [written])
  simp only [written] at kept
  have : 0 < data.length := List.length_pos_iff.2 fun none => some (by simp [none])
  simp only [List.length_drop]
  omega

/-- A write that is interrupted uses up some of the patience. -/
theorem measure_interrupted [Sink σ] {data : Bytes} {state next : σ} {error : IoError}
    {trail : Trail} (interrupted : error.isInterrupted = true)
    (written : (write data).run state = ⟨.error error, next, trail⟩) :
    data.length + patience next < data.length + patience state := by
  have used := patience_interrupted data state error (by rw [written]) interrupted
  simp only [written] at used
  omega

/-- Writes all of the data, or as much of it as is taken before a write fails. -/
def writeAll [Sink σ] (data : Bytes) (state : σ) : Outcome σ (Except IoError Unit) :=
  if data.isEmpty then ⟨.ok (), state, {}⟩
  else
    match _written : (write data).run state with
    | ⟨.ok 0, next, trail⟩ => ⟨.error .writeZero, next, trail⟩
    | ⟨.ok (count + 1), next, trail⟩ => (writeAll (data.drop (count + 1)) next).after trail
    | ⟨.error error, next, trail⟩ =>
      if error.isInterrupted then (writeAll data next).after trail else ⟨.error error, next, trail⟩
termination_by data.length + patience state
decreasing_by
  · rename_i some
    exact measure_taken some _written
  · rename_i interrupted
    exact measure_interrupted interrupted _written

end Sink

end Reply
