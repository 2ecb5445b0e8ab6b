import Reply.Sink

/-!
# Reply.Proofs.Writing

What writing all of some data does, write by write.

`attempts` are the single writes that `Sink.writeAll` makes, each with what it
is answered, and `accepted` is the data that they take, in order.

1. What was accepted is the beginning of the data, and all of it exactly if
   writing it succeeds (`accepted_append`).
2. What holds of each write, and goes on from one write to the next, holds of
   writing all (`writeAll_along`).
3. Made one after the other, the attempts are answered the same, and leave the same
   value and the same trail (`run_attempts`).  There are not more of them than there
   are bytes and interruptions (`length_attempts`), and just one where the first takes
   everything or fails for good (`attempts_whole`, `attempts_broken`).
4. A part of a value that each write is passed on to gets the same writes
   (`writeAll_part`).
-/

namespace Reply.Sink

variable {σ : Type} [Sink σ]

/-- The data that a write takes, by its answer. -/
def taken (data : Bytes) : Except IoError Nat → Bytes
  | .ok count => data.take count
  | .error _ => []

/-- The writes that `writeAll` makes: what each is given, and what it is answered. -/
def attempts (data : Bytes) (state : σ) : List (Bytes × Except IoError Nat) :=
  if _some : data.isEmpty then []
  else
    match _written : (write data).run state with
    | ⟨.ok 0, _, _⟩ => [(data, .ok 0)]
    | ⟨.ok (count + 1), next, _⟩ =>
      (data, .ok (count + 1)) :: attempts (data.drop (count + 1)) next
    | ⟨.error error, next, _⟩ =>
      (data, .error error) :: if _interrupted : error.isInterrupted then attempts data next else []
termination_by data.length + patience state
decreasing_by
  · exact measure_taken _some _written
  · exact measure_interrupted _interrupted _written

/-- The data that `writeAll` gets written. -/
def accepted (data : Bytes) (state : σ) : Bytes :=
  (attempts data state).flatMap fun attempt => taken attempt.1 attempt.2

section Cases

variable {data : Bytes} {state next : σ} {trail : Trail}

theorem attempts_nothing (none : data.isEmpty = true) : attempts data state = [] := by
  rw [attempts, dif_pos none]

theorem attempts_refused (some : ¬data.isEmpty = true)
    (written : (write data).run state = ⟨.ok 0, next, trail⟩) :
    attempts data state = [(data, .ok 0)] := by
  rw [attempts, dif_neg some]
  split <;> simp_all

theorem attempts_taken {count : Nat} (some : ¬data.isEmpty = true)
    (written : (write data).run state = ⟨.ok (count + 1), next, trail⟩) :
    attempts data state =
      (data, .ok (count + 1)) :: attempts (data.drop (count + 1)) next := by
  rw [attempts, dif_neg some]
  split <;> simp_all

theorem attempts_failed {error : IoError} (some : ¬data.isEmpty = true)
    (written : (write data).run state = ⟨.error error, next, trail⟩) :
    attempts data state =
      (data, .error error) :: if error.isInterrupted then attempts data next else [] := by
  rw [attempts, dif_neg some]
  split <;> simp_all

end Cases

theorem writeAll_nothing (state : σ) : writeAll [] state = ⟨.ok (), state, {}⟩ := by
  rw [writeAll]
  rfl

section Cases

variable {data : Bytes} {state next : σ} {trail : Trail}

theorem writeAll_refused (some : ¬data.isEmpty = true)
    (written : (write data).run state = ⟨.ok 0, next, trail⟩) :
    writeAll data state = ⟨.error .writeZero, next, trail⟩ := by
  rw [writeAll, if_neg some]
  split <;> simp_all

theorem writeAll_taken {count : Nat} (some : ¬data.isEmpty = true)
    (written : (write data).run state = ⟨.ok (count + 1), next, trail⟩) :
    writeAll data state = (writeAll (data.drop (count + 1)) next).after trail := by
  rw [writeAll, if_neg some]
  split <;> simp_all

theorem writeAll_failed {error : IoError} (some : ¬data.isEmpty = true)
    (written : (write data).run state = ⟨.error error, next, trail⟩) :
    writeAll data state =
      if error.isInterrupted then (writeAll data next).after trail
      else ⟨.error error, next, trail⟩ := by
  rw [writeAll, if_neg some]
  split <;> simp_all

/-- Where one write takes all of the data, it is the only one. -/
theorem writeAll_once (some : data ≠ [])
    (written : (write data).run state = ⟨.ok data.length, next, trail⟩) :
    writeAll data state = ⟨.ok (), next, trail⟩ := by
  obtain ⟨b, rest, rfl⟩ := List.exists_cons_of_ne_nil some
  have left : (b :: rest).drop (rest.length + 1) = [] := List.drop_length
  rw [writeAll_taken (by simp) written, left, writeAll_nothing]
  simp [Outcome.after]

end Cases

/-- What was accepted is the beginning of the data; nothing of it is left exactly if writing it
succeeds. -/
theorem accepted_append (data : Bytes) (state : σ) :
    ∃ rest, accepted data state ++ rest = data ∧
      ((writeAll data state).answer = .ok () ↔ rest = []) := by
  fun_induction writeAll data state with
  | case1 data state none =>
    refine ⟨[], ?_, by simp⟩
    rw [accepted, attempts_nothing none, List.isEmpty_iff.1 none]
    rfl
  | case2 data state some next trail written =>
    refine ⟨data, ?_, by simpa using some⟩
    rw [accepted, attempts_refused some written]
    simp [taken]
  | case3 data state some count next trail written ih =>
    obtain ⟨rest, all, done⟩ := ih
    refine ⟨rest, ?_, done⟩
    have whole := List.take_append_drop (count + 1) data
    rw [← all, ← List.append_assoc] at whole
    rw [accepted, attempts_taken some written, List.flatMap_cons]
    exact whole
  | case4 data state some error next trail written interrupted ih =>
    obtain ⟨rest, all, done⟩ := ih
    refine ⟨rest, ?_, done⟩
    rw [accepted, attempts_failed some written, if_pos interrupted, List.flatMap_cons]
    exact all
  | case5 data state some error next trail written stopped =>
    refine ⟨data, ?_, by simpa using some⟩
    rw [accepted, attempts_failed some written, if_neg stopped]
    simp [taken]

/-- What holds of doing nothing and of each write, and goes on from one write to the next, holds of
writing all: of the value before and after, the data that was accepted, and the trail. -/
theorem writeAll_along {R : σ → Bytes → σ → Trail → Prop} (stay : ∀ state, R state [] state {})
    (step : ∀ data state, R state (taken data ((write data).run state).answer)
      ((write data).run state).state ((write data).run state).trail)
    (trans : ∀ {a b c : σ} {x y : Bytes} {t u : Trail},
      R a x b t → R b y c u → R a (x ++ y) c (t ++ u))
    (data : Bytes) (state : σ) :
    R state (accepted data state) (writeAll data state).state (writeAll data state).trail := by
  fun_induction writeAll data state with
  | case1 data state none =>
    rw [accepted, attempts_nothing none]
    exact stay state
  | case2 data state some next trail written =>
    have once := step data state
    rw [written] at once
    rw [accepted, attempts_refused some written]
    simpa using once
  | case3 data state some count next trail written ih =>
    have first := step data state
    rw [written] at first
    rw [accepted, attempts_taken some written, List.flatMap_cons]
    exact trans first ih
  | case4 data state some error next trail written interrupted ih =>
    have first := step data state
    rw [written] at first
    rw [accepted, attempts_failed some written, if_pos interrupted, List.flatMap_cons]
    exact trans first ih
  | case5 data state some error next trail written stopped =>
    have once := step data state
    rw [written] at once
    rw [accepted, attempts_failed some written, if_neg stopped]
    simpa using once

/-! ## one write after the other -/

/-- The writes that `writeAll` makes are these, made one after the other. -/
theorem run_attempts (data : Bytes) (state : σ) :
    (Operation.each write ((attempts data state).map Prod.fst)).run state =
      ⟨(attempts data state).map Prod.snd, (writeAll data state).state,
        (writeAll data state).trail⟩ := by
  fun_induction writeAll data state with
  | case1 data state none =>
    rw [attempts_nothing none]
    rfl
  | case2 data state some next trail written =>
    rw [attempts_refused some written]
    simp [written]
  | case3 data state some count next trail written ih =>
    rw [attempts_taken some written, List.map_cons, List.map_cons, Operation.run_each_cons,
      written]
    dsimp only
    rw [ih]
    rfl
  | case4 data state some error next trail written interrupted ih =>
    rw [attempts_failed some written, if_pos interrupted, List.map_cons, List.map_cons,
      Operation.run_each_cons, written]
    dsimp only
    rw [ih]
    rfl
  | case5 data state some error next trail written stopped =>
    rw [attempts_failed some written, if_neg stopped]
    simp [written]

/-- Each of them takes a byte, or is interrupted, or is the last one. -/
theorem length_attempts (data : Bytes) (state : σ) :
    (attempts data state).length ≤ data.length + patience state := by
  fun_induction writeAll data state with
  | case1 data state none =>
    rw [attempts_nothing none]
    exact Nat.zero_le _
  | case2 data state some next trail written =>
    have left := List.length_pos_iff.2 fun none => some (List.isEmpty_iff.2 none)
    rw [attempts_refused some written, List.length_singleton]
    omega
  | case3 data state some count next trail written ih =>
    have less := measure_taken some written
    rw [attempts_taken some written, List.length_cons]
    omega
  | case4 data state some error next trail written interrupted ih =>
    have less := measure_interrupted interrupted written
    rw [attempts_failed some written, if_pos interrupted, List.length_cons]
    omega
  | case5 data state some error next trail written stopped =>
    have left := List.length_pos_iff.2 fun none => some (List.isEmpty_iff.2 none)
    rw [attempts_failed some written, if_neg stopped, List.length_singleton]
    omega

/-- Each of them is answered by a value that it is made on. -/
theorem exists_of_mem_attempts {data : Bytes} {state : σ} {call : Bytes × Except IoError Nat}
    (made : call ∈ attempts data state) :
    ∃ current : σ, ((write call.1).run current).answer = call.2 := by
  have answered (slices : List Bytes) (state : σ) :
      ∀ call ∈ slices.zip ((Operation.each write slices).run state).answer,
        ∃ current : σ, ((write call.1).run current).answer = call.2 := by
    induction slices generalizing state with
    | nil => simp
    | cons slice rest ih =>
      rw [Operation.run_each_cons, List.zip_cons_cons, List.forall_mem_cons]
      exact ⟨⟨state, rfl⟩, ih _⟩
  have calls := answered ((attempts data state).map Prod.fst) state
  rw [run_attempts, List.zip_map'] at calls
  exact calls call (by simpa using made)

/-- There are none just for no data. -/
theorem attempts_eq_nil_iff {data : Bytes} {state : σ} : attempts data state = [] ↔ data = [] := by
  cases data with
  | nil => simp [attempts_nothing]
  | cons b rest =>
    rw [attempts, dif_neg (by simp)]
    split <;> simp

section Once

variable {data : Bytes} {state : σ} (some : data ≠ [])
include some

/-- A write that takes all of the data is the only one. -/
theorem attempts_whole (answered : ((write data).run state).answer = .ok data.length) :
    attempts data state = [(data, .ok data.length)] := by
  obtain ⟨b, rest, rfl⟩ := List.exists_cons_of_ne_nil some
  have written : (write (b :: rest)).run state = ⟨.ok (rest.length + 1), _, _⟩ :=
    congrArg (fun answer => Outcome.mk answer _ _) answered
  have left : (b :: rest).drop (rest.length + 1) = [] := List.drop_length
  rw [attempts_taken (by simp) written, left, attempts_nothing rfl]
  rfl

/-- So is one that fails for good. -/
theorem attempts_broken {error : IoError}
    (answered : ((write data).run state).answer = .error error)
    (stopped : error.isInterrupted = false) : attempts data state = [(data, .error error)] := by
  have written : (write data).run state = ⟨.error error, _, _⟩ :=
    congrArg (fun answer => Outcome.mk answer _ _) answered
  rw [attempts_failed (by simpa using some) written, stopped]
  rfl

end Once

/-- A single write leaves what writing all does. -/
theorem state_writeAll_single {data : Bytes} {state : σ} {answer : Except IoError Nat}
    (single : attempts data state = [(data, answer)]) :
    (writeAll data state).state = ((write data).run state).state := by
  have made := run_attempts data state
  rw [single] at made
  exact (congrArg Outcome.state made).symm

/-! ## parts -/

/-- A part of a value that each write is passed on to gets the same writes when all of some data is
written to the value. -/
theorem writeAll_part {τ : Type} [Sink τ] (part : σ → τ)
    (answer : ∀ data state, ((write data).run (part state)).answer =
      ((write data).run state).answer)
    (left : ∀ data state, ((write data).run (part state)).state =
      part ((write data).run state).state)
    (data : Bytes) (state : σ) :
    attempts data (part state) = attempts data state ∧
      (writeAll data (part state)).answer = (writeAll data state).answer ∧
      (writeAll data (part state)).state = part (writeAll data state).state := by
  have follows {data : Bytes} {state next : σ} {answered : Except IoError Nat} {trail : Trail}
      (written : (write data).run state = ⟨answered, next, trail⟩) :
      (write data).run (part state) =
        ⟨answered, part next, ((write data).run (part state)).trail⟩ := by
    have same := answer data state
    have next := left data state
    rw [written] at same next
    dsimp only at same next
    rw [← same, ← next]
  fun_induction writeAll data state with
  | case1 data state none =>
    rw [attempts_nothing none, attempts_nothing none, List.isEmpty_iff.1 none, writeAll_nothing]
    exact ⟨rfl, rfl, rfl⟩
  | case2 data state some next trail written =>
    have passed := follows written
    rw [attempts_refused some written, attempts_refused some passed, writeAll_refused some passed]
    exact ⟨rfl, rfl, rfl⟩
  | case3 data state some count next trail written ih =>
    have passed := follows written
    rw [attempts_taken some written, attempts_taken some passed, writeAll_taken some passed, ih.1]
    exact ⟨rfl, ih.2⟩
  | case4 data state some error next trail written interrupted ih =>
    have passed := follows written
    rw [attempts_failed some written, attempts_failed some passed, writeAll_failed some passed,
      if_pos interrupted, if_pos interrupted, if_pos interrupted, ih.1]
    exact ⟨rfl, ih.2⟩
  | case5 data state some error next trail written stopped =>
    have passed := follows written
    rw [attempts_failed some written, attempts_failed some passed, writeAll_failed some passed,
      if_neg stopped, if_neg stopped, if_neg stopped]
    exact ⟨rfl, rfl, rfl⟩

end Reply.Sink
