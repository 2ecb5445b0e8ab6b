import Reply.Proofs.Writing

/-!
# Reply.Proofs.Agreement

Two runs side by side.

Calls *agree* from one relation to another if, on values in the first relation,
they give the same answer and leave values in the second.  What they log, and
which streams they let go of, may differ.

The rules for operations that are made of others (`Agree.bind`, `Agree.inspect`,
`Agree.each`, `Agree.writeAll`) carry this from single calls to whole runs;
`Agree.ignore` is for calls that the two sides do not share.

A property that a call *keeps* is the case where both sides are the same
(`Keeps.agree`).
-/

namespace Reply

/-- An outcome of which the answer is known. -/
theorem Outcome.eq_of_answer {σ α : Type} {outcome : Outcome σ α} {answer : α}
    (h : answer = outcome.answer) : outcome = ⟨answer, outcome.state, outcome.trail⟩ := by
  rw [h]

namespace Operation

variable {σ τ α β γ : Type}

/-- On values related by `R` the calls give the same answer, and leave values related by `S`. -/
def Agree (R : σ → τ → Prop) (op : Operation σ α) (op' : Operation τ α) (S : σ → τ → Prop) : Prop :=
  ∀ ⦃a b⦄, R a b →
    (op.run a).answer = (op'.run b).answer ∧ S (op.run a).state (op'.run b).state

namespace Agree

variable {R S T : σ → τ → Prop}

theorem pure (x : α) : Agree R (pure x) (pure x) R := fun _ _ h => ⟨rfl, h⟩

/-- What is logged may differ. -/
theorem log (event event' : Event) : Agree R (log event) (log event') R := fun _ _ h => ⟨rfl, h⟩

theorem modify {f : σ → σ} {g : τ → τ} (h : ∀ ⦃a b⦄, R a b → S (f a) (g b)) :
    Agree R (modify f) (modify g) S := fun _ _ related => ⟨rfl, h related⟩

theorem bind {op : Operation σ α} {op' : Operation τ α} {next : α → Operation σ β}
    {next' : α → Operation τ β} (h : Agree R op op' S) (h' : ∀ x, Agree S (next x) (next' x) T) :
    Agree R (op >>= next) (op' >>= next') T := by
  intro a b related
  obtain ⟨same, between⟩ := h related
  have second := h' (op.run a).answer between
  rw [run_bind, run_bind, ← same]
  exact second

theorem map {op : Operation σ α} {op' : Operation τ α} (f : α → β) (h : Agree R op op' S) :
    Agree R (f <$> op) (f <$> op') S := by
  intro a b related
  obtain ⟨same, after⟩ := h related
  rw [run_map, run_map, same]
  exact ⟨rfl, after⟩

/-- What comes next may depend on whatever related values have in common. -/
theorem inspect (view : σ → γ) (view' : τ → γ) {next : γ → Operation σ α}
    {next' : γ → Operation τ α} (common : ∀ ⦃a b⦄, R a b → view a = view' b)
    (h : ∀ c, Agree R (next c) (next' c) S) :
    Agree R (get >>= fun a => next (view a)) (get >>= fun b => next' (view' b)) S := by
  intro a b related
  have same := h (view a) related
  simp only [run_bind, run_get, ← common related]
  exact same

/-- Calls whose answers are not used come first, on each side another one, or none. -/
theorem ignore {op : Operation σ β} {op' : Operation τ γ} {rest : Operation σ α}
    {rest' : Operation τ α} (h : ∀ ⦃a b⦄, R a b → S (op.run a).state (op'.run b).state)
    (h' : Agree S rest rest' T) : Agree R (op >>= fun _ => rest) (op' >>= fun _ => rest') T := by
  intro a b related
  exact h' (h related)

theorem each {ι : Type} {op : ι → Operation σ α} {op' : ι → Operation τ α} {is : List ι}
    (h : ∀ i ∈ is, Agree R (op i) (op' i) R) : Agree R (each op is) (each op' is) R := by
  induction is with
  | nil => exact pure []
  | cons i rest ih =>
    rw [List.forall_mem_cons] at h
    exact h.1.bind fun x => (ih h.2).bind fun xs => pure (x :: xs)

/-- Writing all of some data makes the same writes on both sides. -/
theorem writeAll [Sink σ] [Sink τ] (h : ∀ data, Agree R (Sink.write data) (Sink.write data) R)
    (data : Bytes) : Agree R (fun a => Sink.writeAll data a) (fun b => Sink.writeAll data b) R := by
  intro a b related
  show (Sink.writeAll data a).answer = (Sink.writeAll data b).answer ∧
    R (Sink.writeAll data a).state (Sink.writeAll data b).state
  -- Along the writes on the left: each one on the right is answered the same.
  fun_induction Sink.writeAll data a generalizing b with
  | case1 data a none =>
    rw [List.isEmpty_iff.1 none, Sink.writeAll_nothing]
    exact ⟨rfl, related⟩
  | case2 data a some next trail written =>
    obtain ⟨same, after⟩ := h data related
    rw [written] at same after
    rw [Sink.writeAll_refused some (Outcome.eq_of_answer same)]
    exact ⟨rfl, after⟩
  | case3 data a some count next trail written ih =>
    obtain ⟨same, after⟩ := h data related
    rw [written] at same after
    rw [Sink.writeAll_taken some (Outcome.eq_of_answer same)]
    exact ih after
  | case4 data a some error next trail written interrupted ih =>
    obtain ⟨same, after⟩ := h data related
    rw [written] at same after
    rw [Sink.writeAll_failed some (Outcome.eq_of_answer same), if_pos interrupted]
    exact ih after
  | case5 data a some error next trail written stopped =>
    obtain ⟨same, after⟩ := h data related
    rw [written] at same after
    rw [Sink.writeAll_failed some (Outcome.eq_of_answer same), if_neg stopped]
    exact ⟨rfl, after⟩

end Agree

/-! ## properties that are kept -/

/-- The call leaves a value with the property, if it is made on one. -/
def Keeps (P : σ → Prop) (op : Operation σ α) : Prop := ∀ ⦃a⦄, P a → P (op.run a).state

namespace Keeps

variable {P : σ → Prop}

theorem pure (x : α) : Keeps P (pure x) := fun _ h => h

theorem log (event : Event) : Keeps P (log event) := fun _ h => h

theorem modify {f : σ → σ} (h : ∀ ⦃a⦄, P a → P (f a)) : Keeps P (modify f) := h

/-- What comes next may depend on the value itself. -/
theorem get {next : σ → Operation σ α} (h : ∀ a, Keeps P (next a)) : Keeps P (get >>= next) :=
  fun a kept => h a kept

theorem bind {op : Operation σ α} {next : α → Operation σ β} (h : Keeps P op)
    (h' : ∀ x, Keeps P (next x)) : Keeps P (op >>= next) := fun _ kept => h' _ (h kept)

theorem map {op : Operation σ α} (f : α → β) (h : Keeps P op) : Keeps P (f <$> op) := by
  intro a kept
  rw [run_map]
  exact h kept

theorem each {ι : Type} {op : ι → Operation σ α} {is : List ι} (h : ∀ i ∈ is, Keeps P (op i)) :
    Keeps P (each op is) := by
  induction is with
  | nil => exact pure []
  | cons i rest ih =>
    rw [List.forall_mem_cons] at h
    exact h.1.bind fun x => (ih h.2).bind fun xs => pure (x :: xs)

/-- Equal values with the property stay equal, and keep it. -/
theorem agree {op : Operation σ α} (h : Keeps P op) :
    Agree (fun a b => a = b ∧ P a) op op (fun a b => a = b ∧ P a) := by
  rintro a _ ⟨rfl, kept⟩
  exact ⟨rfl, rfl, h kept⟩

theorem writeAll [Sink σ] (h : ∀ data, Keeps P (Sink.write data)) (data : Bytes) :
    Keeps P fun a => Sink.writeAll data a :=
  fun _ kept => (Agree.writeAll (fun data => (h data).agree) data ⟨rfl, kept⟩).2.2

end Keeps

end Operation

end Reply
