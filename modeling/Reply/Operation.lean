import Reply.Event
import Reply.Stream

/-!
# Reply.Operation

Calls that change a value, answer something, and leave a trail: what they
logged, and the streams they let go of.

An `Operation σ α` is a function of the value it is called on. Its trail is
part of its outcome and never read again, so what an operation does cannot
depend on what happened before. `run_bind` says how the trails of two calls
in a row add up.
-/

namespace Reply

/-- What calls leave behind. -/
structure Trail where
  log : List Event := []
  /-- The streams that were let go of, as they were then. -/
  released : List Stream := []

namespace Trail

def append (a b : Trail) : Trail := ⟨a.log ++ b.log, a.released ++ b.released⟩

instance : Append Trail := ⟨append⟩

@[simp] theorem log_append (a b : Trail) : (a ++ b).log = a.log ++ b.log := rfl

@[simp] theorem released_append (a b : Trail) : (a ++ b).released = a.released ++ b.released := rfl

@[simp] theorem empty_append (a : Trail) : ({} : Trail) ++ a = a := rfl

@[simp] theorem append_empty (a : Trail) : a ++ ({} : Trail) = a := by
  cases a
  show Trail.mk (_ ++ []) (_ ++ []) = _
  simp

theorem append_assoc (a b c : Trail) : a ++ b ++ c = a ++ (b ++ c) := by
  show Trail.mk (_ ++ _ ++ _) (_ ++ _ ++ _) = Trail.mk (_ ++ (_ ++ _)) (_ ++ (_ ++ _))
  simp [List.append_assoc]

end Trail

/-- What a call came to. -/
structure Outcome (σ α : Type) where
  answer : α
  state : σ
  trail : Trail := {}

/-- A call on a value of `σ` that answers an `α`. -/
def Operation (σ α : Type) : Type := σ → Outcome σ α

namespace Operation

variable {σ τ α β : Type}

def run (op : Operation σ α) (state : σ) : Outcome σ α := op state

/-- Answers without doing anything. -/
protected def pure (a : α) : Operation σ α := fun state => ⟨a, state, {}⟩

/-- One call after the other. -/
protected def bind (op : Operation σ α) (next : α → Operation σ β) : Operation σ β := fun state =>
  let first := op state
  let second := next first.answer first.state
  ⟨second.answer, second.state, first.trail ++ second.trail⟩

instance : Monad (Operation σ) where
  pure := Operation.pure
  bind := Operation.bind

/-- Answers with the value itself. -/
def get : Operation σ σ := fun state => ⟨state, state, {}⟩

/-- Puts another value in the place of the present one. -/
def set (state : σ) : Operation σ Unit := fun _ => ⟨(), state, {}⟩

/-- Changes the value. -/
def modify (f : σ → σ) : Operation σ Unit := fun state => ⟨(), f state, {}⟩

/-- Leaves a trail. -/
def leave (trail : Trail) : Operation σ Unit := fun state => ⟨(), state, trail⟩

/-- Logs an event. -/
def log (event : Event) : Operation σ Unit := leave { log := [event] }

/-- Calls on a part of the value, which `put` puts back. -/
def zoom (part : σ → τ) (put : τ → σ → σ) (op : Operation τ α) : Operation σ α := fun state =>
  let inner := op (part state)
  ⟨inner.answer, put inner.state state, inner.trail⟩

/-- The same kind of call once for each item, in order. -/
def each {ι : Type} (op : ι → Operation σ α) : List ι → Operation σ (List α)
  | [] => pure []
  | i :: rest => do
    let a ← op i
    let more ← each op rest
    pure (a :: more)

/-! ## what a call comes to -/

@[simp] theorem run_pure (a : α) (state : σ) :
    (pure a : Operation σ α).run state = ⟨a, state, {}⟩ := rfl

@[simp] theorem run_bind (op : Operation σ α) (next : α → Operation σ β) (state : σ) :
    (op >>= next).run state =
      ⟨((next (op.run state).answer).run (op.run state).state).answer,
        ((next (op.run state).answer).run (op.run state).state).state,
        (op.run state).trail ++
          ((next (op.run state).answer).run (op.run state).state).trail⟩ := rfl

@[simp] theorem run_map (f : α → β) (op : Operation σ α) (state : σ) :
    (f <$> op).run state =
      ⟨f (op.run state).answer, (op.run state).state, (op.run state).trail⟩ := by
  show Outcome.mk (f (op state).answer) (op state).state ((op state).trail ++ {}) = _
  rw [Trail.append_empty]
  rfl

@[simp] theorem run_get (state : σ) : (get : Operation σ σ).run state = ⟨state, state, {}⟩ := rfl

@[simp] theorem run_set (new state : σ) : (set new).run state = ⟨(), new, {}⟩ := rfl

@[simp] theorem run_modify (f : σ → σ) (state : σ) : (modify f).run state = ⟨(), f state, {}⟩ := rfl

@[simp] theorem run_leave (trail : Trail) (state : σ) :
    (leave trail).run state = ⟨(), state, trail⟩ := rfl

@[simp] theorem run_log (event : Event) (state : σ) :
    (log event).run state = ⟨(), state, { log := [event] }⟩ := rfl

@[simp] theorem run_zoom (part : σ → τ) (put : τ → σ → σ) (op : Operation τ α) (state : σ) :
    (zoom part put op).run state =
      ⟨(op.run (part state)).answer, put (op.run (part state)).state state,
        (op.run (part state)).trail⟩ := rfl

@[simp] theorem run_each_nil {ι : Type} (op : ι → Operation σ α) (state : σ) :
    (each op []).run state = ⟨[], state, {}⟩ := rfl

@[simp] theorem run_each_cons {ι : Type} (op : ι → Operation σ α) (i : ι) (rest : List ι)
    (state : σ) :
    (each op (i :: rest)).run state =
      ⟨((op i).run state).answer :: ((each op rest).run ((op i).run state).state).answer,
        ((each op rest).run ((op i).run state).state).state,
        ((op i).run state).trail ++ ((each op rest).run ((op i).run state).state).trail⟩ := by
  simp [each]

/-- Of a run in two parts the second one starts where the first one ends. -/
theorem run_each_append {ι : Type} (op : ι → Operation σ α) (is js : List ι) (state : σ) :
    (each op (is ++ js)).run state =
      ⟨((each op is).run state).answer ++ ((each op js).run ((each op is).run state).state).answer,
        ((each op js).run ((each op is).run state).state).state,
        ((each op is).run state).trail ++
          ((each op js).run ((each op is).run state).state).trail⟩ := by
  induction is generalizing state with
  | nil => simp
  | cons i rest ih => simp [ih, Trail.append_assoc]

theorem each_map {ι κ : Type} (op : κ → Operation σ α) (f : ι → κ) (is : List ι) :
    each op (is.map f) = each (fun i => op (f i)) is := by
  induction is with
  | nil => rfl
  | cons i rest ih => rw [List.map_cons, each, each, ih]

theorem map_id (op : Operation σ α) : id <$> op = op := by
  funext state
  show Outcome.mk (op state).answer (op state).state ((op state).trail ++ {}) = op state
  simp

/-- Answering at once adds nothing before a call. -/
theorem pure_then (a : α) (next : α → Operation σ β) :
    (pure a : Operation σ α) >>= next = next a := by
  funext state
  show Outcome.mk (next a state).answer (next a state).state ({} ++ (next a state).trail) =
    next a state
  simp

/-- Of three calls in a row it does not matter which two are taken together. -/
theorem then_assoc {γ : Type} (op : Operation σ α) (next : α → Operation σ β)
    (last : β → Operation σ γ) : op >>= next >>= last = op >>= fun a => next a >>= last := by
  funext state
  show Outcome.mk _ _ (_ ++ _ ++ _) = Outcome.mk _ _ (_ ++ (_ ++ _))
  rw [Trail.append_assoc]
  rfl

instance : LawfulMonad (Operation σ) := LawfulMonad.mk' (Operation σ) map_id pure_then then_assoc

end Operation

end Reply
