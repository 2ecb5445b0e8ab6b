import Mathlib.Algebra.Order.Group.Multiset
import Reply.Proofs.Ownership

/-!
# Reply.Proofs.Closing.Discretion

Calls for which it makes no difference how closing a stream goes.

1. To *forgive* the closes of a value is to let all of them succeed: the streams in
   it keep everything but the outcomes of their closes, and a trail loses the
   warnings that a close failed.
2. A trail *settles* the streams that came in if each of them is still held, with
   its closes untouched, or was closed once; the warnings are then the failures of
   these closes, one for each that failed.
3. A call is *discreet* if on the forgiven value it comes to the forgiven outcome,
   and its trail settles its streams.

The rules for operations that are made of others (`Discreet.bind`, `Discreet.zoom`,
`Discreet.writeAll`) carry this from single calls to those that they are part of.
-/

namespace Reply

open Owner (streams)

/-! ## forgiving -/

/-- Values with streams in them. -/
class Forgiving (σ : Type) where
  /-- The same value, but no close of its streams fails. -/
  forgive : σ → σ

export Forgiving (forgive)

instance : Forgiving Stream := ⟨fun stream => { stream with closing := .unwatched }⟩

namespace Event

/-- The failure of a close that the event warns of. -/
def closeFailure? : Event → Option IoError
  | closeFailed error => some error
  | _ => none

end Event

namespace Trail

/-- The failed closes that the trail warns of, in order. -/
def warnings (trail : Trail) : List IoError := trail.log.filterMap Event.closeFailure?

/-- The trail without the warnings of failed closes. -/
instance : Forgiving Trail where
  forgive trail :=
    { log := trail.log.filter fun event => event.closeFailure?.isNone
      released := trail.released.map forgive }

@[simp] theorem warnings_append (a b : Trail) : (a ++ b).warnings = a.warnings ++ b.warnings :=
  List.filterMap_append

theorem warnings_log {event : Event} (other : event.closeFailure? = none) :
    warnings { log := [event] } = [] :=
  List.filterMap_cons_none other

/-- There is nothing to forgive in a trail without closes. -/
theorem forgive_eq_self {trail : Trail} (kept : trail.released = [])
    (silent : trail.warnings = []) : forgive trail = trail := by
  obtain ⟨log, released⟩ := trail
  obtain rfl : released = [] := kept
  refine congrArg (Trail.mk · []) (List.filter_eq_self.2 fun event logged => ?_)
  rw [List.filterMap_eq_nil_iff.1 silent event logged]
  rfl

@[simp] theorem forgive_append (a b : Trail) : forgive (a ++ b) = forgive a ++ forgive b :=
  congrArg₂ Trail.mk (List.filter_append _ _) List.map_append

end Trail

namespace Outcome

variable {σ α : Type} [Forgiving σ]

/-- The answer is not up to the closes. -/
instance : Forgiving (Outcome σ α) where
  forgive outcome := ⟨outcome.answer, forgive outcome.state, forgive outcome.trail⟩

@[simp] theorem answer_forgive (outcome : Outcome σ α) :
    (forgive outcome).answer = outcome.answer := rfl

@[simp] theorem state_forgive (outcome : Outcome σ α) :
    (forgive outcome).state = forgive outcome.state := rfl

@[simp] theorem trail_forgive (outcome : Outcome σ α) :
    (forgive outcome).trail = forgive outcome.trail := rfl

theorem forgive_mk (answer : α) (state : σ) (trail : Trail) :
    forgive (⟨answer, state, trail⟩ : Outcome σ α) = ⟨answer, forgive state, forgive trail⟩ := rfl

@[simp] theorem forgive_after (trail : Trail) (outcome : Outcome σ α) :
    forgive (outcome.after trail) = (forgive outcome).after (forgive trail) := by
  show Outcome.mk _ _ (forgive (trail ++ outcome.trail)) = _
  rw [Trail.forgive_append]
  rfl

/-- The outcomes differ at most in how closes went, and in what was logged of that. -/
structure SameButForCloses (first second : Outcome σ α) : Prop where
  answer : first.answer = second.answer
  state : forgive first.state = forgive second.state
  released : first.trail.released.map forgive = second.trail.released.map forgive
  log : (first.trail.log.filter fun event => event.closeFailure?.isNone) =
    second.trail.log.filter fun event => event.closeFailure?.isNone

theorem sameButForCloses_of_forgive {first second : Outcome σ α}
    (same : forgive first = forgive second) : first.SameButForCloses second where
  answer := (congrArg answer same :)
  state := congrArg state same
  released := congrArg (Trail.released ∘ trail) same
  log := congrArg (Trail.log ∘ trail) same

end Outcome

/-! ## settling -/

namespace Stream

/-- The failure with which the next close of the stream will be answered. -/
def closeFailure? (stream : Stream) : Option IoError :=
  match stream.close.1 with
  | .ok () => none
  | .error error => some error

/-- `later` is `first` after further calls, none of them a close; those are still to come as they
were. -/
def Used (first later : Stream) : Prop := InUse first later ∧ later.closing = first.closing

theorem Used.refl (stream : Stream) : Used stream stream := ⟨.refl stream, rfl⟩

theorem Used.trans {a b c : Stream} (hab : Used a b) (hbc : Used b c) : Used a c :=
  ⟨hab.1.trans hbc.1, hbc.2.trans hab.2⟩

instance : IsTrans Stream Used := ⟨fun _ _ _ => Used.trans⟩

end Stream

/-- The streams that came are, after some use, those that are held and those that were closed.  Each
of the latter was closed once, and for each of these closes that failed there is one warning. -/
def Settled (came held : List Stream) (trail : Trail) : Prop :=
  ∃ closed : List Stream,
    Multiset.Rel Stream.Used (came : Multiset Stream) (held ++ closed : List Stream) ∧
      trail.released = closed.map (·.close.2) ∧
      trail.warnings = closed.filterMap (·.closeFailure?)

namespace Settled

/-- Nothing happened to the streams. -/
theorem refl (streams : List Stream) {trail : Trail} (kept : trail.released = [])
    (silent : trail.warnings = []) : Settled streams streams trail := by
  refine ⟨[], ?_, kept, silent⟩
  rw [List.append_nil]
  exact Multiset.rel_refl_of_refl_on fun stream _ => .refl stream

/-- A stream that is used goes on being held. -/
theorem use {first later : Stream} (used : first.Used later) {trail : Trail}
    (kept : trail.released = []) (silent : trail.warnings = []) :
    Settled [first] [later] trail :=
  ⟨[], .cons used .zero, kept, silent⟩

/-- What came later is settled behind what came before. -/
theorem trans {came came' held held' : List Stream} {trail trail' : Trail}
    (h : Settled came held trail) (h' : Settled (held ++ came') held' trail') :
    Settled (came ++ came') held' (trail ++ trail') := by
  obtain ⟨closed, used, released, warned⟩ := h
  obtain ⟨closed', used', released', warned'⟩ := h'
  refine ⟨closed ++ closed', ?_, ?_, ?_⟩
  · have rest := Multiset.rel_refl_of_refl_on (m := (came' : Multiset Stream)) (r := Stream.Used)
      fun stream _ => .refl stream
    have gone := Multiset.rel_refl_of_refl_on (m := (closed : Multiset Stream)) (r := Stream.Used)
      fun stream _ => .refl stream
    simp only [← Multiset.coe_add] at used used' ⊢
    have first := used.add rest
    have second := used'.add gone
    rw [add_right_comm] at first
    rw [add_comm (closed : Multiset Stream), ← add_assoc]
    exact first.trans Stream.Used second
  · rw [Trail.released_append, released, released', List.map_append]
  · rw [Trail.warnings_append, warned, warned', List.filterMap_append]

/-- What goes on while nothing comes in. -/
theorem next {came held held' : List Stream} {trail trail' : Trail} (h : Settled came held trail)
    (h' : Settled held held' trail') : Settled came held' (trail ++ trail') := by
  rw [← List.append_nil held] at h'
  simpa only [List.append_nil] using h.trans h'

/-- Another event that is logged before changes nothing. -/
theorem logged {came held : List Stream} {event : Event} {trail : Trail}
    (other : event.closeFailure? = none) (h : Settled came held trail) :
    Settled came held ({ log := [event] } ++ trail) :=
  (refl came rfl (Trail.warnings_log other)).next h

/-- Once everything was let go of, what comes in is all that is held. -/
theorem refill {came : List Stream} {trail : Trail} (h : Settled came [] trail)
    (more : List Stream) : Settled (came ++ more) more trail := by
  have kept : Settled ([] ++ more) more {} := .refl more rfl rfl
  simpa only [Trail.append_empty] using h.trans kept

end Settled

/-! ## discretion -/

namespace Operation

variable {σ τ α β : Type} [Owner σ] [Owner τ] [Forgiving σ] [Forgiving τ]

/-- On the forgiven value the second call comes to the forgiven outcome of the first one, which
settles the streams of its value and those that it brings in. -/
structure DiscreetAt (op op' : Operation σ α) (brought : List Stream) (state : σ) : Prop where
  forgives : op'.run (forgive state) = forgive (op.run state)
  settles : Settled (streams state ++ brought) (streams (op.run state).state) (op.run state).trail

/-- The call, made with forgiven streams as the second one, does not depend on how closes go. -/
def Discreet (op op' : Operation σ α) (brought : List Stream) : Prop :=
  ∀ state, DiscreetAt op op' brought state

namespace DiscreetAt

theorem bind {op op' : Operation σ α} {next next' : α → Operation σ β}
    {first second : List Stream} {state : σ} (h : DiscreetAt op op' first state)
    (h' : DiscreetAt (next (op.run state).answer) (next' (op.run state).answer) second
      (op.run state).state) : DiscreetAt (op >>= next) (op' >>= next') (first ++ second) state where
  forgives := by
    simp only [run_bind, h.forgives, h'.forgives, Outcome.answer_forgive, Outcome.state_forgive,
      Outcome.trail_forgive, Outcome.forgive_mk, Trail.forgive_append]
  settles := by
    rw [← List.append_assoc]
    exact h.settles.trans h'.settles

theorem map {op op' : Operation σ α} {brought : List Stream} {state : σ} (f : α → β)
    (h : DiscreetAt op op' brought state) : DiscreetAt (f <$> op) (f <$> op') brought state where
  forgives := by
    rw [run_map, run_map, h.forgives]
    rfl
  settles := by
    rw [run_map]
    exact h.settles

end DiscreetAt

namespace Discreet

/-- A call that changes nothing about the streams, and warns of no close. -/
theorem of_same {op op' : Operation σ α}
    (forgives : ∀ state, op'.run (forgive state) = forgive (op.run state))
    (same : ∀ state, streams (op.run state).state = streams state)
    (kept : ∀ state, (op.run state).trail.released = [])
    (silent : ∀ state, (op.run state).trail.warnings = []) : Discreet op op' [] := by
  refine fun state => ⟨forgives state, ?_⟩
  rw [same, List.append_nil]
  exact .refl _ (kept state) (silent state)

theorem pure (a : α) : Discreet (pure a : Operation σ α) (pure a) [] :=
  of_same (fun _ => rfl) (fun _ => rfl) (fun _ => rfl) fun _ => rfl

theorem modify {f : σ → σ} (commutes : ∀ state, f (forgive state) = forgive (f state))
    (same : ∀ state, streams (f state) = streams state) : Discreet (modify f) (modify f) [] :=
  of_same (fun state => by rw [run_modify, commutes]; rfl) same (fun _ => rfl) fun _ => rfl

/-- Any other event may be logged. -/
theorem log {event : Event} (other : event.closeFailure? = none) :
    Discreet (log event : Operation σ Unit) (log event) [] := by
  refine of_same (fun state => ?_) (fun _ => rfl) (fun _ => rfl) fun _ => Trail.warnings_log other
  rw [run_log, run_log, Outcome.forgive_mk, Trail.forgive_eq_self rfl (Trail.warnings_log other)]

/-- Of two calls the first brings in some streams and the second others. -/
theorem bind {op op' : Operation σ α} {next next' : α → Operation σ β}
    {first second : List Stream} (h : Discreet op op' first)
    (h' : ∀ a, Discreet (next a) (next' a) second) :
    Discreet (op >>= next) (op' >>= next') (first ++ second) :=
  fun state => (h state).bind (h' _ _)

/-- A call that brings nothing in comes before another one. -/
theorem before {op op' : Operation σ α} {next next' : α → Operation σ β} {brought : List Stream}
    (h : Discreet op op' []) (h' : ∀ a, Discreet (next a) (next' a) brought) :
    Discreet (op >>= next) (op' >>= next') brought :=
  h.bind h'

/-- What comes next may depend on the value, as far as it does not on its closes. -/
theorem get {next next' : σ → Operation σ α} {brought : List Stream}
    (h : ∀ state, Discreet (next state) (next' (forgive state)) brought) :
    Discreet (get >>= next) (get >>= next') brought :=
  fun state => ⟨(h state state).forgives, (h state state).settles⟩

theorem map {op op' : Operation σ α} {brought : List Stream} (f : α → β)
    (h : Discreet op op' brought) : Discreet (f <$> op) (f <$> op') brought :=
  fun state => (h state).map f

/-- A call on a part that holds the streams of the whole. -/
theorem zoom {part : σ → τ} {put : τ → σ → σ} {op op' : Operation τ α} {brought : List Stream}
    (h : Discreet op op' brought) (streams_part : ∀ state, streams (part state) = streams state)
    (streams_put : ∀ inner state, streams (put inner state) = streams inner)
    (forgive_part : ∀ state, part (forgive state) = forgive (part state))
    (forgive_put : ∀ inner state, put (forgive inner) (forgive state) = forgive (put inner state)) :
    Discreet (zoom part put op) (zoom part put op') brought := by
  refine fun state => ⟨?_, ?_⟩
  · rw [run_zoom, run_zoom, forgive_part, (h _).forgives]
    exact congrArg (Outcome.mk _ · _) (forgive_put _ state)
  · rw [run_zoom, ← streams_part, streams_put]
    exact (h _).settles

theorem each {ι : Type} {op op' : ι → Operation σ α} {brought : ι → List Stream} {f : ι → ι}
    {is : List ι} (h : ∀ i ∈ is, Discreet (op i) (op' (f i)) (brought i)) :
    Discreet (each op is) (each op' (is.map f)) (is.flatMap brought) := by
  induction is with
  | nil => exact pure []
  | cons i rest ih =>
    rw [List.forall_mem_cons] at h
    rw [List.flatMap_cons]
    exact h.1.bind fun a => (ih h.2).map (a :: ·)

/-- Writing all of some data is a run of writes, each of which settles the streams. -/
theorem writeAll [Sink σ]
    (h : ∀ data, Discreet (Sink.write data : Operation σ _) (Sink.write data) []) (data : Bytes) :
    Discreet (fun state : σ => Sink.writeAll data state) (fun state => Sink.writeAll data state)
      [] := by
  refine fun state => ⟨?_, ?_⟩
  · show Sink.writeAll data (forgive state) = forgive (Sink.writeAll data state)
    -- Along the writes to the value: the forgiven one is answered the same each time.
    fun_induction Sink.writeAll data state with
    | case1 data state none =>
      rw [List.isEmpty_iff.1 none, Sink.writeAll_nothing]
      rfl
    | case2 data state some next trail written =>
      have same := (h data state).forgives
      rw [written] at same
      rw [Sink.writeAll_refused some same]
      rfl
    | case3 data state some count next trail written ih =>
      have same := (h data state).forgives
      rw [written] at same
      rw [Sink.writeAll_taken some same, ih, Outcome.forgive_after]
    | case4 data state some error next trail written interrupted ih =>
      have same := (h data state).forgives
      rw [written] at same
      rw [Sink.writeAll_failed some same, if_pos interrupted, ih, Outcome.forgive_after]
    | case5 data state some error next trail written stopped =>
      have same := (h data state).forgives
      rw [written] at same
      rw [Sink.writeAll_failed some same, if_neg stopped]
      rfl
  · rw [List.append_nil]
    refine Sink.writeAll_along (R := fun before _ after trail =>
      Settled (streams before) (streams after) trail) (fun state => .refl _ rfl rfl)
      (fun data state => ?_) (fun first second => first.next second) data state
    simpa only [List.append_nil] using (h data state).settles

end Discreet

end Operation

end Reply
