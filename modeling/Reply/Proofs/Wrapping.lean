import Mathlib.Data.List.TakeDrop
import Reply.Failure

/-!
# Reply.Proofs.Wrapping

What becomes of a failure that is wrapped, and what it tells of where it comes from.

1. Wrapping makes a service failure of any failure, and leaves one that is one
   already as it is, so a failure is wrapped once at most (`wrap_eq_self_iff`).
2. From a failure one can go on to its cause, or to its source, which may also be
   what a codec or a call gave as its failure.  `causes` and `trace` are all that is
   met on either way (`leads_causes`, `leads_trace`).
3. Both ways pass the same failures.  Only behind the last one, if that is no
   service failure, there are more sources: the failure of the codec or of the call,
   and what that comes from in turn (`sources_eq`).
-/

namespace Reply

/-! ## step after step -/

/-- From there, `next?` leads along the path, and from its end no further. -/
inductive Leads {α : Type} (next? : α → Option α) : α → List α → Prop
  | stop {a : α} (ends : next? a = none) : Leads next? a []
  | step {a b : α} {path : List α} (goes : next? a = some b) (on : Leads next? b path) :
    Leads next? a (b :: path)

namespace Failure

/-! ## wrapped failures -/

theorem isService_wrap (failure : Failure) : failure.wrap.isService = true := by
  cases failure with
  | service | json | protobufDecode | protobufEncode | io => rfl

theorem wrap_eq_self {failure : Failure} (service : failure.isService = true) :
    failure.wrap = failure := by
  cases failure with
  | service => rfl
  | json | protobufDecode | protobufEncode | io => cases service

theorem wrap_eq_self_iff {failure : Failure} :
    failure.wrap = failure ↔ failure.isService = true :=
  ⟨fun same => same ▸ isService_wrap failure, wrap_eq_self⟩

/-- The failure of a codec or of a call goes into a service failure as its cause. -/
theorem wrap_of_isService {failure : Failure} (plain : failure.isService = false) :
    failure.wrap = .service .internalService failure.message none (some failure) := by
  cases failure with
  | service => cases plain
  | json | protobufDecode | protobufEncode | io => rfl

theorem wrap_inj {a b : Failure} (ha : a.isService = false) (hb : b.isService = false)
    (same : a.wrap = b.wrap) : a = b := by
  rw [wrap_of_isService ha, wrap_of_isService hb, service.injEq, Option.some.injEq] at same
  exact same.2.2.2

theorem message_wrap {failure : Failure} (plain : failure.isService = false) :
    failure.wrap.message = "internal_service: " ++ failure.message := by
  rw [wrap_of_isService plain]
  rfl

/-! ## going on to the cause -/

theorem leads_causes : (failure : Failure) → Leads cause? failure failure.causes
  | service _ _ _ (some cause) => .step rfl (leads_causes cause)
  | service _ _ _ none => .stop rfl
  | json _ | protobufDecode _ | protobufEncode _ | io _ => .stop rfl

/-- Where the causes end: the failure itself, if it has none. -/
def root (failure : Failure) : Failure := failure.causes.getLastD failure

/-- Every failure but a service one shows that of a codec or of a call. -/
theorem origins_eq_nil_iff {failure : Failure} :
    failure.origins = [] ↔ failure.isService = true := by
  cases failure with
  | service | json | protobufDecode | protobufEncode | io => simp [origins, isService]

/-! ## going on to the source -/

/-- What a failure comes from: another failure, or that of a codec or a call, of which only the text
is seen, and those of what it comes from itself. -/
inductive Source
  | failure (inner : Failure)
  | origin (text : String) (behind : List String)

/-- What stands right behind a failure. -/
def source? : Failure → Option Source
  | service _ _ _ cause? => cause?.map .failure
  | json error => some (.origin error.message error.sources)
  | protobufDecode error => some (.origin error.message [])
  | protobufEncode error => some (.origin error.message [])
  | io error => some (.origin error.message error.sources)

namespace Source

def text : Source → String
  | failure inner => inner.message
  | origin text _ => text

/-- What stands right behind that. -/
def source? : Source → Option Source
  | failure inner => inner.source?
  | origin _ [] => none
  | origin _ (text :: behind) => some (.origin text behind)

/-- The failure of a codec or of a call, and what it comes from, by their texts. -/
def ofTexts : List String → List Source
  | [] => []
  | text :: behind => .origin text behind :: ofTexts behind

theorem leads_ofTexts (text : String) (behind : List String) :
    Leads source? (.origin text behind) (ofTexts behind) := by
  induction behind generalizing text with
  | nil => exact .stop rfl
  | cons next behind ih => exact .step rfl (ih next)

theorem map_text_ofTexts (texts : List String) : (ofTexts texts).map text = texts := by
  induction texts with
  | nil => rfl
  | cons first behind ih => rw [ofTexts, List.map_cons, ih, text]

end Source

/-- All that a failure comes from: its causes, and what the last of them shows besides. -/
def trace (failure : Failure) : List Source :=
  failure.causes.map .failure ++ Source.ofTexts failure.root.origins

theorem trace_service (code : Code) (text : String) (tag? : Option Tag) (cause : Failure) :
    (service code text tag? (some cause)).trace = .failure cause :: cause.trace := by
  -- The causes end where those of the cause end, which unfolding alone does not show.
  rw [trace, root, causes, List.getLastD_cons]
  rfl

theorem leads_trace : (failure : Failure) → Leads Source.source? (.failure failure) failure.trace
  | service code text tag? (some cause) => by
    rw [trace_service]
    exact .step rfl (leads_trace cause)
  | service _ _ _ none => .stop rfl
  | json _ | protobufDecode _ | protobufEncode _ | io _ => .step rfl (Source.leads_ofTexts _ _)

theorem map_text_trace : (failure : Failure) → failure.trace.map Source.text = failure.sources
  | service code text tag? (some cause) => by
    rw [trace_service, List.map_cons, map_text_trace cause]
    rfl
  | service _ _ _ none => rfl
  | json _ | protobufDecode _ | protobufEncode _ | io _ => Source.map_text_ofTexts _

theorem sources_eq (failure : Failure) :
    failure.sources = failure.causes.map message ++ failure.root.origins := by
  rw [← map_text_trace, trace, List.map_append, List.map_map, Source.map_text_ofTexts]
  rfl

/-- It is only where the codec's or the call's own failure comes from another one that there is more
to tell than the failure itself. -/
theorem sources_eq_take_iff (failure : Failure) :
    failure.sources = failure.causes.map message ++ failure.root.origins.take 1 ↔
      failure.root.origins.length ≤ 1 := by
  rw [sources_eq, List.append_cancel_left_eq, List.take_self_eq_iff]

/-- **A failure is wrapped once, and tells all that it comes from.**  Wrapped, it is a service
failure, and then it stays as it is; a failure of a codec or of a call becomes the cause of an
untagged internal one, under its own text.  Its sources are its causes, one after the other, and
behind them, if the last of them (the failure itself, if it has none) is no service failure, that
of a codec or of a call with its own sources.  They end with the failure of the codec or of the
call just if that has none. -/
theorem wrapped_once_and_traced (failure : Failure) :
    failure.wrap.isService = true ∧
      failure.wrap.wrap = failure.wrap ∧
      (failure.wrap = failure ↔ failure.isService = true) ∧
      (failure.isService = false →
        failure.wrap = .service .internalService failure.message none (some failure) ∧
          failure.wrap.message = "internal_service: " ++ failure.message) ∧
      Leads cause? failure failure.causes ∧
      Leads Source.source? (.failure failure) failure.trace ∧
      failure.trace.map Source.text = failure.sources ∧
      failure.sources = failure.causes.map message ++ failure.root.origins ∧
      (failure.root.origins = [] ↔ failure.root.isService = true) ∧
      (failure.sources = failure.causes.map message ++ failure.root.origins.take 1 ↔
        failure.root.origins.length ≤ 1) := by
  have wrapped := isService_wrap failure
  refine ⟨wrapped, wrap_eq_self wrapped, wrap_eq_self_iff, ?_, leads_causes failure,
    leads_trace failure, map_text_trace failure, sources_eq failure, origins_eq_nil_iff,
    sources_eq_take_iff failure⟩
  intro plain
  exact ⟨wrap_of_isService plain, message_wrap plain⟩

/-- The io error that carries a failure. -/
def toIoError (failure : Failure) : IoError :=
  { kind := .other, message := failure.message, sources := failure.sources }

/-- A body that breaks off over a failure from further down, as its reader sees that and as it
comes back from further down once more. -/
theorem wrapped_once_and_traced_carried :
    let error := (downstream noBody).toIoError
    (io error).isService = false ∧
      (io error).wrap.message =
        "internal_service: io error: internal_service.downstream: Downstream request error" ∧
      (downstream (badResponse error)).sources =
        ["bad_response: io error: internal_service.downstream: Downstream request error",
          "io error: internal_service.downstream: Downstream request error",
          "internal_service.downstream: Downstream request error",
          "internal_service: Response has no body"] := by
  intro error
  obtain ⟨-, -, -, wrapped, -⟩ := wrapped_once_and_traced (io error)
  obtain ⟨-, -, -, -, -, -, -, told, -⟩ := wrapped_once_and_traced (downstream (badResponse error))
  exact ⟨rfl, (wrapped rfl).2, told⟩

/-- A failure that comes as an io error does not end the sources with its own text. -/
theorem carried_failure_is_told_on :
    let failure := io (downstream noBody).toIoError
    failure.sources =
        ["internal_service.downstream: Downstream request error",
          "internal_service: Response has no body"] ∧
      failure.causes = [] ∧ failure.root = failure ∧ failure.isService = false ∧
      failure.sources ≠ failure.causes.map message ++ failure.root.origins.take 1 := by
  refine ⟨rfl, rfl, rfl, rfl, ?_⟩
  rw [Ne, sources_eq_take_iff]
  decide

end Failure

end Reply
