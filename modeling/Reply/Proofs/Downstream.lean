import Mathlib.Logic.Function.Iterate
import Reply.Proofs.Decoding

/-!
# Reply.Proofs.Downstream

A failure that is handed on from response to response.

Each hop makes a response that is nothing but the failure, to a request of its own,
and decodes it.  The decode answers the failure, inside one downstream failure if
the request has a policy that is not empty (`passOn_eq`).  So along any hops the
failure comes to stand inside as many downstream failures as there are such
policies, and nothing of it is lost: the causes lead back to it, and its own
sources stay behind it (`layered_iterate`).
-/

namespace Reply

namespace Failure

/-- The failure so many causes further in. -/
def descend : Nat → Failure → Option Failure
  | 0, failure => some failure
  | depth + 1, failure => failure.cause?.bind (descend depth)

/-- `last` is `root` inside so many downstream failures. -/
structure Layered (root : Failure) (layers : Nat) (last : Failure) : Prop where
  nested : last = downstream^[layers] root
  /-- The causes lead back to the root. -/
  bottom : last.descend layers = some root
  /-- Each failure on the way says that it comes from further down. -/
  outer : ∀ depth < layers, ∃ failure, last.descend depth = some failure ∧
    failure.code? = some .internalService ∧ failure.tag? = some .downstream
  /-- The causes are the layers under the outermost one, the root, and what lies inside it. -/
  causes : last.causes = (List.range layers).reverse.map (downstream^[·] root) ++ root.causes
  sources : last.sources =
    match layers with
    | 0 => root.sources
    | inner + 1 =>
      List.replicate inner "internal_service.downstream: Downstream request error" ++
        root.message :: root.sources

variable (root : Failure)

theorem descend_iterate (depth inner : Nat) :
    (downstream^[inner + depth] root).descend depth = some (downstream^[inner] root) := by
  induction depth with
  | zero => rfl
  | succ depth ih =>
    rw [← Nat.add_assoc, Function.iterate_succ_apply']
    exact ih

theorem causes_iterate (layers : Nat) :
    (downstream^[layers] root).causes =
      (List.range layers).reverse.map (downstream^[·] root) ++ root.causes := by
  induction layers with
  | zero => rfl
  | succ layers ih =>
    rw [Function.iterate_succ_apply', List.range_succ, List.reverse_append, List.map_append,
      List.append_assoc, ← ih]
    rfl

theorem sources_iterate (inner : Nat) :
    (downstream^[inner + 1] root).sources =
      List.replicate inner "internal_service.downstream: Downstream request error" ++
        root.message :: root.sources := by
  induction inner with
  | zero => rfl
  | succ inner ih =>
    have text : (downstream^[inner + 1] root).message =
        "internal_service.downstream: Downstream request error" := by
      rw [Function.iterate_succ_apply']
      rfl
    rw [Function.iterate_succ_apply', List.replicate_succ, List.cons_append, ← ih, ← text]
    rfl

/-- Downstream failures around a failure keep all of it. -/
theorem layered_iterate (layers : Nat) : root.Layered layers (downstream^[layers] root) where
  nested := rfl
  bottom := by simpa using descend_iterate root layers 0
  outer depth inside := by
    obtain ⟨inner, rfl⟩ := Nat.exists_eq_add_of_lt inside
    have reached := descend_iterate root depth (inner + 1)
    rw [show inner + 1 + depth = depth + inner + 1 by omega, Function.iterate_succ_apply' _ inner]
      at reached
    exact ⟨_, reached, rfl, rfl⟩
  causes := causes_iterate root layers
  sources := by
    cases layers with
    | zero => rfl
    | succ inner => exact sources_iterate root inner

end Failure

namespace Response

/-- The policy of a request on failures from further down, if it has one that is not empty. -/
def policy? (request? : Option Request) : Option String :=
  (request?.bind (·.wrapDownstream)).filter (· ≠ "")

theorem wrapsDownstream_failed (request? : Option Request) (failure : Failure) :
    (Response.failed request? failure).wrapsDownstream = (policy? request?).isSome := by
  cases request? with
  | none => rfl
  | some request =>
    cases policy : request.wrapDownstream with
    | none => simp [policy?, wrapsDownstream, failed, Request.wrapsDownstream, policy]
    | some text =>
      by_cases empty : text = "" <;>
        simp [policy?, wrapsDownstream, failed, Request.wrapsDownstream, Request.isActive, policy,
          empty]

section Hops

variable {ι : Type} {β : ι → Type} (targets : (i : ι) → Decodable (β i))

/-- The failure that a decode answers, into the target of that index, on a response that is nothing
but a failure. -/
def passOn (failure : Failure) (hop : Option Request × ι) : Option Failure :=
  match ((decode (targets hop.2)).run (.failed hop.1 failure)).answer with
  | .ok _ => none
  | .error answered => some answered

/-- A hop answers the failure, inside one more if the request has a policy that is not empty. -/
theorem passOn_eq (failure : Failure) (hop : Option Request × ι) :
    passOn targets failure hop =
      some (if (policy? hop.1).isSome then .downstream failure else failure) := by
  rw [← wrapsDownstream_failed hop.1 failure, passOn, run_decode_failed rfl]

/-- Along some hops the failure is wrapped once for each policy. -/
theorem foldlM_passOn (failure : Failure) (hops : List (Option Request × ι)) :
    hops.foldlM (passOn targets) failure =
      some (Failure.downstream^[hops.countP fun hop => (policy? hop.1).isSome] failure) := by
  induction hops generalizing failure with
  | nil => rfl
  | cons hop rest ih =>
    rw [List.foldlM_cons, passOn_eq, Option.bind_eq_bind, Option.bind_some, ih]
    by_cases wraps : (policy? hop.1).isSome
    · simp only [wraps, List.countP_cons, if_true, Function.iterate_succ_apply]
    · simp only [wraps, List.countP_cons, Bool.false_eq_true, if_false, Nat.add_zero]

/-- **A failure survives any number of hops**: handed on through responses to any requests, and
decoded into whatever targets, it comes out inside one downstream failure for each request that has
a policy which is not empty, and is found there again as it was. -/
theorem failure_survives_hops (failure : Failure) (hops : List (Option Request × ι)) :
    ∃ last, hops.foldlM (passOn targets) failure = some last ∧
      failure.Layered (hops.countP fun hop => (policy? hop.1).isSome) last :=
  ⟨_, foldlM_passOn targets failure hops, failure.layered_iterate _⟩

end Hops

end Response

end Reply
