import Mathlib.Data.List.Perm.Basic
import Reply.Proofs.Pouring
import Reply.Proofs.Writing

/-!
# Reply.Proofs.Ownership.Ledger

The ledger of streams: what became of each stream that came into somebody's
hands.

1. A stream *in use* has had further calls, none of them a close.
2. A *finished* stream has had further calls, of which the very last is its
   only close.
3. Streams are *accounted* for when those that came are those still held, in
   use, together with those that were released, finished: each of them once
   and none of them twice.

An operation `Accounts` for streams when it keeps the ledger in whatever
state it is called.  The rules for operations that are made of others
(`Accounts.bind`, `Accounts.zoom`, `Accounts.each`, `Accounts.writeAll`) carry
this from single calls to whole runs.
-/

open scoped List

namespace Reply

namespace Stream

/-! ## the history of one stream -/

/-- `later` is `first` after further calls, none of them a close. -/
def InUse (first later : Stream) : Prop :=
  later.id = first.id ∧ ∃ calls, later.calls = calls ++ first.calls ∧ Call.close ∉ calls

/-- `last` is `first` after further calls, of which the last one, and it alone, is a close. -/
def Finished (first last : Stream) : Prop :=
  last.id = first.id ∧
    ∃ calls, last.calls = Call.close :: (calls ++ first.calls) ∧ Call.close ∉ calls

theorem InUse.refl (stream : Stream) : InUse stream stream := ⟨rfl, [], rfl, by simp⟩

theorem InUse.trans {a b c : Stream} (hab : InUse a b) (hbc : InUse b c) : InUse a c := by
  obtain ⟨idb, earlier, hb, openb⟩ := hab
  obtain ⟨idc, later, hc, openc⟩ := hbc
  refine ⟨idc.trans idb, later ++ earlier, ?_, ?_⟩
  · rw [hc, hb, List.append_assoc]
  · simp [openb, openc]

/-- A stream that is closed after some use is finished from the beginning of that use. -/
theorem InUse.finished {a b c : Stream} (hab : InUse a b) (hbc : Finished b c) : Finished a c := by
  obtain ⟨idb, earlier, hb, openb⟩ := hab
  obtain ⟨idc, later, hc, openc⟩ := hbc
  refine ⟨idc.trans idb, later ++ earlier, ?_, ?_⟩
  · rw [hc, hb, List.append_assoc]
  · simp [openb, openc]

/-- A call that is no close leaves a stream in use. -/
theorem inUse_of_calls {first later : Stream} (call : Call) (id : later.id = first.id)
    (calls : later.calls = call :: first.calls) (notClose : call ≠ .close) : InUse first later :=
  ⟨id, [call], calls, by simpa using notClose.symm⟩

theorem inUse_read (stream : Stream) (room : Nat) : InUse stream (stream.read room).2 := by
  refine inUse_of_calls .read ?_ ?_ (by decide) <;>
    · unfold read
      split
      · rfl
      · split <;> rfl

theorem inUse_write (stream : Stream) (data : Bytes) : InUse stream (stream.write data).2 := by
  refine inUse_of_calls .write ?_ ?_ (by decide) <;>
    · unfold write
      split <;> rfl

theorem inUse_flush (stream : Stream) : InUse stream stream.flush.2 := by
  refine inUse_of_calls .flush ?_ ?_ (by decide) <;>
    · unfold flush
      split <;> rfl

theorem inUse_pour (room : Nat) (stream : Stream) (buffer : Buffer) :
    InUse stream (stream.pour room buffer).stream :=
  pour_along (fun stream => inUse_read stream room) (fun _ _ _ => InUse.trans) stream buffer

theorem finished_close (stream : Stream) : Finished stream stream.close.2 := by
  refine ⟨?_, [], ?_, by simp⟩ <;>
    · unfold close
      split <;> rfl

end Stream

/-! ## the ledger -/

/-- The streams that came are those that are held, in use, and those that were released,
finished. -/
def Accounted (came held released : List Stream) : Prop :=
  ∃ kept gone, (kept ++ gone).Perm came ∧
    List.Forall₂ Stream.InUse kept held ∧ List.Forall₂ Stream.Finished gone released

/-- Two steps taken one after the other, in each place of two lists. -/
theorem forall₂_trans {α : Type} {R S T : α → α → Prop} (step : ∀ ⦃a b c⦄, R a b → S b c → T a c)
    {as bs cs : List α} (hR : List.Forall₂ R as bs) (hS : List.Forall₂ S bs cs) :
    List.Forall₂ T as cs := by
  induction hR generalizing cs with
  | nil =>
    cases hS
    exact .nil
  | cons head _ ih =>
    cases hS with
    | cons head' tail' => exact .cons (step head head') (ih tail')

namespace Accounted

/-- Nothing happened. -/
theorem refl (streams : List Stream) : Accounted streams streams [] :=
  ⟨streams, [], by simp, List.forall₂_same.2 fun s _ => .refl s, .nil⟩

/-- A stream that is used goes on being held. -/
theorem use {first later : Stream} (h : first.InUse later) : Accounted [first] [later] [] :=
  ⟨[first], [], .refl _, .cons h .nil, .nil⟩

/-- A stream that is closed for good is no longer held. -/
theorem finish {first last : Stream} (h : first.Finished last) : Accounted [first] [] [last] :=
  ⟨[], [first], .refl _, .nil, .cons h .nil⟩

/-- The ledger goes on: what was held, and what came then, is accounted for later. -/
theorem trans {came came' held held' released released' : List Stream}
    (h : Accounted came held released) (h' : Accounted (held ++ came') held' released') :
    Accounted (came ++ came') held' (released ++ released') := by
  obtain ⟨kept, gone, perm, inUse, finished⟩ := h
  obtain ⟨kept', gone', perm', inUse', finished'⟩ := h'
  have used : List.Forall₂ Stream.InUse (kept ++ came') (held ++ came') :=
    List.rel_append inUse (List.forall₂_same.2 fun s _ => .refl s)
  -- the streams of the second part, as they were at the beginning of the first
  obtain ⟨before, order, usedBefore⟩ :
      Relation.Comp List.Perm (List.Forall₂ Stream.InUse) (kept ++ came') (kept' ++ gone') := by
    rw [← List.forall₂_comp_perm_eq_perm_comp_forall₂]
    exact ⟨_, used, perm'.symm⟩
  have usedKept := List.forall₂_take_append _ _ _ usedBefore
  have usedGone := List.forall₂_drop_append _ _ _ usedBefore
  refine ⟨before.take kept'.length, gone ++ before.drop kept'.length, ?_,
    forall₂_trans @Stream.InUse.trans usedKept inUse',
    List.rel_append finished (forall₂_trans @Stream.InUse.finished usedGone finished')⟩
  calc
    before.take kept'.length ++ (gone ++ before.drop kept'.length)
      ~ gone ++ (before.take kept'.length ++ before.drop kept'.length) :=
        List.perm_append_comm_assoc _ _ _
    _ = gone ++ before := by rw [List.take_append_drop]
    _ ~ gone ++ (kept ++ came') := .append_left _ order.symm
    _ ~ kept ++ (gone ++ came') := List.perm_append_comm_assoc _ _ _
    _ = kept ++ gone ++ came' := (List.append_assoc _ _ _).symm
    _ ~ came ++ came' := .append_right _ perm

/-- The ledger goes on while nothing comes in. -/
theorem next {came held held' released released' : List Stream} (h : Accounted came held released)
    (h' : Accounted held held' released') : Accounted came held' (released ++ released') := by
  rw [← List.append_nil held] at h'
  simpa only [List.append_nil] using h.trans h'

/-- Once everything was let go of, what comes in is all that is held. -/
theorem refill {came released : List Stream} (h : Accounted came [] released)
    (more : List Stream) : Accounted (came ++ more) more released := by
  have kept : Accounted ([] ++ more) more [] := .refl more
  simpa only [List.append_nil] using h.trans kept

end Accounted

/-! ## operations that keep the ledger -/

/-- Values that own streams. -/
class Owner (σ : Type) where
  streams : σ → List Stream

open Owner (streams)

namespace Operation

variable {σ τ α β : Type} [Owner σ] [Owner τ]

/-- Whatever its state, a call accounts for the streams that its value owned, and for those that it
brings in. -/
def Accounts (op : Operation σ α) (brought : List Stream) : Prop :=
  ∀ state, Accounted (streams state ++ brought) (streams (op.run state).state)
    (op.run state).trail.released

namespace Accounts

/-- A call that leaves the streams alone. -/
theorem of_same {op : Operation σ α} (same : ∀ state, streams (op.run state).state = streams state)
    (quiet : ∀ state, (op.run state).trail.released = []) : Accounts op [] := by
  intro state
  rw [same, quiet, List.append_nil]
  exact .refl _

theorem pure (a : α) : Accounts (pure a : Operation σ α) [] :=
  of_same (fun _ => rfl) fun _ => rfl

theorem log (event : Event) : Accounts (log event : Operation σ Unit) [] :=
  of_same (fun _ => rfl) fun _ => rfl

/-- Of two calls the first brings in some streams and the second others. -/
theorem bind {op : Operation σ α} {next : α → Operation σ β} {first second : List Stream}
    (h : Accounts op first) (h' : ∀ a, Accounts (next a) second) :
    Accounts (op >>= next) (first ++ second) := by
  intro state
  rw [← List.append_assoc]
  exact (h state).trans (h' _ _)

/-- A call that brings nothing in comes before another one. -/
theorem before {op : Operation σ α} {next : α → Operation σ β} {brought : List Stream}
    (h : Accounts op []) (h' : ∀ a, Accounts (next a) brought) : Accounts (op >>= next) brought :=
  bind h h'

theorem map {op : Operation σ α} {brought : List Stream} (f : α → β) (h : Accounts op brought) :
    Accounts (f <$> op) brought := by
  intro state
  rw [run_map]
  exact h state

/-- A call on a part that holds the streams of the whole. -/
theorem zoom {part : σ → τ} {put : τ → σ → σ} {op : Operation τ α} {brought : List Stream}
    (h : Accounts op brought) (hpart : ∀ state, streams (part state) = streams state)
    (hput : ∀ inner state, streams (put inner state) = streams inner) :
    Accounts (zoom part put op) brought := by
  intro state
  rw [run_zoom, ← hpart, hput]
  exact h _

theorem each {ι : Type} {op : ι → Operation σ α} {brought : ι → List Stream}
    (h : ∀ i, Accounts (op i) (brought i)) (is : List ι) :
    Accounts (each op is) (is.flatMap brought) := by
  induction is with
  | nil => exact pure []
  | cons i rest ih =>
    rw [List.flatMap_cons]
    refine bind (h i) fun a => ?_
    have more := bind ih fun as => pure (a :: as)
    rwa [List.append_nil] at more

/-- Writing all of some data is a run of writes, which account for the streams one by one. -/
theorem writeAll [Sink σ] (h : ∀ data, Accounts (Sink.write data : Operation σ _) [])
    (data : Bytes) : Accounts (fun state : σ => Sink.writeAll data state) [] := by
  intro state
  rw [List.append_nil]
  refine Sink.writeAll_along (R := fun before _ after trail =>
    Accounted (streams before) (streams after) trail.released) (fun state => .refl _)
    (fun data state => ?_) (fun first second => first.next second) data state
  simpa only [List.append_nil] using h data state

end Accounts

end Operation

end Reply
