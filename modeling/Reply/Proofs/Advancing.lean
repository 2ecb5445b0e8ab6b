import Mathlib.Algebra.BigOperators.Group.List.Basic
import Mathlib.Algebra.GroupWithZero.Nat
import Reply.Response.Basic

/-!
# Reply.Proofs.Advancing

What a run of counts makes of a payload size.

1. Lengths are held at the greatest word, but the threshold is far below that: a
   count gives the exact sum or an unknown length (`advance_known_eq`).
2. So two counts in a row come to what one of both does (`advance_advance`), and a
   run of counts to what their sum does (`foldl_advance`).  Neither the order of the
   counts nor their grouping is seen.
3. The crossing of the threshold is logged by the count that reaches it, and by no
   count behind that one (`log_each_account_known`, `log_each_account_chunked`).
-/

namespace Reply

namespace PayloadSize

/-! ## sums -/

/-- Holding the length back does not hide that it reaches the threshold. -/
theorem chunkThreshold_le_total_iff {length written : Nat} :
    chunkThreshold ≤ total length written ↔ chunkThreshold ≤ length + written := by
  simp only [total, chunkThreshold, maxLength, UInt64.size]
  omega

/-- Below the threshold nothing is held back. -/
theorem total_of_lt {length written : Nat} (below : length + written < chunkThreshold) :
    total length written = length + written := by
  simp only [total, chunkThreshold, maxLength, UInt64.size] at below ⊢
  omega

theorem advance_known_eq (length written : Nat) :
    (known length).advance written =
      if chunkThreshold ≤ length + written then chunked else known (length + written) := by
  simp only [advance, chunkThreshold_le_total_iff]
  split
  · rfl
  · rename_i below
    rw [total_of_lt (by omega)]

/-- Two counts in a row are one count of both. -/
theorem advance_advance (size : PayloadSize) (a b : Nat) :
    (size.advance a).advance b = size.advance (a + b) := by
  cases size with
  | chunked => rfl
  | known length =>
    rw [advance_known_eq, advance_known_eq, ← Nat.add_assoc]
    by_cases reached : chunkThreshold ≤ length + a
    · rw [if_pos reached, if_pos (by omega)]
      rfl
    · rw [if_neg reached, advance_known_eq]

/-- A run of counts is one count of their sum. -/
theorem foldl_advance (size : PayloadSize) {counts : List Nat} (some : counts ≠ []) :
    counts.foldl advance size = size.advance counts.sum := by
  induction counts generalizing size with
  | nil => exact absurd rfl some
  | cons count rest ih =>
    rw [List.foldl_cons, List.sum_cons]
    by_cases last : rest = []
    · rw [last]
      rfl
    · rw [ih _ last, advance_advance]

/-- The signed form says -1 for no length that is still known after a count. -/
theorem signed_advance (size : PayloadSize) (written : Nat) :
    ((size.advance written).signed = -1 ↔ size.advance written = chunked) ∧
      ∀ length, size.advance written = known length → (size.advance written).signed = length := by
  cases size with
  | chunked => exact ⟨iff_of_true rfl rfl, nofun⟩
  | known length =>
    rw [advance_known_eq]
    by_cases reached : chunkThreshold ≤ length + written
    · rw [if_pos reached]
      exact ⟨iff_of_true rfl rfl, nofun⟩
    · have fits : length + written ≤ maxSigned := by
        simp only [chunkThreshold, maxSigned] at reached ⊢
        omega
      rw [if_neg reached, signed, if_pos fits]
      refine ⟨iff_of_false (by omega) nofun, ?_⟩
      rintro _ ⟨⟩
      rfl

end PayloadSize

/-! ## what is logged -/

namespace Response

open PayloadSize (chunkThreshold total advance_known_eq chunkThreshold_le_total_iff)

/-- A run of counts changes the payload size alone. -/
theorem state_each_account (counts : List Nat) (r : Response) :
    ((Operation.each account counts).run r).state =
      { r with size := counts.foldl PayloadSize.advance r.size } := by
  induction counts generalizing r with
  | nil => rfl
  | cons count rest ih =>
    rw [Operation.run_each_cons, ih, run_account]
    rfl

/-- An unknown length crosses nothing. -/
theorem log_each_account_chunked (counts : List Nat) {r : Response} (unknown : r.size = .chunked) :
    ((Operation.each account counts).run r).trail.log = [] := by
  induction counts generalizing r with
  | nil => rfl
  | cons count rest ih =>
    have still : r.size.advance count = .chunked := by rw [unknown]; rfl
    simp only [Operation.run_each_cons, run_account, Trail.log_append]
    rw [ih still, unknown]
    rfl

/-- What is logged of these counts, which bring a payload from one size to another: if the length
was known and is not any more, the crossing, once, by the count that reached the threshold. -/
def CrossingLogged (start : PayloadSize) (counts : List Nat) (reached : PayloadSize)
    (log : List Event) : Prop :=
  match start, reached with
  | .known length, .chunked =>
    ∃ before count behind, counts = before ++ count :: behind ∧
      before.foldl PayloadSize.advance start = .known (length + before.sum) ∧
      chunkThreshold ≤ length + before.sum + count ∧
      log = [.thresholdCrossed (total (length + before.sum) count)]
  | _, _ => log = []

section Known

variable {r : Response} {length count : Nat} (start : r.size = .known length)
include start

/-- The count that reaches the threshold. -/
theorem run_account_reached (reached : chunkThreshold ≤ length + count) :
    (account count).run r =
      ⟨(), { r with size := .chunked }, { log := [.thresholdCrossed (total length count)] }⟩ := by
  rw [run_account, start, advance_known_eq, if_pos reached, PayloadSize.crossing?,
    if_pos (chunkThreshold_le_total_iff.2 reached)]
  rfl

/-- A count that does not. -/
theorem run_account_below (below : ¬chunkThreshold ≤ length + count) :
    (account count).run r = ⟨(), { r with size := .known (length + count) }, {}⟩ := by
  rw [run_account, start, advance_known_eq, if_neg below, PayloadSize.crossing?,
    if_neg (mt chunkThreshold_le_total_iff.1 below)]
  rfl

end Known

/-- A count below the threshold in front of the others logs nothing more. -/
theorem CrossingLogged.cons {length count : Nat} {rest : List Nat} {reached : PayloadSize}
    {log : List Event} (below : ¬chunkThreshold ≤ length + count)
    (logged : CrossingLogged (.known (length + count)) rest reached log) :
    CrossingLogged (.known length) (count :: rest) reached log := by
  cases reached with
  | known => exact logged
  | chunked =>
    obtain ⟨before, crossing, behind, rfl, unreached, reached, log⟩ := logged
    have sum : length + count + before.sum = length + (count :: before).sum := by
      rw [List.sum_cons, Nat.add_assoc]
    rw [sum] at unreached reached log
    refine ⟨count :: before, crossing, behind, rfl, ?_, reached, log⟩
    rw [List.foldl_cons, advance_known_eq, if_neg below, unreached]

theorem crossingLogged_each_account (counts : List Nat) (r : Response) :
    let outcome := (Operation.each account counts).run r
    CrossingLogged r.size counts outcome.state.size outcome.trail.log := by
  dsimp only
  cases start : r.size with
  | chunked => exact log_each_account_chunked counts start
  | known length =>
    induction counts generalizing r length with
    | nil =>
      rw [Operation.run_each_nil]
      dsimp only
      rw [start]
      rfl
    | cons count rest ih =>
      rw [Operation.run_each_cons]
      by_cases reached : chunkThreshold ≤ length + count
      · -- From here on the length is unknown, and no count behind this one logs anything.
        rw [run_account_reached start reached, state_each_account]
        dsimp only
        rw [List.foldl_fixed' (fun _ => rfl), Trail.log_append, log_each_account_chunked rest rfl]
        exact ⟨[], count, rest, rfl, rfl, reached, rfl⟩
      · rw [run_account_below start reached]
        exact .cons reached (ih _ _ rfl)

/-! ## the arithmetic of a payload -/

/-- What these counts make of a payload size, and what they log. -/
structure Counted (start : PayloadSize) (counts : List Nat) (reached : PayloadSize)
    (log : List Event) : Prop where
  /-- The exact sum, as long as it is below the threshold. -/
  sum : reached = match start with
    | .chunked => .chunked
    | .known length =>
      if chunkThreshold ≤ length + counts.sum then .chunked else .known (length + counts.sum)
  order : ∀ other : List Nat, other.Perm counts → other.foldl PayloadSize.advance start = reached
  grouping : ∀ groups : List (List Nat), groups.flatten = counts →
    (groups.map List.sum).foldl PayloadSize.advance start = reached
  /-- An unknown length stays unknown. -/
  sticky : reached = .chunked →
    ∀ more, (counts ++ more).foldl PayloadSize.advance start = .chunked
  crossing : CrossingLogged start counts reached log
  signed_eq : reached.signed = -1 ↔ reached = .chunked
  signed_known : ∀ length, reached = .known length → reached.signed = length

/-- **Payload arithmetic**: a run of counts, of which there is at least one, comes to their exact
sum, or to an unknown length once that sum reaches the threshold, in whatever order and however
grouped.  The crossing is logged once.  The signed form tells the two apart. -/
theorem counts_add_up (r : Response) {counts : List Nat} (some : counts ≠ []) :
    let outcome := (Operation.each account counts).run r
    outcome.state = { r with size := counts.foldl PayloadSize.advance r.size } ∧
      Counted r.size counts outcome.state.size outcome.trail.log := by
  intro outcome
  have left : outcome.state = { r with size := counts.foldl PayloadSize.advance r.size } :=
    state_each_account counts r
  have reached : outcome.state.size = r.size.advance counts.sum := by
    rw [left, ← PayloadSize.foldl_advance r.size some]
  have sums {other : List Nat} (any : other ≠ []) (sum : other.sum = counts.sum) :
      other.foldl PayloadSize.advance r.size = outcome.state.size := by
    rw [PayloadSize.foldl_advance r.size any, sum, reached]
  have signed := PayloadSize.signed_advance r.size counts.sum
  rw [← reached] at signed
  refine ⟨left, {
    sum := ?_
    order := fun other perm => sums ?_ perm.sum_eq
    grouping := fun groups whole => ?_
    sticky := fun unknown more => ?_
    crossing := crossingLogged_each_account counts r
    signed_eq := signed.1
    signed_known := signed.2 }⟩
  · rw [reached]
    cases r.size with
    | chunked => rfl
    | known length => exact advance_known_eq length counts.sum
  · rintro rfl
    exact some perm.nil_eq.symm
  · refine sums (fun none => some ?_) (by rw [← whole, List.sum_flatten])
    rw [← whole, List.map_eq_nil_iff.1 none]
    rfl
  · rw [List.foldl_append, sums some rfl, unknown, List.foldl_fixed' fun _ => rfl]

/-- Ten bytes before the threshold: the third count reaches it, and the one behind adds nothing. -/
theorem counts_add_up_crossing :
    let r : Response := { size := .known 4999990 }
    let counts := [4, 0, 6, 2]
    let outcome := (Operation.each account counts).run r
    counts ≠ [] ∧ Counted r.size counts outcome.state.size outcome.trail.log ∧
      outcome.state.size = .chunked ∧ outcome.trail.log.map Event.render =
        ["DEBUG payload crossed chunk threshold, switch to chunked total=5000000 " ++
          "threshold=5000000"] := by
  intro r counts outcome
  have some : counts ≠ [] := by decide
  exact ⟨some, (counts_add_up r some).2, rfl, rfl⟩

end Response

end Reply
