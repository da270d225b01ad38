import Mathlib.Algebra.Group.Nat.Defs
import LatchMutex.Matrix.Report

namespace LatchMutex

/-!
# Tallies of reports

A report goes through its rows once and counts each of them under the label of its
discipline, where totals are started for a label that no row had before.  What the
totals come to is an invariant of that loop: after some rows there are totals for just
the labels of these, and the totals of a label count the rows that have it
(`MatrixReport.Tallies`).
-/

namespace KindTotals

/-- What totals say of the rows that they are of; a model-only row counts as passed too. -/
structure Counts (totals : KindTotals) (rows : List MatrixCase) : Prop where
  total : totals.total.toNat = rows.length
  passed : totals.passed.toNat = rows.countP fun row => row.status ≠ .mismatch
  mismatched : totals.mismatched.toNat = rows.countP fun row => row.status = .mismatch
  modelOnly : totals.modelOnly.toNat = rows.countP fun row => row.status = .modelOnly

variable {totals : KindTotals} {rows : List MatrixCase} {row : MatrixCase}

@[simp] theorem count_mutexKind (totals : KindTotals) (row : MatrixCase) :
    (totals.count row).mutexKind = totals.mutexKind := by
  unfold count
  split <;> rfl

/-- A row that is no mismatch leaves the mismatches alone. -/
theorem count_mismatched
    (matching : row.status ≠ .mismatch)
    (totals : KindTotals) :
    (totals.count row).mismatched = totals.mismatched := by
  unfold count
  split
  case h_2 mismatch => exact absurd mismatch matching
  all_goals rfl

/-- Totals that are started count no row. -/
theorem counts_starting (label : String) : (starting label).Counts [] :=
  ⟨rfl, rfl, rfl, rfl⟩

/-- One more fits a word where the count afterwards does. -/
theorem toNat_add_one {word : UInt64} (fits : word.toNat + 1 < 2 ^ 64) :
    (word + 1).toNat = word.toNat + 1 :=
  (UInt64.toNat_add word 1).trans (Nat.mod_eq_of_lt fits)

/-- Totals that count a row more count the rows with this one. -/
theorem Counts.count
    (counts : totals.Counts rows)
    (fits : (rows ++ [row]).length < 2 ^ 64) :
    (totals.count row).Counts (rows ++ [row]) := by
  rw [List.length_append, List.length_singleton] at fits
  have total : (totals.total + 1).toNat = totals.total.toNat + 1 :=
    toNat_add_one (by rwa [counts.total])
  have oneMore
      {word : UInt64}
      {kind : MatrixCase → Bool}
      (reads : word.toNat = rows.countP kind) :
      (word + 1).toNat = word.toNat + 1 := by
    apply toNat_add_one
    rw [reads]
    exact Nat.lt_of_le_of_lt (Nat.succ_le_succ List.countP_le_length) fits
  have passed := oneMore counts.passed
  have mismatched := oneMore counts.mismatched
  have modelOnly := oneMore counts.modelOnly
  obtain ⟨totalIs, passedIs, mismatchedIs, modelOnlyIs⟩ := counts
  unfold KindTotals.count
  cases status : row.status <;>
    constructor <;>
      simp [List.countP_append, status, total, passed, mismatched, modelOnly, totalIs, passedIs,
        mismatchedIs, modelOnlyIs]

end KindTotals

namespace MatrixReport

variable {buckets : OrderedMap KindTotals} {cases rows : List MatrixCase} {row : MatrixCase}

/-- The totals of the rows so far: some for each label of a row, which count the rows with it. -/
structure Tallies (buckets : OrderedMap KindTotals) (rows : List MatrixCase) : Prop where
  labels : ∀ label, label ∈ buckets.keys ↔ ∃ row ∈ rows, row.mutexKind = label
  named : ∀ label totals, buckets.find? label = some totals → totals.mutexKind = label
  counts :
    rows.length < 2 ^ 64 →
      ∀ label totals,
        buckets.find? label = some totals →
          totals.Counts (rows.filter fun row => row.mutexKind = label)

/-- What totals count for a label before the next row, started or not. -/
theorem Tallies.counts_getD
    (tallies : Tallies buckets rows)
    (fits : rows.length < 2 ^ 64)
    (label : String) :
    ((buckets.find? label).getD (.starting label)).Counts
      (rows.filter fun row => row.mutexKind = label) := by
  cases there : buckets.find? label with
  | some totals =>
      exact tallies.counts fits label totals there
  | none =>
      have unnamed : rows.filter (fun row => row.mutexKind = label) = [] := by
        rw [List.filter_eq_nil_iff]
        intro row member
        rw [decide_eq_true_eq]
        intro named
        have entered := (tallies.labels label).mpr ⟨row, member, named⟩
        simp [OrderedMap.mem_keys, there] at entered
      rw [unnamed]
      exact KindTotals.counts_starting label

/-- Totals are named as they are entered, and come in the order of their names. -/
theorem Tallies.map_mutexKind (tallies : Tallies buckets rows) :
    buckets.values.map KindTotals.mutexKind = buckets.keys := by
  rw [OrderedMap.values, OrderedMap.keys, List.map_map]
  refine List.map_congr_left fun entry member => ?_
  exact tallies.named entry.1 entry.2 (OrderedMap.find?_eq_some_iff.mpr member)

/-- One turn of the loop. -/
theorem Tallies.tally (tallies : Tallies buckets rows) (row : MatrixCase) :
    Tallies (tally buckets row) (rows ++ [row]) := by
  constructor
  case labels =>
    intro label
    by_cases same : label = row.mutexKind
    · simp [MatrixReport.tally, OrderedMap.mem_keys, same]
    · have before := tallies.labels label
      rw [OrderedMap.mem_keys] at before ⊢
      rw [MatrixReport.tally, OrderedMap.find?_alter_of_ne _ same, before]
      simp [Ne.symm same]
  case named =>
    exact OrderedMap.forall_find?_alter tallies.named rfl fun totals named =>
      (totals.count_mutexKind row).trans named
  case counts =>
    intro fits label totals there
    have fitsBefore : rows.length < 2 ^ 64 := by
      rw [List.length_append] at fits
      omega
    rw [List.filter_append]
    by_cases same : label = row.mutexKind
    · subst same
      rw [MatrixReport.tally, OrderedMap.find?_alter_self, Option.some.injEq] at there
      have own : [row].filter (fun other => other.mutexKind = row.mutexKind) = [row] := by
        simp
      rw [← there, own]
      refine (tallies.counts_getD fitsBefore row.mutexKind).count (Nat.lt_of_le_of_lt ?_ fits)
      simp only [List.length_append, List.length_singleton]
      exact Nat.succ_le_succ (List.length_filter_le _ _)
    · rw [MatrixReport.tally, OrderedMap.find?_alter_of_ne _ same] at there
      have other : [row].filter (fun row => row.mutexKind = label) = [] := by
        simp [Ne.symm same]
      rw [other, List.append_nil]
      exact tallies.counts fitsBefore label totals there

/-- The whole loop, by induction on the rows that it has gone through. -/
theorem tallies_bucketsOf (cases : List MatrixCase) : Tallies (bucketsOf cases) cases := by
  suffices loop :
      ∀ buckets rows, Tallies buckets rows → Tallies (cases.foldl tally buckets) (rows ++ cases) by
    refine loop .empty [] ⟨by simp [OrderedMap.mem_keys], ?_, ?_⟩ <;> simp
  induction cases with
  | nil =>
      intro buckets rows tallies
      simpa using tallies
  | cons row rest inductionHypothesis =>
      intro buckets rows tallies
      simpa using inductionHypothesis _ _ (tallies.tally row)

/-- What started totals have and counting a row keeps, the totals of every discipline have. -/
theorem forall_totals_of_count
    {holds : KindTotals → Prop}
    (starting : ∀ label, holds (.starting label))
    (count : ∀ row ∈ cases, ∀ totals, holds totals → holds (totals.count row)) :
    ∀ totals ∈ (bucketsOf cases).values, holds totals := by
  suffices loop :
      ∀ buckets : OrderedMap KindTotals,
        (∀ label totals, buckets.find? label = some totals → holds totals) →
          ∀ label totals, (cases.foldl tally buckets).find? label = some totals → holds totals by
    intro totals member
    obtain ⟨label, there⟩ := OrderedMap.mem_values.mp member
    exact loop .empty (by simp) label totals there
  induction cases with
  | nil =>
      exact fun buckets holding => holding
  | cons row rest inductionHypothesis =>
      obtain ⟨countRow, countRest⟩ := List.forall_mem_cons.mp count
      intro buckets holding
      have next : ∀ label totals, (tally buckets row).find? label = some totals → holds totals :=
        OrderedMap.forall_find?_alter holding (starting row.mutexKind) countRow
      exact inductionHypothesis countRest _ next

end MatrixReport

end LatchMutex
