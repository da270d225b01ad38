import Mathlib.Algebra.BigOperators.Group.List.Basic
import Mathlib.Algebra.GroupWithZero.Nat
import LatchMutex.Proofs.MatrixRuns

namespace LatchMutex

/-!
# Totals of matrix reports

A report counts its rows by the labels of their disciplines, and adds up what it has
counted.  The rows come from cells, in the order of these, and a row is not counted
for what was observed of its cell but by what came out.  So the totals are the same
sums over the cells, over the rows and over the disciplines, and they tell apart the
same rows as the list of mismatches does.
-/

namespace MatrixCase

/-- A row of a cell: what was observed, or only what is expected where the call never returns. -/
inductive Records : MatrixCell → MatrixCase → Prop where
  | expected
      {cell : MatrixCell}
      (endless : cell.isModelOnly = true) :
      Records cell (expecting cell)
  | observed
      {cell : MatrixCell}
      (returns : cell.isModelOnly = false)
      (observed : Observation) :
      Records cell (observing cell observed)

/-- Labels of the discipline, the state and the operation. -/
def labels (row : MatrixCase) : String × String × String :=
  (row.mutexKind, row.oldState, row.operation)

namespace Records

variable {cell : MatrixCell} {row : MatrixCase}

/-- Whatever becomes a row of a cell is one. -/
theorem of_ofCell
    {timing : Timing}
    (made : ofCell timing cell = .ok row) :
    Records cell row := by
  unfold ofCell at made
  split at made
  · rename_i endless
    cases made
    exact .expected endless
  · rename_i returns
    cases observes : cell.observe timing with
    | error failure =>
        rw [observes] at made
        contradiction
    | ok observed =>
        rw [observes] at made
        cases made
        exact .observed (by simpa using returns) observed

theorem labels_eq (records : Records cell row) :
    row.labels = (cell.kind.label, cell.state.label, cell.operation.label) := by
  cases records <;> rfl

theorem mutexKind (records : Records cell row) : row.mutexKind = cell.kind.label :=
  congrArg Prod.fst records.labels_eq

/-- Only a call that never returns is checked against the contract alone. -/
theorem modelOnly_iff (records : Records cell row) :
    row.status = .modelOnly ↔ cell.isModelOnly = true := by
  cases records with
  | expected endless =>
      exact iff_of_true rfl endless
  | observed returns observed =>
      refine iff_of_false ?_ (by simp [returns])
      unfold observing
      dsimp only
      split <;> simp

end Records

end MatrixCase

namespace MatrixCell

variable {kind : Kind}

theorem length_ofKind (kind : Kind) : (ofKind kind).length = 30 :=
  rfl

theorem kind_of_mem_ofKind {cell : MatrixCell} (member : cell ∈ ofKind kind) :
    cell.kind = kind := by
  obtain ⟨state, -, member⟩ := List.mem_flatMap.mp member
  obtain ⟨operation, -, rfl⟩ := List.mem_map.mp member
  rfl

/-- The cells of a discipline are labeled by it, and there are some. -/
theorem exists_mem_ofKind {label : String} :
    (∃ cell ∈ ofKind kind, cell.kind.label = label) ↔ kind.label = label := by
  constructor
  · rintro ⟨cell, member, rfl⟩
    rw [kind_of_mem_ofKind member]
  · rintro rfl
    exact ⟨⟨kind, .uninitialized, .init⟩, List.mem_cons_self, rfl⟩

/-- Only the normal discipline has a cell whose call never returns, and it has one. -/
theorem countP_isModelOnly (kind : Kind) :
    (ofKind kind).countP isModelOnly = if kind = .normal then 1 else 0 := by
  cases kind <;> decide

/-- Labels tell the disciplines of cells apart. -/
theorem countP_label (counted kind : Kind) :
    (ofKind kind).countP (fun cell => cell.kind.label = counted.label) =
      if kind = counted then 30 else 0 := by
  cases counted <;> cases kind <;> decide

end MatrixCell

/-- Items that are related count alike if the one counts where the other does. -/
theorem countP_eq_of_forall₂
    {Item Partner : Type}
    {relates : Item → Partner → Prop}
    {items : List Item}
    {partners : List Partner}
    (related : List.Forall₂ relates items partners)
    {counts : Item → Bool}
    {countsToo : Partner → Bool}
    (alike : ∀ item partner, relates item partner → counts item = countsToo partner) :
    items.countP counts = partners.countP countsToo := by
  induction related with
  | nil =>
      rfl
  | cons first later inductionHypothesis =>
      rw [List.countP_cons, List.countP_cons, inductionHypothesis, alike _ _ first]

/-- What every part of a list brings for itself and for no other, the whole list brings. -/
theorem countP_flatMap_ofKind
    {counts : MatrixCell → Bool}
    {share : Nat}
    {chosen : Kind}
    (each : ∀ kind, (MatrixCell.ofKind kind).countP counts = if kind = chosen then share else 0)
    (kinds : List Kind) :
    (kinds.flatMap MatrixCell.ofKind).countP counts = share * kinds.count chosen := by
  induction kinds with
  | nil =>
      rfl
  | cons kind rest inductionHypothesis =>
      rw [List.flatMap_cons, List.countP_append, inductionHypothesis, each, List.count_cons]
      by_cases same : kind = chosen
      · simp [same, Nat.mul_add, Nat.add_comm]
      · simp [same]

namespace MatrixReport

/-- Every row is counted under its own label and no other, so the counts add up. -/
theorem sum_countP_labels
    {cases : List MatrixCase}
    {labels : List String}
    (distinct : labels.Nodup)
    (covers : ∀ row ∈ cases, row.mutexKind ∈ labels)
    (counts : MatrixCase → Bool) :
    (labels.map fun label =>
        (cases.filter fun row => row.mutexKind = label).countP counts).sum =
      cases.countP counts := by
  induction cases with
  | nil =>
      simp
  | cons row rest inductionHypothesis =>
      obtain ⟨covered, coversRest⟩ := List.forall_mem_cons.mp covers
      have single (amount : Nat) :
          (labels.map fun label => if row.mutexKind = label then amount else 0).sum = amount := by
        rw [List.sum_map_eq_nsmul_single row.mutexKind]
        · simp [distinct.count, covered]
        · intro label other _
          simp [Ne.symm other]
      have split (label : String) :
          ((row :: rest).filter fun row => row.mutexKind = label).countP counts =
            (rest.filter fun row => row.mutexKind = label).countP counts +
              if row.mutexKind = label then (if counts row then 1 else 0) else 0 := by
        by_cases same : row.mutexKind = label
        · simp [same, List.countP_cons]
        · simp [same]
      simp only [split, List.sum_map_add, inductionHypothesis coversRest, single, List.countP_cons]

end MatrixReport

namespace KindTotals

/-- Every row has passed or mismatches, and a model-only row has passed. -/
theorem countP_status (rows : List MatrixCase) :
    rows.countP (fun row => row.status ≠ .mismatch) =
        rows.countP (fun row => row.status = .ok) +
          rows.countP (fun row => row.status = .modelOnly) ∧
      rows.countP (fun row => row.status ≠ .mismatch) +
          rows.countP (fun row => row.status = .mismatch) =
        rows.length := by
  induction rows with
  | nil =>
      simp
  | cons row rest inductionHypothesis =>
      obtain ⟨split, all⟩ := inductionHypothesis
      simp only [List.countP_cons, List.length_cons]
      rw [split] at all ⊢
      cases row.status <;> simp only [← all] <;> simp <;> omega

end KindTotals

/-- A sum of words that fits a word is that word. -/
theorem MatrixSummary.toNat_sumOf
    {field : KindTotals → UInt64}
    {kinds : List KindTotals}
    (fits : (kinds.map fun totals => (field totals).toNat).sum < 2 ^ 64) :
    (sumOf field kinds).toNat = (kinds.map fun totals => (field totals).toNat).sum := by
  induction kinds with
  | nil =>
      rfl
  | cons totals rest inductionHypothesis =>
      rw [List.map_cons, List.sum_cons] at fits ⊢
      have later := inductionHypothesis (by omega)
      rw [← later] at fits ⊢
      exact (UInt64.toNat_add _ _).trans (Nat.mod_eq_of_lt fits)

namespace MatrixReport

/-- A report on the cells of some disciplines, whatever was observed of them. -/
inductive IsReportOn (kinds : List Kind) : MatrixReport → Prop where
  | ofRows
      {cases : List MatrixCase}
      (mode : SafetyLevel)
      (records : List.Forall₂ MatrixCase.Records (kinds.flatMap MatrixCell.ofKind) cases) :
      IsReportOn kinds (ofCases mode cases)

/-- The rows of a report on some disciplines, and what it has totals of. -/
structure Covers (report : MatrixReport) (kinds : List Kind) : Prop where
  size : report.cases.length = 30 * kinds.length
  /-- By discipline as listed, then by state, then by operation. -/
  cases :
    report.cases.map MatrixCase.labels =
      kinds.flatMap fun kind =>
        ContractState.all.flatMap fun state =>
          ContractOperation.all.map fun operation => (kind.label, state.label, operation.label)
  ascending : (report.kinds.map KindTotals.mutexKind).Pairwise (· < ·)
  labels :
    ∀ label,
      label ∈ report.kinds.map KindTotals.mutexKind ↔ ∃ kind ∈ kinds, kind.label = label

/-- What the totals of a report on some disciplines say of its rows and of each other. -/
structure Balances (report : MatrixReport) (kinds : List Kind) : Prop where
  counts :
    ∀ totals ∈ report.kinds,
      totals.Counts (report.cases.filter fun row => row.mutexKind = totals.mutexKind)
  total :
    ∀ totals ∈ report.kinds, ∀ kind : Kind,
      totals.mutexKind = kind.label → totals.total.toNat = 30 * kinds.count kind
  balanced :
    ∀ totals ∈ report.kinds,
      totals.passed.toNat + totals.mismatched.toNat = totals.total.toNat ∧
        totals.modelOnly.toNat ≤ totals.passed.toNat
  sums :
    report.summary.total.toNat = (report.kinds.map fun totals => totals.total.toNat).sum ∧
      report.summary.passed.toNat = (report.kinds.map fun totals => totals.passed.toNat).sum ∧
      report.summary.mismatched.toNat =
        (report.kinds.map fun totals => totals.mismatched.toNat).sum ∧
      report.summary.modelOnly.toNat =
        (report.kinds.map fun totals => totals.modelOnly.toNat).sum
  summary :
    report.summary.passed.toNat + report.summary.mismatched.toNat = report.summary.total.toNat ∧
      report.summary.modelOnly.toNat ≤ report.summary.passed.toNat
  modelOnly : report.summary.modelOnly.toNat = kinds.count .normal
  mismatches : report.mismatches.length = report.summary.mismatched.toNat
  allPassed : report.allPassed = true ↔ report.mismatches = []

variable {kinds : List Kind} {cases : List MatrixCase} {mode : SafetyLevel}

/-- A report that is built is one on the disciplines that were asked for. -/
theorem isReportOn_of_build
    {timing : Timing}
    {report : MatrixReport}
    (builds : build mode timing kinds = .ok report) :
    report.IsReportOn kinds := by
  have recorded (cell : MatrixCell) :
      ∃ row, MatrixCase.ofCell timing cell = .ok row ∧ MatrixCase.Records cell row := by
    obtain ⟨row, made, -⟩ := MatrixCase.ofCell_reports timing cell
    exact ⟨row, made, .of_ofCell made⟩
  obtain ⟨cases, maps, records⟩ := mapM_ok_forall₂ recorded (kinds.flatMap MatrixCell.ofKind)
  rw [build, maps] at builds
  cases builds
  exact .ofRows mode records

/-- Rows of cells are labeled like them, in the order of the cells. -/
theorem labels_of_records
    {cells : List MatrixCell}
    (records : List.Forall₂ MatrixCase.Records cells cases) :
    cases.map MatrixCase.labels =
      cells.map fun cell => (cell.kind.label, cell.state.label, cell.operation.label) := by
  induction records with
  | nil =>
      rfl
  | cons first later inductionHypothesis =>
      rw [List.map_cons, List.map_cons, first.labels_eq, inductionHypothesis]

/-- The rows of a report on some disciplines are labeled by just these. -/
theorem exists_row_iff
    (records : List.Forall₂ MatrixCase.Records (kinds.flatMap MatrixCell.ofKind) cases)
    {label : String} :
    (∃ row ∈ cases, row.mutexKind = label) ↔ ∃ kind ∈ kinds, kind.label = label := by
  have named :
      cases.map MatrixCase.mutexKind =
        (kinds.flatMap MatrixCell.ofKind).map fun cell => cell.kind.label := by
    simpa [Function.comp_def, MatrixCase.labels] using
      congrArg (List.map Prod.fst) (labels_of_records records)
  calc (∃ row ∈ cases, row.mutexKind = label)
    _ ↔ label ∈ cases.map MatrixCase.mutexKind := List.mem_map.symm
    _ ↔ ∃ kind ∈ kinds, ∃ cell ∈ MatrixCell.ofKind kind, cell.kind.label = label := by
        rw [named, List.map_flatMap, List.mem_flatMap]
        simp only [List.mem_map]
    _ ↔ ∃ kind ∈ kinds, kind.label = label := by
        simp only [MatrixCell.exists_mem_ofKind]

theorem covers_of_records
    (records : List.Forall₂ MatrixCase.Records (kinds.flatMap MatrixCell.ofKind) cases)
    (mode : SafetyLevel) :
    (ofCases mode cases).Covers kinds := by
  have tallies := tallies_bucketsOf cases
  have named : (ofCases mode cases).kinds.map KindTotals.mutexKind = (bucketsOf cases).keys :=
    tallies.map_mutexKind
  constructor
  case size =>
    have lengths := records.length_eq
    rw [List.length_flatMap] at lengths
    simpa [MatrixCell.length_ofKind, ofCases, Nat.mul_comm] using lengths.symm
  case cases =>
    change cases.map MatrixCase.labels = _
    rw [labels_of_records records, List.map_flatMap]
    rfl
  case ascending =>
    rw [named]
    exact (bucketsOf cases).ascending
  case labels =>
    intro label
    rw [named, tallies.labels, exists_row_iff records]

/-- A sum of totals is the count over all rows of what the totals count for each discipline. -/
theorem sum_of_counts
    (field : KindTotals → UInt64)
    (counts : MatrixCase → Bool)
    (each :
      ∀ label totals,
        (bucketsOf cases).find? label = some totals →
          (field totals).toNat = (cases.filter fun row => row.mutexKind = label).countP counts)
    (mode : SafetyLevel) :
    ((ofCases mode cases).kinds.map fun totals => (field totals).toNat).sum =
      cases.countP counts := by
  have covers : ∀ row ∈ cases, row.mutexKind ∈ (bucketsOf cases).keys := fun row member =>
    ((tallies_bucketsOf cases).labels _).mpr ⟨row, member, rfl⟩
  rw [← sum_countP_labels (bucketsOf cases).nodup_keys covers]
  simp only [ofCases, OrderedMap.values, OrderedMap.keys, List.map_map]
  congr 1
  refine List.map_congr_left fun entry member => ?_
  exact each entry.1 entry.2 (OrderedMap.find?_eq_some_iff.mpr member)

/-- The word of such a sum is right where all rows fit a word. -/
theorem toNat_sumOf_of_counts
    {field : KindTotals → UInt64}
    {counts : MatrixCase → Bool}
    (fits : cases.length < 2 ^ 64)
    (sums :
      ((ofCases mode cases).kinds.map fun totals => (field totals).toNat).sum =
        cases.countP counts) :
    (MatrixSummary.sumOf field (ofCases mode cases).kinds).toNat = cases.countP counts := by
  have bounded : cases.countP counts ≤ cases.length := List.countP_le_length
  exact (MatrixSummary.toNat_sumOf (by omega)).trans sums

theorem balances_of_records
    (records : List.Forall₂ MatrixCase.Records (kinds.flatMap MatrixCell.ofKind) cases)
    (fits : cases.length < 2 ^ 64)
    (mode : SafetyLevel) :
    (ofCases mode cases).Balances kinds := by
  have tallies := tallies_bucketsOf cases
  have counts := tallies.counts fits
  have counts_of_mem {totals : KindTotals} (member : totals ∈ (ofCases mode cases).kinds) :
      totals.Counts (cases.filter fun row => row.mutexKind = totals.mutexKind) := by
    obtain ⟨label, there⟩ := OrderedMap.mem_values.mp member
    rw [tallies.named label totals there]
    exact counts label totals there
  have total :=
    sum_of_counts KindTotals.total (fun _ => true)
      (fun label totals there => by rw [(counts label totals there).total, List.countP_true]) mode
  have passed :=
    sum_of_counts KindTotals.passed _
      (fun label totals there => (counts label totals there).passed) mode
  have mismatched :=
    sum_of_counts KindTotals.mismatched _
      (fun label totals there => (counts label totals there).mismatched) mode
  have modelOnly :=
    sum_of_counts KindTotals.modelOnly _
      (fun label totals there => (counts label totals there).modelOnly) mode
  have totalWord := toNat_sumOf_of_counts fits total
  have passedWord := toNat_sumOf_of_counts fits passed
  have mismatchedWord := toNat_sumOf_of_counts fits mismatched
  have modelOnlyWord := toNat_sumOf_of_counts fits modelOnly
  obtain ⟨split, all⟩ := KindTotals.countP_status cases
  have unmatched : (ofCases mode cases).mismatches.length =
      cases.countP fun row => row.status = .mismatch := by
    simp [mismatches, ofCases, List.countP_eq_length_filter]
  constructor
  case counts =>
    exact fun totals member => counts_of_mem member
  case total =>
    intro totals member kind named
    calc totals.total.toNat
      _ = cases.countP fun row => row.mutexKind = totals.mutexKind := by
          rw [(counts_of_mem member).total, List.countP_eq_length_filter]
      _ = (kinds.flatMap MatrixCell.ofKind).countP fun cell => cell.kind.label = kind.label := by
          refine (countP_eq_of_forall₂ records fun cell row record => ?_).symm
          rw [record.mutexKind, named]
      _ = 30 * kinds.count kind :=
          countP_flatMap_ofKind (MatrixCell.countP_label kind) kinds
  case balanced =>
    intro totals member
    have counted := counts_of_mem member
    obtain ⟨splitHere, allHere⟩ :=
      KindTotals.countP_status (cases.filter fun row => row.mutexKind = totals.mutexKind)
    rw [counted.passed, counted.mismatched, counted.total, counted.modelOnly]
    omega
  case sums =>
    exact ⟨totalWord.trans total.symm, passedWord.trans passed.symm,
      mismatchedWord.trans mismatched.symm, modelOnlyWord.trans modelOnly.symm⟩
  case summary =>
    have words : (ofCases mode cases).summary = MatrixSummary.ofKinds (ofCases mode cases).kinds :=
      rfl
    rw [words, MatrixSummary.ofKinds, passedWord, mismatchedWord, totalWord, modelOnlyWord,
      List.countP_true]
    omega
  case modelOnly =>
    calc (ofCases mode cases).summary.modelOnly.toNat
      _ = cases.countP fun row => row.status = .modelOnly := modelOnlyWord
      _ = (kinds.flatMap MatrixCell.ofKind).countP MatrixCell.isModelOnly := by
          refine (countP_eq_of_forall₂ records fun cell row record => ?_).symm
          rw [Bool.eq_iff_iff, ← record.modelOnly_iff, decide_eq_true_eq]
      _ = kinds.count .normal := by
          rw [countP_flatMap_ofKind MatrixCell.countP_isModelOnly, Nat.one_mul]
  case mismatches =>
    rw [unmatched]
    exact mismatchedWord.symm
  case allPassed =>
    rw [← List.length_eq_zero_iff, unmatched, ← mismatchedWord, allPassed, decide_eq_true_eq]
    exact UInt64.toNat_inj.symm

/-- A report that is built for some disciplines is on them, and what is on them has a row for each
of their cells and totals that conserve the rows, whatever the calls did and however long they took.
The number of rows held in memory is a machine word. -/
theorem totals_conserved (kinds : List Kind) :
    (∀ mode timing report, build mode timing kinds = .ok report → report.IsReportOn kinds) ∧
      ∀ report : MatrixReport,
        report.IsReportOn kinds →
          report.Covers kinds ∧ (report.cases.length < 2 ^ 64 → report.Balances kinds) := by
  refine ⟨fun mode timing report builds => isReportOn_of_build builds, ?_⟩
  rintro report ⟨mode, records⟩
  exact ⟨covers_of_records records mode, fun fits => balances_of_records records fits mode⟩

/-- Every contested call is a mismatch where no wait is too short to count as blocking. -/
theorem totals_conserved_repeatedKinds :
    ∃ report,
      build .strict ⟨10, 0⟩ [.normal, .recursive, .normal] = .ok report ∧
        report.Covers [.normal, .recursive, .normal] ∧
          report.cases.length = 90 ∧
            report.Balances [.normal, .recursive, .normal] ∧
              report.summary.modelOnly.toNat = 2 := by
  obtain ⟨cases, builds, -⟩ :=
    build_reports .strict ⟨10, 0⟩ [.normal, .recursive, .normal]
  obtain ⟨built, conserved⟩ := totals_conserved [.normal, .recursive, .normal]
  obtain ⟨covers, balances⟩ := conserved _ (built _ _ _ builds)
  have size : (ofCases .strict cases).cases.length = 90 := covers.size
  have balanced := balances (by rw [size]; decide)
  exact ⟨_, builds, covers, size, balanced, balanced.modelOnly⟩

end MatrixReport

end LatchMutex
