import Mathlib.Data.List.Forall2
import LatchMutex.Command.Run
import LatchMutex.Proofs.ReportTallies

namespace LatchMutex

/-!
# Runs of the contract matrix

A matrix run is only as good as its verdicts.  Apart from the clock, every cell
does what the contract expects (`MatrixCell.replay_agrees`), and a call waits
exactly where it meets a holder.  So a verdict is wrong only if the threshold
takes a call that met nobody for a blocked one, or a wait for none.
-/

namespace MatrixCell

/-- What the call of the cell comes to, without the clock: the state after it and its status. -/
def replay? (cell : MatrixCell) : Option (ContractState × Int32) :=
  match cell.stage with
  | .error _ => none
  | .ok staged =>
      match cell.callIn staged with
      | (after, .returned result) =>
          let destroyed := cell.operation = .destroy ∧ result.toBool
          some
            (if destroyed then .destroyed else cell.observedState after, result.outcome.status)
      | _ => none

/-- How long the call of the cell takes. -/
def elapsed (cell : MatrixCell) (timing : Timing) : Nat :=
  if cell.meetsHolder then timing.hold else 0

/-- Whether the clock tells rightly if the call of the cell waits. -/
def isTimed (cell : MatrixCell) (timing : Timing) : Bool :=
  decide (timing.threshold ≤ cell.elapsed timing) = cell.meetsHolder

/-- How the cell comes out. -/
def verdict (cell : MatrixCell) (timing : Timing) : CaseStatus :=
  if cell.isModelOnly then .modelOnly else if cell.isTimed timing then .ok else .mismatch

variable {cell : MatrixCell} {timing : Timing}

/-- The contract expects a wait exactly where a cell that can be run meets a holder. -/
theorem expected_blocks (returns : cell.isModelOnly = false) :
    cell.expected.blocks = cell.meetsHolder := by
  obtain ⟨kind, state, operation⟩ := cell
  cases kind <;> cases state <;> cases operation <;> first | rfl | contradiction

/-- Apart from the clock, every cell that can be run does what the contract expects. -/
theorem replay_agrees (returns : cell.isModelOnly = false) :
    (cell.replay?.any fun (next, status) =>
      (cell.expected.blocks || next = cell.expected.next) && status = cell.expected.status) =
      true := by
  obtain ⟨kind, state, operation⟩ := cell
  cases kind <;> cases state <;> cases operation <;> first | decide | contradiction

/-- What is observed of a cell is what its replay comes to, with the clock's word on the wait. -/
theorem observe_of_replay
    {next : ContractState}
    {status : Int32}
    (returns : cell.isModelOnly = false)
    (replays : cell.replay? = some (next, status))
    (timing : Timing) :
    cell.observe timing =
      .ok
        { next, status
          blocks := timing.threshold ≤ cell.elapsed timing
          elapsed := cell.elapsed timing } := by
  unfold replay? at replays
  split at replays
  · contradiction
  · rename_i staged staging
    split at replays
    · rename_i after result calls
      simp only [Option.some.injEq, Prod.mk.injEq] at replays
      obtain ⟨rfl, rfl⟩ := replays
      simp only [observe, returns, staging, calls, Bind.bind, Except.bind, pure, Except.pure]
      rfl
    · contradiction

/-- Only a threshold of nothing misleads, which takes a call that meets nobody for a blocked one. -/
theorem verdict_of_le
    (below : timing.threshold ≤ timing.hold)
    (cell : MatrixCell) :
    cell.verdict timing =
      if cell.isModelOnly then .modelOnly
      else if 0 < timing.threshold ∨ cell.meetsHolder = true then .ok
      else .mismatch := by
  unfold verdict isTimed elapsed
  cases cell.meetsHolder with
  | true =>
      simp [below]
  | false =>
      simp [Nat.pos_iff_ne_zero]

end MatrixCell

namespace MatrixCase

/-- A row that reports on a cell as the timing makes it come out. -/
structure Reports (timing : Timing) (cell : MatrixCell) (row : MatrixCase) : Prop where
  name : row.name = cell.name
  mutexKind : row.mutexKind = cell.kind.label
  status : row.status = cell.verdict timing

/-- A cell that was observed gets the row of what was observed. -/
theorem ofCell_of_observe
    {timing : Timing}
    {cell : MatrixCell}
    {observed : Observation}
    (returns : cell.isModelOnly = false)
    (observes : cell.observe timing = .ok observed) :
    ofCell timing cell = .ok (observing cell observed) := by
  simp only [ofCell, returns, observes, Bind.bind, Except.bind, pure, Except.pure]
  rfl

/-- Every cell gets a row. -/
theorem ofCell_reports (timing : Timing) (cell : MatrixCell) :
    ∃ row, ofCell timing cell = .ok row ∧ Reports timing cell row := by
  cases returns : cell.isModelOnly with
  | true =>
      refine ⟨expecting cell, by simp [ofCell, returns, pure, Except.pure], rfl, rfl, ?_⟩
      simp [MatrixCell.verdict, returns, expecting]
  | false =>
      obtain ⟨⟨next, status⟩, replays, agreement⟩ :=
        (Option.any_eq_true _ _).mp (MatrixCell.replay_agrees returns)
      have observed := MatrixCell.observe_of_replay returns replays timing
      refine ⟨_, ofCell_of_observe returns observed, rfl, rfl, ?_⟩
      simp only [Bool.and_eq_true, Bool.or_eq_true, decide_eq_true_eq,
        MatrixCell.expected_blocks returns] at agreement
      obtain ⟨nextAgrees, rfl⟩ := agreement
      simp [observing, agrees, MatrixCell.verdict, MatrixCell.isTimed, returns,
        nextAgrees, MatrixCell.expected_blocks returns]

end MatrixCase

/-- A computation that goes well on each of a list goes well on the list. -/
theorem mapM_ok_forall₂
    {Item Result Error : Type}
    {compute : Item → Except Error Result}
    {holds : Item → Result → Prop}
    (each : ∀ item, ∃ result, compute item = .ok result ∧ holds item result)
    (items : List Item) :
    ∃ results, items.mapM compute = .ok results ∧ List.Forall₂ holds items results := by
  induction items with
  | nil =>
      exact ⟨[], rfl, .nil⟩
  | cons item rest inductionHypothesis =>
      obtain ⟨result, computes, first⟩ := each item
      obtain ⟨results, maps, later⟩ := inductionHypothesis
      refine ⟨result :: results, ?_, .cons first later⟩
      rw [List.mapM_cons, computes, maps]
      rfl

namespace MatrixReport

/-- Every list of disciplines gets a report, with a row for each cell. -/
theorem build_reports (level : SafetyLevel) (timing : Timing) (kinds : List Kind) :
    ∃ cases,
      build level timing kinds = .ok (ofCases level cases) ∧
        List.Forall₂ (MatrixCase.Reports timing) (kinds.flatMap MatrixCell.ofKind) cases := by
  obtain ⟨cases, maps, reports⟩ :=
    mapM_ok_forall₂ (MatrixCase.ofCell_reports timing) (kinds.flatMap MatrixCell.ofKind)
  exact ⟨cases, by rw [build, maps]; rfl, reports⟩

/-- Where no row is a mismatch, none is counted and the report has passed. -/
theorem passes_of_matching
    {cases : List MatrixCase}
    (matching : ∀ row ∈ cases, row.status ≠ .mismatch)
    (level : SafetyLevel) :
    (ofCases level cases).summary.mismatched = 0 ∧
      (ofCases level cases).mismatches = [] ∧
      (ofCases level cases).allPassed = true := by
  have uncounted : ∀ totals ∈ (ofCases level cases).kinds, totals.mismatched = 0 :=
    forall_totals_of_count (fun _ => rfl) fun row member totals before =>
      (KindTotals.count_mismatched (matching row member) totals).trans before
  have zero (kinds : List KindTotals) (each : ∀ totals ∈ kinds, totals.mismatched = 0) :
      MatrixSummary.sumOf KindTotals.mismatched kinds = 0 := by
    induction kinds with
    | nil =>
        rfl
    | cons totals rest inductionHypothesis =>
        obtain ⟨first, later⟩ := List.forall_mem_cons.mp each
        change totals.mismatched + MatrixSummary.sumOf _ _ = 0
        rw [first, inductionHypothesis later]
        rfl
  have summed : (ofCases level cases).summary.mismatched = 0 := zero _ uncounted
  refine ⟨summed, ?_, by simp [allPassed, summed]⟩
  simp only [mismatches, List.map_eq_nil_iff, List.filter_eq_nil_iff, decide_eq_true_eq]
  exact matching

end MatrixReport

namespace ConsoleAction

variable {Value Next : Type}

/-- What an action goes on with runs on the console that the action leaves. -/
theorem run_bind
    (action : ConsoleAction Value)
    (next : Value → ConsoleAction Next)
    (console : Console) :
    (action >>= next).run.run console =
      match action.run.run console with
      | (.ok value, after) => (next value).run.run after
      | (.error complaint, after) => (.error complaint, after) := by
  rcases ran : action.run.run console with ⟨complaint | value, after⟩
  · rw [ExceptT.run_bind, StateT.run_bind, ran]
    rfl
  · rw [ExceptT.run_bind, StateT.run_bind, ran]
    rfl

theorem run_getThe (console : Console) :
    (getThe Console : ConsoleAction Console).run.run console = (.ok console, console) :=
  rfl

/-- An action on the files leaves the streams alone. -/
theorem run_onFiles
    (action : FileAction Value)
    (console : Console) :
    (onFiles action).run.run console =
      match action.run.run console.files with
      | (.ok value, files) => (.ok value, { console with files })
      | (.error failure, files) => (.error (.failure failure), { console with files }) := by
  unfold onFiles
  rw [run_bind, run_getThe]
  rcases ran : action.run.run console.files with ⟨failure | value, files⟩
  · simp only [ran, run_bind]
    rfl
  · simp only [ran, run_bind]
    rfl

end ConsoleAction

namespace Command

/-- The disciplines that the texts of a command line name. -/
inductive NamesKinds : List String → List Kind → Prop where
  | all :
      NamesKinds [] Kind.all
  | listed
      {texts : List String} {kinds : List Kind}
      (given : texts ≠ [])
      (named :
        List.Forall₂ (fun text kind => Kind.ofLabel? (Text.fold (Text.trim text)) = some kind)
          texts kinds) :
      NamesKinds texts kinds

/-- The mode that a text of a command line names. -/
structure NamesMode (text : String) (level : SafetyLevel) : Prop where
  named : SafetyLevel.ofLabel? (Text.fold (Text.trim text)) = some level
  validates : level ≠ .off

/-- Times of a command line in nanoseconds. -/
def timingOf (holdMillis thresholdMillis : Nat) : Timing where
  hold := holdMillis * nanosPerMilli
  threshold := thresholdMillis * nanosPerMilli

/-- What a matrix run that is through reports first. -/
def matrixLine (report : MatrixReport) (index : ArtifactIndex) : String :=
  s!"contract matrix: {report.summary.total} cases, {report.summary.passed} passed, "
    ++ s!"{report.summary.modelOnly} model-only, {report.summary.mismatched} mismatched "
    ++ s!"({index.artifacts.length} artifacts)"

theorem kindsNamed_eq
    {texts : List String}
    {kinds : List Kind}
    (named : NamesKinds texts kinds) :
    kindsNamed texts = pure kinds := by
  cases named with
  | all =>
      rfl
  | listed given named =>
      have nonempty : texts.isEmpty = false := by
        simpa using given
      simp only [kindsNamed, nonempty, Bool.false_eq_true, ↓reduceIte]
      clear given nonempty
      induction named with
      | nil =>
          rfl
      | cons first rest inductionHypothesis =>
          rw [List.mapM_cons, inductionHypothesis, kindNamed, first]
          simp

theorem modeNamed_eq
    {text : String}
    {level : SafetyLevel}
    (named : NamesMode text level) :
    modeNamed text = pure level := by
  obtain ⟨named, validates⟩ := named
  rw [modeNamed, named]
  cases level with
  | strict | hardened =>
      rfl
  | off =>
      contradiction

/-- A matrix run that is accepted and whose report has passed fails only for its files. -/
theorem run_contractMatrix_of_passed
    {texts : List String}
    {kinds : List Kind}
    {mode : String}
    {level : SafetyLevel}
    {holdMillis thresholdMillis : Nat}
    {report : MatrixReport}
    (namedKinds : NamesKinds texts kinds)
    (namedMode : NamesMode mode level)
    (below : thresholdMillis < holdMillis)
    (builds : MatrixReport.build level (timingOf holdMillis thresholdMillis) kinds = .ok report)
    (passed : report.allPassed = true)
    (now : Moment)
    (output stem run : String)
    (console : Console) :
    Command.run now (.contractMatrix output stem run texts mode holdMillis thresholdMillis)
        console =
      match (report.save now console.files.currentPath output stem run).run.run console.files with
      | (.ok index, files) =>
          (0,
            { console with
              files
              errors := console.errors ++ matrixLine report index ++ "\n" })
      | (.error failure, files) =>
          (1,
            { console with
              files
              errors := console.errors ++ (Complaint.failure failure).line ++ "\n" }) := by
  have admitted : ¬ holdMillis ≤ thresholdMillis := by
    omega
  have builds :
      ConsoleAction.ofExcept
          (MatrixReport.build level
            { hold := holdMillis * nanosPerMilli
              threshold := thresholdMillis * nanosPerMilli }
            kinds) =
        pure report :=
    congrArg ConsoleAction.ofExcept builds
  simp only [Command.run, action, runMatrix, kindsNamed_eq namedKinds, modeNamed_eq namedMode,
    admitted, ↓reduceIte, pure_bind, builds, passed, ConsoleAction.run_bind,
    ConsoleAction.run_getThe, ConsoleAction.run_onFiles]
  rcases (report.save now console.files.currentPath output stem run).run.run console.files
    with ⟨failure | index, files⟩
  · rfl
  · rfl

end Command

/--
Whatever disciplines a matrix run is asked for, and whatever times it accepts, each
cell gets its row, and only a threshold of nothing makes rows mismatch: those of the
calls that meet no holder.  With any other threshold that is accepted no row does,
and the command fails only if it cannot write its files.
-/
theorem Command.contractMatrix_verdicts
    {texts : List String}
    {kinds : List Kind}
    {mode : String}
    {level : SafetyLevel}
    {holdMillis thresholdMillis : Nat}
    (namedKinds : Command.NamesKinds texts kinds)
    (namedMode : Command.NamesMode mode level)
    (below : thresholdMillis < holdMillis)
    (now : Moment)
    (output stem run : String)
    (console : Console) :
    ∃ report,
      MatrixReport.build level (Command.timingOf holdMillis thresholdMillis) kinds =
          .ok report ∧
        List.Forall₂
          (fun cell row =>
            row.name = cell.name ∧
              row.status =
                if cell.isModelOnly then .modelOnly
                else if 0 < thresholdMillis ∨ cell.meetsHolder = true then .ok
                else .mismatch)
          (kinds.flatMap MatrixCell.ofKind) report.cases ∧
        (0 < thresholdMillis →
          report.summary.mismatched = 0 ∧
            report.mismatches = [] ∧
            Command.run now
                (.contractMatrix output stem run texts mode holdMillis thresholdMillis) console =
              match
                (report.save now console.files.currentPath output stem run).run.run console.files
              with
              | (.ok index, files) =>
                  (0,
                    { console with
                      files
                      errors := console.errors ++ Command.matrixLine report index ++ "\n" })
              | (.error failure, files) =>
                  (1,
                    { console with
                      files
                      errors := console.errors ++ (Complaint.failure failure).line ++ "\n" })) := by
  have timed (cell : MatrixCell) :=
    MatrixCell.verdict_of_le
      (show (Command.timingOf holdMillis thresholdMillis).threshold ≤
          (Command.timingOf holdMillis thresholdMillis).hold from
        Nat.mul_le_mul_right _ (Nat.le_of_lt below))
      cell
  have positive :
      0 < (Command.timingOf holdMillis thresholdMillis).threshold ↔ 0 < thresholdMillis :=
    Nat.mul_pos_iff_of_pos_right (by decide)
  simp only [positive] at timed
  obtain ⟨cases, builds, reports⟩ :=
    MatrixReport.build_reports level (Command.timingOf holdMillis thresholdMillis) kinds
  have rows :=
    reports.imp fun cell row report =>
      And.intro report.name (report.status.trans (timed cell))
  refine ⟨_, builds, rows, ?_⟩
  intro discerning
  have matching : ∀ row ∈ cases, row.status ≠ .mismatch := by
    clear builds reports
    generalize kinds.flatMap MatrixCell.ofKind = cells at rows
    induction rows with
    | nil =>
        simp
    | @cons cell row cells cases first later inductionHypothesis =>
        refine List.forall_mem_cons.mpr ⟨?_, inductionHypothesis⟩
        rw [first.2]
        cases cell.isModelOnly <;> simp [discerning]
  obtain ⟨uncounted, unlisted, passed⟩ := MatrixReport.passes_of_matching matching level
  exact ⟨uncounted, unlisted,
    Command.run_contractMatrix_of_passed namedKinds namedMode below builds passed now output stem
      run console⟩

/-- A run with repeated disciplines, the shortest holding time and the longest threshold below. -/
theorem Command.contractMatrix_verdicts_repeatedKinds :
    ∃ report,
      Command.NamesKinds ["normal", " Default", "NORMAL\n"] [.normal, .byDefault, .normal] ∧
        Command.NamesMode "Strict " .strict ∧
        MatrixReport.build .strict (Command.timingOf 2 1) [.normal, .byDefault, .normal] =
          .ok report ∧
        report.summary.mismatched = 0 ∧
        report.mismatches = [] := by
  have namedKinds :
      Command.NamesKinds ["normal", " Default", "NORMAL\n"] [.normal, .byDefault, .normal] := by
    refine .listed (by simp) ?_
    refine .cons ?_ (.cons ?_ (.cons ?_ .nil)) <;> decide +kernel
  have namedMode : Command.NamesMode "Strict " .strict :=
    ⟨by decide +kernel, by decide⟩
  obtain ⟨report, builds, -, passes⟩ :=
    Command.contractMatrix_verdicts namedKinds namedMode (by decide : 1 < 2) {} "out" "matrix"
      "r1" { files := {} }
  obtain ⟨uncounted, unlisted, -⟩ := passes (by decide)
  exact ⟨report, namedKinds, namedMode, builds, uncounted, unlisted⟩

/-- With a threshold of nothing, 29 of the 30 cells of a discipline are told to mismatch. -/
theorem MatrixReport.zeroThreshold_mismatches :
    (MatrixReport.build .strict (Command.timingOf 1 0) [.recursive]).toOption.any
        (fun report => report.summary.mismatched = 29 ∧ report.allPassed = false) =
      true := by
  decide

end LatchMutex
