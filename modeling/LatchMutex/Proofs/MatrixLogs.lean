import LatchMutex.Proofs.ArtifactChecks
import LatchMutex.Proofs.EmittedLogs
import LatchMutex.Proofs.MatrixRuns

namespace LatchMutex

/-!
# Logs of matrix runs

The log of a report has to pass the validator whatever its rows say.  What a row
brings is only text, but for the discipline, and a failure always comes with the
report it points at.  So every entry may be asked of the emitter, and the log that
is left in its file is read back line by line as what the rows say.
-/

/-- What the log says on a row: a failure points at a file. -/
structure MatrixCase.DescribedBy (row : MatrixCase) (reference : String) (entry : LogEntry) :
    Prop where
  symbol : entry.symbol = some row.operation
  mutexKind : entry.mutexKind = some row.mutexKind
  oldState : entry.oldState = some row.oldState
  newState : entry.newState = some (row.observedNext.getD row.expectedNext)
  errno : entry.errno = some (row.observedErrno.getD row.expectedErrno)
  passed : entry.outcome = some .pass ↔ row.status = .ok
  failed : entry.outcome = some .fail ↔ row.status = .mismatch
  modelOnly : entry.outcome = some .modelOnly ↔ row.status = .modelOnly
  artifacts : entry.outcome = some .fail → entry.artifacts = some [reference]

/-- Partners of a list that is put together are put together of partners of its parts. -/
theorem exists_append_of_forall₂
    {Item Partner : Type}
    {relates : Item → Partner → Prop}
    {front back : List Item}
    {partners : List Partner}
    (related : List.Forall₂ relates (front ++ back) partners) :
    ∃ first second,
      partners = first ++ second ∧
        List.Forall₂ relates front first ∧ List.Forall₂ relates back second :=
  ⟨_, _, (List.take_append_drop front.length partners).symm,
    (List.forall₂_take_append _ _ _ related.flip).flip,
    (List.forall₂_drop_append _ _ _ related.flip).flip⟩

/-- Reading a text leaves the files as they are. -/
theorem FileAction.run_readText
    {tree : FileTree}
    {path text : String}
    (reads : tree.readText path = .ok text) :
    (readText path).run.run tree = (.ok text, tree) := by
  have files : (getThe FileTree : FileAction FileTree).run.run tree = (.ok tree, tree) := rfl
  rw [readText, ExceptT.run_bind, StateT.run_bind, files]
  simp only [bind, reads]
  rfl

/-- Validating the log in a file is validating its text. -/
theorem LogSummary.run_ofFile
    {tree : FileTree}
    {path text : String}
    (reads : tree.readText path = .ok text) :
    (ofFile path).run.run tree = (.ok (ofText text), tree) := by
  rw [ofFile, ExceptT.run_bind, StateT.run_bind, FileAction.run_readText reads]
  rfl

namespace MatrixReport

/-- A report with labels where the schema of the log asks for them. -/
structure Labeled (report : MatrixReport) : Prop where
  mode : report.mode ∈ SafetyLevel.all.map SafetyLevel.label
  mutexKind : ∀ row ∈ report.cases, row.mutexKind ∈ Kind.all.map Kind.label

variable {report : MatrixReport}

/-- A report that is built of cells has labels everywhere. -/
theorem labeled_of_build
    {level : SafetyLevel}
    {timing : Timing}
    {kinds : List Kind}
    (builds : build level timing kinds = .ok report) :
    report.Labeled := by
  obtain ⟨cases, reported, reports⟩ := build_reports level timing kinds
  cases builds.symm.trans reported
  have labels :=
    reports.flip.imp fun row cell report =>
      show row.mutexKind ∈ Kind.all.map Kind.label ∧ True by
        rw [report.mutexKind]
        cases cell.kind <;> decide
  constructor
  · change level.label ∈ _
    cases level <;> decide
  · exact ((List.forall₂_and_left _ _).mp labels).1

/-- What the log adds on a row is plain. -/
theorem plain_detailsOf (row : MatrixCase) : (detailsOf row).Plain 126 := by
  apply Json.plain_ofMembers
  simp only [List.forall_mem_cons]
  refine ⟨.string _, .string _, Json.plain_ofInt _ _, .bool _, ?observed, by simp⟩
  cases row.observedBlocks with
  | none =>
      exact .null
  | some blocks =>
      exact .bool blocks

theorem plain_summary (summary : MatrixSummary) : summary.toJson.Plain 126 := by
  apply Json.plain_ofMembers
  intro member there
  obtain ⟨⟨name, count⟩, -, rfl⟩ := List.mem_map.mp there
  exact Json.plain_ofInt _ count

/-- The line on a row may be asked for if its discipline is known, whatever else it says. -/
theorem admissible_caseEntry
    (labeled : report.Labeled)
    {row : MatrixCase}
    (member : row ∈ report.cases)
    (now : Moment)
    (reference : String) :
    (LogCall.full (report.caseEntry now reference row)).Admissible where
  traceId := .inl rfl
  printable :=
    { mode := by
        rintro text ⟨⟩
        exact labeled.mode
      mutexKind := by
        rintro text ⟨⟩
        exact labeled.mutexKind row member
      supported := by
        intro failed
        refine ⟨reference, [], if_pos ?_⟩
        cases status : row.status with
        | mismatch =>
            rfl
        | ok | modelOnly =>
            simp [LogCall.entry, caseEntry, verdictOf, status] at failed
      details := by
        rintro value ⟨⟩
        exact ⟨Json.ofMembers_ne_null _, plain_detailsOf row⟩ }

/-- Every line of a log may be asked for. -/
theorem admissible_entries
    (labeled : report.Labeled)
    (now : Moment)
    (reference : String) :
    ∀ call ∈ (report.entries now reference).map LogCall.full, call.Admissible := by
  have mode : ∀ text, some report.mode = some text → text ∈ ["strict", "hardened", "off"] := by
    rintro text ⟨⟩
    exact labeled.mode
  intro call member
  obtain ⟨entry, there, rfl⟩ := List.mem_map.mp member
  rw [entries, List.cons_append, List.mem_cons, List.mem_append, List.mem_singleton] at there
  rcases there with rfl | onRow | rfl
  · exact
      { traceId := .inl rfl
        printable := { mode, mutexKind := nofun, supported := nofun, details := nofun } }
  · obtain ⟨row, listed, rfl⟩ := List.mem_map.mp onRow
    exact admissible_caseEntry labeled listed now reference
  · refine
      { traceId := .inl rfl
        printable := { mode, mutexKind := nofun, supported := nofun, details := ?_ } }
    rintro value ⟨⟩
    exact ⟨Json.ofMembers_ne_null _, plain_summary report.summary⟩

/-- What is written on a row says what the row says. -/
theorem describedBy_of_yields
    {bead reference : String}
    {now : Moment}
    {row : MatrixCase}
    {entry : LogEntry}
    (yields : LogCall.Yields bead (.full (report.caseEntry now reference row)) entry) :
    row.DescribedBy reference entry := by
  rw [yields.kept]
  -- The verdict depends on the status alone, and so does what a failure points at.
  cases status : row.status <;>
    exact
      { symbol := rfl
        mutexKind := rfl
        oldState := rfl
        newState := rfl
        errno := rfl
        passed := by simp [LogCall.entry, caseEntry, verdictOf, status]
        failed := by simp [LogCall.entry, caseEntry, verdictOf, status]
        modelOnly := by simp [LogCall.entry, caseEntry, verdictOf, status]
        artifacts := by simp [LogCall.entry, caseEntry, verdictOf, status] }

/-- The lines of a written log: one before the rows, one for each row, and one behind them. -/
theorem exists_lines
    {emitter last : LogEmitter}
    {now : Moment}
    {reference : String}
    {emitted : List LogEntry}
    (keeps : emitter.sink.keeps = true)
    (emits :
      LogEmitter.Emits emitter ((report.entries now reference).map .full) emitted last) :
    ∃ start rows finish,
      emitted = start :: rows ++ [finish] ∧
        start.outcome = none ∧
        finish.outcome = none ∧
        List.Forall₂ (fun row entry => row.DescribedBy reference entry) report.cases rows := by
  have yields := emits.yields keeps
  rw [entries, List.cons_append, List.map_cons, List.map_append, List.map_singleton,
    List.forall₂_cons_left_iff] at yields
  obtain ⟨start, others, startYields, yields, rfl⟩ := yields
  obtain ⟨rows, behind, rfl, rowYields, lastYields⟩ := exists_append_of_forall₂ yields
  obtain ⟨finish, nothing, finishYields, none, rfl⟩ := List.forall₂_cons_left_iff.mp lastYields
  obtain rfl := List.forall₂_nil_left_iff.mp none
  rw [List.map_map, List.forall₂_map_left_iff] at rowYields
  refine ⟨start, rows, finish, rfl, ?_, ?_, rowYields.imp fun row entry => describedBy_of_yields⟩
  · rw [startYields.kept]
    rfl
  · rw [finishYields.kept]
    rfl

/-- The log is left as it was emitted, and the report as it is printed. -/
theorem reads_of_save
    {now : Moment}
    {root output stem run : String}
    {tree saved : FileTree}
    {index : ArtifactIndex}
    (saves : (report.save now root output stem run).run.run tree = (.ok index, saved)) :
    ∃ last,
      ({ bead := report.bead, run } : LogEmitter).emitAll
          (report.entries now (Path.relativeTo root (reportPath output stem))) =
        (.ok (), last) ∧
        saved.readText (logPath output stem) = .ok last.sink.written ∧
        saved.read (reportPath output stem) = .ok (Text.toBytes report.text) ∧
        ∃ artifact ∈ index.artifacts,
          artifact.kind = "report" ∧
            artifact.path = Path.relativeTo root (reportPath output stem) := by
  obtain ⟨_, logged, reported, last, _, content, emits, logs, reports, -, -, lists, indexes⟩ :=
    save_of_ok saves
  obtain ⟨logName, reportName, indexName, logEnds, reportEnds, indexEnds, logReport, logIndex,
    reportIndex⟩ := exists_names output stem
  have log := FileTree.read_of_write logs
  have log := FileTree.read_of_write_other reports logEnds reportEnds logReport log
  have log := FileTree.read_of_write_other indexes logEnds indexEnds logIndex log
  have report := FileTree.read_of_write reports
  have report := FileTree.read_of_write_other indexes reportEnds indexEnds reportIndex report
  refine ⟨last, emits, FileTree.readText_of_read log, report,
    ListedFile.artifact root ⟨reportPath output stem, "report", content⟩, ?_, rfl, rfl⟩
  simp [lists]

/--
A report that is built of cells has labels everywhere, and the log that is saved with
such a report passes the validator, whatever its rows, the run and the paths are
called.  Between a first and a last line that claim no outcome it has a line for each
row in order, which says what the row says: it fails exactly if the row is a mismatch,
and then it points at the report under the path that the index has for it.  There is
the report itself, also for a reader who starts from the root, if recorded paths lead
back to the report at all.
-/
theorem save_logs
    (report : MatrixReport)
    (now : Moment)
    (root output stem run : String)
    (tree saved : FileTree)
    (index : ArtifactIndex) :
    let reference := Path.relativeTo root (reportPath output stem)
    (∀ level timing kinds, build level timing kinds = .ok report → report.Labeled) ∧
      (report.Labeled →
        (report.save now root output stem run).run.run tree = (.ok index, saved) →
        (LogSummary.ofFile (logPath output stem)).run.run saved =
            (.ok { records := report.cases.length + 2, violations := [] }, saved) ∧
          (∃ text start rows finish,
            saved.readText (logPath output stem) = .ok text ∧
              ((Text.lines text).zipIdx 1).map (fun line => LogEntry.validate line.1 line.2) =
                (start :: rows ++ [finish]).map .ok ∧
              start.outcome = none ∧
              finish.outcome = none ∧
              List.Forall₂ (fun row entry => row.DescribedBy reference entry)
                report.cases rows) ∧
          (∃ artifact ∈ index.artifacts,
            artifact.kind = "report" ∧ artifact.path = reference) ∧
          saved.read (reportPath output stem) = .ok (Text.toBytes report.text) ∧
          (saved.Rejoins root (reportPath output stem) →
            saved.read (Path.join root reference) = .ok (Text.toBytes report.text))) := by
  refine ⟨fun _ _ _ => labeled_of_build, ?_⟩
  intro labeled saves
  obtain ⟨last, emitted, readsLog, readsReport, listed⟩ := reads_of_save saves
  obtain ⟨lines, emits⟩ := LogEmitter.emits_of_emitAll emitted
  change LogEmitter.Emits (.opening report.bead run none) _ lines last at emits
  obtain ⟨start, rows, finish, rfl, startBare, finishBare, described⟩ := exists_lines rfl emits
  obtain ⟨summary, validated⟩ := emits.accepted (admissible_entries labeled now _)
  have count : (start :: rows ++ [finish]).length = report.cases.length + 2 := by
    simp [described.length_eq]
  refine ⟨?valid,
    ⟨last.sink.written, start, rows, finish, readsLog, validated, startBare, finishBare,
      described⟩,
    listed, readsReport, ?rejoins⟩
  case valid =>
    rw [LogSummary.run_ofFile readsLog, summary, count]
  case rejoins =>
    intro rejoins
    obtain ⟨-, name, -, -, ends, -⟩ := exists_names output stem
    obtain ⟨place, located, -⟩ := FileTree.read_eq_ok_iff.mp readsReport
    rw [rejoins.read ends located]
    exact readsReport

/-- A row that was not observed but is said to mismatch, and one that was checked against the
contract only. -/
def unobservedRows : List MatrixCase :=
  [{ name := "a\"b", mutexKind := "errorcheck", oldState := "\n", operation := "lock"
     expectedNext := "Held", expectedErrno := -7, expectedBlocks := true, status := .mismatch },
    { name := "", mutexKind := "normal", oldState := "", operation := "::"
      expectedNext := "x", expectedErrno := 0, expectedBlocks := false
      observedNext := some "y", status := .modelOnly }]

/-- With a run id that is no part of a trace id and these rows, the log has its records, and the
failure points at the report. -/
theorem save_logs_unobservedRows :
    ∃ (index : ArtifactIndex) (saved : FileTree),
      (ofCases .hardened unobservedRows).Labeled ∧
        ((ofCases .hardened unobservedRows).save default "/r" "/r/o" "s" "::\n").run.run {} =
          (.ok index, saved) ∧
        (LogSummary.ofFile "/r/o/s.log.jsonl").run.run saved =
          (.ok { records := 4, violations := [] }, saved) ∧
        ∃ text start failed unrun finish,
          saved.readText "/r/o/s.log.jsonl" = .ok text ∧
            ((Text.lines text).zipIdx 1).map (fun line => LogEntry.validate line.1 line.2) =
              [.ok start, .ok failed, .ok unrun, .ok finish] ∧
            failed.newState = some "Held" ∧
            failed.artifacts = some ["o/s.report.json"] ∧
            unrun.outcome = some .modelOnly := by
  have labeled : (ofCases .hardened unobservedRows).Labeled :=
    ⟨by decide, by decide⟩
  have succeeds :
      (((ofCases .hardened unobservedRows).save default "/r" "/r/o" "s" "::\n").run.run
        {}).1.isOk = true := by
    decide +kernel
  rcases saves :
      ((ofCases .hardened unobservedRows).save default "/r" "/r/o" "s" "::\n").run.run {} with
    ⟨failure | index, saved⟩
  · rw [saves] at succeeds
    contradiction
  obtain ⟨valid, ⟨text, start, rows, finish, reads, validated, -, -, described⟩, -⟩ :=
    (save_logs (ofCases .hardened unobservedRows) default "/r" "/r/o" "s" "::\n" {} saved
      index).2 labeled saves
  have logIs : logPath "/r/o" "s" = "/r/o/s.log.jsonl" := by decide
  have recorded : Path.relativeTo "/r" (reportPath "/r/o" "s") = "o/s.report.json" := by decide
  rw [logIs] at valid reads
  rw [recorded] at described
  obtain ⟨failed, others, first, later, rfl⟩ := List.forall₂_cons_left_iff.mp described
  obtain ⟨unrun, nothing, second, none, rfl⟩ := List.forall₂_cons_left_iff.mp later
  obtain rfl := List.forall₂_nil_left_iff.mp none
  exact ⟨index, saved, labeled, rfl, valid, text, start, failed, unrun, finish, reads, validated,
    first.newState, first.artifacts (first.failed.mpr rfl), second.modelOnly.mpr rfl⟩

end MatrixReport

end LatchMutex
