import LatchMutex.Artifacts
import LatchMutex.Log.Files
import LatchMutex.Matrix.Report

namespace LatchMutex

/-!
# Files of a matrix run

A run leaves a log, a report and an index of these two in its output directory.
The log has a start line, a line for each row and an end line.  A failure keeps
the files that were written before it.
-/

namespace MatrixReport

/-- An entry of the log of a matrix run; the emitter numbers it. -/
def logEntry (report : MatrixReport) (now : Moment) (level : LogLevel) (event : String) :
    LogEntry :=
  { LogEntry.new now "" level event with
    stream := some .conformance
    mode := some report.mode }

/-- Severity and result of a row. -/
def verdictOf : CaseStatus → LogLevel × Verdict
  | .ok => (.info, .pass)
  | .mismatch => (.error, .fail)
  | .modelOnly => (.info, .modelOnly)

/-- What the log adds on a row. -/
def detailsOf (row : MatrixCase) : Json :=
  Json.ofMembers
    [("case_id", .string row.name), ("expected_next", .string row.expectedNext),
      ("expected_errno", .ofInt row.expectedErrno.toInt),
      ("expected_blocks", .bool row.expectedBlocks),
      ("observed_blocks",
        match row.observedBlocks with
        | some blocks => .bool blocks
        | none => .null)]

/-- Line of the log on a row; a failed one points at the report. -/
def caseEntry (report : MatrixReport) (now : Moment) (reportPath : String) (row : MatrixCase) :
    LogEntry :=
  let (level, verdict) := verdictOf row.status
  { report.logEntry now level "contract_case" with
    mutexKind := some row.mutexKind
    symbol := some row.operation
    oldState := some row.oldState
    newState := some (row.observedNext.getD row.expectedNext)
    outcome := some verdict
    errno := some (row.observedErrno.getD row.expectedErrno)
    latencyNanos := row.timing
    artifacts := if row.status = .mismatch then some [reportPath] else none
    details := some (detailsOf row) }

/-- Lines of the log: a start line, one for each row, and an end line. -/
def entries (report : MatrixReport) (now : Moment) (reportPath : String) : List LogEntry :=
  report.logEntry now .info "contract_matrix_start"
    :: report.cases.map (report.caseEntry now reportPath)
    ++ [{ report.logEntry now .info "contract_matrix_end" with
          details := some report.summary.toJson }]

/-- Path of the log. -/
def logPath (output stem : String) : String :=
  Path.join output (stem ++ ".log.jsonl")

/-- Path of the report. -/
def reportPath (output stem : String) : String :=
  Path.join output (stem ++ ".report.json")

/-- Path of the index. -/
def indexPath (output stem : String) : String :=
  Path.join output (stem ++ ".artifacts.json")

/-- Write log, report and index; paths in the index are relative to a root. -/
def save
    (report : MatrixReport)
    (now : Moment)
    (root output stem run : String) :
    FileAction ArtifactIndex := do
  FileAction.makeDirectories output
  let logPath := logPath output stem
  let reportPath := reportPath output stem
  let indexPath := indexPath output stem
  let emitter : LogEmitter := { bead := report.bead, run }
  emitter.writeLog logPath (report.entries now (Path.relativeTo root reportPath))
  FileAction.writeText reportPath report.text
  let index := ArtifactIndex.new now run report.bead
  let (_, index) ← FileAction.ofExcept (index.addFile (← getThe FileTree) root logPath "log")
  let (_, index) ←
    FileAction.ofExcept (index.addFile (← getThe FileTree) root reportPath "report")
  FileAction.writeText indexPath index.text
  pure index

end MatrixReport

end LatchMutex
