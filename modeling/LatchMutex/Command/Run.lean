import LatchMutex.Command.Arguments
import LatchMutex.Fairness
import LatchMutex.Log.Files
import LatchMutex.Matrix.Files
import LatchMutex.Text.Quoted

namespace LatchMutex

/-!
# Running commands

A command works on a console: the files, what was printed, and what was reported
on the error stream.  A command that fails says so in its last line there and
ends with status 1; what it wrote before stays.
-/

/-- Files and streams of a command. -/
structure Console where
  files : FileTree
  output : String := ""
  errors : String := ""
  deriving Repr, DecidableEq, Inhabited

/-- Why a command failed. -/
inductive Complaint where
  /-- A message of the command itself. -/
  | message (text : String)
  | failure (failure : Failure)
  /-- A file of the command itself could not be used. -/
  | file (reason : FileError)
  /-- A text is not the JSON text of what was expected. -/
  | json
  deriving Repr, DecidableEq, Inhabited

namespace Complaint

/-- Description of the complaint: a quoted message, or the kind of failure. -/
def describe : Complaint → String
  | .message text => Text.quote text
  | .failure cause => cause.label
  | .file .invalidText | .file .invalidName | .json => "Error"
  | .file _ => "Os"

/-- Last line of a command that fails. -/
def line (complaint : Complaint) : String :=
  "Error: " ++ complaint.describe

end Complaint

/-- A computation on a console that may fail; what it did to the console stays. -/
abbrev ConsoleAction (Value : Type) := ExceptT Complaint (StateM Console) Value

namespace ConsoleAction

/-- Report a line on the error stream. -/
def report (line : String) : ConsoleAction Unit :=
  modifyThe Console fun console => { console with errors := console.errors ++ line ++ "\n" }

/-- Print a line. -/
def print (line : String) : ConsoleAction Unit :=
  modifyThe Console fun console => { console with output := console.output ++ line ++ "\n" }

/-- Fail with a message. -/
def fail {Value : Type} (message : String) : ConsoleAction Value :=
  throw (.message message)

/-- Run a computation on the files. -/
def onFiles {Value : Type} (action : FileAction Value) : ConsoleAction Value := do
  let console ← getThe Console
  let (result, files) := action.run.run console.files
  set { console with files }
  match result with
  | .ok value => pure value
  | .error failure => throw (.failure failure)

/-- Carry on with a value, or fail. -/
def ofExcept {Value : Type} (result : Except Failure Value) : ConsoleAction Value :=
  match result with
  | .ok value => pure value
  | .error failure => throw (.failure failure)

/-- Make the directory of a path and all those above it, if there is one. -/
def makeParent (path : String) : ConsoleAction Unit := do
  match Path.parent? path with
  | none => pure ()
  | some directory =>
      let console ← getThe Console
      let (made, files) := console.files.makeDirectories directory
      set { console with files }
      match made with
      | .ok () => pure ()
      | .error reason => throw (.file reason)

/-- Create or replace a file of the command itself. -/
def writeText (path text : String) : ConsoleAction Unit := do
  let console ← getThe Console
  match console.files.writeText path text with
  | .ok files => set { console with files }
  | .error reason => throw (.file reason)

end ConsoleAction

namespace Command

/-- The discipline that a text names, without regard to case and surrounding blanks. -/
def kindNamed (text : String) : ConsoleAction Kind :=
  match Kind.ofLabel? (Text.fold (Text.trim text)) with
  | some kind => pure kind
  | none =>
      ConsoleAction.fail
        ("Unsupported mutex kind '" ++ text
          ++ "', expected normal|recursive|errorcheck|default")

/-- The mode that a text names; validation cannot be switched off here. -/
def modeNamed (text : String) : ConsoleAction SafetyLevel :=
  let folded := Text.fold (Text.trim text)
  match SafetyLevel.ofLabel? folded with
  | some .strict => pure .strict
  | some .hardened => pure .hardened
  | _ =>
      ConsoleAction.fail
        ("Unsupported mode '" ++ folded ++ "', expected strict|hardened")

/-- Nanoseconds of a millisecond. -/
def nanosPerMilli : Nat := 1000000

/-- The disciplines that a command line asks for; none stand for all. -/
def kindsNamed (texts : List String) : ConsoleAction (List Kind) :=
  if texts.isEmpty then pure Kind.all else texts.mapM kindNamed

/-- Replay the contract and write the files of the run. -/
def runMatrix
    (now : Moment)
    (output stem run : String)
    (kinds : List String)
    (mode : String)
    (holdMillis thresholdMillis : Nat) :
    ConsoleAction Unit := do
  let mode ← modeNamed mode
  let kinds ← kindsNamed kinds
  if holdMillis ≤ thresholdMillis then
    ConsoleAction.fail "--block-threshold-ms must be below --hold-ms"
  let timing : Timing :=
    { hold := holdMillis * nanosPerMilli, threshold := thresholdMillis * nanosPerMilli }
  let report ← ConsoleAction.ofExcept (MatrixReport.build mode timing kinds)
  let root := (← getThe Console).files.currentPath
  let index ← ConsoleAction.onFiles (report.save now root output stem run)
  let summary := report.summary
  ConsoleAction.report
    (s!"contract matrix: {summary.total} cases, {summary.passed} passed, "
      ++ s!"{summary.modelOnly} model-only, {summary.mismatched} mismatched "
      ++ s!"({index.artifacts.length} artifacts)")
  if report.allPassed = false then
    for line in report.mismatches do
      ConsoleAction.report ("  " ++ line)
    ConsoleAction.fail s!"Contract matrix failed: {summary.mismatched} mismatch(es)"

/-- The log entry of a probe; the emitter numbers it. -/
def probeEntry (now : Moment) (report : FairnessReport) : LogEntry :=
  let level := if report.noStarvation then LogLevel.info else LogLevel.warn
  { LogEntry.new now "" level "fairness_probe" with
    stream := some .probe
    mutexKind := some report.mutexKind
    durationMillis := some report.durationMillis
    details := some report.toJson }

/-- Write the log of a probe. -/
def logProbe (now : Moment) (report : FairnessReport) (path : String) : ConsoleAction Unit := do
  ConsoleAction.makeParent path
  let emitter : LogEmitter := { bead := FairnessReport.fairnessBead, run := "local" }
  ConsoleAction.onFiles (emitter.writeLog path [probeEntry now report])

/-- Text of a list of counts. -/
def countsText (counts : List UInt64) : String :=
  "[" ++ ", ".intercalate (counts.map toString) ++ "]"

/-- Run a probe and write its log and its report. -/
def runProbe
    (now : Moment)
    (kind : String)
    (threads durationMillis : Nat)
    (output log : Option String) :
    ConsoleAction Unit := do
  let kind ← kindNamed kind
  let settings : ProbeSettings :=
    { kind, workers := threads, duration := durationMillis * nanosPerMilli }
  let report ← ConsoleAction.ofExcept settings.run
  match log with
  | none => pure ()
  | some path => logProbe now report path
  match output with
  | none => ConsoleAction.print report.document.pretty
  | some path => do
      ConsoleAction.makeParent path
      ConsoleAction.writeText path report.document.pretty
  if report.noStarvation = false then
    ConsoleAction.report
      ("fairness probe: a thread made no progress (acquisitions="
        ++ countsText report.acquisitions ++ ")")

/-- Validate a log and report its violations. -/
def runValidate (log : String) : ConsoleAction Unit := do
  let summary ← ConsoleAction.onFiles (LogSummary.ofFile log)
  for violation in summary.violations do
    ConsoleAction.report violation.display
  if summary.violations.isEmpty then
    ConsoleAction.report s!"{log}: {summary.records} record(s) valid"
  else
    ConsoleAction.fail
      s!"{log}: {summary.violations.length} violation(s) in {summary.records} record(s)"

/-- Hash the files of an index again and list those that no longer match. -/
def runVerify (index root : String) : ConsoleAction Unit := do
  let files := (← getThe Console).files
  match files.readText index with
  | .error reason => throw (.file reason)
  | .ok text =>
      match ArtifactIndex.parse? text with
      | none => throw .json
      | some parsed =>
          let stale := parsed.stale files root
          if stale.isEmpty then
            ConsoleAction.report s!"{parsed.artifacts.length} artifact(s) verified"
          else
            ConsoleAction.fail ("Stale or missing artifacts: " ++ ", ".intercalate stale)

/-- Paths that a command reads or writes, and the directories that these lie in. -/
def inputs (files : FileTree) : Command → List String
  | .contractMatrix output stem _ _ _ _ _ =>
      let written :=
        [MatrixReport.logPath output stem, MatrixReport.reportPath output stem,
          MatrixReport.indexPath output stem]
      (output :: written).flatMap Path.ancestors
  | .fairnessProbe _ _ _ _ output log =>
      (output.toList ++ log.toList).flatMap Path.ancestors
  | .validateLog log => [log]
  | .verifyArtifacts index root =>
      let listed :=
        match files.readText index with
        | .error _ => []
        | .ok text =>
            match ArtifactIndex.parse? text with
            | none => []
            | some parsed => parsed.artifacts.map fun entry => Path.join root entry.path
      index :: listed

/-- Run a command. -/
def action (now : Moment) : Command → ConsoleAction Unit
  | .contractMatrix output stem run kinds mode holdMillis thresholdMillis =>
      runMatrix now output stem run kinds mode holdMillis thresholdMillis
  | .fairnessProbe kind threads durationMillis _ output log =>
      runProbe now kind threads durationMillis output log
  | .validateLog log => runValidate log
  | .verifyArtifacts index root => runVerify index root

/-- Run a command to its exit status; a failure is reported last. -/
def run (now : Moment) (command : Command) (console : Console) : UInt32 × Console :=
  match (command.action now).run.run console with
  | (.ok (), after) => (0, after)
  | (.error complaint, after) =>
      (1, { after with errors := after.errors ++ complaint.line ++ "\n" })

end Command

end LatchMutex
