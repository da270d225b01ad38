import LatchMutex.Files.FileAction
import LatchMutex.Log.Emitter
import LatchMutex.Log.Validation

namespace LatchMutex

/-!
# Logs in files

A log is written to a file that is created before the first entry, and a log is
validated line by line: blank lines are skipped but counted, so that a violation
names the line of the file.
-/

namespace LogEmitter

/-- An emitter that writes to a new file. -/
def create (path bead run : String) : FileAction LogEmitter := do
  FileAction.writeText path ""
  pure { bead, run }

/-- Write entries to a new file, which keeps what was written before a failure. -/
def writeLog (emitter : LogEmitter) (path : String) (entries : List LogEntry) :
    FileAction Unit := do
  FileAction.writeText path ""
  let (emitted, after) := emitter.emitAll entries
  FileAction.writeText path after.sink.written
  FileAction.ofExcept emitted

end LogEmitter

/-- What the validation of a whole log found. -/
structure LogSummary where
  /-- Number of lines that are not blank. -/
  records : Nat
  violations : List Violation
  deriving Repr, DecidableEq, Inhabited

namespace LogSummary

/-- Lines of a log that are not blank, without the space around them, and their numbers in the
log counted from one. -/
def recordLines (text : String) : List (String × Nat) :=
  let trimmed := (Text.lines text).map Text.trim
  (trimmed.zipIdx 1).filter fun (line, _) => !line.isEmpty

/-- What is wrong with a line of a given number. -/
def violationsOf (line : String × Nat) : List Violation :=
  match LogEntry.validate line.1 line.2 with
  | .ok _ => []
  | .error found => found

/-- Validate every line of a log that is not blank. -/
def ofText (text : String) : LogSummary :=
  let lines := recordLines text
  { records := lines.length, violations := lines.flatMap violationsOf }

/-- Validate the log in a file. -/
def ofFile (path : String) : FileAction LogSummary := do
  let text ← FileAction.readText path
  pure (ofText text)

end LogSummary

end LatchMutex
