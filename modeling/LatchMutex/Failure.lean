import LatchMutex.Fault

namespace LatchMutex

/-!
# Failures of the tools

What can go wrong outside the mutexes themselves, with its wording.
-/

/-- Why a tool gave up. -/
inductive Failure where
  /-- A file could not be read or written. -/
  | io (path reason : String)
  /-- A log stream refused what was written to it. -/
  | write (reason : String)
  /-- A text is not the JSON text of what was expected. -/
  | json
  | invalidArgument (reason : String)
  | probe (reason : String)
  | mutex (fault : Fault)
  deriving Repr, DecidableEq, Inhabited

namespace Failure

/-- Wording of the failure. -/
def message : Failure → String
  | .io path reason => s!"{path}: {reason}"
  | .write reason => s!"failed writing log stream: {reason}"
  | .json => "json"
  | .invalidArgument reason => s!"invalid argument: {reason}"
  | .probe reason => s!"probe thread failed: {reason}"
  | .mutex fault => s!"mutex operation failed: {fault.message}"

/-- Whether the failure passes on a failure below it. -/
def hasCause : Failure → Bool
  | .io _ _ | .write _ | .json | .mutex _ => true
  | .invalidArgument _ | .probe _ => false

/-- Name of the kind of failure. -/
def label : Failure → String
  | .io _ _ => "Io"
  | .write _ => "Write"
  | .json => "Json"
  | .invalidArgument _ => "InvalidArgument"
  | .probe _ => "Probe"
  | .mutex _ => "Mutex"

end Failure

end LatchMutex
