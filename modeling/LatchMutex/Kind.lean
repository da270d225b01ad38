namespace LatchMutex

/-!
# Locking disciplines and sharing modes

The two knobs of a mutex attribute object, each with its integer code and its
printed label.  `Kind.resolve` states which discipline a mutex really runs:
the default one is recursive, and every other one is itself.
-/

/-- Locking discipline requested for a mutex. -/
inductive Kind where
  /-- No checking; a relock by the owner never returns. -/
  | normal
  /-- The owner may relock; each lock needs its own unlock. -/
  | recursive
  /-- A relock by the owner is reported as a deadlock. -/
  | errorCheck
  /-- Left open by the caller; a created mutex runs it as recursive. -/
  | byDefault
  deriving Repr, DecidableEq, Inhabited

namespace Kind

/-- Every discipline, in the order of its code. -/
def all : List Kind :=
  [.normal, .recursive, .errorCheck, .byDefault]

/-- Label used in logs and reports. -/
def label : Kind → String
  | .normal => "normal"
  | .recursive => "recursive"
  | .errorCheck => "errorcheck"
  | .byDefault => "default"

/-- Integer code of the discipline at the status-code boundary. -/
def code : Kind → Int32
  | .normal => 0
  | .recursive => 1
  | .errorCheck => 2
  | .byDefault => 3

/-- The discipline with a given code, if there is one. -/
def ofCode? (code : Int32) : Option Kind :=
  all.find? fun kind => kind.code = code

/-- The discipline with a given label, if there is one. -/
def ofLabel? (label : String) : Option Kind :=
  all.find? fun kind => kind.label = label

/-- The discipline that a mutex created with this request runs. -/
def resolve : Kind → Kind
  | .byDefault => .recursive
  | kind => kind

/-- Whether the owner may relock without waiting. -/
def isRecursive (kind : Kind) : Bool :=
  kind.resolve = .recursive

/-- Only the four codes name a discipline, and each names its own. -/
theorem ofCode?_code (kind : Kind) : ofCode? kind.code = some kind := by
  cases kind <;> decide

/-- Labels identify disciplines. -/
theorem ofLabel?_label (kind : Kind) : ofLabel? kind.label = some kind := by
  cases kind <;> decide

/-- A resolved discipline is never the open one. -/
theorem resolve_ne_byDefault (kind : Kind) : kind.resolve ≠ .byDefault := by
  cases kind <;> decide

end Kind

/-- Whether a mutex may be used by several processes. -/
inductive Sharing where
  | processPrivate
  | processShared
  deriving Repr, DecidableEq, Inhabited

namespace Sharing

/-- Both sharing modes. -/
def all : List Sharing :=
  [.processPrivate, .processShared]

/-- Integer code of the mode at the status-code boundary. -/
def code : Sharing → Int32
  | .processPrivate => 0
  | .processShared => 1

/-- The mode with a given code, if there is one. -/
def ofCode? (code : Int32) : Option Sharing :=
  all.find? fun mode => mode.code = code

/-- Each mode is the one its code names. -/
theorem ofCode?_code (mode : Sharing) : ofCode? mode.code = some mode := by
  cases mode <;> decide

end Sharing

end LatchMutex
