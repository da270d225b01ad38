namespace LatchMutex

/-!
# Faults of mutex operations

A fault is a cause.  Its status number and its wording are functions of it,
and `Fault.ofStatus?` inverts the status.
-/

/-- Why a mutex or attribute operation refused. -/
inductive Fault where
  /-- Empty handle, destroyed object, or an unknown code. -/
  | invalidArgument
  /-- The backing object could not be allocated. -/
  | outOfMemory
  /-- A mutex shared between processes was asked for. -/
  | notSupported
  /-- The mutex is held, or its slot is in use right now. -/
  | busy
  /-- The caller does not own the mutex. -/
  | permissionDenied
  /-- The owner relocked an error-checking mutex. -/
  | deadlock
  deriving Repr, DecidableEq, Inhabited

namespace Fault

/-- Every fault. -/
def all : List Fault :=
  [.invalidArgument, .outOfMemory, .notSupported, .busy, .permissionDenied,
    .deadlock]

/-- Status number of the fault; success is 0. -/
def status : Fault → Int32
  | .permissionDenied => 1
  | .outOfMemory => 12
  | .busy => 16
  | .invalidArgument => 22
  | .deadlock => 35
  | .notSupported => 38

/-- The fault with a given status number, if there is one. -/
def ofStatus? (status : Int32) : Option Fault :=
  all.find? fun fault => fault.status = status

/-- Wording of the fault. -/
def message : Fault → String
  | .invalidArgument => "invalid argument"
  | .outOfMemory => "out of memory"
  | .notSupported => "process-shared mutexes are not supported"
  | .busy => "mutex is busy"
  | .permissionDenied => "calling thread does not own the mutex"
  | .deadlock => "relock of an error-checking mutex by its owner"

/-- Status numbers identify faults. -/
theorem ofStatus?_status (fault : Fault) : ofStatus? fault.status = some fault := by
  cases fault <;> decide

/-- No fault shares the status of success. -/
theorem status_ne_zero (fault : Fault) : fault.status ≠ 0 := by
  cases fault <;> decide

end Fault

/-- Results are compared by what they hold. -/
instance decidableEqExcept
    {Error Value : Type}
    [DecidableEq Error]
    [DecidableEq Value] :
    DecidableEq (Except Error Value)
  | .error first, .error second => decidable_of_iff (first = second) (by simp)
  | .ok first, .ok second => decidable_of_iff (first = second) (by simp)
  | .error _, .ok _ | .ok _, .error _ => isFalse (by simp)

/-- Result of an operation that answers nothing but success. -/
abbrev Outcome := Except Fault Unit

/-- An outcome as a single status number: 0 on success. -/
def Outcome.status : Outcome → Int32
  | Except.ok () => 0
  | Except.error fault => fault.status

end LatchMutex
