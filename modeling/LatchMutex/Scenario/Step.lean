import LatchMutex.Boundary
import LatchMutex.Mode
import LatchMutex.Slot
import LatchMutex.World

namespace LatchMutex

/-!
# Steps of a script and their reports

A script names its threads, mutexes and attribute slots.  A step is what one
thread is told to do; a report is its answer, the threads that returned from a
wait because of it, and what the mutex looks like afterwards.
-/

/-- One step of a script, in the words of the thread that runs it. -/
inductive Step where
  /-- Give a name to a new handle with known contents. -/
  | install (mutex : String) (slot : Slot)
  /-- Give a name to a new handle and create in it; a failure keeps the old handle. -/
  | new (mutex : String) (kind : Option Kind) (shared : Bool)
  | create (mutex : String) (kind : Option Kind) (shared : Bool)
  | destroy (mutex : String)
  | lock (mutex : String)
  | unlock (mutex : String)
  | tryLock (mutex : String)
  | owned (mutex : String)
  | snapshot (mutex : String)
  | describe (mutex : String)
  | guard (mutex : String)
  | tryGuard (mutex : String)
  | dropGuard
  | setType (type : CancelType)
  | getType
  | setState (state : CancelState)
  | test
  /-- Publish the cancel handle of the thread. -/
  | publish
  | request (target : String)
  | isPending (target : String)
  | requestById (target : String)
  | enterScope
  | leaveScope
  | yieldPoint
  | openWindow
  | closeWindow
  | inject (failures : UInt32)
  | pendingFailures
  | exit
  | identity
  | setMode (level : SafetyLevel)
  | getMode
  | resetCounters
  | counters
  /-- Initialize a mutex over the boundary; no mutex is the null pointer. -/
  | init (mutex : Option String) (attributes : Option String)
  /-- Another mutex call over the boundary. -/
  | boundary (mutex : Option String) (operation : Operation)
  | attributeInit (slot : Option String)
  | attributeDestroy (slot : Option String)
  | attributeSetKind (slot : Option String) (code : Int32)
  | attributeSetSharing (slot : Option String) (code : Int32)
  | attributeGetKind (slot : Option String) (output : Bool)
  | attributeGetSharing (slot : Option String) (output : Bool)
  | attributeCopy (source target : String)
  deriving Repr, DecidableEq

/-- What a step of a script answers. -/
inductive StepAnswer where
  /-- The step was not run: its thread waits or has exited. -/
  | skipped
  | blocked
  | canceled (thread : String)
  | done
  /-- There is nothing on the stack to take. -/
  | nothing
  | outcome (outcome : Outcome)
  | status (status : Int32)
  | flag (answer : Bool)
  | type (type : CancelType)
  | state (state : CancelState)
  | scope (previous : CancelType)
  | wasOwned (answer : Bool)
  | published
  | failures (count : UInt32)
  | identity (description : String)
  | level (level : SafetyLevel)
  | counters (counters : List (Branch × Option UInt64))
  | text (text : String)
  /-- Status of a destroy, and whether the slot or its handle is null now. -/
  | nulled (status : Int32) (null : Bool)
  /-- Status of a getter, and the number in its output. -/
  | output (status : Int32) (output : Int32)
  deriving Repr, DecidableEq, Inhabited

/-- Record of a mutex with the threads in it named. -/
structure NamedRecord where
  kind : Kind
  sharing : Sharing
  lockIndex : Int32
  depth : UInt32
  locked : Bool
  owner : Option String
  waiters : UInt32
  lastOwner : Option String
  lastWaiter : Option String
  tryGuard : UInt32
  deriving Repr, DecidableEq, Inhabited

/-- What is reported of a mutex after a step. -/
inductive NamedView where
  | fault (fault : Fault)
  | uninitialized
  | constructed (record : NamedRecord)
  deriving Repr, DecidableEq, Inhabited

/-- Everything reported of a step. -/
structure StepReport where
  answer : StepAnswer
  woke : List (String × StepAnswer) := []
  view : Option NamedView := none
  deriving Repr, DecidableEq, Inhabited

/-- How the answer of a waiting call is to be worded. -/
inductive Wording where
  | outcome
  | status
  deriving Repr, DecidableEq, Inhabited

namespace Step

/-- Name of the mutex that a step speaks of. -/
def mutex? : Step → Option String
  | .install mutex _ | .new mutex _ _ | .create mutex _ _ | .destroy mutex => some mutex
  | .lock mutex | .unlock mutex | .tryLock mutex | .owned mutex => some mutex
  | .snapshot mutex | .describe mutex | .guard mutex | .tryGuard mutex => some mutex
  | .init mutex _ | .boundary mutex _ => mutex
  | _ => none

/-- Name of the thread whose cancellation a step requests. -/
def target? : Step → Option String
  | .request target | .requestById target => some target
  | _ => none

end Step

namespace StepAnswer

/-- Wording of the result of an operation. -/
def ofResult (wording : Wording) (result : Result) : StepAnswer :=
  match wording with
  | .outcome => .outcome result.outcome
  | .status => .status result.outcome.status

end StepAnswer

end LatchMutex
