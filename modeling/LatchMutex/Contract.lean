import LatchMutex.Fault
import LatchMutex.Kind

namespace LatchMutex

/-!
# Transition contract

What each operation does to a mutex as a single observer sees it: the next
state, a status number, and whether the call waits.  The contract is a table of
its own and knows nothing of records.
-/

/-- State of a mutex as one thread observes it. -/
inductive ContractState where
  /-- Never constructed. -/
  | uninitialized
  /-- Declared, to be constructed on first use. -/
  | staticInitializer
  | unlocked
  | lockedBySelf
  | lockedByOther
  | destroyed
  deriving Repr, DecidableEq, Inhabited

namespace ContractState

/-- Every state, in reporting order. -/
def all : List ContractState :=
  [.uninitialized, .staticInitializer, .unlocked, .lockedBySelf, .lockedByOther, .destroyed]

/-- Label used in logs and reports. -/
def label : ContractState → String
  | .uninitialized => "uninitialized"
  | .staticInitializer => "static_initializer"
  | .unlocked => "unlocked"
  | .lockedBySelf => "locked_by_self"
  | .lockedByOther => "locked_by_other"
  | .destroyed => "destroyed"

/-- The state with a given label, if there is one. -/
def ofLabel? (label : String) : Option ContractState :=
  all.find? fun state => state.label = label

end ContractState

/-- Operation that the contract speaks of. -/
inductive ContractOperation where
  | init
  | lock
  | tryLock
  | unlock
  | destroy
  deriving Repr, DecidableEq, Inhabited

namespace ContractOperation

/-- Every operation, in reporting order. -/
def all : List ContractOperation :=
  [.init, .lock, .tryLock, .unlock, .destroy]

/-- Label used in logs and reports. -/
def label : ContractOperation → String
  | .init => "init"
  | .lock => "lock"
  | .tryLock => "trylock"
  | .unlock => "unlock"
  | .destroy => "destroy"

/-- The operation with a given label, if there is one. -/
def ofLabel? (label : String) : Option ContractOperation :=
  all.find? fun operation => operation.label = label

end ContractOperation

/-- What the contract says about one operation in one state. -/
structure Transition where
  next : ContractState
  status : Int32 := 0
  blocks : Bool := false
  deriving Repr, DecidableEq, Inhabited

namespace Contract

/-- The operation succeeds at once. -/
def moves (next : ContractState) : Transition :=
  { next }

/-- The operation is refused and the state stays. -/
def refuses (state : ContractState) (fault : Fault) : Transition :=
  { next := state, status := fault.status }

/-- The operation waits while the state stays. -/
def waits (state : ContractState) : Transition :=
  { next := state, blocks := true }

/-- A lock by the thread that holds the mutex. -/
def relock : Kind → Transition
  | .errorCheck => refuses .lockedBySelf .deadlock
  | .normal => waits .lockedBySelf
  | .recursive | .byDefault => moves .lockedBySelf

/-- The contract of a mutex of a known discipline. -/
def rule (kind : Kind) (state : ContractState) (operation : ContractOperation) : Transition :=
  match state, operation with
  | _, .init => moves .unlocked
  | .uninitialized, _ | .destroyed, _ => refuses state .invalidArgument
  | .staticInitializer, .lock | .staticInitializer, .tryLock => moves .lockedBySelf
  | .unlocked, .lock | .unlocked, .tryLock => moves .lockedBySelf
  | .staticInitializer, .destroy | .unlocked, .destroy => moves .destroyed
  | .staticInitializer, .unlock => refuses state .invalidArgument
  | .unlocked, .unlock => refuses state .permissionDenied
  | .lockedByOther, .lock => waits state
  | .lockedByOther, .tryLock | .lockedByOther, .destroy => refuses state .busy
  | .lockedByOther, .unlock => refuses state .permissionDenied
  | .lockedBySelf, .tryLock | .lockedBySelf, .destroy => refuses state .busy
  | .lockedBySelf, .unlock => moves .unlocked
  | .lockedBySelf, .lock => relock kind

/-- The contract by the code of the discipline; an unknown code is refused in every state. -/
def transition
    (code : Int32)
    (state : ContractState)
    (operation : ContractOperation) :
    Transition :=
  match Kind.ofCode? code with
  | none => refuses state .invalidArgument
  | some kind => rule kind state operation

/-- The contract of each operation of a list, all from the same state. -/
def answers
    (code : Int32)
    (state : ContractState)
    (operations : List ContractOperation) :
    List Transition :=
  operations.map (transition code state)

/-- The contract along a history, each operation from the state after the one before. -/
def walk
    (code : Int32)
    (state : ContractState) :
    List ContractOperation → List Transition
  | [] => []
  | operation :: rest =>
      let step := transition code state operation
      step :: walk code step.next rest

end Contract

end LatchMutex
