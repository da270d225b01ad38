import LatchMutex.Contract
import LatchMutex.Failure
import LatchMutex.Schedule

namespace LatchMutex

/-!
# Observing one cell of the matrix

A cell is a discipline, a state and an operation.  To observe it, a world with
one mutex is brought into the state, a second thread holding the mutex where the
state asks for that, and the operation is run.  A lock against the holder waits
until the holder lets go, which takes the whole holding time; every other call
takes no time at all.
-/

/-- One cell of the matrix. -/
structure MatrixCell where
  kind : Kind
  state : ContractState
  operation : ContractOperation
  deriving Repr, DecidableEq, Inhabited

/-- How long a holder holds and from when on a call counts as blocked, in nanoseconds. -/
structure Timing where
  hold : Nat
  threshold : Nat
  deriving Repr, DecidableEq, Inhabited

/-- What a real call did. -/
structure Observation where
  next : ContractState
  status : Int32
  blocks : Bool
  /-- Duration of the call in nanoseconds. -/
  elapsed : Nat
  deriving Repr, DecidableEq, Inhabited

namespace MatrixCell

/-- Every cell of a discipline, by state and then by operation. -/
def ofKind (kind : Kind) : List MatrixCell :=
  ContractState.all.flatMap fun state =>
    ContractOperation.all.map fun operation => { kind, state, operation }

/-- Name of the cell. -/
def name (cell : MatrixCell) : String :=
  s!"{cell.kind.label}:{cell.state.label}:{cell.operation.label}"

/-- Whether the real call would never return. -/
def isModelOnly (cell : MatrixCell) : Bool :=
  cell.kind = .normal ∧ cell.state = .lockedBySelf ∧ cell.operation = .lock

/-- What the contract says about the cell. -/
def expected (cell : MatrixCell) : Transition :=
  Contract.transition cell.kind.code cell.state cell.operation

/-- The mutex of the cell. -/
def handle : HandleId := ⟨0⟩

/-- The thread that calls. -/
def caller : ThreadId := ⟨0⟩

/-- The thread that holds the mutex where another thread holds it. -/
def holder : ThreadId := ⟨1⟩

/-- The operation that a contract operation stands for. -/
def operationOf (kind : Kind) : ContractOperation → Operation
  | .init => .create (some (.withKind kind))
  | .lock => .lock
  | .tryLock => .tryLock
  | .unlock => .unlock
  | .destroy => .destroy

/-- Run an operation of one thread on the mutex. -/
def run (world : World) (thread : ThreadId) (operation : Operation) : World × Reply :=
  world.perform thread (.call handle operation false)

/-- A step of the staging, which has to succeed. -/
def demand (done : World × Reply) : Except Failure World :=
  match done with
  | (world, .returned (.ok _)) => .ok world
  | (_, .returned (.error fault)) => .error (.mutex fault)
  | _ => .error (.probe "holder exited before locking")

/-- A world in which the mutex is in the state of the cell. -/
def stage (cell : MatrixCell) : Except Failure World := do
  let sentinel := World.initial.setCell handle { slot := .sentinel }
  let create := operationOf cell.kind .init
  match cell.state with
  | .uninitialized => pure World.initial
  | .staticInitializer => pure sentinel
  | .unlocked => demand (run World.initial caller create)
  | .lockedBySelf => do
      let created ← demand (run World.initial caller create)
      demand (run created caller .lock)
  | .lockedByOther => do
      let created ← demand (run World.initial caller create)
      demand (run created holder .lock)
  | .destroyed => do
      let created ← demand (run World.initial caller create)
      demand (run created caller .destroy)

/-- Whether the call meets a holder that lets go while it waits. -/
def meetsHolder (cell : MatrixCell) : Bool :=
  cell.state = .lockedByOther ∧ cell.operation = .lock

/-- Run the operation of the cell; a holder that is waited for unlocks in between. -/
def callIn (cell : MatrixCell) (world : World) : World × Reply :=
  match run world caller (operationOf cell.kind cell.operation) with
  | (waiting, .silent) =>
      let (released, _) := run waiting holder .unlock
      released.follow caller
  | answered => answered

/-- State of the mutex as the caller sees it after the call. -/
def observedState (cell : MatrixCell) (world : World) : ContractState :=
  match (world.slot handle).view with
  | .error _ => if cell.state = .uninitialized then .uninitialized else .destroyed
  | .ok .uninitialized => .staticInitializer
  | .ok (.constructed record) =>
      match record.owner with
      | none => .unlocked
      | some owner => if owner = caller then .lockedBySelf else .lockedByOther

/-- Stage the cell, run its operation and report what happened. -/
def observe (cell : MatrixCell) (timing : Timing) : Except Failure Observation := do
  if cell.isModelOnly then
    .error (.invalidArgument s!"{cell.name} never returns")
  else
    let staged ← cell.stage
    match cell.callIn staged with
    | (after, .returned result) =>
        let elapsed := if cell.meetsHolder then timing.hold else 0
        let destroyed := cell.operation = .destroy ∧ result.toBool
        pure
          { next := if destroyed then .destroyed else cell.observedState after
            status := result.outcome.status
            blocks := timing.threshold ≤ elapsed
            elapsed }
    | _ => .error (.probe "releaser panicked")

end MatrixCell

end LatchMutex
