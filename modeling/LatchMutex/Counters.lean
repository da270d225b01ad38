namespace LatchMutex

/-!
# Branch counters

Eight wrapping 64-bit counters of the branches that the locking state machine
takes.  A section of the machine lists the branches it took and `Counters.tally`
adds them; `Counters.between` is the movement from one reading to a later one.
-/

/-- A counted branch of the locking state machine. -/
inductive Branch where
  /-- A blocking latch acquisition found the latch held. -/
  | slotContended
  /-- A single-try latch acquisition failed. -/
  | slotTryFailed
  /-- A locker spun while a try-lock was half done. -/
  | tryLockGuardSpin
  /-- A previous owner gave way to a parked waiter. -/
  | fairnessDeferral
  /-- A stale waiter count was reset by its only recorded waiter. -/
  | staleWaiterReset
  /-- One trip through the wait loop. -/
  | waitYield
  /-- An error-checking mutex refused a relock. -/
  | deadlockReported
  /-- A sentinel became a record. -/
  | lazyInit
  deriving Repr, DecidableEq, Inhabited

namespace Branch

/-- Every branch, in reporting order. -/
def all : List Branch :=
  [.slotContended, .slotTryFailed, .tryLockGuardSpin, .fairnessDeferral,
    .staleWaiterReset, .waitYield, .deadlockReported, .lazyInit]

/-- Name under which a branch is reported. -/
def label : Branch → String
  | .slotContended => "slot_contended"
  | .slotTryFailed => "slot_try_failed"
  | .tryLockGuardSpin => "try_lock_guard_spins"
  | .fairnessDeferral => "fairness_deferrals"
  | .staleWaiterReset => "stale_waiter_resets"
  | .waitYield => "wait_yields"
  | .deadlockReported => "deadlocks_reported"
  | .lazyInit => "lazy_inits"

/-- The branch reported under a given name, if there is one. -/
def ofLabel? (label : String) : Option Branch :=
  all.find? fun branch => branch.label = label

end Branch

/-- A reading of all eight counters. -/
structure Counters where
  slotContended : UInt64 := 0
  slotTryFailed : UInt64 := 0
  tryLockGuardSpins : UInt64 := 0
  fairnessDeferrals : UInt64 := 0
  staleWaiterResets : UInt64 := 0
  waitYields : UInt64 := 0
  deadlocksReported : UInt64 := 0
  lazyInits : UInt64 := 0
  deriving Repr, DecidableEq, Inhabited

namespace Counters

/-- All counters at zero. -/
def zero : Counters := {}

/-- The counter of one branch. -/
def get (counters : Counters) : Branch → UInt64
  | .slotContended => counters.slotContended
  | .slotTryFailed => counters.slotTryFailed
  | .tryLockGuardSpin => counters.tryLockGuardSpins
  | .fairnessDeferral => counters.fairnessDeferrals
  | .staleWaiterReset => counters.staleWaiterResets
  | .waitYield => counters.waitYields
  | .deadlockReported => counters.deadlocksReported
  | .lazyInit => counters.lazyInits

/-- Replace the counter of one branch. -/
def set (counters : Counters) (branch : Branch) (value : UInt64) : Counters :=
  match branch with
  | .slotContended => { counters with slotContended := value }
  | .slotTryFailed => { counters with slotTryFailed := value }
  | .tryLockGuardSpin => { counters with tryLockGuardSpins := value }
  | .fairnessDeferral => { counters with fairnessDeferrals := value }
  | .staleWaiterReset => { counters with staleWaiterResets := value }
  | .waitYield => { counters with waitYields := value }
  | .deadlockReported => { counters with deadlocksReported := value }
  | .lazyInit => { counters with lazyInits := value }

/-- Count one branch; a counter at its greatest value wraps to zero. -/
def record (counters : Counters) (branch : Branch) : Counters :=
  counters.set branch (counters.get branch + 1)

/-- Count every branch of a list. -/
def tally (counters : Counters) (branches : List Branch) : Counters :=
  branches.foldl record counters

/-- The eight values in reporting order. -/
def toList (counters : Counters) : List UInt64 :=
  Branch.all.map counters.get

/-- Read eight values in reporting order; missing ones are zero. -/
def ofList (values : List UInt64) : Counters :=
  (Branch.all.zip values).foldl (fun counters (branch, value) => counters.set branch value)
    zero

/-- Difference that stops at zero, so a counter reset in between reads as no movement. -/
def advance (before after : UInt64) : UInt64 :=
  if before ≤ after then after - before else 0

/-- Movement of every counter from one reading to a later one. -/
def between (before after : Counters) : Counters where
  slotContended := advance before.slotContended after.slotContended
  slotTryFailed := advance before.slotTryFailed after.slotTryFailed
  tryLockGuardSpins := advance before.tryLockGuardSpins after.tryLockGuardSpins
  fairnessDeferrals := advance before.fairnessDeferrals after.fairnessDeferrals
  staleWaiterResets := advance before.staleWaiterResets after.staleWaiterResets
  waitYields := advance before.waitYields after.waitYields
  deadlocksReported := advance before.deadlocksReported after.deadlocksReported
  lazyInits := advance before.lazyInits after.lazyInits

/-- Whether no counter moved. -/
def isZero (counters : Counters) : Bool :=
  counters = zero

/-- A counter reads what was last stored in it. -/
theorem get_set_self (counters : Counters) (branch : Branch) (value : UInt64) :
    (counters.set branch value).get branch = value := by
  cases branch <;> rfl

/-- Storing one counter leaves the others alone. -/
theorem get_set_of_ne
    (counters : Counters)
    {stored read : Branch}
    (value : UInt64)
    (different : read ≠ stored) :
    (counters.set stored value).get read = counters.get read := by
  cases stored <;> cases read <;> first | rfl | exact absurd rfl different

end Counters

end LatchMutex
