import LatchMutex.Attributes
import LatchMutex.Counters

namespace LatchMutex

/-!
# The mutex record and its latch-held moves

The record holds the shared acquisition counter `lockIndex` (-1 while the mutex
is free), the owner, and the bookkeeping of the fairness rule.  Everything here
happens while the caller holds the slot latch, so each move is one function.

`Record.attempt` is the heart: one attempt of a blocking acquisition.  A free
mutex is taken, unless the caller was its last owner and somebody else parked
since: then the caller parks once itself.  A held mutex is relocked, refused or
waited for, as its discipline says.  A losing attempt raises the counter and
lowers it again.
-/

/-- Identity of a thread, comparable only. -/
structure ThreadId where
  number : Nat
  deriving Repr, DecidableEq, Inhabited

/-- Value of the acquisition counter of a free mutex. -/
def unlocked : Int32 := -1

/-- The state behind a constructed mutex. -/
structure Record where
  kind : Kind
  sharing : Sharing
  lockIndex : Int32 := unlocked
  owner : Option ThreadId := none
  waiters : UInt32 := 0
  lastOwner : Option ThreadId := none
  lastWaiter : Option ThreadId := none
  tryGuard : UInt32 := 0
  deriving Repr, DecidableEq, Inhabited

/-- What one latch-held attempt came to. -/
inductive Decision where
  | acquired
  | deadlocked
  /-- The attempt is to be repeated after a yield. -/
  | parked
  /-- The attempt waits, latch in hand, for a half-done try-lock. -/
  | spinning
  deriving Repr, DecidableEq

/-- What one latch-held attempt did. -/
structure Turn where
  decision : Decision
  record : Record
  branches : List Branch
  deriving Repr, DecidableEq

/-- How a single-try acquisition ended. -/
inductive TryPath where
  /-- The mutex was held. -/
  | held
  /-- The mutex was free and is taken. -/
  | taken
  /-- The counter moved between the look and the claim, and the claim was taken back. -/
  | reverted
  deriving Repr, DecidableEq

namespace TryPath

/-- Result that a single-try acquisition reports. -/
def outcome : TryPath → Outcome
  | .taken => .ok ()
  | .held | .reverted => .error .busy

end TryPath

namespace Record

/-- A free record with the given attributes, or with the default ones. -/
def fresh (attributes : Option Attributes) : Record where
  kind := (attributes.getD {}).kind.resolve
  sharing := (attributes.getD {}).sharing

/-- Raise the acquisition counter by one. -/
def claim (record : Record) : Record :=
  { record with lockIndex := record.lockIndex + 1 }

/-- Lower the acquisition counter by one. -/
def unclaim (record : Record) : Record :=
  { record with lockIndex := record.lockIndex - 1 }

/-- Make a thread the owner. -/
def take (record : Record) (me : ThreadId) : Record :=
  { record with owner := some me, lastOwner := some me, lastWaiter := none }

/-- Count the caller as a waiter and take its claim back; the count stops at its top. -/
def enterWait (record : Record) (me : ThreadId) : Record :=
  { record with
    waiters := if record.waiters = -1 then record.waiters else record.waiters + 1
    lastWaiter := some me }.unclaim

/-- Count one waiter less; the count stops at zero. -/
def leaveWait (record : Record) : Record :=
  if record.waiters = 0 then
    record
  else
    { record with waiters := record.waiters - 1 }

/-- One attempt of a blocking acquisition. -/
def attempt (record : Record) (me : ThreadId) : Turn :=
  let claimed := record.claim
  if record.lockIndex = unlocked then
    if 0 < record.waiters ∧ record.lastOwner = some me then
      if record.lastWaiter = some me then
        ⟨.acquired, { claimed with waiters := 0 }.take me, [.staleWaiterReset]⟩
      else
        ⟨.parked, claimed.enterWait me, [.fairnessDeferral]⟩
    else
      ⟨.acquired, claimed.take me, []⟩
  else if record.tryGuard ≠ 0 then
    ⟨.spinning, claimed, [.tryLockGuardSpin]⟩
  else if record.owner = some me ∧ record.kind.isRecursive then
    ⟨.acquired, claimed.take me, []⟩
  else if record.owner = some me ∧ record.kind = .errorCheck then
    ⟨.deadlocked, claimed.unclaim, [.deadlockReported]⟩
  else
    ⟨.parked, claimed.enterWait me, []⟩

/-- Release one acquisition; a recursive owner stays owner until the outermost one. -/
def release (record : Record) (me : ThreadId) : Outcome × Record :=
  if record.owner ≠ some me then
    (.error .permissionDenied, record)
  else if record.kind.isRecursive ∧ record.lockIndex ≠ 0 then
    (.ok (), record.unclaim)
  else
    (.ok (), { record with owner := none }.unclaim)

/-- Raise the guard under which a single-try acquisition evaluates. -/
def raiseGuard (record : Record) : Record :=
  { record with tryGuard := record.tryGuard + 1 }

/-- Lower the guard again. -/
def lowerGuard (record : Record) : Record :=
  { record with tryGuard := record.tryGuard - 1 }

/-- One single-try acquisition: a mutex held by anybody, the caller included, is left alone. -/
def tryTake (record : Record) (me : ThreadId) : TryPath × Record :=
  if record.lockIndex ≠ unlocked then
    (.held, record)
  else
    let guarded := record.raiseGuard
    if guarded.lockIndex = unlocked then
      (.taken, (guarded.claim.take me).lowerGuard)
    else
      (.reverted, guarded.claim.unclaim.lowerGuard)

/-- Whether some acquisition is outstanding. -/
def isLocked (record : Record) : Bool :=
  unlocked < record.lockIndex

/-- Number of outstanding acquisitions. -/
def depth (record : Record) : UInt32 :=
  let acquisitions := record.lockIndex - unlocked
  if acquisitions < 0 then 0 else acquisitions.toUInt32

end Record

end LatchMutex
