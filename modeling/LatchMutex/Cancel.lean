namespace LatchMutex

/-!
# Cancellation of a thread

Every thread carries a cancel type, a cancel state and one pending flag that
other threads may raise.  `CancelStatus.test` is the only place at which a
request is delivered: the thread has to be enabled and asynchronous.

A deferred scope makes the thread deferred and restores the previous type at
its end, where a thread that was asynchronous tests once more.  A window makes
the thread asynchronous for a moment, tests, and falls back to deferred when it
closes.  A window that is canceled while it opens is closed by the unwinding,
so `CancelStatus.openWindow` is deferred in both cases that end it.
-/

/-- When a pending cancellation may be acted upon. -/
inductive CancelType where
  /-- Only at explicit points. -/
  | deferred
  /-- At any test. -/
  | asynchronous
  deriving Repr, DecidableEq, Inhabited

/-- Whether cancellation requests are honored at all. -/
inductive CancelState where
  | enabled
  | disabled
  deriving Repr, DecidableEq, Inhabited

/-- What a thread knows about its own cancellation. -/
structure CancelStatus where
  type : CancelType := .deferred
  state : CancelState := .enabled
  pending : Bool := false
  deriving Repr, DecidableEq, Inhabited

namespace CancelStatus

/-- Replace the type. -/
def setType (status : CancelStatus) (type : CancelType) : CancelStatus :=
  { status with type }

/-- Replace the state. -/
def setState (status : CancelStatus) (state : CancelState) : CancelStatus :=
  { status with state }

/-- Raise the pending flag. -/
def request (status : CancelStatus) : CancelStatus :=
  { status with pending := true }

/-- Whether a test would deliver right now. -/
def isDeliverable (status : CancelStatus) : Bool :=
  status.state = .enabled ∧ status.type = .asynchronous ∧ status.pending

/-- Deliver a pending request if that is allowed right now; delivery lowers the flag. -/
def test (status : CancelStatus) : Bool × CancelStatus :=
  if status.isDeliverable then
    (true, { status with pending := false })
  else
    (false, status)

/-- Enter a deferred scope; the first part is the type to restore. -/
def enterScope (status : CancelStatus) : CancelType × CancelStatus :=
  (status.type, status.setType .deferred)

/-- Leave a deferred scope while unwinding: the type is restored and nothing is tested. -/
def unwindScope (status : CancelStatus) (previous : CancelType) : CancelStatus :=
  status.setType previous

/-- Leave a deferred scope; a thread that was asynchronous before it tests. -/
def leaveScope (status : CancelStatus) (previous : CancelType) : Bool × CancelStatus :=
  let restored := status.unwindScope previous
  if previous = .asynchronous then restored.test else (false, restored)

/-- Close a window: the thread is deferred again. -/
def closeWindow (status : CancelStatus) : CancelStatus :=
  status.setType .deferred

/-- Open a window: asynchronous, and tested at once; a delivery closes it again. -/
def openWindow (status : CancelStatus) : Bool × CancelStatus :=
  match (status.setType .asynchronous).test with
  | (true, delivered) => (true, delivered.closeWindow)
  | (false, opened) => (false, opened)

/-- Yield once inside a scope: a thread that was asynchronous before it opens a window for it. -/
def yieldPoint (status : CancelStatus) (previous : CancelType) : Bool × CancelStatus :=
  if previous = .asynchronous then
    match status.openWindow with
    | (true, delivered) => (true, delivered)
    | (false, opened) => (false, opened.closeWindow)
  else
    (false, status)

/-- A test keeps type and state. -/
theorem test_snd (status : CancelStatus) :
    status.test.2.type = status.type ∧ status.test.2.state = status.state := by
  unfold test
  split <;> simp

/-- The type to restore comes back, whether or not the end of the scope delivers. -/
theorem leaveScope_type (status : CancelStatus) (previous : CancelType) :
    (status.leaveScope previous).2.type = previous := by
  unfold leaveScope
  split
  · exact (test_snd _).1
  · rfl

end CancelStatus

end LatchMutex
