import LatchMutex.Cancel
import LatchMutex.CancelFacade
import LatchMutex.Slot
import LatchMutex.Table

namespace LatchMutex

/-!
# Threads, handles and their interleavings

A world holds the handles, the threads, the cells behind their cancellation and the
branch counters.  One small step of one thread is one `Event`, and `World.step?` says
what it does; a run is a list of such events in any interleaving.

The pending flag of a thread lies in its cell, not with the thread: `World.thread` reads
it there, and `World.setThread` writes it there.

A call of a public operation goes through phases.  `Event.call` enters the
deferred cancel scope.  Each `Event.proceed` then does one of: a whole section
under the latch, the opening of the window around a yield, or the end of the
scope.  Only the sections touch a slot, and only the two others can cancel.
-/

/-- Identity of a mutex handle. -/
structure HandleId where
  number : Nat
  deriving Repr, DecidableEq, Inhabited

/-- How far a call has come. -/
inductive Phase where
  /-- Inside the scope, before the first section. -/
  | arriving
  /-- Parked by the section before, about to yield. -/
  | parked
  /-- In the middle of the yield, about to come back. -/
  | yielding
  /-- Waiting, latch in hand, for a half-done try-lock. -/
  | spinning
  /-- Done under the latch, about to leave the scope. -/
  | leaving (result : Result)
  deriving Repr, DecidableEq, Inhabited

/-- Phase of a call after a section that came so far. -/
def Phase.ofProgress : Progress → Phase
  | .finished result => .leaving result
  | .parked => .parked
  | .spinning => .spinning

/-- A public operation under way. -/
structure Call where
  handle : HandleId
  operation : Operation
  /-- Whether a successful call is handed back as a guard. -/
  guarded : Bool
  /-- Cancel type that the end of the scope restores. -/
  previous : CancelType
  phase : Phase
  deriving Repr, DecidableEq, Inhabited

/-- What belongs to one thread. -/
structure Thread where
  /-- Type and state are the thread's own; of the flag this is what the thread last knew. -/
  cancel : CancelStatus := {}
  /-- Whether the thread ever used the facade. -/
  touched : Bool := false
  /-- Whether a delivered cancellation is unwinding the thread. -/
  unwinding : Bool := false
  exited : Bool := false
  budget : Budget := {}
  /-- Types to restore of the scopes entered outside operations, innermost first. -/
  scopes : List CancelType := []
  /-- Windows opened outside operations and not closed yet. -/
  windows : Nat := 0
  /-- Guards held, latest first. -/
  guards : List HandleId := []
  call : Option Call := none
  deriving Repr, DecidableEq, Inhabited

/-- A slot behind its latch. -/
structure Cell where
  slot : Slot := .empty
  /-- Thread that keeps the latch from one step to the next. -/
  holder : Option ThreadId := none
  deriving Repr, DecidableEq, Inhabited

/-- All handles, all threads, the cells of the threads and the counters. -/
structure World where
  cells : Table HandleId Cell := {}
  threads : Table ThreadId Thread := {}
  facade : CancelFacade := .untouched
  counters : Counters := {}
  deriving Repr, DecidableEq, Inhabited

/-- One small step of one thread. -/
inductive Event where
  /-- Start a public operation. -/
  | call (handle : HandleId) (operation : Operation) (guarded : Bool)
  /-- Give up a guard, counted from the latest, which starts the unlock of its mutex. -/
  | dropGuard (position : Nat)
  /-- Give up the latest guard and leave its mutex as it is. -/
  | forgetGuard
  /-- Take the next small step of the call under way. -/
  | proceed
  /-- Find the latch held in the middle of a section of another thread. -/
  | missLatch
  | setType (type : CancelType)
  | setState (state : CancelState)
  /-- Test for a pending cancellation. -/
  | test
  /-- Consult the cancel status without changing it. -/
  | touch
  /-- Make a handle through which others can request the cancellation of the thread. -/
  | makeHandle
  /-- Request the cancellation of a thread through the handle that it has made. -/
  | request (target : ThreadId)
  /-- Request the cancellation of a thread by its identity. -/
  | requestById (target : ThreadId)
  | enterScope
  | leaveScope
  /-- Yield once as a scope does, counted from the innermost. -/
  | yieldPoint (position : Nat)
  | openWindow
  | closeWindow
  /-- Stop a cancellation from unwinding further. -/
  | catchCancel
  /-- Force the next allocations of the thread to fail. -/
  | inject (failures : UInt32)
  /-- Overwrite the storage of a handle. -/
  | place (handle : HandleId) (slot : Slot)
  /-- Set every counter to zero. -/
  | resetCounters
  | exit
  deriving Repr, DecidableEq

/-- What a small step answers. -/
inductive Reply where
  /-- Nothing: the step has no result of its own. -/
  | silent
  | returned (result : Result)
  | canceled
  | previousType (type : CancelType)
  | previousState (state : CancelState)
  | known (answer : Bool)
  deriving Repr, DecidableEq, Inhabited

/-- Next section of a call that is about to run one. -/
def Call.nextSection (call : Call) (me : ThreadId) (slot : Slot) (budget : Budget) : Section :=
  match call.phase with
  | .yielding => slot.resume me budget
  | _ => call.operation.enter me slot budget

namespace Thread

/-- Cancel type outside the yield of a call. -/
def endYield (thread : Thread) (call : Call) : Thread :=
  if call.phase = .yielding ∧ call.previous = .asynchronous then
    { thread with cancel := thread.cancel.closeWindow }
  else
    thread

/-- A delivered cancellation starts to unwind the thread. -/
def unwind (thread : Thread) (cancel : CancelStatus) : Thread :=
  { thread with cancel, unwinding := true, call := none }

/-- The thread once its call has returned; a guarded success leaves a guard. -/
def conclude (thread : Thread) (call : Call) (cancel : CancelStatus) (result : Result) : Thread :=
  let guards :=
    if call.guarded ∧ result.toBool then call.handle :: thread.guards else thread.guards
  { thread with cancel, guards, call := none }

/-- End of the scope of a call. -/
def finish (thread : Thread) (call : Call) (result : Result) : Reply × Thread :=
  if thread.unwinding then
    (.returned result,
      thread.conclude call (thread.cancel.unwindScope call.previous) result)
  else
    match thread.cancel.leaveScope call.previous with
    | (true, cancel) => (.canceled, thread.unwind cancel)
    | (false, cancel) => (.returned result, thread.conclude call cancel result)

/-- Start of the yield of a parked call: the only place where a wait is canceled. -/
def startYield (thread : Thread) (call : Call) : Reply × Thread :=
  let yielding := some { call with phase := .yielding }
  if call.previous = .asynchronous then
    match thread.cancel.openWindow with
    | (true, cancel) => (.canceled, thread.unwind (cancel.unwindScope call.previous))
    | (false, cancel) => (.silent, { thread with cancel, call := yielding })
  else
    (.silent, { thread with call := yielding })

/-- Enter the scope of an operation. -/
def start
    (thread : Thread)
    (handle : HandleId)
    (operation : Operation)
    (guarded : Bool) :
    Thread :=
  let (previous, cancel) := thread.cancel.enterScope
  { thread with
    cancel
    touched := true
    call := some { handle, operation, guarded, previous, phase := .arriving } }

/-- Deliver or keep on, after a test of the thread's own. -/
def afterTest (thread : Thread) (tested : Bool × CancelStatus) : Reply × Thread :=
  match tested with
  | (true, cancel) => (.canceled, thread.unwind cancel)
  | (false, cancel) => (.silent, { thread with cancel })

/-- Step of the thread's own scopes, windows and cancel status, outside any call. -/
def step? (thread : Thread) : Event → Option (Reply × Thread)
  | .setType type =>
      some (.previousType thread.cancel.type,
        { thread with cancel := thread.cancel.setType type, touched := true })
  | .setState state =>
      some (.previousState thread.cancel.state,
        { thread with cancel := thread.cancel.setState state, touched := true })
  | .test => some ({ thread with touched := true }.afterTest thread.cancel.test)
  | .touch => some (.silent, { thread with touched := true })
  | .enterScope =>
      let (previous, cancel) := thread.cancel.enterScope
      some (.previousType previous,
        { thread with cancel, touched := true, scopes := previous :: thread.scopes })
  | .leaveScope =>
      match thread.scopes with
      | [] => none
      | previous :: scopes =>
          if thread.unwinding then
            some (.silent,
              { thread with scopes, cancel := thread.cancel.unwindScope previous })
          else
            some ({ thread with scopes }.afterTest (thread.cancel.leaveScope previous))
  | .yieldPoint position =>
      match thread.scopes[position]? with
      | none => none
      | some previous => some (thread.afterTest (thread.cancel.yieldPoint previous))
  | .openWindow =>
      match { thread with touched := true }.afterTest thread.cancel.openWindow with
      | (.silent, opened) => some (.silent, { opened with windows := opened.windows + 1 })
      | canceled => some canceled
  | .closeWindow =>
      if thread.windows = 0 then
        none
      else
        some (.silent,
          { thread with
            cancel := thread.cancel.closeWindow
            windows := thread.windows - 1 })
  | .forgetGuard =>
      match thread.guards with
      | [] => none
      | _ :: guards => some (.silent, { thread with guards })
  | .catchCancel => some (.silent, { thread with unwinding := false })
  | .inject failures => some (.silent, { thread with budget := { failures } })
  | .exit => some (.silent, { thread with exited := true })
  | _ => none

end Thread

namespace World

/-- The world before anything happened. -/
def initial : World := {}

/-- What belongs to a thread, with the flag that its cell holds. -/
def thread (world : World) (me : ThreadId) : Thread :=
  let thread := world.threads.get me
  let pending := (world.facade.pending? me).getD thread.cancel.pending
  { thread with cancel := { thread.cancel with pending } }

/-- What a handle holds. -/
def slot (world : World) (handle : HandleId) : Slot :=
  (world.cells.get handle).slot

/-- Replace what belongs to a thread; the facade follows its first use of it and its exit. -/
def setThread (world : World) (me : ThreadId) (thread : Thread) : World :=
  { world with
    threads := world.threads.set me thread
    facade := world.facade.follow me thread.touched thread.exited thread.cancel.pending }

/-- Replace what a handle holds. -/
def setCell (world : World) (handle : HandleId) (cell : Cell) : World :=
  { world with cells := world.cells.set handle cell }

/-- Run the next section of a call, unless another thread keeps the latch. -/
def runSection?
    (world : World)
    (me : ThreadId)
    (thread : Thread)
    (call : Call) :
    Option (World × Reply) :=
  let cell := world.cells.get call.handle
  if cell.holder.isSome then
    none
  else
    let done := call.nextSection me cell.slot thread.budget
    let phase := Phase.ofProgress done.progress
    let holder := if phase = .spinning then some me else none
    let after :=
      { thread.endYield call with
        budget := done.budget
        call := some { call with phase } }
    some
      ({ (world.setCell call.handle { slot := done.slot, holder }).setThread me after with
          counters := world.counters.tally done.branches },
        .silent)

/-- The next small step of a call. -/
def proceed?
    (world : World)
    (me : ThreadId)
    (thread : Thread)
    (call : Call) :
    Option (World × Reply) :=
  match call.phase with
  | .arriving | .yielding => world.runSection? me thread call
  | .parked =>
      let (reply, after) := thread.startYield call
      -- The latch is free by now, and the trip counts even if its yield cancels the thread.
      some
        ({ world.setThread me after with counters := world.counters.record .waitYield }, reply)
  | .spinning =>
      some ({ world with counters := world.counters.record .tryLockGuardSpin }, .silent)
  | .leaving result =>
      let (reply, after) := thread.finish call result
      some (world.setThread me after, reply)

/-- A section that finds the latch held: a try-lock gives up as busy, all others wait for it. -/
def missLatch?
    (world : World)
    (me : ThreadId)
    (thread : Thread)
    (call : Call) :
    Option (World × Reply) :=
  match call.phase with
  | .arriving =>
      if call.operation = .tryLock then
        let after :=
          { thread with call := some { call with phase := .leaving (.error .busy) } }
        some
          ({ world.setThread me after with
              counters := world.counters.record .slotTryFailed },
            .silent)
      else
        some ({ world with counters := world.counters.record .slotContended }, .silent)
  | .yielding =>
      some
        ({ world.setThread me (thread.endYield call) with
            counters := world.counters.record .slotContended },
          .silent)
  | _ => none

/-- Raise the flag in a cell. -/
def raise (world : World) (cell : CancelCell) : World :=
  { world with facade := world.facade.raise cell }

/-- Make a handle that leads to the cell of a thread. -/
def shareHandle (world : World) (me : ThreadId) : World :=
  { world with facade := world.facade.share me }

/-- Whether a cancellation can be requested by the identity of a thread. -/
def isRegistered (world : World) (target : ThreadId) : Bool :=
  world.facade.isRegistered target

/-- One small step of a thread that has no call under way. -/
def stepIdle? (world : World) (me : ThreadId) (event : Event) : Option (World × Reply) :=
  let thread := world.thread me
  match event with
  | .call handle operation guarded =>
      if operation.isRefused then
        some (world, .returned (.error .notSupported))
      else
        some (world.setThread me (thread.start handle operation guarded), .silent)
  | .dropGuard position =>
      match thread.guards[position]? with
      | none => none
      | some handle =>
          let guards := thread.guards.eraseIdx position
          some (world.setThread me ({ thread with guards }.start handle .unlock false), .silent)
  | .makeHandle =>
      some ((world.setThread me { thread with touched := true }).shareHandle me, .silent)
  | .request target =>
      match world.facade.handles.find? target with
      | none => none
      | some handle => some (world.raise handle.cell, .silent)
  | .requestById target =>
      match world.facade.registry.find? target with
      | none => some (world, .known false)
      | some cell => some (world.raise cell, .known true)
  | .place handle slot => some (world.setCell handle { slot }, .silent)
  | .resetCounters => some ({ world with counters := .zero }, .silent)
  | other => (thread.step? other).map fun (reply, after) => (world.setThread me after, reply)

/-- One small step of a thread; nothing if the event is not possible there. -/
def step? (world : World) (me : ThreadId) (event : Event) : Option (World × Reply) :=
  let thread := world.thread me
  if thread.exited then
    none
  else
    match thread.call, event with
    | none, event => world.stepIdle? me event
    | some call, .proceed => world.proceed? me thread call
    | some call, .missLatch => world.missLatch? me thread call
    | some _, _ => none

/-- A run: the world after a list of small steps and their answers, if each is possible. -/
def run? (world : World) : List (ThreadId × Event) → Option (World × List Reply)
  | [] => some (world, [])
  | (me, event) :: rest => do
      let (next, reply) ← world.step? me event
      let (last, replies) ← next.run? rest
      pure (last, reply :: replies)

end World

end LatchMutex
