import LatchMutex.Scenario.State

namespace LatchMutex

/-!
# Scripts over named threads and mutexes

A scenario runs one step of one named thread at a time.  A lock that parks gets
one more turn of its own, and if it parks again its step answers `blocked`.
After each step every waiting thread takes one turn of its wait loop, the target
of a request first and the others by mutex and thread name; a thread that
returns there is reported as woken.
-/

namespace Scenario

/-- Run one step of a thread that is neither waiting nor gone. -/
def run (scenario : Scenario) (name : String) (me : ThreadId) (step : Step) :
    Scenario × StepAnswer :=
  match step with
  | .install mutex slot =>
      let handle : HandleId := ⟨scenario.nextHandle⟩
      ({ scenario.setWorld (scenario.platform.world.setCell handle { slot }) with
          mutexes := scenario.mutexes.set mutex handle
          nextHandle := scenario.nextHandle + 1 },
        .done)
  | .new mutex kind shared =>
      let handle : HandleId := ⟨scenario.nextHandle⟩
      let create := Operation.create (scenario.attributesFor kind shared)
      let (next, answer) :=
        { scenario with nextHandle := scenario.nextHandle + 1 }.operate
          name mutex me handle create false .outcome
      if answer = .outcome (.ok ()) then
        ({ next with mutexes := next.mutexes.set mutex handle }, answer)
      else
        (next, answer)
  | .create mutex kind shared =>
      let create := Operation.create (scenario.attributesFor kind shared)
      scenario.operateOn name mutex me create false .outcome
  | .destroy mutex => scenario.operateOn name mutex me .destroy false .outcome
  | .lock mutex => scenario.operateOn name mutex me .lock false .outcome
  | .unlock mutex => scenario.operateOn name mutex me .unlock false .outcome
  | .tryLock mutex => scenario.operateOn name mutex me .tryLock false .outcome
  | .guard mutex => scenario.operateOn name mutex me .lock true .outcome
  | .tryGuard mutex => scenario.operateOn name mutex me .tryLock true .outcome
  | .owned mutex =>
      let (handle, scenario) := scenario.handleOf mutex
      scenario.apply name me (.call handle .snapshot false) fun result =>
        .flag (seesOwner me result)
  | .snapshot _ => (scenario, .done)
  | .describe mutex =>
      let (handle, scenario) := scenario.handleOf mutex
      let cell := scenario.platform.world.cells.get handle
      let latch : Latch Slot := { held := cell.holder.isSome, value := cell.slot }
      (scenario, .text s!"MutexHandle \x7b slot: {latch.describe} \x7d")
  | .dropGuard => scenario.dropGuard name me
  | .setType type => scenario.applyToTop name me (.setType type)
  | .getType =>
      let (next, _) := scenario.applyToTop name me .touch
      (next, .type (next.platform.world.thread me).cancel.type)
  | .setState state => scenario.applyToTop name me (.setState state)
  | .test => scenario.applyToTop name me .test
  | .publish =>
      let (next, _) := scenario.applyToTop name me .makeHandle
      (next, .published)
  | .request target =>
      let (id, scenario) := scenario.threadOf target
      scenario.applyToTop name me (.request id)
  | .isPending target =>
      let (id, scenario) := scenario.threadOf target
      match scenario.platform.world.facade.seenPending? id with
      | none => (scenario, .nothing)
      | some pending => (scenario, .flag pending)
  | .requestById target =>
      let (id, scenario) := scenario.threadOf target
      scenario.applyToTop name me (.requestById id)
  | .enterScope =>
      match scenario.platform.world.apply me .enterScope with
      | (world, .previousType previous) => (scenario.setWorld world, .scope previous)
      | (world, _) => (scenario.setWorld world, .nothing)
  | .leaveScope => scenario.applyToTop name me .leaveScope
  | .yieldPoint => scenario.applyToTop name me (.yieldPoint 0)
  | .openWindow => scenario.applyToTop name me .openWindow
  | .closeWindow => scenario.applyToTop name me .closeWindow
  | .inject failures => scenario.applyToTop name me (.inject failures)
  | .pendingFailures =>
      (scenario, .failures (scenario.platform.world.thread me).budget.failures)
  | .exit => scenario.applyToTop name me .exit
  | .identity => (scenario, .identity "ThreadIdentity(N)")
  | .setMode level =>
      let (mode, previous) := scenario.mode.override me level
      ({ scenario with mode }, .level previous)
  | .getMode =>
      let (mode, level) := scenario.mode.read me
      ({ scenario with mode }, .level level)
  | .resetCounters =>
      let (next, answer) := scenario.applyToTop name me .resetCounters
      ({ next with blurred := next.blurred && !next.waiting.isEmpty }, answer)
  | .counters => (scenario, .counters scenario.readCounters)
  | .init mutex attributes =>
      let (slot, scenario) := scenario.slotOf attributes
      scenario.initMutex name mutex me slot
  | .boundary none _ => (scenario, .status Fault.invalidArgument.status)
  | .boundary (some mutex) operation =>
      scenario.operateOn name mutex me operation false .status
  | .attributeInit slot =>
      let (slot, scenario) := scenario.slotOf slot
      scenario.callAttribute me (.init slot) wordStatus
  | .attributeDestroy slot =>
      let (slot, scenario) := scenario.slotOf slot
      scenario.callAttribute me (.destroy slot) fun reply next =>
        .nulled reply.status (slot.bind next.platform.boundary.handle).isNone
  | .attributeSetKind slot code =>
      let (slot, scenario) := scenario.slotOf slot
      scenario.callAttribute me (.setKind slot code) wordStatus
  | .attributeSetSharing slot code =>
      let (slot, scenario) := scenario.slotOf slot
      scenario.callAttribute me (.setSharing slot code) wordStatus
  | .attributeGetKind slot output =>
      let (slot, scenario) := scenario.slotOf slot
      scenario.callAttribute me (.getKind slot output) wordOutput
  | .attributeGetSharing slot output =>
      let (slot, scenario) := scenario.slotOf slot
      scenario.callAttribute me (.getSharing slot output) wordOutput
  | .attributeCopy source target =>
      match scenario.slotOf (some source) with
      | (some source, scenario) =>
          match scenario.slotOf (some target) with
          | (some target, scenario) =>
              let boundary := scenario.platform.boundary.copyHandle source target
              ({ scenario with platform := { scenario.platform with boundary } }, .done)
          | (none, scenario) => (scenario, .done)
      | (none, scenario) => (scenario, .done)

/-- Whether one waiting thread takes its turn before another: the target first, then by names. -/
def turnsBefore (target : Option String) (left right : Waiting) : Bool :=
  let leftFirst := some left.thread = target
  let rightFirst := some right.thread = target
  if leftFirst ∨ rightFirst then
    leftFirst
  else if left.mutex = right.mutex then
    left.thread ≤ right.thread
  else
    left.mutex ≤ right.mutex

/-- One turn of one waiting thread. -/
def wake (scenario : Scenario) (waiter : Waiting) : Scenario × Option StepAnswer :=
  let (me, scenario) := scenario.threadOf waiter.thread
  match scenario.platform.world.follow me with
  | (world, .silent) => (scenario.setWorld world, none)
  | (world, reply) =>
      let woken :=
        { scenario.setWorld world with
          waiting := scenario.waiting.filter fun other => other.thread ≠ waiter.thread }
      let (next, answer) :=
        woken.conclude waiter.thread me reply (StepAnswer.ofResult waiter.wording)
      (next, some answer)

/-- One turn of every waiting thread; the second part reports the threads that returned. -/
def settle (scenario : Scenario) (target : Option String) :
    Scenario × List (String × StepAnswer) :=
  (scenario.waiting.mergeSort (turnsBefore target)).foldl
    (fun (scenario, woke) waiter =>
      match scenario.wake waiter with
      | (next, some answer) => (next, woke ++ [(waiter.thread, answer)])
      | (next, none) => (next, woke))
    (scenario, [])

/-- Record with named threads; with several waiting threads the last waiter is any of them. -/
def nameRecord (scenario : Scenario) (handle : HandleId) (record : Record) : NamedRecord :=
  let name (thread : Option ThreadId) := thread.bind scenario.nameOf
  let waiting := scenario.waiting.filter fun waiter => waiter.handle = handle
  { kind := record.kind
    sharing := record.sharing
    lockIndex := record.lockIndex
    depth := record.depth
    locked := record.isLocked
    owner := name record.owner
    waiters := record.waiters
    lastOwner := name record.lastOwner
    lastWaiter := if 2 ≤ waiting.length then some "*" else name record.lastWaiter
    tryGuard := record.tryGuard }

/-- What is seen of the mutex of a name. -/
def view (scenario : Scenario) (mutex : String) : Option NamedView :=
  (scenario.mutexes.find? mutex).map fun handle =>
    match (scenario.platform.world.slot handle).view with
    | .error fault => .fault fault
    | .ok .uninitialized => .uninitialized
    | .ok (.constructed record) => .constructed (scenario.nameRecord handle record)

/-- Run one step of a named thread and let the waiting threads take their turns. -/
def step (scenario : Scenario) (name : String) (step : Step) : Scenario × StepReport :=
  let (me, scenario) := scenario.threadOf name
  let thread := scenario.platform.world.thread me
  if thread.exited ∨ thread.call.isSome then
    (scenario, { answer := .skipped })
  else
    let (ran, answer) := scenario.run name me step
    let (settled, woke) := ran.settle step.target?
    (settled, { answer, woke, view := step.mutex?.bind settled.view })

/-- Run a whole script. -/
def runAll (scenario : Scenario) : List (String × Step) → List StepReport
  | [] => []
  | (name, step) :: rest =>
      let (next, report) := scenario.step name step
      report :: next.runAll rest

end Scenario

end LatchMutex
