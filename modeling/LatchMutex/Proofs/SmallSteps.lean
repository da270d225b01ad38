import LatchMutex.World

namespace LatchMutex

/-!
# What one small step does

`World.Stepped` lists, for every kind of small step, the world after it and the
reply.  A step touches a slot only by running a latch-held section, which is a
`Visit`; every other step of a call changes the calling thread alone.
-/

/-- One latch-held section, with what it reads. -/
structure Visit where
  thread : ThreadId
  operation : Operation
  /-- Whether a parked lock comes back, instead of a call that arrives. -/
  resumed : Bool
  budget : Budget
  /-- What the handle held before. -/
  slot : Slot
  deriving Repr, DecidableEq, Inhabited

namespace Visit

/-- What the section does. -/
def done (visit : Visit) : Section :=
  if visit.resumed then
    visit.slot.resume visit.thread visit.budget
  else
    visit.operation.enter visit.thread visit.slot visit.budget

/-- Only calls that are let in make visits, and only a lock comes back. -/
structure Admitted (visit : Visit) : Prop where
  accepted : visit.operation.isRefused = false
  onlyLocksResume : visit.resumed = true → visit.operation = .lock

end Visit

/-- An operation other than a lock is finished by its first section. -/
theorem Operation.enter_progress
    {operation : Operation}
    (single : operation ≠ .lock)
    (me : ThreadId)
    (slot : Slot)
    (budget : Budget) :
    ∃ result, (operation.enter me slot budget).progress = .finished result := by
  cases operation with
  | create attributes =>
      simp only [Operation.enter, Slot.create]
      split <;> exact ⟨_, rfl⟩
  | lock =>
      exact (single rfl).elim
  | tryLock =>
      simp only [Operation.enter, Slot.tryLock]
      split <;> exact ⟨_, rfl⟩
  | destroy | unlock | snapshot =>
      exact ⟨_, rfl⟩

/-- Only a spinning section leaves its call spinning. -/
@[simp] theorem Phase.ofProgress_eq_spinning {progress : Progress} :
    Phase.ofProgress progress = .spinning ↔ progress = .spinning := by
  cases progress <;> simp [Phase.ofProgress]

/-- Only a finished section leaves its call about to leave. -/
theorem Phase.ofProgress_eq_leaving {progress : Progress} {result : Result} :
    Phase.ofProgress progress = .leaving result ↔ progress = .finished result := by
  cases progress <;> simp [Phase.ofProgress]

/-- A call that was let in; only a lock goes through the wait loop. -/
structure Call.Admitted (call : Call) : Prop where
  accepted : call.operation.isRefused = false
  onlyLocksWait :
    call.operation = .lock ∨
      call.phase = .arriving ∨ ∃ result, call.phase = .leaving result

/-- Whether a step leaves the storage of a handle to the operations on it. -/
def Event.keeps (handle : HandleId) : Event → Bool
  | .place other _ => other ≠ handle
  | _ => true

/-- Whether a step asks for the cancellation of a thread. -/
def Event.requests (target : ThreadId) : Event → Bool
  | .request asked | .requestById asked => asked = target
  | _ => false

namespace Thread

@[simp] theorem endYield_call (thread : Thread) (call : Call) :
    (thread.endYield call).call = thread.call := by
  unfold endYield
  split <;> rfl

@[simp] theorem start_call
    (thread : Thread) (handle : HandleId) (operation : Operation) (guarded : Bool) :
    (thread.start handle operation guarded).call =
      some
        { handle, operation, guarded
          previous := thread.cancel.type
          phase := .arriving } :=
  rfl

/-- The end of the scope is the end of the call, delivered or not. -/
@[simp] theorem finish_call (thread : Thread) (call : Call) (result : Result) :
    (thread.finish call result).2.call = none := by
  unfold finish
  split
  · rfl
  · split <;> rfl

/-- A parked call is canceled where its yield starts, or is in the middle of it. -/
theorem startYield_cases
    (thread : Thread)
    (call : Call) :
    ((thread.startYield call).1 = .canceled ∧
        (thread.startYield call).2.call = none) ∨
      ((thread.startYield call).1 = .silent ∧
        (thread.startYield call).2.call = some { call with phase := .yielding }) := by
  unfold startYield
  split
  · split
    · exact .inl ⟨rfl, rfl⟩
    · exact .inr ⟨rfl, rfl⟩
  · exact .inr ⟨rfl, rfl⟩

/-- A test of its own lets no call in. -/
@[simp] theorem afterTest_call
    (thread : Thread)
    (free : thread.call = none)
    (tested : Bool × CancelStatus) :
    (thread.afterTest tested).2.call = none := by
  obtain ⟨delivered, cancel⟩ := tested
  cases delivered with
  | false => exact free
  | true => rfl

/-- The kinds of small steps of a thread on its own scopes, windows, guards and cancel status. -/
inductive Acts (thread : Thread) : Event → Reply → Thread → Prop where
  | setsType
      (type : CancelType) :
      Acts thread (.setType type) (.previousType thread.cancel.type)
        { thread with cancel := thread.cancel.setType type, touched := true }
  | setsState
      (state : CancelState) :
      Acts thread (.setState state) (.previousState thread.cancel.state)
        { thread with cancel := thread.cancel.setState state, touched := true }
  | tests :
      Acts thread .test
        ({ thread with touched := true }.afterTest thread.cancel.test).1
        ({ thread with touched := true }.afterTest thread.cancel.test).2
  | touches :
      Acts thread .touch .silent { thread with touched := true }
  | entersScope :
      Acts thread .enterScope (.previousType thread.cancel.type)
        { thread with
          cancel := thread.cancel.enterScope.2
          touched := true
          scopes := thread.cancel.type :: thread.scopes }
  | unwindsScope
      {previous : CancelType} {scopes : List CancelType}
      (inside : thread.scopes = previous :: scopes)
      (unwinding : thread.unwinding = true) :
      Acts thread .leaveScope .silent
        { thread with scopes, cancel := thread.cancel.unwindScope previous }
  | leavesScope
      {previous : CancelType} {scopes : List CancelType}
      (inside : thread.scopes = previous :: scopes)
      (calm : thread.unwinding = false) :
      Acts thread .leaveScope
        ({ thread with scopes }.afterTest (thread.cancel.leaveScope previous)).1
        ({ thread with scopes }.afterTest (thread.cancel.leaveScope previous)).2
  | yields
      {position : Nat} {previous : CancelType}
      (inside : thread.scopes[position]? = some previous) :
      Acts thread (.yieldPoint position)
        (thread.afterTest (thread.cancel.yieldPoint previous)).1
        (thread.afterTest (thread.cancel.yieldPoint previous)).2
  | opensWindow
      {cancel : CancelStatus}
      (opens : thread.cancel.openWindow = (false, cancel)) :
      Acts thread .openWindow .silent
        { thread with cancel, touched := true, windows := thread.windows + 1 }
  | cancelsAtWindow
      {cancel : CancelStatus}
      (opens : thread.cancel.openWindow = (true, cancel)) :
      Acts thread .openWindow .canceled ({ thread with touched := true }.unwind cancel)
  | closesWindow
      (opened : thread.windows ≠ 0) :
      Acts thread .closeWindow .silent
        { thread with
          cancel := thread.cancel.closeWindow
          windows := thread.windows - 1 }
  | forgets
      {handle : HandleId} {guards : List HandleId}
      (held : thread.guards = handle :: guards) :
      Acts thread .forgetGuard .silent { thread with guards }
  | catches :
      Acts thread .catchCancel .silent { thread with unwinding := false }
  | injects
      (failures : UInt32) :
      Acts thread (.inject failures) .silent { thread with budget := { failures } }
  | exits :
      Acts thread .exit .silent { thread with exited := true }

/-- A step of the thread's own is one of the kinds listed. -/
theorem step?_acts
    {thread after : Thread}
    {event : Event}
    {reply : Reply}
    (stepped : thread.step? event = some (reply, after)) :
    thread.Acts event reply after := by
  unfold Thread.step? at stepped
  cases event with
  | test =>
      obtain ⟨rfl, rfl⟩ := Prod.ext_iff.mp (Option.some.inj stepped)
      exact .tests
  | leaveScope =>
      dsimp only at stepped
      split at stepped
      · contradiction
      · rename_i inside
        split at stepped
        · rename_i unwinding
          cases stepped
          exact .unwindsScope inside unwinding
        · rename_i calm
          obtain ⟨rfl, rfl⟩ := Prod.ext_iff.mp (Option.some.inj stepped)
          exact .leavesScope inside (by simpa using calm)
  | yieldPoint position =>
      dsimp only at stepped
      split at stepped
      · contradiction
      · rename_i inside
        obtain ⟨rfl, rfl⟩ := Prod.ext_iff.mp (Option.some.inj stepped)
        exact .yields inside
  | openWindow =>
      dsimp only at stepped
      cases opens : thread.cancel.openWindow with
      | mk delivered cancel =>
          rw [opens] at stepped
          cases delivered <;> cases stepped
          · exact .opensWindow opens
          · exact .cancelsAtWindow opens
  | closeWindow =>
      dsimp only at stepped
      split at stepped
      · contradiction
      · rename_i opened
        cases stepped
        exact .closesWindow opened
  | forgetGuard =>
      dsimp only at stepped
      split at stepped
      · contradiction
      · rename_i held
        cases stepped
        exact .forgets held
  | setType type =>
      cases stepped
      exact .setsType type
  | setState state =>
      cases stepped
      exact .setsState state
  | touch =>
      cases stepped
      exact .touches
  | enterScope =>
      cases stepped
      exact .entersScope
  | catchCancel =>
      cases stepped
      exact .catches
  | inject failures =>
      cases stepped
      exact .injects failures
  | exit =>
      cases stepped
      exact .exits
  | _ =>
      contradiction

/-- A step on scopes, windows and cancel status lets no call in. -/
theorem step?_call
    {thread after : Thread}
    {event : Event}
    {reply : Reply}
    (free : thread.call = none)
    (stepped : thread.step? event = some (reply, after)) :
    after.call = none := by
  cases step?_acts stepped with
  | tests | leavesScope | yields =>
      simp [free]
  | cancelsAtWindow =>
      rfl
  | _ =>
      exact free

end Thread

namespace World

@[simp] theorem thread_setThread_self
    (world : World) (me : ThreadId) (thread : Thread) :
    (world.setThread me thread).thread me = thread := by
  simp [World.thread, setThread, CancelFacade.pending?_follow_self]

/-- No other thread has the cell that a thread writes its flag to. -/
theorem thread_setThread_of_ne
    (world : World)
    {me other : ThreadId}
    (different : other ≠ me)
    (thread : Thread) :
    (world.setThread me thread).thread other = world.thread other := by
  simp [World.thread, setThread, Table.get_set_of_ne _ different,
    CancelFacade.pending?_follow_of_ne _ different]

@[simp] theorem thread_counters
    (world : World) (counters : Counters) (me : ThreadId) :
    ({ world with counters } : World).thread me = world.thread me :=
  rfl

@[simp] theorem thread_setCell
    (world : World) (handle : HandleId) (cell : Cell) (me : ThreadId) :
    (world.setCell handle cell).thread me = world.thread me :=
  rfl

@[simp] theorem thread_shareHandle (world : World) (me other : ThreadId) :
    (world.shareHandle me).thread other = world.thread other := by
  obtain ⟨flags, own, -⟩ := world.facade.share_keeps me
  simp [World.thread, shareHandle, CancelFacade.pending?, flags, own]

/-- The world after a request that has found its way to the cell of a thread. -/
def raisePending (world : World) (target : ThreadId) : World :=
  match world.facade.own.find? target with
  | none => world
  | some cell => world.raise cell

/-- A handle leads to the cell of the thread that made it. -/
theorem raise_of_handle
    {world : World}
    {target : ThreadId}
    {handle : CancelHandle}
    (found : world.facade.handles.find? target = some handle) :
    world.raise handle.cell = world.raisePending target := by
  rw [raisePending, (world.facade.handed target handle found).2]

/-- An identity leads to the cell of the thread that has it. -/
theorem raise_of_registered
    {world : World}
    {target : ThreadId}
    {cell : CancelCell}
    (found : world.facade.registry.find? target = some cell) :
    world.raise cell = world.raisePending target := by
  rw [raisePending, world.facade.listed target cell found]

/-- A request raises the flag of its target, if this has a cell, and of nobody else. -/
theorem thread_raisePending_eq (world : World) (target other : ThreadId) :
    (world.raisePending target).thread other =
      if other = target ∧ world.facade.isEnrolled target = true then
        { world.thread other with cancel := (world.thread other).cancel.request }
      else
        world.thread other := by
  unfold raisePending
  cases found : world.facade.own.find? target with
  | none =>
      simp [CancelFacade.isEnrolled, found]
  | some cell =>
      simp only [World.thread, raise, world.facade.pending?_raise found, CancelFacade.isEnrolled,
        found, Option.isSome_some, and_true]
      split <;> rfl

theorem thread_raisePending_self
    {world : World}
    {target : ThreadId}
    (enrolled : world.facade.isEnrolled target = true) :
    (world.raisePending target).thread target =
      { world.thread target with cancel := (world.thread target).cancel.request } := by
  rw [thread_raisePending_eq, if_pos ⟨rfl, enrolled⟩]

theorem thread_raisePending_of_ne
    (world : World)
    {target other : ThreadId}
    (different : other ≠ target) :
    (world.raisePending target).thread other = world.thread other := by
  rw [thread_raisePending_eq, if_neg fun both => different both.1]

@[simp] theorem cells_raisePending (world : World) (target : ThreadId) :
    (world.raisePending target).cells = world.cells := by
  unfold raisePending
  split <;> rfl

@[simp] theorem counters_raisePending (world : World) (target : ThreadId) :
    (world.raisePending target).counters = world.counters := by
  unfold raisePending
  split <;> rfl

@[simp] theorem isEnrolled_raisePending (world : World) (target thread : ThreadId) :
    (world.raisePending target).facade.isEnrolled thread = world.facade.isEnrolled thread := by
  unfold raisePending
  split <;> rfl

@[simp] theorem isRegistered_raisePending (world : World) (target thread : ThreadId) :
    (world.raisePending target).isRegistered thread = world.isRegistered thread := by
  unfold raisePending
  split <;> rfl

@[simp] theorem isHanded_raisePending (world : World) (target thread : ThreadId) :
    (world.raisePending target).facade.isHanded thread = world.facade.isHanded thread := by
  unfold raisePending
  split <;> rfl

/-- The visit that the next section of a call makes. -/
def visitOf (world : World) (me : ThreadId) (call : Call) : Visit where
  thread := me
  operation := call.operation
  resumed := call.phase = .yielding
  budget := (world.thread me).budget
  slot := world.slot call.handle

/-- The visit to a handle that a small step makes, if it makes one. -/
def visit? (world : World) (me : ThreadId) (event : Event) (handle : HandleId) : Option Visit :=
  match event, (world.thread me).call with
  | .proceed, some call =>
      if call.handle = handle ∧ (call.phase = .arriving ∨ call.phase = .yielding) then
        some (world.visitOf me call)
      else
        none
  | _, _ => none

/-- The world after the next section of a call. -/
def afterVisit (world : World) (me : ThreadId) (call : Call) : World :=
  let done := (world.visitOf me call).done
  let phase := Phase.ofProgress done.progress
  { (world.setCell call.handle
        { slot := done.slot
          holder := if phase = .spinning then some me else none }).setThread me
      { (world.thread me).endYield call with
        budget := done.budget
        call := some { call with phase } } with
    counters := world.counters.tally done.branches }

/-- The kinds of small steps of a thread that has not exited. -/
inductive Stepped (world : World) (me : ThreadId) : Event → World → Reply → Prop where
  | idle
      {event : Event} {next : World} {reply : Reply}
      (free : (world.thread me).call = none)
      (stepped : world.stepIdle? me event = some (next, reply)) :
      Stepped world me event next reply
  | visits
      {call : Call}
      (running : (world.thread me).call = some call)
      (due : call.phase = .arriving ∨ call.phase = .yielding)
      (unlatched : (world.cells.get call.handle).holder = none) :
      Stepped world me .proceed (world.afterVisit me call) .silent
  | yields
      {call : Call}
      (running : (world.thread me).call = some call)
      (parked : call.phase = .parked) :
      Stepped world me .proceed
        { world.setThread me ((world.thread me).startYield call).2 with
          counters := world.counters.record .waitYield }
        ((world.thread me).startYield call).1
  | spins
      {call : Call}
      (running : (world.thread me).call = some call)
      (spinning : call.phase = .spinning) :
      Stepped world me .proceed
        { world with counters := world.counters.record .tryLockGuardSpin } .silent
  | leaves
      {call : Call} {result : Result}
      (running : (world.thread me).call = some call)
      (leaving : call.phase = .leaving result) :
      Stepped world me .proceed
        (world.setThread me ((world.thread me).finish call result).2)
        ((world.thread me).finish call result).1
  | givesUp
      {call : Call}
      (running : (world.thread me).call = some call)
      (arriving : call.phase = .arriving)
      (single : call.operation = .tryLock) :
      Stepped world me .missLatch
        { world.setThread me
            { world.thread me with
              call := some { call with phase := .leaving (.error .busy) } } with
          counters := world.counters.record .slotTryFailed }
        .silent
  | waits
      {call : Call}
      (running : (world.thread me).call = some call)
      (arriving : call.phase = .arriving)
      (blocking : call.operation ≠ .tryLock) :
      Stepped world me .missLatch
        { world with counters := world.counters.record .slotContended } .silent
  | waitsAgain
      {call : Call}
      (running : (world.thread me).call = some call)
      (yielding : call.phase = .yielding) :
      Stepped world me .missLatch
        { world.setThread me ((world.thread me).endYield call) with
          counters := world.counters.record .slotContended }
        .silent

/-- What a visit does is what the section of its call does. -/
theorem visitOf_done
    (world : World)
    {me : ThreadId}
    {call : Call}
    (due : call.phase = .arriving ∨ call.phase = .yielding) :
    (world.visitOf me call).done =
      call.nextSection me (world.slot call.handle) (world.thread me).budget := by
  rcases due with arriving | yielding
  · simp [Call.nextSection, Visit.done, visitOf, arriving]
  · simp [Call.nextSection, Visit.done, visitOf, yielding]

/-- A section that gets the latch is the visit of its call. -/
theorem runSection?_eq
    (world : World)
    {me : ThreadId}
    {call : Call}
    (due : call.phase = .arriving ∨ call.phase = .yielding)
    (unlatched : (world.cells.get call.handle).holder = none) :
    world.runSection? me (world.thread me) call =
      some (world.afterVisit me call, .silent) := by
  have same :
      (world.visitOf me call).done =
        call.nextSection me (world.cells.get call.handle).slot (world.thread me).budget :=
    world.visitOf_done due
  simp only [runSection?, unlatched, ← same]
  rfl

/-- A section that another thread's latch keeps out is no step. -/
theorem runSection?_of_latched
    (world : World)
    {me : ThreadId}
    {call : Call}
    (latched : (world.cells.get call.handle).holder ≠ none) :
    world.runSection? me (world.thread me) call = none := by
  simp [runSection?, Option.isSome_iff_ne_none.mpr latched]

/-- A small step is one of the kinds listed, and every one listed is possible. -/
theorem step?_eq_some_iff
    {world next : World}
    {me : ThreadId}
    {event : Event}
    {reply : Reply} :
    world.step? me event = some (next, reply) ↔
      (world.thread me).exited = false ∧ Stepped world me event next reply := by
  constructor
  · intro stepped
    simp only [step?] at stepped
    split at stepped
    · contradiction
    · rename_i awake
      refine ⟨by simpa using awake, ?_⟩
      split at stepped
      · rename_i free
        exact .idle free stepped
      · rename_i call running
        simp only [proceed?] at stepped
        split at stepped
        · rename_i arriving
          by_cases unlatched : (world.cells.get call.handle).holder = none
          · rw [runSection?_eq world (.inl arriving) unlatched] at stepped
            cases stepped
            exact .visits running (.inl arriving) unlatched
          · simp [runSection?_of_latched world unlatched] at stepped
        · rename_i yielding
          by_cases unlatched : (world.cells.get call.handle).holder = none
          · rw [runSection?_eq world (.inr yielding) unlatched] at stepped
            cases stepped
            exact .visits running (.inr yielding) unlatched
          · simp [runSection?_of_latched world unlatched] at stepped
        · rename_i parked
          cases stepped
          exact .yields running parked
        · rename_i spinning
          cases stepped
          exact .spins running spinning
        · rename_i result leaving
          cases stepped
          exact .leaves running leaving
      · rename_i call running
        simp only [missLatch?] at stepped
        split at stepped
        · rename_i arriving
          split at stepped
          · rename_i single
            cases stepped
            exact .givesUp running arriving single
          · rename_i blocking
            cases stepped
            exact .waits running arriving blocking
        · rename_i yielding
          cases stepped
          exact .waitsAgain running yielding
        · contradiction
      · contradiction
  · rintro ⟨awake, stepped⟩
    cases stepped with
    | idle free stepped =>
        simp [step?, awake, free, stepped]
    | visits running due unlatched =>
        have ran : world.runSection? me (world.thread me) _ = _ :=
          runSection?_eq world due unlatched
        rcases due with arriving | yielding
        · simp [step?, awake, running, proceed?, arriving, ran]
        · simp [step?, awake, running, proceed?, yielding, ran]
    | yields running parked =>
        simp [step?, awake, running, proceed?, parked]
    | spins running spinning =>
        simp [step?, awake, running, proceed?, spinning]
    | leaves running leaving =>
        simp [step?, awake, running, proceed?, leaving]
    | givesUp running arriving single =>
        simp [step?, awake, running, missLatch?, arriving, single]
    | waits running arriving blocking =>
        simp [step?, awake, running, missLatch?, arriving, blocking]
    | waitsAgain running yielding =>
        simp [step?, awake, running, missLatch?, yielding]

/-- The kinds of small steps of a thread that has no call under way. -/
inductive Idles (world : World) (me : ThreadId) : Event → World → Reply → Prop where
  | refuses
      {handle : HandleId} {operation : Operation} {guarded : Bool}
      (refused : operation.isRefused = true) :
      Idles world me (.call handle operation guarded) world (.returned (.error .notSupported))
  | calls
      {handle : HandleId} {operation : Operation} {guarded : Bool}
      (accepted : operation.isRefused = false) :
      Idles world me (.call handle operation guarded)
        (world.setThread me ((world.thread me).start handle operation guarded)) .silent
  | drops
      {position : Nat} {handle : HandleId}
      (held : (world.thread me).guards[position]? = some handle) :
      Idles world me (.dropGuard position)
        (world.setThread me
          ({ world.thread me with
              guards := (world.thread me).guards.eraseIdx position }.start handle .unlock false))
        .silent
  | sharesHandle :
      Idles world me .makeHandle
        ((world.setThread me { world.thread me with touched := true }).shareHandle me) .silent
  | requests
      {target : ThreadId}
      (handed : world.facade.isHanded target = true) :
      Idles world me (.request target) (world.raisePending target) .silent
  | requestsById
      {target : ThreadId}
      (registered : world.isRegistered target = true) :
      Idles world me (.requestById target) (world.raisePending target) (.known true)
  | misses
      {target : ThreadId}
      (unregistered : world.isRegistered target = false) :
      Idles world me (.requestById target) world (.known false)
  | places
      (handle : HandleId) (slot : Slot) :
      Idles world me (.place handle slot) (world.setCell handle { slot }) .silent
  | resets :
      Idles world me .resetCounters { world with counters := .zero } .silent
  /-- A step that concerns the thread alone. -/
  | acts
      {event : Event} {after : Thread} {reply : Reply}
      (stepped : (world.thread me).step? event = some (reply, after)) :
      Idles world me event (world.setThread me after) reply

/-- A small step of a thread without a call is one of the kinds listed. -/
theorem stepIdle?_idles
    {world next : World}
    {me : ThreadId}
    {event : Event}
    {reply : Reply}
    (stepped : world.stepIdle? me event = some (next, reply)) :
    world.Idles me event next reply := by
  cases event with
  | call handle operation guarded =>
      simp only [stepIdle?] at stepped
      split at stepped <;> cases stepped
      · rename_i refused
        exact .refuses refused
      · rename_i accepted
        exact .calls (by simpa using accepted)
  | dropGuard position =>
      simp only [stepIdle?] at stepped
      split at stepped <;> cases stepped
      rename_i held
      exact .drops held
  | makeHandle =>
      cases stepped
      exact .sharesHandle
  | request target =>
      simp only [stepIdle?] at stepped
      split at stepped <;> cases stepped
      rename_i found
      rw [raise_of_handle found]
      exact .requests (Option.isSome_of_eq_some found)
  | requestById target =>
      simp only [stepIdle?] at stepped
      split at stepped <;> cases stepped
      · rename_i missing
        exact .misses (by simp [isRegistered, CancelFacade.isRegistered, missing])
      · rename_i found
        rw [raise_of_registered found]
        exact .requestsById (Option.isSome_of_eq_some found)
  | place handle slot =>
      cases stepped
      exact .places handle slot
  | resetCounters =>
      cases stepped
      exact .resets
  | _ =>
      simp only [stepIdle?, Option.map_eq_some_iff] at stepped
      obtain ⟨⟨answer, after⟩, stepped, same⟩ := stepped
      cases same
      exact .acts stepped

/-- Every kind of step that is listed is possible. -/
theorem Idles.possible
    {world next : World}
    {me : ThreadId}
    {event : Event}
    {reply : Reply}
    (idles : world.Idles me event next reply) :
    world.stepIdle? me event = some (next, reply) := by
  cases idles with
  | refuses refused =>
      simp [stepIdle?, refused]
  | calls accepted =>
      simp [stepIdle?, accepted]
  | drops held =>
      simp [stepIdle?, held]
  | requests handed =>
      obtain ⟨handle, found⟩ := Option.isSome_iff_exists.mp handed
      simp [stepIdle?, found, raise_of_handle found]
  | requestsById registered =>
      obtain ⟨cell, found⟩ := Option.isSome_iff_exists.mp registered
      simp [stepIdle?, found, raise_of_registered found]
  | misses unregistered =>
      have missing := Option.isSome_eq_false_iff.mp unregistered
      simp [stepIdle?, Option.isNone_iff_eq_none.mp missing]
  | acts stepped =>
      cases event with
      | call | dropGuard | proceed | missLatch => contradiction
      | makeHandle | request | requestById | place | resetCounters => contradiction
      | _ => simp [stepIdle?, stepped]
  | sharesHandle | places | resets =>
      rfl

/-- A thread without a call changes a cell only by overwriting the storage of its handle. -/
theorem stepIdle?_cell
    {world next : World}
    {me : ThreadId}
    {event : Event}
    {reply : Reply}
    {handle : HandleId}
    (stepped : world.stepIdle? me event = some (next, reply))
    (kept : event.keeps handle = true) :
    next.cells.get handle = world.cells.get handle := by
  cases stepIdle?_idles stepped with
  | places other slot =>
      have different : other ≠ handle := by
        simpa [Event.keeps] using kept
      exact Table.get_set_of_ne _ (Ne.symm different) _
  | requests | requestsById =>
      rw [cells_raisePending]
  | _ =>
      rfl

/-- A request changes the pending flag of a thread at most. -/
theorem thread_raisePending (world : World) (target me : ThreadId) :
    ∃ pending,
      (world.raisePending target).thread me =
        { world.thread me with cancel := { (world.thread me).cancel with pending } } := by
  rw [thread_raisePending_eq]
  split
  · exact ⟨true, rfl⟩
  · exact ⟨(world.thread me).cancel.pending, rfl⟩

/-- A visit is made by a call that is due for its next section on the handle. -/
theorem visit?_eq_some_iff
    {world : World}
    {me : ThreadId}
    {event : Event}
    {handle : HandleId}
    {visit : Visit} :
    world.visit? me event handle = some visit ↔
      event = .proceed ∧
        ∃ call,
          (world.thread me).call = some call ∧
            call.handle = handle ∧
            (call.phase = .arriving ∨ call.phase = .yielding) ∧
            visit = world.visitOf me call := by
  unfold visit?
  split
  · rename_i call running
    constructor
    · intro visits
      split at visits
      · rename_i due
        cases visits
        exact ⟨rfl, call, running, due.1, due.2, rfl⟩
      · contradiction
    · rintro ⟨-, other, sameCall, here, due, rfl⟩
      cases running.symm.trans sameCall
      simp [here, due]
  · rename_i elsewhere
    constructor
    · intro visits
      contradiction
    · rintro ⟨rfl, call, running, -⟩
      exact (elsewhere call rfl running).elim

/-- A cell changes by a visit to it, and by nothing else that is not an overwriting. -/
theorem step?_cell
    {world next : World}
    {me : ThreadId}
    {event : Event}
    {reply : Reply}
    {handle : HandleId}
    (stepped : world.step? me event = some (next, reply))
    (kept : event.keeps handle = true) :
    next.cells.get handle =
      match world.visit? me event handle with
      | none => world.cells.get handle
      | some visit =>
          { slot := visit.done.slot
            holder := if visit.done.progress = .spinning then some me else none } := by
  cases (step?_eq_some_iff.mp stepped).2 with
  | idle free stepped =>
      simp [visit?, free, stepIdle?_cell stepped kept]
  | @visits call running due unlatched =>
      by_cases here : call.handle = handle
      · subst here
        simp [visit?, running, due, afterVisit, setThread, setCell]
      · simp [visit?, running, here, afterVisit, setThread, setCell,
          Table.get_set_of_ne _ (Ne.symm here)]
  | yields running parked =>
      simp [visit?, running, parked, setThread]
  | spins running spinning =>
      simp [visit?, running, spinning]
  | leaves running leaving =>
      simp [visit?, running, leaving, setThread]
  | givesUp running arriving single =>
      simp [visit?, setThread]
  | waits running arriving blocking =>
      simp [visit?]
  | waitsAgain running yielding =>
      simp [visit?, setThread]

/-- What a handle holds changes by visits only. -/
theorem step?_slot
    {world next : World}
    {me : ThreadId}
    {event : Event}
    {reply : Reply}
    {handle : HandleId}
    (stepped : world.step? me event = some (next, reply))
    (kept : event.keeps handle = true) :
    next.slot handle =
      match world.visit? me event handle with
      | none => world.slot handle
      | some visit => visit.done.slot := by
  have cell := step?_cell stepped kept
  split at cell <;> simp [World.slot, cell]

/-- A visit reads what the handle holds. -/
theorem visit?_slot
    {world : World}
    {me : ThreadId}
    {event : Event}
    {handle : HandleId}
    {visit : Visit}
    (visits : world.visit? me event handle = some visit) :
    visit.slot = world.slot handle := by
  obtain ⟨-, call, -, rfl, -, rfl⟩ := visit?_eq_some_iff.mp visits
  rfl

/-- A thread visits for itself. -/
theorem visit?_thread
    {world : World}
    {me : ThreadId}
    {event : Event}
    {handle : HandleId}
    {visit : Visit}
    (visits : world.visit? me event handle = some visit) :
    visit.thread = me := by
  obtain ⟨-, call, -, -, -, rfl⟩ := visit?_eq_some_iff.mp visits
  rfl

/-- A step that makes a visit is the next section of a call, and nothing else. -/
theorem step?_of_visit
    {world next : World}
    {me : ThreadId}
    {event : Event}
    {reply : Reply}
    {handle : HandleId}
    {visit : Visit}
    (stepped : world.step? me event = some (next, reply))
    (visits : world.visit? me event handle = some visit) :
    ∃ call,
      (world.thread me).call = some call ∧
        call.handle = handle ∧
        (call.phase = .arriving ∨ call.phase = .yielding) ∧
        visit = world.visitOf me call ∧
        next = world.afterVisit me call ∧
        reply = .silent := by
  obtain ⟨rfl, call, running, here, due, visitIs⟩ := visit?_eq_some_iff.mp visits
  refine ⟨call, running, here, due, visitIs, ?_⟩
  cases (step?_eq_some_iff.mp stepped).2 with
  | visits found =>
      cases running.symm.trans found
      exact ⟨rfl, rfl⟩
  | idle free =>
      simp [running] at free
  | yields found phase | spins found phase | leaves found phase =>
      cases running.symm.trans found
      simp [phase] at due

/-- A request raises a pending flag, or does nothing. -/
theorem step?_of_requests
    {world next : World}
    {me target : ThreadId}
    {event : Event}
    {reply : Reply}
    (stepped : world.step? me event = some (next, reply))
    (requested : event.requests target = true) :
    next = world.raisePending target ∨ next = world := by
  cases (step?_eq_some_iff.mp stepped).2 with
  | idle free stepped =>
      cases stepIdle?_idles stepped with
      | @requests asked | @requestsById asked =>
          left
          rw [show asked = target by simpa [Event.requests] using requested]
      | misses =>
          exact .inr rfl
      | acts own =>
          cases event <;> contradiction
      | _ =>
          contradiction
  | _ =>
      contradiction

/-- Another thread's step that is no request leaves a thread alone. -/
theorem step?_thread_of_unrequested
    {world next : World}
    {me other : ThreadId}
    {event : Event}
    {reply : Reply}
    (stepped : world.step? me event = some (next, reply))
    (different : other ≠ me)
    (unrequested : event.requests other = false) :
    next.thread other = world.thread other := by
  cases (step?_eq_some_iff.mp stepped).2 with
  | idle free stepped =>
      have unraised {target : ThreadId} (elsewhere : target ≠ other) :
          (world.raisePending target).thread other = world.thread other :=
        thread_raisePending_of_ne world (Ne.symm elsewhere)
      cases stepIdle?_idles stepped with
      | requests | requestsById =>
          exact unraised (by simpa [Event.requests] using unrequested)
      | calls | drops | acts =>
          exact thread_setThread_of_ne _ different _
      | sharesHandle =>
          rw [thread_shareHandle, thread_setThread_of_ne _ different]
      | refuses | misses | places | resets =>
          rfl
  | visits running due unlatched =>
      simp [afterVisit, thread_setThread_of_ne _ different]
  | yields running parked | leaves running leaving =>
      exact thread_setThread_of_ne _ different _
  | spins running spinning | waits running arriving blocking =>
      rfl
  | givesUp running arriving single | waitsAgain running yielding =>
      simp [thread_setThread_of_ne _ different]

/-- Another thread's step raises the pending flag of a thread at most. -/
theorem step?_thread_of_ne
    {world next : World}
    {me other : ThreadId}
    {event : Event}
    {reply : Reply}
    (stepped : world.step? me event = some (next, reply))
    (different : other ≠ me) :
    next.thread other = world.thread other ∨
      next.thread other =
        { world.thread other with cancel := (world.thread other).cancel.request } := by
  cases requested : event.requests other with
  | true =>
      rcases step?_of_requests stepped requested with rfl | rfl
      · rw [thread_raisePending_eq]
        split
        · exact .inr rfl
        · exact .inl rfl
      · exact .inl rfl
  | false =>
      exact .inl (step?_thread_of_unrequested stepped different requested)

/-- The steps of other threads leave the call of a thread as it is. -/
theorem step?_call_of_ne
    {world next : World}
    {me other : ThreadId}
    {event : Event}
    {reply : Reply}
    (stepped : world.step? me event = some (next, reply))
    (different : other ≠ me) :
    (next.thread other).call = (world.thread other).call := by
  rcases step?_thread_of_ne stepped different with same | raised
  · rw [same]
  · rw [raised]

/-- A thread without a call is let into one, or still has none. -/
theorem stepIdle?_call
    {world next : World}
    {me : ThreadId}
    {event : Event}
    {reply : Reply}
    {call : Call}
    (free : (world.thread me).call = none)
    (stepped : world.stepIdle? me event = some (next, reply))
    (running : (next.thread me).call = some call) :
    call.operation.isRefused = false ∧ call.phase = .arriving := by
  cases stepIdle?_idles stepped with
  | refuses | misses | places | resets =>
      simp [free] at running
  | calls accepted =>
      simp only [thread_setThread_self, Thread.start_call, Option.some.injEq] at running
      subst running
      exact ⟨accepted, rfl⟩
  | drops held =>
      simp only [thread_setThread_self, Thread.start_call, Option.some.injEq] at running
      subst running
      exact ⟨rfl, rfl⟩
  | sharesHandle =>
      simp [free] at running
  | @requests target | @requestsById target =>
      obtain ⟨pending, raised⟩ := world.thread_raisePending target me
      simp [raised, free] at running
  | acts own =>
      simp [Thread.step?_call free own] at running

/-- Steps keep every call one that was let in. -/
theorem step?_admitted
    {world next : World}
    {me : ThreadId}
    {event : Event}
    {reply : Reply}
    (stepped : world.step? me event = some (next, reply))
    (admitted :
      ∀ thread call, (world.thread thread).call = some call → call.Admitted)
    (thread : ThreadId)
    (later : Call)
    (running : (next.thread thread).call = some later) :
    later.Admitted := by
  by_cases mine : thread = me
  · subst mine
    cases (step?_eq_some_iff.mp stepped).2 with
    | idle free stepped =>
        have entered := stepIdle?_call free stepped running
        exact ⟨entered.1, .inr (.inl entered.2)⟩
    | @visits call before due unlatched =>
        have before := admitted _ _ before
        simp only [afterVisit, thread_counters, thread_setThread_self,
          Option.some.injEq] at running
        subst running
        refine ⟨before.accepted, ?_⟩
        by_cases lock : call.operation = .lock
        · exact .inl lock
        · -- An operation other than a lock has only this one section.
          have arriving : call.phase = .arriving := by
            rcases due with arriving | yielding
            · exact arriving
            · simpa [lock, yielding] using before.onlyLocksWait
          obtain ⟨result, finished⟩ :=
            Operation.enter_progress lock thread (world.slot call.handle)
              (world.thread thread).budget
          right
          right
          exact ⟨result, by simp [Visit.done, visitOf, arriving, finished, Phase.ofProgress]⟩
    | @yields call before parked =>
        have before := admitted _ _ before
        have lock : call.operation = .lock := by
          simpa [parked] using before.onlyLocksWait
        simp only [thread_counters, thread_setThread_self] at running
        rcases Thread.startYield_cases (world.thread thread) call with canceled | yielding
        · simp [canceled.2] at running
        · rw [yielding.2, Option.some.injEq] at running
          subst running
          exact ⟨before.accepted, .inl lock⟩
    | spins before spinning =>
        exact admitted _ _ running
    | leaves before leaving =>
        simp at running
    | givesUp before arriving single =>
        simp only [thread_counters, thread_setThread_self, Option.some.injEq] at running
        subst running
        exact ⟨(admitted _ _ before).accepted, .inr (.inr ⟨_, rfl⟩)⟩
    | waits before arriving blocking =>
        exact admitted _ _ running
    | waitsAgain before yielding =>
        simp only [thread_counters, thread_setThread_self, Thread.endYield_call] at running
        exact admitted _ _ running
  · rw [step?_call_of_ne stepped mine] at running
    exact admitted _ _ running

end World

end LatchMutex
