import LatchMutex.Proofs.Histories

namespace LatchMutex

/-!
# Who can be found by identity

A thread enters the registry with its first use of the facade and leaves it with its
exit, and it has a cell from that first use on.  Every small step keeps this, so the
registry leads to exactly the threads that have used the facade and not exited.

`Thread.Spends` says what a step of a thread does to its flag, its use of the facade
and its exit; `World.Registers` is the invariant.
-/

namespace CancelStatus

/-- How a test treats the flag; it only delivers to a thread that is asynchronous there. -/
structure Tests
    (status : CancelStatus)
    (asynchronous : Bool)
    (tested : Bool × CancelStatus) : Prop where
  pending : tested.2.pending = (status.pending && !tested.1)
  due :
    tested.1 = true →
      status.state = .enabled ∧ status.pending = true ∧ asynchronous = true

variable (status : CancelStatus) (previous : CancelType)

theorem tests_test : status.Tests (status.type = .asynchronous) status.test := by
  rw [test]
  split
  case isTrue deliverable =>
    obtain ⟨enabled, asynchronous, pending⟩ := of_decide_eq_true deliverable
    exact ⟨by simp, fun _ => ⟨enabled, pending, decide_eq_true asynchronous⟩⟩
  case isFalse =>
    exact ⟨by simp, by simp⟩

/-- The end of a scope tests under the type that it restores. -/
theorem tests_leaveScope :
    status.Tests (previous = .asynchronous) (status.leaveScope previous) := by
  rw [leaveScope]
  split
  · have tested := (status.unwindScope previous).tests_test
    exact ⟨tested.pending, tested.due⟩
  · exact ⟨by simp [unwindScope, setType], by simp⟩

/-- The opening of a window tests an asynchronous thread. -/
theorem tests_openWindow : status.Tests true status.openWindow := by
  have opened := (status.setType .asynchronous).tests_test
  rw [openWindow]
  cases tested : (status.setType .asynchronous).test with
  | mk delivered after =>
      rw [tested] at opened
      cases delivered <;> exact ⟨opened.pending, opened.due⟩

/-- A yield tests if the scope was entered asynchronous. -/
theorem tests_yieldPoint :
    status.Tests (previous = .asynchronous) (status.yieldPoint previous) := by
  rw [yieldPoint]
  split
  case isTrue asynchronous =>
    have opened := status.tests_openWindow
    cases tested : status.openWindow with
    | mk delivered after =>
        rw [tested] at opened
        cases delivered with
        | false =>
            exact ⟨opened.pending, by simp⟩
        | true =>
            obtain ⟨enabled, pending, -⟩ := opened.due rfl
            exact ⟨opened.pending, fun _ => ⟨enabled, pending, decide_eq_true asynchronous⟩⟩
  case isFalse =>
    exact ⟨by simp, by simp⟩

end CancelStatus

/-- Whether a step is the use of the facade that makes its thread known. -/
def Event.touches : Event → Bool
  | .call _ operation _ => !operation.isRefused
  | .dropGuard _ | .setType _ | .setState _ | .test | .touch | .makeHandle => true
  | .enterScope | .openWindow => true
  | _ => false

namespace Event

variable {target : ThreadId}

/-- A request is no use of the facade by the one who makes it. -/
theorem touches_of_requests (event : Event) (asks : event.requests target = true) :
    event.touches = false := by
  cases event <;> first | rfl | contradiction

theorem ne_exit_of_requests (event : Event) (asks : event.requests target = true) :
    event ≠ .exit := by
  rintro rfl
  contradiction

theorem ne_makeHandle_of_requests (event : Event) (asks : event.requests target = true) :
    event ≠ .makeHandle := by
  rintro rfl
  contradiction

end Event

namespace Thread

/--
Whether a step may deliver as far as the cancel type goes: a test looks at the type
itself, the end of a scope and a yield at the type from before the scope.
-/
def admits (thread : Thread) : Event → Bool
  | .test => thread.cancel.type = .asynchronous
  | .openWindow => true
  | .leaveScope => thread.scopes.head? = some .asynchronous
  | .yieldPoint position => thread.scopes[position]? = some .asynchronous
  | .proceed => thread.call.any fun call => call.previous = .asynchronous
  | _ => false

/-- How a step of a thread treats what others know of the thread. -/
structure Spends (thread : Thread) (event : Event) (reply : Reply) (after : Thread) : Prop where
  pending : after.cancel.pending = (thread.cancel.pending && reply ≠ .canceled)
  touched : after.touched = (thread.touched || event.touches)
  exited : after.exited = (thread.exited || event = .exit)
  due :
    reply = .canceled →
      thread.cancel.state = .enabled ∧
        thread.cancel.pending = true ∧ thread.admits event = true

variable {thread : Thread} {event : Event}

namespace Spends

/-- A step that tests nothing leaves the flag as it is. -/
theorem silently
    {reply : Reply}
    {after : Thread}
    (calm : reply ≠ .canceled)
    (pending : after.cancel.pending = thread.cancel.pending)
    (touched : after.touched = (thread.touched || event.touches))
    (exited : after.exited = (thread.exited || event = .exit)) :
    thread.Spends event reply after where
  pending := by simp [pending, calm]
  touched := touched
  exited := exited
  due := fun canceled => absurd canceled calm

/-- A thread that has used the facade has done so for good. -/
theorem keepsUse
    {reply : Reply}
    {after : Thread}
    (spends : thread.Spends event reply after)
    (used : thread.touched = true) :
    after.touched = true := by
  rw [spends.touched, used, Bool.true_or]

variable {asynchronous : Bool} {cancel : CancelStatus}

/-- A step whose test delivers nothing leaves the flag as it is. -/
theorem spared
    {reply : Reply}
    {after : Thread}
    (calm : reply ≠ .canceled)
    (tests : thread.cancel.Tests asynchronous (false, cancel))
    (pending : after.cancel.pending = cancel.pending)
    (touched : after.touched = (thread.touched || event.touches))
    (exited : after.exited = (thread.exited || event = .exit)) :
    thread.Spends event reply after :=
  silently calm ((pending.trans tests.pending).trans (Bool.and_true _)) touched exited

/-- A step whose test delivers lowers the flag, under the type of the test. -/
theorem delivered
    {after : Thread}
    (tests : thread.cancel.Tests asynchronous (true, cancel))
    (admits : asynchronous = true → thread.admits event = true)
    (pending : after.cancel.pending = cancel.pending)
    (touched : after.touched = (thread.touched || event.touches))
    (exited : after.exited = (thread.exited || event = .exit)) :
    thread.Spends event .canceled after := by
  obtain ⟨enabled, raised, asynchronous⟩ := tests.due rfl
  exact
    { pending := pending.trans tests.pending
      touched := touched
      exited := exited
      due := fun _ => ⟨enabled, raised, admits asynchronous⟩ }

/-- A test of the thread's own either spares or delivers. -/
theorem afterTest
    {base : Thread}
    {tested : Bool × CancelStatus}
    (tests : thread.cancel.Tests asynchronous tested)
    (admits : asynchronous = true → thread.admits event = true)
    (touched : base.touched = (thread.touched || event.touches))
    (exited : base.exited = (thread.exited || event = .exit)) :
    thread.Spends event (base.afterTest tested).1 (base.afterTest tested).2 := by
  obtain ⟨delivers, cancel⟩ := tested
  cases delivers with
  | false =>
      exact spared (by simp [Thread.afterTest]) tests rfl touched exited
  | true =>
      exact delivered tests admits rfl touched exited

end Spends

/-- The steps of a thread on its own scopes, windows and cancel status. -/
theorem Acts.spends
    {reply : Reply}
    {after : Thread}
    (acts : thread.Acts event reply after) :
    thread.Spends event reply after := by
  cases acts with
  | tests =>
      exact .afterTest thread.cancel.tests_test id (by simp [Event.touches]) (by simp)
  | leavesScope inside calm =>
      refine .afterTest (thread.cancel.tests_leaveScope _) ?_ (by simp [Event.touches]) (by simp)
      simp [admits, inside]
  | yields inside =>
      refine .afterTest (thread.cancel.tests_yieldPoint _) ?_ (by simp [Event.touches]) (by simp)
      simp [admits, inside]
  | opensWindow opens =>
      have tests := thread.cancel.tests_openWindow
      rw [opens] at tests
      exact .spared (by simp) tests rfl (by simp [Event.touches]) (by simp)
  | cancelsAtWindow opens =>
      have tests := thread.cancel.tests_openWindow
      rw [opens] at tests
      exact .delivered tests id rfl (by simp [unwind, Event.touches]) (by simp [unwind])
  | _ =>
      exact .silently (by simp) rfl (by simp [Event.touches]) (by simp)

/-- The start of a call uses the facade and leaves the flag alone. -/
theorem spends_start
    (guards : List HandleId)
    (handle : HandleId)
    (operation : Operation)
    (guarded : Bool)
    (touches : event.touches = true)
    (stays : event ≠ .exit) :
    thread.Spends event .silent
      ({ thread with guards }.start handle operation guarded) :=
  .silently (by simp) rfl (by simp [start, touches]) (by simp [start, stays])

/-- The end of a yield changes nothing that others know of the thread. -/
theorem endYield_known (thread : Thread) (call : Call) :
    (thread.endYield call).cancel.pending = thread.cancel.pending ∧
      (thread.endYield call).touched = thread.touched ∧
      (thread.endYield call).exited = thread.exited := by
  rw [endYield]
  split <;> exact ⟨rfl, rfl, rfl⟩

/-- The yield of a parked call delivers in the window that it opens. -/
theorem spends_startYield {call : Call} (running : thread.call = some call) :
    thread.Spends .proceed (thread.startYield call).1 (thread.startYield call).2 := by
  rw [startYield]
  split
  case isFalse =>
    exact .silently (by simp) rfl (by simp [Event.touches]) (by simp)
  case isTrue asynchronous =>
    have tests := thread.cancel.tests_openWindow
    cases opens : thread.cancel.openWindow with
    | mk delivered cancel =>
        rw [opens] at tests
        cases delivered with
        | false =>
            exact .spared (by simp) tests rfl (by simp [Event.touches]) (by simp)
        | true =>
            exact
              .delivered tests (by simp [admits, running, asynchronous]) rfl
                (by simp [unwind, Event.touches]) (by simp [unwind])

/-- The end of a call delivers under the type from before it. -/
theorem spends_finish {call : Call} (running : thread.call = some call) (result : Result) :
    thread.Spends .proceed (thread.finish call result).1 (thread.finish call result).2 := by
  rw [finish]
  split
  case isTrue =>
    exact .silently (by simp) rfl (by simp [conclude, Event.touches]) (by simp [conclude])
  case isFalse =>
    have tests := thread.cancel.tests_leaveScope call.previous
    cases leaves : thread.cancel.leaveScope call.previous with
    | mk delivered cancel =>
        rw [leaves] at tests
        cases delivered with
        | false =>
            exact
              .spared (by simp) tests rfl (by simp [conclude, Event.touches]) (by simp [conclude])
        | true =>
            exact
              .delivered tests (by simp [admits, running]) rfl (by simp [unwind, Event.touches])
                (by simp [unwind])

end Thread

namespace World

variable {world next last : World} {me : ThreadId} {event : Event} {reply : Reply}

/-- A step that is no request to its own thread spends what the thread has. -/
theorem step?_spends
    (stepped : world.step? me event = some (next, reply))
    (elsewhere : event.requests me = false) :
    (world.thread me).Spends event reply (next.thread me) := by
  cases (step?_eq_some_iff.mp stepped).2 with
  | idle free stepped =>
      cases stepIdle?_idles stepped with
      | refuses refused =>
          exact .silently (by simp) rfl (by simp [Event.touches, refused]) (by simp)
      | calls accepted =>
          rw [thread_setThread_self]
          exact Thread.spends_start _ _ _ _ (by simp [Event.touches, accepted]) (by simp)
      | drops held =>
          rw [thread_setThread_self]
          exact Thread.spends_start _ _ _ _ rfl (by simp)
      | sharesHandle =>
          rw [thread_shareHandle, thread_setThread_self]
          exact .silently (by simp) rfl (by simp [Event.touches]) (by simp)
      | @requests target | @requestsById target =>
          have different : me ≠ target := by
            simpa [Event.requests, eq_comm] using elsewhere
          rw [thread_raisePending_of_ne _ different]
          exact .silently (by simp) rfl (by simp [Event.touches]) (by simp)
      | misses | places | resets =>
          exact .silently (by simp) rfl (by simp [Event.touches]) (by simp)
      | acts own =>
          rw [thread_setThread_self]
          exact (Thread.step?_acts own).spends
  | @visits call running due unlatched =>
      obtain ⟨pending, touched, exited⟩ := (world.thread me).endYield_known call
      simp only [afterVisit, thread_counters, thread_setThread_self]
      refine .silently (by simp) pending (by simp [Event.touches, touched]) ?_
      rw [exited]
      exact (Bool.or_false _).symm
  | yields running parked =>
      simp only [thread_counters, thread_setThread_self]
      exact Thread.spends_startYield running
  | leaves running leaving =>
      rw [thread_setThread_self]
      exact Thread.spends_finish running _
  | spins | waits =>
      exact .silently (by simp) rfl (by simp [Event.touches]) (by simp)
  | givesUp running arriving single =>
      simp only [thread_counters, thread_setThread_self]
      exact .silently (by simp) rfl (by simp [Event.touches]) (by simp)
  | @waitsAgain call running yielding =>
      obtain ⟨pending, touched, exited⟩ := (world.thread me).endYield_known call
      simp only [thread_counters, thread_setThread_self]
      refine .silently (by simp) pending (by simp [Event.touches, touched]) ?_
      rw [exited]
      exact (Bool.or_false _).symm

/-- The threads with a cell have used the facade, and the registered ones have not exited. -/
structure Registers (world : World) : Prop where
  enrolled : ∀ thread, world.facade.isEnrolled thread = (world.thread thread).touched
  registered :
    ∀ thread,
      world.isRegistered thread =
        ((world.thread thread).touched && !(world.thread thread).exited)

namespace Registers

/-- Before anything happened nobody has a cell, whatever the storage of a handle holds. -/
theorem opening (handle : HandleId) (start : Slot) : (World.opening handle start).Registers where
  enrolled _ := rfl
  registered _ := rfl

theorem initial : World.initial.Registers where
  enrolled _ := rfl
  registered _ := rfl

/-- A thread that is still there may use the facade for the first time, or exit. -/
theorem setThread
    {after : Thread}
    (registers : world.Registers)
    (awake : (world.thread me).exited = false)
    (kept : (world.thread me).touched = true → after.touched = true) :
    (world.setThread me after).Registers := by
  constructor
  case enrolled =>
    intro thread
    by_cases mine : thread = me
    · subst mine
      rw [thread_setThread_self, World.setThread, CancelFacade.isEnrolled_follow_self,
        registers.enrolled]
      cases touched : (world.thread thread).touched <;> simp_all
    · rw [thread_setThread_of_ne _ mine, World.setThread,
        CancelFacade.isEnrolled_follow_of_ne _ mine, registers.enrolled]
  case registered =>
    intro thread
    by_cases mine : thread = me
    · subst mine
      have before := registers.registered thread
      rw [World.isRegistered] at before
      rw [thread_setThread_self, World.isRegistered, World.setThread,
        CancelFacade.isRegistered_follow_self, before, registers.enrolled, awake,
        Bool.and_comm]
      cases touched : (world.thread thread).touched <;> simp_all
    · rw [thread_setThread_of_ne _ mine, World.isRegistered, World.setThread,
        CancelFacade.isRegistered_follow_of_ne _ mine]
      exact registers.registered thread

theorem withCounters (registers : world.Registers) (counters : Counters) :
    ({ world with counters } : World).Registers where
  enrolled := registers.enrolled
  registered := registers.registered

theorem setCell (registers : world.Registers) (handle : HandleId) (cell : Cell) :
    (world.setCell handle cell).Registers where
  enrolled := registers.enrolled
  registered := registers.registered

/-- A handle is one more way to a cell, and the registry knows nothing of it. -/
theorem shareHandle (registers : world.Registers) (me : ThreadId) :
    (world.shareHandle me).Registers := by
  obtain ⟨-, own, registry⟩ := world.facade.share_keeps me
  constructor
  case enrolled =>
    intro thread
    rw [thread_shareHandle, ← registers.enrolled]
    simp only [CancelFacade.isEnrolled, World.shareHandle, own]
  case registered =>
    intro thread
    rw [thread_shareHandle, ← registers.registered]
    simp only [World.isRegistered, CancelFacade.isRegistered, World.shareHandle, registry]

/-- A request changes nothing but a flag. -/
theorem raisePending (registers : world.Registers) (target : ThreadId) :
    (world.raisePending target).Registers := by
  constructor
  case enrolled =>
    intro thread
    obtain ⟨pending, same⟩ := world.thread_raisePending target thread
    rw [isEnrolled_raisePending, registers.enrolled, same]
  case registered =>
    intro thread
    obtain ⟨pending, same⟩ := world.thread_raisePending target thread
    rw [isRegistered_raisePending, registers.registered, same]

/-- Every small step keeps the registry right. -/
theorem step
    (registers : world.Registers)
    (stepped : world.step? me event = some (next, reply)) :
    next.Registers := by
  obtain ⟨awake, kind⟩ := step?_eq_some_iff.mp stepped
  cases kind with
  | idle free stepped =>
      cases stepIdle?_idles stepped with
      | refuses | misses =>
          exact registers
      | calls | drops =>
          exact registers.setThread awake fun _ => rfl
      | sharesHandle =>
          exact (registers.setThread awake fun _ => rfl).shareHandle me
      | requests | requestsById =>
          exact registers.raisePending _
      | places handle slot =>
          exact registers.setCell handle _
      | resets =>
          exact registers.withCounters _
      | acts own =>
          exact registers.setThread awake (Thread.step?_acts own).spends.keepsUse
  | @visits call running due unlatched =>
      obtain ⟨-, touched, -⟩ := (world.thread me).endYield_known call
      refine ((registers.setCell _ _).setThread awake ?_).withCounters _
      exact fun used => touched.trans used
  | yields running parked =>
      exact
        (registers.setThread awake (Thread.spends_startYield running).keepsUse).withCounters _
  | leaves running leaving =>
      exact registers.setThread awake (Thread.spends_finish running _).keepsUse
  | spins | waits =>
      exact registers.withCounters _
  | givesUp =>
      refine (registers.setThread awake ?_).withCounters _
      exact id
  | @waitsAgain call running yielding =>
      obtain ⟨-, touched, -⟩ := (world.thread me).endYield_known call
      refine (registers.setThread awake ?_).withCounters _
      exact fun used => touched.trans used

/-- So does every run. -/
theorem run
    {run : List (ThreadId × Event)}
    {replies : List Reply}
    (registers : world.Registers)
    (ran : world.run? run = some (last, replies)) :
    last.Registers := by
  induction run generalizing world replies with
  | nil =>
      cases ran
      exact registers
  | cons first rest inductionHypothesis =>
      obtain ⟨_, _, _, stepped, tail, rfl⟩ := run?_cons.mp ran
      exact inductionHypothesis (registers.step stepped) tail

end Registers

end World

/-- Along a course the registry is right. -/
theorem Course.registers
    {handle : HandleId}
    {start : Slot}
    {run : List (ThreadId × Event)}
    {world : World}
    (course : Course handle start run world) :
    world.Registers := by
  obtain ⟨replies, ran⟩ := course.ran
  exact (World.Registers.opening handle start).run ran

end LatchMutex
