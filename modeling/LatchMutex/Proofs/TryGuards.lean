import LatchMutex.Proofs.CancelRequests
import LatchMutex.Proofs.Sections

namespace LatchMutex

/-!
# The guard of a try-lock

A try-lock raises the guard of its record, claims the counter and lowers the guard
again, all in one section under the latch.  A lock that finds the mutex held waits for
a lowered guard with the latch in hand, so that a guard left raised would keep everybody
out for good.

None is: whichever way a try-lock ends, it leaves the guard as it found it, and nothing
else touches the guard.  So whoever waits for it goes on at once, and no try-lock takes
its claim back, as the counter that it claims is the one that it has looked at.
-/

namespace Record

/-- Lowering the guard undoes its raising, if it was left alone in between. -/
theorem tryGuard_lowerGuard
    {record guarded : Record}
    (untouched : guarded.tryGuard = record.raiseGuard.tryGuard) :
    guarded.lowerGuard.tryGuard = record.tryGuard := by
  change guarded.tryGuard - 1 = record.tryGuard
  rw [untouched]
  exact UInt32.add_sub_cancel _ _

/-- Whichever way a try-lock ends, it leaves the guard as it found it. -/
theorem tryGuard_tryTake (record : Record) (me : ThreadId) :
    (record.tryTake me).2.tryGuard = record.tryGuard := by
  unfold tryTake
  split
  · rfl
  · dsimp only
    split
    · exact tryGuard_lowerGuard rfl
    · exact tryGuard_lowerGuard rfl

/-- Raising the guard leaves the counter as it was at the first look, so no claim is taken back. -/
theorem tryTake_ne_reverted (record : Record) (me : ThreadId) :
    (record.tryTake me).1 ≠ .reverted := by
  by_cases free : record.lockIndex = unlocked
  · simp [tryTake_of_free free]
  · simp [tryTake_of_held free]

/-- A try-lock is refused exactly where the mutex is held. -/
theorem tryTake_outcome_eq_busy_iff (record : Record) (me : ThreadId) :
    (record.tryTake me).1.outcome = .error .busy ↔ record.lockIndex ≠ unlocked := by
  by_cases free : record.lockIndex = unlocked
  · simp [tryTake_of_free free, TryPath.outcome, free]
  · simp [tryTake_of_held free, TryPath.outcome, free]

/-- With the guard lowered no attempt waits for it. -/
theorem attempt_ne_spinning
    {record : Record}
    (lowered : record.tryGuard = 0)
    (me : ThreadId) :
    (record.attempt me).decision ≠ .spinning := by
  have attempted := record.attempt_cases lowered me
  generalize record.attempt me = turn at attempted
  cases attempted <;> simp

end Record

namespace Slot

variable {slot : Slot} {budget : Budget} {record : Record}

/-- A slot that gives a record gives no fault. -/
theorem materialize_of_some (gives : (slot.materialize budget).1.toOption = some record) :
    ∃ kept rest branches, slot.materialize budget = (.ok record, kept, rest, branches) := by
  generalize slot.materialize budget = built at gives ⊢
  obtain ⟨fault | found, kept, rest, branches⟩ := built
  · cases gives
  · cases gives
    exact ⟨kept, rest, branches, rfl⟩

/-- A slot that gives no record gives a fault. -/
theorem materialize_of_none (refuses : (slot.materialize budget).1.toOption = none) :
    ∃ fault kept rest branches,
      slot.materialize budget = (.error fault, kept, rest, branches) := by
  generalize slot.materialize budget = built at refuses ⊢
  obtain ⟨fault | found, kept, rest, branches⟩ := built
  · exact ⟨fault, kept, rest, branches, rfl⟩
  · cases refuses

/-- A record that is found or built has its guard lowered. -/
theorem Lowered.materialize
    (lowered : slot.Lowered)
    (gives : (slot.materialize budget).1.toOption = some record) :
    record.tryGuard = 0 := by
  cases slot with
  | empty =>
      contradiction
  | constructed found =>
      cases gives
      exact lowered record rfl
  | sentinel =>
      by_cases empty : budget.failures = 0
      · rw [Slot.materialize, Budget.allocate_of_empty empty] at gives
        cases gives
        rfl
      · rw [Slot.materialize, Budget.allocate_of_positive empty] at gives
        contradiction

end Slot

namespace Visit

/-- The record that a lock or a try-lock works on, unless it fails before. -/
def reached? (visit : Visit) : Option Record :=
  if visit.resumed then
    match visit.slot with
    | .constructed record => some record.leaveWait
    | .empty | .sentinel => none
  else
    (visit.slot.materialize visit.budget).1.toOption

variable {visit : Visit} {record : Record}

/-- What is worked on has its guard lowered, if what is found has. -/
theorem tryGuard_of_reached
    (lowered : visit.slot.Lowered)
    (reaches : visit.reached? = some record) :
    record.tryGuard = 0 := by
  unfold reached? at reaches
  split at reaches
  · split at reaches
    · rename_i found finds
      cases reaches
      obtain ⟨waiters, left⟩ := found.leaveWait_eq
      rw [left]
      exact lowered found finds
    · contradiction
    · contradiction
  · exact lowered.materialize reaches

/-- A lock makes one attempt on the record that it works on. -/
theorem done_of_lock_reached
    (lock : visit.operation = .lock)
    (reaches : visit.reached? = some record) :
    ∃ budget earlier, visit.done = Slot.attempt record visit.thread budget earlier := by
  unfold reached? at reaches
  split at reaches
  · rename_i resumed
    rw [done, if_pos resumed]
    split at reaches
    · rename_i found finds
      cases reaches
      rw [finds]
      exact ⟨_, _, rfl⟩
    · contradiction
    · contradiction
  · rename_i arriving
    obtain ⟨kept, rest, branches, built⟩ := Slot.materialize_of_some reaches
    rw [done, if_neg arriving, lock, Operation.enter, Slot.lock, built]
    exact ⟨rest, branches, rfl⟩

/-- A try-lock makes one try of the record that it works on. -/
theorem done_of_tryLock_reached
    (admitted : visit.Admitted)
    (tryLock : visit.operation = .tryLock)
    (reaches : visit.reached? = some record) :
    visit.done.progress =
        .finished ((record.tryTake visit.thread).1.outcome.map fun _ => .done) ∧
      visit.done.slot = .constructed (record.tryTake visit.thread).2 := by
  have single : visit.operation ≠ .lock := by simp [tryLock]
  have arriving : visit.resumed ≠ true := fun resumed =>
    single (admitted.onlyLocksResume resumed)
  rw [reached?, if_neg arriving] at reaches
  obtain ⟨kept, rest, branches, built⟩ := Slot.materialize_of_some reaches
  rw [done_of_ne_lock admitted single, tryLock, Operation.enter, Slot.tryLock, built]
  exact ⟨rfl, rfl⟩

/-- A lock or a try-lock without a record to work on fails. -/
theorem done_of_unreached
    (acquires : visit.operation = .lock ∨ visit.operation = .tryLock)
    (unreached : visit.reached? = none) :
    ∃ fault, visit.done.progress = .finished (.error fault) := by
  unfold reached? at unreached
  split at unreached
  · rename_i resumed
    rw [done, if_pos resumed]
    split at unreached
    · contradiction
    · rename_i finds
      rw [finds]
      exact ⟨_, rfl⟩
    · rename_i finds
      rw [finds]
      exact ⟨_, rfl⟩
  · rename_i arriving
    obtain ⟨fault, kept, rest, branches, built⟩ := Slot.materialize_of_none unreached
    refine ⟨fault, ?_⟩
    rw [done, if_neg arriving]
    rcases acquires with lock | tryLock
    · rw [lock, Operation.enter, Slot.lock, built]
    · rw [tryLock, Operation.enter, Slot.tryLock, built]

/-- A section that nobody's guard holds up, and that leaves no guard raised. -/
structure PassesGuard (visit : Visit) : Prop where
  found : visit.slot.Lowered
  left : visit.done.slot.Lowered
  smooth : visit.done.progress ≠ .spinning
  uncounted : .tryLockGuardSpin ∉ visit.done.branches
  /-- A lock that finds the mutex held comes to the wait for the guard, and goes on at once. -/
  waits :
    ∀ record,
      visit.operation = .lock →
      visit.reached? = some record →
      record.lockIndex ≠ unlocked →
      record.tryGuard = 0 ∧
        (record.attempt visit.thread).decision ≠ .spinning ∧
        visit.done.progress = Slot.progressOf (record.attempt visit.thread).decision ∧
        visit.done.slot = .constructed (record.attempt visit.thread).record
  /-- A try-lock takes the mutex or finds it held, and has no other way to be refused. -/
  tries :
    ∀ record,
      visit.operation = .tryLock →
      visit.reached? = some record →
      (record.tryTake visit.thread).1 ≠ .reverted ∧
        (record.tryTake visit.thread).2.tryGuard = record.tryGuard ∧
        visit.done.slot = .constructed (record.tryTake visit.thread).2 ∧
        (visit.done.progress = .finished (.error .busy) ↔ record.lockIndex ≠ unlocked)
  /-- Without a record to work on there is neither a wait nor a try. -/
  fails :
    visit.operation = .lock ∨ visit.operation = .tryLock →
    visit.reached? = none →
    ∃ fault, visit.done.progress = .finished (.error fault)

/-- Every section to a settled slot gets past the guard. -/
theorem passesGuard
    (admitted : visit.Admitted)
    (settled : visit.slot.Settled) :
    visit.PassesGuard where
  found := settled.lowered
  left := (done_settled admitted settled).lowered
  smooth := progress_ne_spinning admitted settled.lowered
  uncounted := (counted admitted settled.lowered).tryLockGuardSpin
  waits := by
    intro record lock reaches held
    have lowered := tryGuard_of_reached settled.lowered reaches
    obtain ⟨budget, earlier, done⟩ := done_of_lock_reached lock reaches
    rw [done]
    exact ⟨lowered, record.attempt_ne_spinning lowered visit.thread, rfl, rfl⟩
  tries := by
    intro record tryLock reaches
    obtain ⟨progress, slot⟩ := done_of_tryLock_reached admitted tryLock reaches
    refine ⟨record.tryTake_ne_reverted _, record.tryGuard_tryTake _, slot, ?_⟩
    rw [progress, ← record.tryTake_outcome_eq_busy_iff visit.thread]
    cases (record.tryTake visit.thread).1.outcome <;> simp [Except.map]
  fails := done_of_unreached

end Visit

namespace World

variable
  {me : ThreadId} {handle : HandleId} {world next last : World} {event : Event} {reply : Reply}
  {steps : List (ThreadId × Event)} {replies : List Reply}

/-- Threads in the middle of a call have not exited, and on the handle they do not spin. -/
structure CallsMove (world : World) (handle : HandleId) : Prop where
  awake :
    ∀ thread,
      (world.thread thread).call ≠ none → (world.thread thread).exited = false
  unspun :
    ∀ thread call,
      (world.thread thread).call = some call → call.handle = handle → call.phase ≠ .spinning

/-- A thread exits outside its calls only, and takes no step after that. -/
theorem step?_awake
    {thread : ThreadId}
    (stepped : world.step? me event = some (next, reply))
    (awake : (world.thread thread).call ≠ none → (world.thread thread).exited = false)
    (running : (next.thread thread).call ≠ none) :
    (next.thread thread).exited = false := by
  have before : (world.thread thread).exited = false := by
    by_cases mine : thread = me
    · subst mine
      exact (step?_eq_some_iff.mp stepped).1
    · rw [step?_call_of_ne stepped mine] at running
      exact awake running
  have stays : Happening.exits thread ⟨me, event, reply⟩ = false := by
    rw [Happening.exits, decide_eq_false_iff_not]
    rintro ⟨rfl, rfl⟩
    cases (step?_eq_some_iff.mp stepped).2 with
    | idle free stepped =>
        cases stepped
        rw [thread_setThread_self] at running
        exact running free
  rw [(step?_tracks stepped).exited thread, before, stays, Bool.or_false]

/-- A step keeps the calls moving, if its section is not left spinning. -/
theorem CallsMove.step
    (moves : world.CallsMove handle)
    (stepped : world.step? me event = some (next, reply))
    (smooth : ∀ visit ∈ world.visit? me event handle, visit.done.progress ≠ .spinning) :
    next.CallsMove handle where
  awake thread := step?_awake stepped (moves.awake thread)
  unspun := by
    rintro thread call running rfl spinning
    rcases step?_spinning stepped running spinning with before | ⟨visit, visits, left⟩
    · exact moves.unspun thread call before rfl spinning
    · exact smooth visit visits left

/-- A run keeps the calls moving, if no section on the handle is left spinning. -/
theorem CallsMove.run
    (moves : world.CallsMove handle)
    (ran : world.run? steps = some (last, replies))
    (smooth : ∀ visit ∈ world.history handle steps, visit.done.progress ≠ .spinning) :
    last.CallsMove handle := by
  induction steps generalizing world replies with
  | nil =>
      cases ran
      exact moves
  | cons step rest inductionHypothesis =>
      obtain ⟨me, event⟩ := step
      obtain ⟨next, reply, _, stepped, tail, rfl⟩ := run?_cons.mp ran
      simp only [history, stepped, List.forall_mem_append, Option.mem_toList] at smooth
      exact inductionHypothesis (moves.step stepped smooth.1) tail smooth.2

/-- Whatever is due on the handle can be done now, and no guard of a try-lock is in the way. -/
structure Unhindered (world : World) (handle : HandleId) : Prop where
  unlatched : (world.cells.get handle).holder = none
  lowered : (world.slot handle).Lowered
  unspun :
    ∀ thread call,
      (world.thread thread).call = some call → call.handle = handle → call.phase ≠ .spinning
  passes :
    ∀ me visit,
      world.visit? me .proceed handle = some visit → visit.PassesGuard
  /-- Whoever is due gets the latch, and has given it back after the step. -/
  proceeds :
    ∀ me visit,
      world.visit? me .proceed handle = some visit →
      ∃ next,
        world.step? me .proceed = some (next, .silent) ∧
          (next.cells.get handle).holder = none

end World

namespace Course

variable {handle : HandleId} {start : Slot} {run : List (ThreadId × Event)} {world : World}

/-- After every course all calls can move on. -/
theorem callsMove (course : Course handle start run world) : world.CallsMove handle := by
  obtain ⟨replies, ran⟩ := course.ran
  refine World.CallsMove.run ⟨?_, ?_⟩ ran course.history_smooth
  · intro thread running
    rfl
  · intro thread call running
    contradiction

/--
The guard of a try-lock keeps nobody waiting.  After every run in which a handle is
reached through operations only, its latch is free, its guard is lowered and nobody
spins.  Whoever is due on it gets the latch and gives it back at once: a lock that finds
the mutex held finds the guard lowered, and no try-lock takes its claim back.
-/
theorem tryGuard_harmless (course : Course handle start run world) : world.Unhindered handle := by
  have unlatched := course.latch_free
  have moves := course.callsMove
  constructor
  case unlatched =>
    exact unlatched
  case lowered =>
    exact course.settled.lowered
  case unspun =>
    exact moves.unspun
  case passes =>
    intro me visit visits
    obtain ⟨admitted, settled⟩ := course.visit_settled visits
    exact Visit.passesGuard admitted settled
  case proceeds =>
    intro me visit visits
    obtain ⟨-, call, running, rfl, due, -⟩ := World.visit?_eq_some_iff.mp visits
    have awake := moves.awake me (by simp [running])
    have stepped : world.step? me .proceed = some (world.afterVisit me call, .silent) :=
      World.step?_eq_some_iff.mpr ⟨awake, .visits running due unlatched⟩
    refine ⟨_, stepped, ?_⟩
    rw [World.step?_cell stepped rfl, visits]
    simp [course.smooth visits]

/--
Thread 3 finds no memory for its lock, and thread 0 builds the mutex by a try-lock and
takes it.  Thread 1 is canceled while it waits, thread 2 is about to come back from its
yield, and thread 3 is about to try.
-/
def interruptedTries : List (ThreadId × Event) :=
  [(⟨3⟩, .inject 1), (⟨3⟩, .call ⟨0⟩ .lock false), (⟨3⟩, .proceed), (⟨3⟩, .proceed),
    (⟨0⟩, .call ⟨0⟩ .tryLock false), (⟨0⟩, .proceed), (⟨0⟩, .proceed),
    (⟨1⟩, .setType .asynchronous), (⟨1⟩, .call ⟨0⟩ .lock false), (⟨1⟩, .proceed),
    (⟨0⟩, .requestById ⟨1⟩), (⟨1⟩, .proceed),
    (⟨2⟩, .call ⟨0⟩ .lock false), (⟨2⟩, .proceed), (⟨2⟩, .proceed),
    (⟨3⟩, .call ⟨0⟩ .tryLock false)]

theorem tryGuard_harmless_interruptedTries :
    ∃ world waiter met trier tried next,
      Course ⟨0⟩ .sentinel interruptedTries world ∧
        world.visit? ⟨2⟩ .proceed ⟨0⟩ = some waiter ∧
        waiter.reached? = some met ∧
        met.lockIndex ≠ unlocked ∧
        met.tryGuard = 0 ∧
        (met.attempt ⟨2⟩).decision ≠ .spinning ∧
        world.step? ⟨2⟩ .proceed = some (next, .silent) ∧
        (next.cells.get ⟨0⟩).holder = none ∧
        world.visit? ⟨3⟩ .proceed ⟨0⟩ = some trier ∧
        trier.reached? = some tried ∧
        (tried.tryTake ⟨3⟩).1 ≠ .reverted ∧
        trier.done.progress = .finished (.error .busy) := by
  have course : Course ⟨0⟩ .sentinel interruptedTries _ :=
    Course.of_isSome (by simp) (by decide) (by decide)
  generalize worldIs :
    (((World.opening ⟨0⟩ .sentinel).run? interruptedTries).get _).1 = world at course
  have waits :
      (world.visit? ⟨2⟩ .proceed ⟨0⟩).any (fun waiter =>
        waiter.operation = .lock ∧
          waiter.reached?.any fun met => met.lockIndex ≠ unlocked) = true := by
    rw [← worldIs]
    decide
  have tries :
      (world.visit? ⟨3⟩ .proceed ⟨0⟩).any (fun trier =>
        trier.operation = .tryLock ∧
          trier.reached?.any fun tried => tried.lockIndex ≠ unlocked) = true := by
    rw [← worldIs]
    decide
  simp only [Option.any_eq_true, decide_eq_true_eq] at waits tries
  obtain ⟨waiter, waiting, lock, met, meets, heldMet⟩ := waits
  obtain ⟨trier, trying, tryLock, tried, finds, heldTried⟩ := tries
  have unhindered := course.tryGuard_harmless
  have goesOn := (unhindered.passes ⟨2⟩ waiter waiting).waits met lock meets heldMet
  have answered := (unhindered.passes ⟨3⟩ trier trying).tries tried tryLock finds
  obtain ⟨next, stepped, unlatched⟩ := unhindered.proceeds ⟨2⟩ waiter waiting
  rw [World.visit?_thread waiting] at goesOn
  rw [World.visit?_thread trying] at answered
  exact ⟨world, waiter, met, trier, tried, next, course, waiting, meets, heldMet, goesOn.1,
    goesOn.2.1, stepped, unlatched, trying, finds, answered.1, answered.2.2.2.mpr heldTried⟩

end Course

end LatchMutex
