import LatchMutex.Proofs.ContestedTenures

namespace LatchMutex

/-!
# Giving way to contenders

The thread that left a mutex contested gives way at its next lock: it parks with
the mutex free and has to yield before it can try again.  Whoever else attempts a
lock in the meantime is not the last owner, so it gets the mutex.
-/

namespace Record

/-- An attempt of the last owner on a free mutex that somebody waits for gives way. -/
theorem Remembers.attempt
    {record : Record}
    {me : ThreadId}
    (remembers : record.Remembers me True)
    (lowered : record.tryGuard = 0)
    (free : record.lockIndex = unlocked) :
    record.attempt me = ⟨.parked, record.countWaiter me, [.fairnessDeferral]⟩ := by
  have attempted := record.attempt_cases lowered me
  generalize record.attempt me = turn at attempted
  cases attempted with
  | defers =>
      rfl
  | takes free first =>
      exact (first ⟨remembers.counted trivial, remembers.back⟩).elim
  | resets free awaited back alone =>
      exact (remembers.others alone).elim
  | relocks held | refuses held | waits held =>
      exact (held free).elim

/-- An attempt of anybody but the last owner on a free mutex takes it. -/
theorem attempt_of_other
    {record : Record}
    {other : ThreadId}
    (lowered : record.tryGuard = 0)
    (free : record.lockIndex = unlocked)
    (different : record.lastOwner ≠ some other) :
    record.attempt other = ⟨.acquired, record.claim.take other, []⟩ := by
  have attempted := record.attempt_cases lowered other
  generalize record.attempt other = turn at attempted
  cases attempted with
  | takes =>
      rfl
  | resets free awaited back | defers free awaited back =>
      exact (different back).elim
  | relocks held | refuses held | waits held =>
      exact (held free).elim

end Record

namespace World

/-- The lock of a thread on a free mutex lets the other threads go first. -/
structure GivesWay (world : World) (me : ThreadId) (handle : HandleId) : Prop where
  leavesFree :
    ∃ record,
      world.cells.get handle = { slot := .constructed record } ∧
        record.lockIndex = unlocked ∧
        record.owner = none
  /-- Whatever the others do first, the thread only yields, and tries again or is canceled. -/
  yieldsFirst :
    ∀ gap later replies event next reply,
      world.run? gap = some (later, replies) →
      (∀ step ∈ gap, step.1 ≠ me) →
      later.step? me event = some (next, reply) →
      next.cells = later.cells ∧
        (reply = .canceled ∧ (next.thread me).call = none ∨
          reply = .silent ∧
            ∃ retry,
              next.visit? me .proceed handle = some retry ∧
                retry.operation = .lock ∧
                retry.resumed = true)
  /-- Until somebody acquires the mutex, any attempt of another thread does. -/
  opensToOthers :
    ∀ gap later replies other attempt,
      world.run? gap = some (later, replies) →
      (∀ step ∈ gap, step.2.keeps handle = true) →
      (∀ visit ∈ world.history handle gap, visit.deed ≠ .acquires ∧ visit.deed ≠ .renews) →
      later.visit? other .proceed handle = some attempt →
      other ≠ me →
      attempt.operation = .lock →
      attempt.done.progress = .finished (.ok .done) ∧
        ∃ record,
          attempt.done.slot = .constructed record ∧
            record.owner = some other

/-- A lock that parked yields before anything else. -/
theorem yields_of_parked
    {world later next : World}
    {me : ThreadId}
    {call : Call}
    {gap : List (ThreadId × Event)}
    {replies : List Reply}
    {event : Event}
    {reply : Reply}
    (running : (world.thread me).call = some call)
    (parked : call.phase = .parked)
    (ran : world.run? gap = some (later, replies))
    (others : ∀ step ∈ gap, step.1 ≠ me)
    (stepped : later.step? me event = some (next, reply)) :
    next.cells = later.cells ∧
      (reply = .canceled ∧ (next.thread me).call = none ∨
        reply = .silent ∧ (next.thread me).call = some { call with phase := .yielding }) := by
  have still : (later.thread me).call = some call := by
    rw [run?_call_of_ne ran others, running]
  cases (step?_eq_some_iff.mp stepped).2 with
  | yields before =>
      cases still.symm.trans before
      refine ⟨rfl, ?_⟩
      simp only [thread_counters, thread_setThread_self]
      exact Thread.startYield_cases _ _
  | idle free =>
      simp [still] at free
  | visits before due =>
      cases still.symm.trans before
      simp [parked] at due
  | spins before phase | leaves before phase | givesUp before phase | waits before phase
  | waitsAgain before phase =>
      cases still.symm.trans before
      simp [parked] at phase

/-- As long as nobody takes a free mutex, an attempt of anybody but its last owner does. -/
theorem acquires_of_other
    {world later : World}
    {handle : HandleId}
    {record : Record}
    {other : ThreadId}
    {attempt : Visit}
    {gap : List (ThreadId × Event)}
    {replies : List Reply}
    (admitted : world.CallsAdmitted)
    (holds : world.slot handle = .constructed record)
    (sound : record.Sound)
    (free : record.lockIndex = unlocked)
    (different : record.lastOwner ≠ some other)
    (ran : world.run? gap = some (later, replies))
    (kept : ∀ step ∈ gap, step.2.keeps handle = true)
    (idle : ∀ visit ∈ world.history handle gap, visit.deed ≠ .acquires ∧ visit.deed ≠ .renews)
    (visits : later.visit? other .proceed handle = some attempt)
    (locks : attempt.operation = .lock) :
    attempt.done.progress = .finished (.ok .done) ∧
      ∃ record,
        attempt.done.slot = .constructed record ∧
          record.owner = some other := by
  have linked := history_linked admitted ran kept
  rw [holds] at linked
  obtain ⟨waiters, last, left⟩ := linked.recounts sound free idle
  have finds : attempt.slot = .constructed { record with waiters, lastWaiter := last } := by
    rw [visit?_slot visits, left]
  have mine : attempt.thread = other := visit?_thread visits
  obtain ⟨counted, meets, -⟩ := attempt.meets_eq { record with waiters, lastWaiter := last }
  have takes := Record.attempt_of_other (sound.withWaiters counted last).guardLowered free different
  rw [Visit.done_of_lock locks finds, meets, mine, Slot.attempt, takes]
  exact ⟨rfl, _, rfl, rfl⟩

/-- A lock that parked on a free mutex that it owned last gives way. -/
theorem givesWay_of_parked
    {world : World}
    {me : ThreadId}
    {handle : HandleId}
    {record : Record}
    {call : Call}
    (admitted : world.CallsAdmitted)
    (cell : world.cells.get handle = { slot := .constructed record })
    (sound : record.Sound)
    (free : record.lockIndex = unlocked)
    (back : record.lastOwner = some me)
    (running : (world.thread me).call = some call)
    (here : call.handle = handle)
    (locks : call.operation = .lock)
    (parked : call.phase = .parked) :
    world.GivesWay me handle where
  leavesFree := ⟨record, cell, free, sound.unowned_iff.mpr free⟩
  yieldsFirst := by
    intro gap later replies event next reply ran others stepped
    obtain ⟨untouched, canceled | yielding⟩ := yields_of_parked running parked ran others stepped
    · exact ⟨untouched, .inl canceled⟩
    · refine ⟨untouched, .inr ⟨yielding.1, ?_⟩⟩
      have visits :=
        visit?_eq_some_iff.mpr
          ⟨rfl, { call with phase := .yielding }, yielding.2, here, .inr rfl, rfl⟩
      exact ⟨_, visits, locks, rfl⟩
  opensToOthers := by
    intro gap later replies other attempt ran kept idle visits different locks
    have holds : world.slot handle = .constructed record := by
      rw [slot, cell]
    have stranger : record.lastOwner ≠ some other := by
      simpa [back] using Ne.symm different
    exact acquires_of_other admitted holds sound free stranger ran kept idle visits locks

/-- The call that made a visit is as far as the visit brought it. -/
theorem call_of_visit
    {world next : World}
    {me : ThreadId}
    {event : Event}
    {reply : Reply}
    {handle : HandleId}
    {visit : Visit}
    (visits : world.visit? me event handle = some visit)
    (stepped : world.step? me event = some (next, reply)) :
    ∃ call,
      (next.thread me).call = some call ∧
        call.handle = handle ∧
        call.operation = visit.operation ∧
        call.phase = Phase.ofProgress visit.done.progress := by
  obtain ⟨call, running, here, due, rfl, rfl, rfl⟩ := step?_of_visit stepped visits
  let phase := Phase.ofProgress (world.visitOf me call).done.progress
  refine ⟨{ call with phase }, ?_, here, rfl, rfl⟩
  simp [afterVisit, phase]

end World

/--
The next lock of a thread that left the mutex contested does not acquire it: the
thread gives way, and whoever else attempts a lock meanwhile gets the mutex.
-/
theorem Course.contenders_first
    {handle : HandleId}
    {start : Slot}
    {run : List (ThreadId × Event)}
    {before after : World}
    {me : ThreadId}
    {attempt : Visit}
    {reply : Reply}
    (course : Course handle start run before)
    (shallow : Shallow ((World.opening handle start).history handle run))
    (contested : LeftContested me ((World.opening handle start).history handle run))
    (visits : before.visit? me .proceed handle = some attempt)
    (locks : attempt.operation = .lock)
    (stepped : before.step? me .proceed = some (after, reply)) :
    attempt.deed = .parks ∧
      Branch.fairnessDeferral ∈ attempt.done.branches ∧
      after.GivesWay me handle := by
  obtain ⟨recalls, recalled⟩ := course.recalled
  obtain ⟨settled, record, holds, sound, free, remembers⟩ :=
    contested.remembers course.linked course.unbuilt shallow recalled
  have finds : attempt.slot = .constructed record := by
    rw [World.visit?_slot visits, holds]
  have mine : attempt.thread = me := World.visit?_thread visits
  -- The lock is a new call: the last visit of the thread did not park.
  have fresh : attempt.resumed = false := by
    by_contra resumed
    have parked := recalls.visit visits (by simpa using resumed)
    rw [mine] at parked
    exact settled parked
  have done :
      attempt.done =
        { progress := .parked
          slot := .constructed (record.countWaiter me)
          budget := attempt.budget
          branches := [.fairnessDeferral] } := by
    have defers := remembers.attempt sound.guardLowered free
    simp [Visit.done_of_lock locks finds, Visit.meets, fresh, mine, Slot.attempt, defers,
      Slot.progressOf]
  have cell :
      after.cells.get handle = { slot := .constructed (record.countWaiter me) } := by
    rw [World.step?_cell stepped rfl, visits]
    simp [done]
  obtain ⟨call, running, here, operation, phase⟩ := World.call_of_visit visits stepped
  refine ⟨by simp [Visit.deed, locks, done], by simp [done], ?_⟩
  apply World.givesWay_of_parked (World.step?_admitted stepped course.admitted) cell
    (sound.withWaiters _ _) free remembers.back running here
  · rw [operation, locks]
  · simp [phase, done, Phase.ofProgress]

/--
Thread 1 parks twice while thread 0 holds a mutex that it locks twice; thread 0
unlocks it for good, an unlock of thread 2 is refused, and thread 0 calls for the
mutex again.
-/
def contestedRelock : List (ThreadId × Event) :=
  [(⟨0⟩, .call ⟨0⟩ .lock false), (⟨0⟩, .proceed), (⟨0⟩, .proceed),
    (⟨1⟩, .call ⟨0⟩ .lock false), (⟨1⟩, .proceed), (⟨1⟩, .proceed), (⟨1⟩, .proceed),
    (⟨0⟩, .call ⟨0⟩ .lock false), (⟨0⟩, .proceed), (⟨0⟩, .proceed),
    (⟨0⟩, .call ⟨0⟩ .unlock false), (⟨0⟩, .proceed), (⟨0⟩, .proceed),
    (⟨0⟩, .call ⟨0⟩ .unlock false), (⟨0⟩, .proceed), (⟨0⟩, .proceed),
    (⟨2⟩, .call ⟨0⟩ .unlock false), (⟨2⟩, .proceed),
    (⟨0⟩, .call ⟨0⟩ .lock false)]

theorem contestedRelock_contested :
    LeftContested ⟨0⟩ ((World.opening ⟨0⟩ .sentinel).history ⟨0⟩ contestedRelock) := by
  generalize historyIs :
    (World.opening ⟨0⟩ .sentinel).history ⟨0⟩ contestedRelock = history
  have cut :
      history =
        ([] ++ [history.getD 0 default]) ++
          ((history.drop 1).take 4 ++ history.getD 5 default :: history.drop 6) := by
    rw [← historyIs]
    decide
  rw [cut]
  subst historyIs
  refine .intro ⟨?_, ?_, ?_, ?_, ?_, ?_, ?_, ?_, ?_⟩ ?_ ?_ ?_ <;> decide

theorem Course.contenders_first_contestedRelock :
    ∃ before after attempt reply,
      Course ⟨0⟩ .sentinel contestedRelock before ∧
        Shallow ((World.opening ⟨0⟩ .sentinel).history ⟨0⟩ contestedRelock) ∧
        LeftContested ⟨0⟩ ((World.opening ⟨0⟩ .sentinel).history ⟨0⟩ contestedRelock) ∧
        before.visit? ⟨0⟩ .proceed ⟨0⟩ = some attempt ∧
        attempt.operation = .lock ∧
        before.step? ⟨0⟩ .proceed = some (after, reply) ∧
        attempt.deed = .parks ∧
        after.GivesWay ⟨0⟩ ⟨0⟩ := by
  have course : Course ⟨0⟩ .sentinel contestedRelock _ :=
    Course.of_isSome (by simp) (by decide) (by decide)
  have shallow :
      Shallow ((World.opening ⟨0⟩ .sentinel).history ⟨0⟩ contestedRelock) :=
    .of_length_lt (by decide)
  generalize worldIs :
    (((World.opening ⟨0⟩ .sentinel).run? contestedRelock).get _).1 = before at course
  have arrives :
      (before.visit? ⟨0⟩ .proceed ⟨0⟩).any (fun visit => visit.operation = .lock) = true := by
    rw [← worldIs]
    decide
  have possible : (before.step? ⟨0⟩ .proceed).isSome = true := by
    rw [← worldIs]
    decide
  obtain ⟨attempt, visits, locks⟩ := (Option.any_eq_true _ _).mp arrives
  obtain ⟨⟨after, reply⟩, stepped⟩ := Option.isSome_iff_exists.mp possible
  have locks : attempt.operation = .lock := by
    simpa using locks
  obtain ⟨parks, -, gives⟩ :=
    course.contenders_first shallow contestedRelock_contested visits locks stepped
  exact ⟨before, after, attempt, reply, course, shallow, contestedRelock_contested, visits, locks,
    stepped, parks, gives⟩

end LatchMutex
