import LatchMutex.Proofs.CallsUnderway
import LatchMutex.Proofs.WaiterCounts

namespace LatchMutex

/-!
# A free mutex can be had

Whatever a free record remembers of earlier owners and waiters, a lock that nobody
else gets in the way of takes it.  At most the lock gives way once: it parks, which
puts it down as the last waiter, and so the next attempt takes the mutex and clears
the count.  `Record.Approach` lists the places of such a lock on its way.
-/

namespace Record

/-- Whether a lock of the thread parks on the free record before it takes it. -/
def GivesWay (record : Record) (me : ThreadId) : Prop :=
  record.lastOwner = some me ∧ 0 < record.waiters ∧ record.lastWaiter ≠ some me

instance (record : Record) (me : ThreadId) : Decidable (record.GivesWay me) :=
  inferInstanceAs (Decidable (_ ∧ _ ∧ _))

/-- The free record once the thread has it: a count that held up its last owner is cleared. -/
def obtained (record : Record) (me : ThreadId) : Record :=
  { record.claim.take me with
    waiters := if record.lastOwner = some me then 0 else record.waiters }

variable {record : Record} {me : ThreadId}

theorem lockIndex_obtained (free : record.lockIndex = unlocked) (me : ThreadId) :
    (record.obtained me).lockIndex = 0 := by
  change record.lockIndex + 1 = 0
  rw [free]
  decide

theorem waiters_obtained (back : record.lastOwner = some me) :
    (record.obtained me).waiters = 0 :=
  if_pos back

/-- A thread that has nobody to give way to takes a free record at once. -/
theorem attempt_of_straight
    (free : record.lockIndex = unlocked)
    (straight : ¬ record.GivesWay me) :
    ∃ branches, record.attempt me = ⟨.acquired, record.obtained me, branches⟩ := by
  by_cases back : record.lastOwner = some me
  · by_cases awaited : 0 < record.waiters
    · have alone : record.lastWaiter = some me := by
        by_contra contended
        exact straight ⟨back, awaited, contended⟩
      exact ⟨[.staleWaiterReset], by simp [attempt, obtained, claim, take, free, back, awaited,
        alone]⟩
    · have none : record.waiters = 0 := by
        grind
      exact ⟨[], by simp [attempt, obtained, claim, take, free, back, none]⟩
  · exact ⟨[], by simp [attempt, obtained, claim, take, free, back]⟩

/-- The last owner gives way to whoever parked since. -/
theorem attempt_of_givesWay
    (free : record.lockIndex = unlocked)
    (gives : record.GivesWay me) :
    record.attempt me = ⟨.parked, record.countWaiter me, [.fairnessDeferral]⟩ := by
  obtain ⟨back, awaited, contended⟩ := gives
  simp [attempt, free, back, awaited, contended]

/-- Once it has given way, a thread has nobody to give way to. -/
theorem attempt_of_gaveWay
    (free : record.lockIndex = unlocked)
    (gives : record.GivesWay me) :
    ∃ branches,
      (record.countWaiter me).leaveWait.attempt me =
        ⟨.acquired, record.obtained me, branches⟩ := by
  obtain ⟨back, awaited, -⟩ := gives
  obtain ⟨waiters, comesBack, -⟩ := record.leaveWait_countWaiter awaited me
  rw [comesBack]
  generalize metIs : { record with waiters, lastWaiter := some me } = met
  have straight : ¬ met.GivesWay me := by
    simp [GivesWay, ← metIs]
  have still : met.lockIndex = unlocked := by
    rw [← metIs, free]
  obtain ⟨branches, attempts⟩ := attempt_of_straight still straight
  refine ⟨branches, ?_⟩
  rw [attempts]
  simp [obtained, claim, take, back, ← metIs]

/--
Where a lock is on its way to a free record that nobody else visits, and what it
has made of the record so far, with its steps and the times that it parked.
-/
inductive Approach (record : Record) (me : ThreadId) : Phase → Slot → Nat → Nat → Prop where
  | arriving :
      Approach record me .arriving (.constructed record) 0 0
  | parked
      (gives : record.GivesWay me) :
      Approach record me .parked (.constructed (record.countWaiter me)) 1 1
  | yielding
      (gives : record.GivesWay me) :
      Approach record me .yielding (.constructed (record.countWaiter me)) 2 1
  | obtains
      (straight : ¬ record.GivesWay me) :
      Approach record me (.leaving (.ok .done)) (.constructed (record.obtained me)) 1 0
  | obtainsLater
      (gives : record.GivesWay me) :
      Approach record me (.leaving (.ok .done)) (.constructed (record.obtained me)) 3 1

namespace Approach

variable {phase : Phase} {slot : Slot} {steps parks : Nat}

/-- The way to a free record is short. -/
theorem bounded (approach : record.Approach me phase slot steps parks) :
    steps ≤ (if record.GivesWay me then 3 else 1) ∧
      parks ≤ (if record.GivesWay me then 1 else 0) := by
  cases approach with
  | arriving =>
      exact ⟨Nat.zero_le _, Nat.zero_le _⟩
  | parked gives | yielding gives | obtainsLater gives =>
      simp [gives]
  | obtains straight =>
      simp [straight]

/-- A lock that is about to leave has the record, after as many yields as it had to give way. -/
theorem of_leaving
    {result : Result}
    (approach : record.Approach me (.leaving result) slot steps parks) :
    result = .ok .done ∧
      slot = .constructed (record.obtained me) ∧
      parks = if record.GivesWay me then 1 else 0 := by
  cases approach with
  | obtains straight =>
      simp [straight]
  | obtainsLater gives =>
      simp [gives]

/-- A section of the lock brings it on its way. -/
theorem visited
    {visit : Visit}
    (free : record.lockIndex = unlocked)
    (approach : record.Approach me phase slot steps parks)
    (due : phase = .arriving ∨ phase = .yielding)
    (mine : visit.thread = me)
    (lock : visit.operation = .lock)
    (resumed : visit.resumed = decide (phase = .yielding))
    (finds : visit.slot = slot) :
    record.Approach me (.ofProgress visit.done.progress) visit.done.slot (steps + 1)
      (parks + visit.parks.toNat) := by
  subst mine
  cases approach with
  | arriving =>
      have meets : visit.meets record = record := by
        simp [Visit.meets, resumed]
      have done := Visit.done_of_lock lock finds
      by_cases gives : record.GivesWay visit.thread
      · rw [meets, Slot.attempt, attempt_of_givesWay free gives] at done
        rw [Visit.parks, done]
        exact .parked gives
      · obtain ⟨branches, attempts⟩ := attempt_of_straight free gives
        rw [meets, Slot.attempt, attempts] at done
        rw [Visit.parks, done]
        exact .obtains gives
  | yielding gives =>
      have meets :
          visit.meets (record.countWaiter visit.thread) =
            (record.countWaiter visit.thread).leaveWait := by
        simp [Visit.meets, resumed]
      obtain ⟨branches, attempts⟩ := attempt_of_gaveWay free gives
      have done := Visit.done_of_lock lock finds
      rw [meets, Slot.attempt, attempts] at done
      rw [Visit.parks, done]
      exact .obtainsLater gives
  | parked | obtains | obtainsLater =>
      simp at due

end Approach

end Record

namespace World

variable
  {me : ThreadId} {handle : HandleId} {record : Record} {world next last : World}
  {event : Event} {reply : Reply} {run : List (ThreadId × Event)} {call : Call}
  {steps parks : Nat}

/-- What a handle holds stays as long as nobody visits it. -/
theorem step?_slot_of_unvisited
    (stepped : world.step? me event = some (next, reply))
    (kept : event.keeps handle = true)
    (unvisited : world.visit? me event handle = none) :
    next.slot handle = world.slot handle := by
  simpa [unvisited] using step?_slot stepped kept

/-- A step of the thread's own brings its lock on its way to a free record. -/
theorem approach_of_own
    (free : record.lockIndex = unlocked)
    (running : (world.thread me).call = some call)
    (here : call.handle = handle)
    (lock : call.operation = .lock)
    (approach : record.Approach me call.phase (world.slot handle) steps parks)
    (stepped : world.step? me event = some (next, reply))
    (underway : (next.thread me).call ≠ none) :
    ∃ phase,
      (next.thread me).call = some { call with phase } ∧
        record.Approach me phase (next.slot handle)
          (steps + (if event = .proceed then 1 else 0))
          (parks + (world.visit? me event handle).toList.countP Visit.parks) := by
  subst here
  cases (step?_eq_some_iff.mp stepped).2 with
  | idle idle =>
      simp [running] at idle
  | visits found due unlatched =>
      cases running.symm.trans found
      have visited : world.visit? me .proceed call.handle = some (world.visitOf me call) :=
        visit?_eq_some_iff.mpr ⟨rfl, call, running, rfl, due, rfl⟩
      have kept : Event.keeps call.handle .proceed = true := rfl
      have mine : (world.visitOf me call).thread = me := rfl
      have slot := step?_slot stepped kept
      rw [visited] at slot ⊢
      refine ⟨.ofProgress (world.visitOf me call).done.progress, by simp [afterVisit], ?_⟩
      rw [slot]
      have once :
          [world.visitOf me call].countP Visit.parks = (world.visitOf me call).parks.toNat := by
        cases parks : (world.visitOf me call).parks <;> simp [parks]
      simpa [once] using approach.visited free due mine lock rfl rfl
  | yields found parked =>
      cases running.symm.trans found
      simp only [thread_counters, thread_setThread_self] at underway ⊢
      rcases Thread.startYield_cases (world.thread me) call with canceled | yielding
      · exact (underway canceled.2).elim
      · refine ⟨.yielding, yielding.2, ?_⟩
        have elsewhere : world.visit? me .proceed call.handle = none := by
          simp [visit?, running, parked]
        rw [step?_slot_of_unvisited stepped rfl elsewhere, elsewhere]
        rw [parked] at approach
        generalize world.slot call.handle = found at approach
        cases approach with
        | parked gives =>
            exact .yielding gives
  | spins found spinning =>
      cases running.symm.trans found
      rw [spinning] at approach
      cases approach
  | leaves found leaving =>
      simp at underway
  | givesUp found arriving single =>
      cases running.symm.trans found
      simp [lock] at single
  | waits found arriving blocking =>
      refine ⟨call.phase, running, ?_⟩
      rw [step?_slot_of_unvisited stepped rfl rfl]
      exact approach
  | waitsAgain found yielding =>
      cases running.symm.trans found
      refine ⟨call.phase, by simp [running], ?_⟩
      rw [step?_slot_of_unvisited stepped rfl rfl]
      exact approach

/-- As long as nobody else visits the handle, a lock is on its way to the free record. -/
theorem Continues.approach
    (continues : world.Continues me handle run last)
    (free : record.lockIndex = unlocked)
    (alone : ∀ visit ∈ world.history handle run, visit.thread = me)
    (running : (world.thread me).call = some call)
    (here : call.handle = handle)
    (lock : call.operation = .lock)
    (approach : record.Approach me call.phase (world.slot handle) steps parks) :
    ∃ phase,
      (last.thread me).call = some { call with phase } ∧
        record.Approach me phase (last.slot handle)
          (steps + run.count (me, .proceed))
          (parks + (world.visitsOf me handle run).countP Visit.parks) := by
  induction continues generalizing call steps parks with
  | nil underway =>
      exact ⟨call.phase, running, approach⟩
  | @cons world next last who event reply rest underway stepped kept later inductionHypothesis =>
      simp only [history, stepped, List.forall_mem_append, Option.mem_toList] at alone
      obtain ⟨mine, aloneLater⟩ := alone
      rw [visitsOf_cons stepped, List.countP_append, List.count_cons]
      by_cases own : who = me
      · subst own
        obtain ⟨phase, runningNext, approachNext⟩ :=
          approach_of_own free running here lock approach stepped later.underway_first
        simpa [Nat.add_assoc, Nat.add_comm, Nat.add_left_comm]
          using inductionHypothesis aloneLater runningNext here lock approachNext
      · have runningNext : (next.thread me).call = some call := by
          rw [step?_call_of_ne stepped (Ne.symm own), running]
        -- Another thread's step on the handle would be a visit of that thread.
        have unvisited : world.visit? who event handle = none := by
          by_contra visited
          obtain ⟨visit, visits⟩ := Option.ne_none_iff_exists'.mp visited
          exact own ((visit?_thread visits).symm.trans (mine visit visits))
        rw [← step?_slot_of_unvisited stepped kept unvisited] at approach
        simpa [own] using inductionHypothesis aloneLater runningNext here lock approach

end World

/-- What holds of a lock on a free record wherever it stands, if nobody else visits the handle. -/
structure World.Obtaining
    (me : ThreadId)
    (handle : HandleId)
    (record : Record)
    (entered : World)
    (run : List (ThreadId × Event))
    (last : World) : Prop where
  goesOn : ∃ next reply, last.step? me .proceed = some (next, reply)
  short : run.count (me, .proceed) ≤ if record.GivesWay me then 3 else 1
  yields :
    (entered.visitsOf me handle run).countP Visit.parks ≤ if record.GivesWay me then 1 else 0
  /-- Unless it is canceled, the lock ends with success, and its last owner finds nobody counted. -/
  ends :
    ∀ event next reply,
      last.step? me event = some (next, reply) →
      (next.thread me).call = none →
      reply = .canceled ∨
        reply = .returned (.ok .done) ∧
          (entered.visitsOf me handle run).countP Visit.parks =
            (if record.GivesWay me then 1 else 0) ∧
          ∃ left,
            next.slot handle = .constructed left ∧
              left.owner = some me ∧
              left.lockIndex = 0 ∧
              (record.lastOwner = some me → left.waiters = 0)

namespace World

variable
  {me : ThreadId} {handle : HandleId} {record : Record} {world entered next last : World}
  {event : Event} {reply : Reply} {run : List (ThreadId × Event)} {call : Call}
  {steps parks : Nat} {phase : Phase} {slot : Slot}

/-- The next step of a lock on its way to a free record is possible. -/
theorem goesOn_of_approach
    (awake : (world.thread me).exited = false)
    (unlatched : (world.cells.get call.handle).holder = none)
    (running : (world.thread me).call = some call)
    (approach : record.Approach me call.phase slot steps parks) :
    ∃ next reply, world.step? me .proceed = some (next, reply) := by
  have possible {next : World} {reply : Reply} (step : world.Stepped me .proceed next reply) :
      ∃ next reply, world.step? me .proceed = some (next, reply) :=
    ⟨next, reply, step?_eq_some_iff.mpr ⟨awake, step⟩⟩
  generalize phaseIs : call.phase = phase at approach
  cases approach with
  | arriving =>
      exact possible (.visits running (.inl phaseIs) unlatched)
  | yielding gives =>
      exact possible (.visits running (.inr phaseIs) unlatched)
  | parked gives =>
      exact possible (.yields running phaseIs)
  | obtains | obtainsLater =>
      exact possible (.leaves running phaseIs)

/-- A step that ends a lock on its way to a free record cancels it, or returns with the record. -/
theorem ends_of_approach
    (running : (world.thread me).call = some call)
    (approach : record.Approach me call.phase (world.slot handle) steps parks)
    (stepped : world.step? me event = some (next, reply))
    (ended : (next.thread me).call = none) :
    reply = .canceled ∨
      reply = .returned (.ok .done) ∧
        parks = (if record.GivesWay me then 1 else 0) ∧
        next.slot handle = .constructed (record.obtained me) := by
  cases (step?_eq_some_iff.mp stepped).2 with
  | idle idle =>
      simp [running] at idle
  | visits =>
      simp [afterVisit] at ended
  | yields found parked =>
      simp only [thread_counters, thread_setThread_self] at ended
      rcases Thread.startYield_cases (world.thread me) _ with canceled | yielding
      · exact .inl canceled.1
      · rw [yielding.2] at ended
        contradiction
  | spins | waits =>
      rw [thread_counters, running] at ended
      contradiction
  | @leaves found result runningToo leaving =>
      cases running.symm.trans runningToo
      have unvisited : world.visit? me .proceed handle = none := by
        simp [visit?, running, leaving]
      rw [leaving] at approach
      obtain ⟨rfl, obtained, yielded⟩ := approach.of_leaving
      rw [step?_slot_of_unvisited stepped rfl unvisited]
      rcases Thread.finish_cases (world.thread me) call (.ok .done) with canceled | returned
      · exact .inl canceled
      · exact .inr ⟨returned, yielded, obtained⟩
  | givesUp =>
      simp at ended
  | waitsAgain found =>
      simp [found] at ended

/-- A lock that runs alone on a free record returns with it. -/
theorem Ready.obtains
    {budget : Budget}
    (ready : world.Ready me handle (.constructed record) budget)
    (free : record.lockIndex = unlocked)
    (guarded : Bool) :
    ∃ after,
      world.Returns me (.call handle .lock guarded) (.ok .done) after ∧
        after.slot handle = .constructed (record.obtained me) := by
  have comes :
      Operation.lock.Comes me (.constructed record) budget (.ok .done)
        (.constructed (record.obtained me)) := by
    by_cases gives : record.GivesWay me
    · obtain ⟨back, awaited, contended⟩ := gives
      have obtained :
          record.obtained me = { record.claim.take me with waiters := 0 } := by
        simp [Record.obtained, back]
      rw [obtained]
      exact Operation.comes_of_deferral
        (Record.attempt_of_givesWay free ⟨back, awaited, contended⟩) free awaited back
    · obtain ⟨branches, attempts⟩ := Record.attempt_of_straight free gives
      exact Operation.comes_of_attempt attempts rfl
  obtain ⟨branches, comes⟩ := comes
  obtain ⟨after, returns, readyAfter⟩ := ready.returns rfl guarded (by rw [comes])
  rw [comes] at readyAfter
  exact ⟨after, returns, by rw [World.slot, readyAfter.cell]⟩

end World

/-- A lock that entered on a free record obtains it while nobody else visits the handle. -/
theorem Course.obtaining
    {handle : HandleId}
    {start : Slot}
    {past run : List (ThreadId × Event)}
    {world entered last : World}
    {me : ThreadId}
    {guarded : Bool}
    {record : Record}
    {reply : Reply}
    (course : Course handle start past world)
    (holds : world.slot handle = .constructed record)
    (free : record.lockIndex = unlocked)
    (idle : (world.thread me).call = none)
    (stepped : world.step? me (.call handle .lock guarded) = some (entered, reply))
    (continues : entered.Continues me handle run last)
    (alone : ∀ visit ∈ entered.history handle run, visit.thread = me) :
    World.Obtaining me handle record entered run last := by
  have awake := (World.step?_eq_some_iff.mp stepped).1
  have enteredIs :
      entered = world.setThread me ((world.thread me).start handle .lock guarded) := by
    have started : world.step? me (.call handle .lock guarded) = _ :=
      World.step?_eq_some_iff.mpr ⟨awake, .idle idle rfl⟩
    rw [started] at stepped
    cases stepped
    rfl
  have first :
      (entered.thread me).call =
        some
          { handle, operation := .lock, guarded
            previous := (world.thread me).cancel.type
            phase := .arriving } := by
    rw [enteredIs, World.thread_setThread_self, Thread.start_call]
  have starts : record.Approach me .arriving (entered.slot handle) 0 0 := by
    rw [World.step?_slot_of_unvisited stepped rfl rfl, holds]
    exact .arriving
  obtain ⟨phase, runningLast, approach⟩ := continues.approach free alone first rfl rfl starts
  rw [Nat.zero_add, Nat.zero_add] at approach
  obtain ⟨short, yields⟩ := approach.bounded
  refine ⟨?_, short, yields, ?_⟩
  · have courseLast := (course.snoc stepped rfl).continues continues
    have sustains := continues.sustains (course.snoc stepped rfl).registers
      (by rw [enteredIs]; simpa [Thread.start] using awake)
      (by rw [enteredIs]; simp [Thread.start])
    have awakeLast : (last.thread me).exited = false := by
      rw [sustains.awake, enteredIs]
      simpa [Thread.start] using awake
    exact World.goesOn_of_approach awakeLast courseLast.latch_free runningLast approach
  · intro event next reply stepped ended
    rcases World.ends_of_approach runningLast approach stepped ended with
      canceled | ⟨returned, yielded, obtained⟩
    · exact .inl canceled
    · exact .inr ⟨returned, yielded, _, obtained, rfl, Record.lockIndex_obtained free me,
        Record.waiters_obtained⟩

/--
A free mutex can be had, whatever its record remembers.  A lock that runs alone
returns with success, unless a cancellation is due.  And as long as nobody else
visits the handle, whatever all threads do otherwise, the lock can go on, is done
after at most three steps before its last, and returns with the mutex, after one
yield exactly if it had to give way, or is canceled.
-/
theorem Course.free_mutex_obtained
    {handle : HandleId}
    {start : Slot}
    {past : List (ThreadId × Event)}
    {world entered : World}
    {me : ThreadId}
    {guarded : Bool}
    {record : Record}
    {reply : Reply}
    (course : Course handle start past world)
    (holds : world.slot handle = .constructed record)
    (free : record.lockIndex = unlocked)
    (stepped : world.step? me (.call handle .lock guarded) = some (entered, reply)) :
    ((world.thread me).cancel.isDeliverable = false →
        ∃ after,
          world.Returns me (.call handle .lock guarded) (.ok .done) after ∧
            after.slot handle = .constructed (record.obtained me)) ∧
      ∀ run last,
        entered.Continues me handle run last →
        (∀ visit ∈ entered.history handle run, visit.thread = me) →
        World.Obtaining me handle record entered run last := by
  obtain ⟨awake, step⟩ := World.step?_eq_some_iff.mp stepped
  have idle : (world.thread me).call = none := by
    cases step with
    | idle idle =>
        exact idle
  constructor
  · intro quiet
    have cell : world.cells.get handle = { slot := .constructed record } := by
      have unlatched := course.latch_free
      rw [World.slot] at holds
      rw [← holds, ← unlatched]
    have ready : world.Ready me handle (.constructed record) (world.thread me).budget :=
      ⟨awake, idle, quiet, rfl, cell⟩
    exact ready.obtains free guarded
  · intro run last continues alone
    exact course.obtaining holds free idle stepped continues alone

/--
Thread 1 parks while thread 0 holds a mutex, and is canceled as its yield starts;
thread 0 unlocks the mutex, which still counts a waiter.
-/
def abandonedWait : List (ThreadId × Event) :=
  [(⟨1⟩, .setType .asynchronous),
    (⟨0⟩, .call ⟨0⟩ .lock false), (⟨0⟩, .proceed), (⟨0⟩, .proceed),
    (⟨1⟩, .call ⟨0⟩ .lock false), (⟨1⟩, .proceed), (⟨0⟩, .requestById ⟨1⟩), (⟨1⟩, .proceed),
    (⟨0⟩, .call ⟨0⟩ .unlock false), (⟨0⟩, .proceed), (⟨0⟩, .proceed)]

/-- Thread 0 gives way to nobody and takes the mutex, up to the end of its scope. -/
def relockAfterAbandonedWait : List (ThreadId × Event) :=
  [(⟨0⟩, .proceed), (⟨2⟩, .touch), (⟨0⟩, .proceed), (⟨2⟩, .call ⟨1⟩ .lock false), (⟨0⟩, .proceed)]

theorem Course.free_mutex_obtained_abandonedWait :
    ∃ world record entered last next left,
      Course ⟨0⟩ .sentinel abandonedWait world ∧
        world.slot ⟨0⟩ = .constructed record ∧
        record.lockIndex = unlocked ∧
        world.step? ⟨0⟩ (.call ⟨0⟩ .lock false) = some (entered, .silent) ∧
        entered.Continues ⟨0⟩ ⟨0⟩ relockAfterAbandonedWait last ∧
        (entered.visitsOf ⟨0⟩ ⟨0⟩ relockAfterAbandonedWait).countP Visit.parks = 1 ∧
        last.step? ⟨0⟩ .proceed = some (next, .returned (.ok .done)) ∧
        next.slot ⟨0⟩ = .constructed left ∧
        left.owner = some ⟨0⟩ ∧
        left.lockIndex = 0 ∧
        left.waiters = 0 := by
  have course : Course ⟨0⟩ .sentinel abandonedWait _ :=
    Course.of_isSome (by simp) (by decide) (by decide)
  generalize worldIs :
    (((World.opening ⟨0⟩ .sentinel).run? abandonedWait).get _).1 = world at course
  let record : Record :=
    { kind := .recursive
      sharing := .processPrivate
      waiters := 1
      lastOwner := some ⟨0⟩
      lastWaiter := some ⟨1⟩ }
  have holds : world.slot ⟨0⟩ = .constructed record := by
    rw [← worldIs]
    decide
  have runs :
      (world.step? ⟨0⟩ (.call ⟨0⟩ .lock false)).any (fun entry =>
        entry.2 = .silent ∧
          (entry.1.history ⟨0⟩ relockAfterAbandonedWait).all (·.thread = ⟨0⟩) ∧
          (entry.1.run? relockAfterAbandonedWait).any fun result =>
            (result.1.thread ⟨0⟩).call ≠ none ∧
              (result.1.step? ⟨0⟩ .proceed).any fun exit =>
                exit.2 = .returned (.ok .done) ∧ (exit.1.thread ⟨0⟩).call = none) = true := by
    rw [← worldIs]
    decide
  simp only [Option.any_eq_true, decide_eq_true_eq, Prod.exists, List.all_eq_true] at runs
  obtain ⟨entered, _, stepped, rfl, alone, last, replies, ran, underway, next, _, returned, rfl,
    ended⟩ := runs
  have continues : entered.Continues ⟨0⟩ ⟨0⟩ relockAfterAbandonedWait last :=
    .of_run? ran (by decide) (by decide) underway
  have obtaining := (course.free_mutex_obtained holds rfl stepped).2 _ _ continues alone
  rcases obtaining.ends .proceed next _ returned ended with
    canceled | ⟨-, yielded, left, obtained, owned, single, cleared⟩
  · contradiction
  · exact ⟨world, record, entered, last, next, left, course, holds, rfl, stepped, continues,
      yielded, returned, obtained, owned, single, cleared rfl⟩

end LatchMutex
