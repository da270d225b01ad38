import LatchMutex.Proofs.CallsUnderway
import LatchMutex.Proofs.LoneAnswers
import LatchMutex.Proofs.WaiterCounts

namespace LatchMutex

/-!
# Retries behind a held mutex are idle

A thread in the wait loop retries: it counts itself out, makes an attempt and, if
it loses, counts itself in again.  Behind a held mutex it loses, whoever it is: a
thread never waits for a mutex that it could relock or that would refuse it.  So
a retry leaves the record as it is, with somebody counted and with the last
thread on record as the last waiter, and what many retries leave is what their
last one leaves.
-/

namespace Record

/-- One turn of the wait loop by a thread that loses it; nothing if it does not lose. -/
def lostTurn? (record : Record) (me : ThreadId) : Option Record :=
  let turn := record.leaveWait.attempt me
  if turn.decision = .parked then some turn.record else none

/-- Turns of the wait loop, one after the other, by threads that all lose theirs. -/
def lostTurns? : Record → List ThreadId → Option Record
  | record, [] => some record
  | record, me :: rest => (record.lostTurn? me).bind fun left => left.lostTurns? rest

/-- The record after a lost turn of the wait loop: somebody is counted. -/
def retriedBy (record : Record) (me : ThreadId) : Record :=
  { record with waiters := max record.waiters 1, lastWaiter := some me }

variable {record : Record} {me : ThreadId}

/-- The greater of a count and one is the count, unless nobody is counted. -/
theorem max_one_of_counted {waiters : UInt32} (counted : waiters ≠ 0) :
    max waiters 1 = waiters := by
  have least : 1 ≤ waiters := by
    grind
  change (if waiters ≤ 1 then 1 else waiters) = waiters
  split
  · rename_i most
    exact UInt32.le_antisymm least most
  · rfl

theorem max_one_ne_zero (waiters : UInt32) : max waiters 1 ≠ 0 := by
  change (if waiters ≤ 1 then 1 else waiters) ≠ 0
  grind

/-- Out of the count and into it again; only who found nobody counted makes a difference. -/
theorem countWaiter_leaveWait (record : Record) (me : ThreadId) :
    record.leaveWait.countWaiter me = record.retriedBy me := by
  unfold leaveWait countWaiter retriedBy
  split
  · rename_i uncounted
    rw [uncounted]
    rfl
  · rename_i counted
    have room : record.waiters - 1 ≠ -1 := by
      grind
    simp [room, max_one_of_counted counted]

theorem retriedBy_retriedBy (record : Record) (first last : ThreadId) :
    (record.retriedBy first).retriedBy last = record.retriedBy last := by
  simp [retriedBy, max_one_of_counted (max_one_ne_zero record.waiters)]

theorem Barred.leaveWait (barred : record.Barred me) : record.leaveWait.Barred me := by
  obtain ⟨waiters, left⟩ := record.leaveWait_eq
  rw [left]
  exact barred.withWaiters waiters record.lastWaiter

theorem Barred.retriedBy (barred : record.Barred me) (other : ThreadId) :
    (record.retriedBy other).Barred me :=
  barred.withWaiters _ _

/-- Whoever is kept out loses its turn. -/
theorem Barred.attempt_leaveWait (barred : record.Barred me) :
    record.leaveWait.attempt me = ⟨.parked, record.retriedBy me, []⟩ := by
  rw [barred.leaveWait.attempt, countWaiter_leaveWait]

theorem Barred.lostTurn?_eq (barred : record.Barred me) :
    record.lostTurn? me = some (record.retriedBy me) := by
  simp [lostTurn?, barred.attempt_leaveWait]

/-- Of the turns of threads that are kept out only the last one shows. -/
theorem lostTurns?_of_barred
    {earlier : List ThreadId}
    {final : ThreadId}
    (barred : ∀ thread ∈ earlier ++ [final], record.Barred thread) :
    record.lostTurns? (earlier ++ [final]) = some (record.retriedBy final) := by
  induction earlier generalizing record with
  | nil =>
      simp [lostTurns?, (barred final (by simp)).lostTurn?_eq]
  | cons thread rest inductionHypothesis =>
      rw [List.cons_append, List.forall_mem_cons] at barred
      have later : ∀ other ∈ rest ++ [final], (record.retriedBy thread).Barred other :=
        fun other member => (barred.2 other member).retriedBy thread
      simp [lostTurns?, barred.1.lostTurn?_eq, inductionHypothesis later, retriedBy_retriedBy]

end Record

/-- Whoever waits for the mutex while it is held is kept out. -/
def World.KeepsOut (world : World) (handle : HandleId) : Prop :=
  ∀ thread record,
    world.isWaiting handle thread = true →
    world.slot handle = .constructed record →
    record.lockIndex ≠ unlocked →
    record.Barred thread

namespace Visit

variable {visit : Visit} {left : Record} {thread : ThreadId}

/-- A lock that parks on a held mutex is kept out. -/
theorem barred_of_parks
    (admitted : visit.Admitted)
    (settled : visit.slot.Settled)
    (parks : visit.parks = true)
    (leavesRecord : visit.done.slot = .constructed left)
    (held : left.lockIndex ≠ unlocked) :
    left.Barred visit.thread := by
  have parked : visit.done.progress = .parked := by
    simpa [Visit.parks] using parks
  have leaves := leaves_of_lowered admitted settled.lowered
  rw [(deed_eq_parks_iff admitted).mpr parked, leavesRecord] at leaves
  generalize finalIs : Slot.constructed left = final at leaves
  cases leaves with
  | @parks record finds lock =>
      cases finalIs
      obtain ⟨waiters, meets, -⟩ := visit.meets_eq record
      have lowered : (visit.meets record).tryGuard = 0 := by
        rw [meets]
        exact (settled record finds).guardLowered
      have attempted := (visit.meets record).attempt_cases lowered visit.thread
      generalize attempts : (visit.meets record).attempt visit.thread = turn at attempted
      rw [done_of_lock lock finds, Slot.attempt, attempts] at parked
      cases attempted with
      | takes | resets | relocks | refuses =>
          contradiction
      | defers free =>
          -- It gave way on a free mutex, which it left free.
          exact (held free).elim
      | waits blocking blocked =>
          exact ⟨lowered, blocking, blocked⟩

/-- A thread that is kept out stays so while others visit, as long as the mutex is held. -/
theorem barred_done
    (admitted : visit.Admitted)
    (settled : visit.slot.Settled)
    (other : visit.thread ≠ thread)
    (barred :
      ∀ record,
        visit.slot = .constructed record → record.lockIndex ≠ unlocked → record.Barred thread)
    (leavesRecord : visit.done.slot = .constructed left)
    (held : left.lockIndex ≠ unlocked) :
    left.Barred thread where
  guardLowered := (done_settled admitted settled left leavesRecord).guardLowered
  held := held
  blocked owned := by
    obtain ⟨record, finds, ownedBefore, kind, lockIndex⟩ :=
      owner_of_done admitted settled.lowered leavesRecord owned other
    rw [← kind]
    exact (barred record finds (by rwa [lockIndex])).blocked ownedBefore

end Visit

namespace World

variable
  {me : ThreadId} {handle : HandleId} {world next : World} {event : Event} {reply : Reply}

/-- A step keeps everybody out that waits for a held mutex. -/
theorem KeepsOut.step
    (keepsOut : world.KeepsOut handle)
    (stepped : world.step? me event = some (next, reply))
    (kept : event.keeps handle = true)
    (settled :
      ∀ visit, world.visit? me event handle = some visit → visit.Admitted ∧ visit.slot.Settled) :
    next.KeepsOut handle := by
  have slot := step?_slot stepped kept
  intro thread left waiting holds held
  cases visits : world.visit? me event handle with
  | none =>
      simp only [visits] at slot
      rw [slot] at holds
      exact keepsOut thread left (isWaiting_of_later stepped visits waiting) holds held
  | some visit =>
      simp only [visits] at slot
      rw [slot] at holds
      obtain ⟨admitted, settledSlot⟩ := settled visit visits
      have mine := visit?_thread visits
      by_cases own : thread = me
      · subst own
        have parks := (isWaiting_of_visit stepped visits).2.1
        rw [← mine]
        exact visit.barred_of_parks admitted settledSlot (parks.symm.trans waiting) holds held
      · have waited : world.isWaiting handle thread = true := by
          rw [isWaiting, ← step?_call_of_ne stepped own]
          exact waiting
        refine visit.barred_done admitted settledSlot (by rw [mine]; exact Ne.symm own) ?_ holds
          held
        intro record finds heldBefore
        rw [visit?_slot visits] at finds
        exact keepsOut thread record waited finds heldBefore

end World

namespace Course

variable
  {handle : HandleId} {start : Slot} {run : List (ThreadId × Event)} {world : World}
  {record : Record}

/-- After every course whoever waits for the mutex while it is held is kept out. -/
theorem keepsOut (course : Course handle start run world) : world.KeepsOut handle := by
  induction run using List.reverseRecOn generalizing world with
  | nil =>
      obtain ⟨replies, ran⟩ := course.ran
      cases ran
      intro thread record waiting
      contradiction
  | append_singleton earlier step inductionHypothesis =>
      obtain ⟨me, event⟩ := step
      obtain ⟨replies, ran⟩ := course.ran
      obtain ⟨before, first, _, ranBefore, last, rfl⟩ := World.run?_append.mp ran
      obtain ⟨next, reply, _, stepped, done, rfl⟩ := World.run?_cons.mp last
      cases done
      obtain ⟨keptBefore, kept⟩ := List.forall_mem_append.mp course.kept
      have courseBefore : Course handle start earlier before :=
        ⟨course.unbuilt, keptBefore, first, ranBefore⟩
      exact (inductionHypothesis courseBefore).step stepped (kept _ List.mem_cons_self)
        fun visit visits => courseBefore.visit_settled visits

/-- A lock that comes back to a held mutex loses its turn. -/
theorem done_of_resumed
    {me : ThreadId}
    {event : Event}
    {visit : Visit}
    (course : Course handle start run world)
    (holds : world.slot handle = .constructed record)
    (held : record.lockIndex ≠ unlocked)
    (waiting : world.isWaiting handle me = true)
    (visits : world.visit? me event handle = some visit)
    (resumed : visit.resumed = true) :
    visit.done.progress = .parked ∧ visit.done.slot = .constructed (record.retriedBy me) := by
  have barred := course.keepsOut me record waiting holds held
  rw [← World.visit?_slot visits] at holds
  have mine := World.visit?_thread visits
  simp [Visit.done, resumed, holds, mine, Slot.resume, Slot.attempt, barred.attempt_leaveWait,
    Slot.progressOf]

/-- A run in which nobody but waiting threads gets the latch of a held mutex only retries. -/
theorem retries_run
    {later : List (ThreadId × Event)}
    {last : World}
    {replies : List Reply}
    (course : Course handle start run world)
    (holds : world.slot handle = .constructed record)
    (held : record.lockIndex ≠ unlocked)
    (ran : world.run? later = some (last, replies))
    (kept : ∀ step ∈ later, step.2.keeps handle = true)
    (resumed : ∀ visit ∈ world.history handle later, visit.resumed = true) :
    (∀ visit ∈ world.history handle later,
        world.isWaiting handle visit.thread = true ∧ visit.done.progress = .parked) ∧
      ∃ left,
        last.slot handle = .constructed left ∧
          record.lostTurns? ((world.history handle later).map Visit.thread) = some left := by
  induction later generalizing run world record replies with
  | nil =>
      cases ran
      exact ⟨by simp [World.history], record, holds, rfl⟩
  | cons step rest inductionHypothesis =>
      obtain ⟨me, event⟩ := step
      obtain ⟨next, reply, _, stepped, tail, rfl⟩ := World.run?_cons.mp ran
      rw [List.forall_mem_cons] at kept
      have courseNext := course.snoc stepped kept.1
      have slot := World.step?_slot stepped kept.1
      simp only [World.history, stepped, List.mem_append, Option.mem_toList] at resumed ⊢
      have resumedLater := fun visit member => resumed visit (.inr member)
      cases visits : world.visit? me event handle with
      | none =>
          simp only [visits] at slot
          obtain ⟨lost, left, holdsLast, retries⟩ :=
            inductionHypothesis courseNext (slot.trans holds) held tail kept.2 resumedLater
          refine ⟨?_, left, holdsLast, by simpa using retries⟩
          intro visit member
          have member : visit ∈ next.history handle rest := by simpa using member
          obtain ⟨waiting, parked⟩ := lost visit member
          exact ⟨World.isWaiting_of_later stepped visits waiting, parked⟩
      | some visit =>
          simp only [visits] at slot
          have waits : world.isWaiting handle me = true := by
            rw [(World.isWaiting_of_visit stepped visits).1, resumed visit (.inl visits)]
          obtain ⟨parked, leaves⟩ :=
            course.done_of_resumed holds held waits visits (resumed visit (.inl visits))
          obtain ⟨lost, left, holdsLast, retries⟩ :=
            inductionHypothesis courseNext (slot.trans leaves) held tail kept.2 resumedLater
          have barred := course.keepsOut me record waits holds held
          have mine := World.visit?_thread visits
          refine ⟨?_, left, holdsLast, ?_⟩
          · rintro other (here | member)
            · cases here
              exact ⟨by rw [mine]; exact waits, parked⟩
            · obtain ⟨waiting, parked⟩ := lost other member
              refine ⟨?_, parked⟩
              by_cases own : other.thread = me
              · rw [own]
                exact waits
              · rw [World.isWaiting, ← World.step?_call_of_ne stepped own]
                exact waiting
          · simpa [Record.lostTurns?, mine, barred.lostTurn?_eq] using retries

/--
A mutex is held after a course.  Whichever threads then take turns of its wait
loop, in any order and as often as they like, if they wait for it: each loses its
turn, and the record they leave is the one they found, with at least one waiter
counted and with the thread of the last turn as the last waiter, so that to
repeat that turn changes nothing.  And these turns are what a run comes to in
which only waiting threads get the latch: every section of it loses a turn of a
thread that was waiting, and it leaves the record that these turns leave.
-/
theorem retries_idle
    (course : Course handle start run world)
    (holds : world.slot handle = .constructed record)
    (held : record.lockIndex ≠ unlocked) :
    (∀ earlier final,
        (∀ thread ∈ earlier ++ [final], world.isWaiting handle thread = true) →
        record.lostTurns? (earlier ++ [final]) =
            some { record with waiters := max record.waiters 1, lastWaiter := some final } ∧
          record.lostTurns? (earlier ++ [final, final]) =
            record.lostTurns? (earlier ++ [final])) ∧
      ∀ later last replies,
        world.run? later = some (last, replies) →
        (∀ step ∈ later, step.2.keeps handle = true) →
        (∀ visit ∈ world.history handle later, visit.resumed = true) →
        (∀ visit ∈ world.history handle later,
            world.isWaiting handle visit.thread = true ∧ visit.done.progress = .parked) ∧
          ∃ left,
            last.slot handle = .constructed left ∧
              record.lostTurns? ((world.history handle later).map Visit.thread) = some left := by
  constructor
  · intro earlier final waiting
    have barred : ∀ thread ∈ earlier ++ [final], record.Barred thread :=
      fun thread member => course.keepsOut thread record (waiting thread member) holds held
    have once := Record.lostTurns?_of_barred barred
    have twice :
        record.lostTurns? (earlier ++ [final] ++ [final]) = some (record.retriedBy final) := by
      apply Record.lostTurns?_of_barred
      intro thread member
      exact barred thread (by simpa using member)
    refine ⟨once, ?_⟩
    rw [once, ← twice, List.append_assoc, List.singleton_append]
  · intro later last replies ran kept resumed
    exact course.retries_run holds held ran kept resumed

/--
Threads 1 and 2 park behind thread 0, which unlocks, gives way at its next lock,
and comes back first.  Having waited last, it takes the count for stale.
-/
def forgottenWaiters : List (ThreadId × Event) :=
  [(⟨0⟩, .call ⟨0⟩ .lock false), (⟨0⟩, .proceed), (⟨0⟩, .proceed),
    (⟨1⟩, .call ⟨0⟩ .lock false), (⟨1⟩, .proceed),
    (⟨2⟩, .call ⟨0⟩ .lock false), (⟨2⟩, .proceed),
    (⟨0⟩, .call ⟨0⟩ .unlock false), (⟨0⟩, .proceed), (⟨0⟩, .proceed),
    (⟨0⟩, .call ⟨0⟩ .lock false), (⟨0⟩, .proceed), (⟨0⟩, .proceed), (⟨0⟩, .proceed)]

/-- The record then: held by thread 0, with nobody counted. -/
def unattended : Record where
  kind := .recursive
  sharing := .processPrivate
  lockIndex := 0
  owner := some ⟨0⟩
  lastOwner := some ⟨0⟩

/-- Thread 2 comes back once, and then thread 1 twice. -/
def threeRetries : List (ThreadId × Event) :=
  [(⟨1⟩, .proceed), (⟨2⟩, .proceed), (⟨2⟩, .proceed), (⟨1⟩, .proceed), (⟨1⟩, .proceed),
    (⟨1⟩, .proceed)]

theorem retries_idle_forgottenWaiters :
    ∃ world last replies left,
      Course ⟨0⟩ .sentinel forgottenWaiters world ∧
        world.slot ⟨0⟩ = .constructed unattended ∧
        unattended.lockIndex ≠ unlocked ∧
        unattended.lostTurns? [⟨2⟩, ⟨1⟩] =
          some { unattended with waiters := max 0 1, lastWaiter := some ⟨1⟩ } ∧
        unattended.lostTurns? [⟨2⟩, ⟨1⟩, ⟨1⟩] = unattended.lostTurns? [⟨2⟩, ⟨1⟩] ∧
        world.run? threeRetries = some (last, replies) ∧
        (world.history ⟨0⟩ threeRetries).map Visit.thread = [⟨2⟩, ⟨1⟩, ⟨1⟩] ∧
        last.slot ⟨0⟩ = .constructed left ∧
        unattended.lostTurns? [⟨2⟩, ⟨1⟩, ⟨1⟩] = some left := by
  have course : Course ⟨0⟩ .sentinel forgottenWaiters _ :=
    Course.of_isSome (by simp) (by decide) (by decide)
  generalize worldIs :
    (((World.opening ⟨0⟩ .sentinel).run? forgottenWaiters).get _).1 = world at course
  have holds : world.slot ⟨0⟩ = .constructed unattended := by
    rw [← worldIs]
    decide
  have waiting : ∀ thread ∈ [⟨2⟩] ++ [⟨1⟩], world.isWaiting ⟨0⟩ thread = true := by
    rw [← worldIs]
    decide
  have possible : (world.run? threeRetries).isSome = true := by
    rw [← worldIs]
    decide
  have resumed : ∀ visit ∈ world.history ⟨0⟩ threeRetries, visit.resumed = true := by
    rw [← worldIs]
    decide
  have threads : (world.history ⟨0⟩ threeRetries).map Visit.thread = [⟨2⟩, ⟨1⟩, ⟨1⟩] := by
    rw [← worldIs]
    decide
  obtain ⟨⟨last, replies⟩, ran⟩ := Option.isSome_iff_exists.mp possible
  obtain ⟨turns, runs⟩ := course.retries_idle holds (by decide)
  obtain ⟨once, again⟩ := turns [⟨2⟩] ⟨1⟩ waiting
  obtain ⟨-, left, leaves, retries⟩ := runs threeRetries last replies ran (by decide) resumed
  rw [threads] at retries
  exact ⟨world, last, replies, left, course, holds, by decide, once, again, ran, threads, leaves,
    retries⟩

end Course

end LatchMutex
