import LatchMutex.Proofs.CallsUnderway
import LatchMutex.Proofs.LoneAnswers

namespace LatchMutex

/-!
# Normal mutexes relocked by their owner

A thread that locks a normal mutex of its own parks, comes back and parks again.
Nobody else can let go of the mutex, so as long as the call is not canceled and
the record not renewed, only the bookkeeping of waiters changes, and every other
operation is turned away.
-/

/-- A normal record that a thread holds. -/
structure Record.HeldOnce (record : Record) (me : ThreadId) : Prop where
  normal : record.kind = .normal
  owned : record.owner = some me
  counter : record.lockIndex = 0
  guardLowered : record.tryGuard = 0

/-- What operations come to on a normal mutex whose owner waits for it. -/
inductive Rebuffed (owner : ThreadId) : Operation → Progress → Prop where
  | waits :
      Rebuffed owner .lock .parked
  | declines :
      Rebuffed owner .tryLock (.finished (.error .busy))
  | denies :
      Rebuffed owner .unlock (.finished (.error .permissionDenied))
  | protects :
      Rebuffed owner .destroy (.finished (.error .busy))
  | shows
      {record : Record}
      (held : record.HeldOnce owner) :
      Rebuffed owner .snapshot (.finished (.ok (.seen (.constructed record))))

namespace Record

/-- A settled record of a normal mutex is held once by its owner. -/
theorem Settled.heldOnce
    {record : Record}
    {me : ThreadId}
    (settled : record.Settled)
    (normal : record.kind = .normal)
    (owned : record.owner = some me) :
    record.HeldOnce me where
  normal := normal
  owned := owned
  counter := by
    rw [settled.single (by rw [normal]; rfl), owned]
    rfl
  guardLowered := settled.guardLowered

namespace HeldOnce

variable {record : Record} {me : ThreadId}

theorem held (heldOnce : record.HeldOnce me) : record.lockIndex ≠ unlocked := by
  rw [heldOnce.counter]
  decide

theorem withWaiters
    (heldOnce : record.HeldOnce me)
    (waiters : UInt32)
    (last : Option ThreadId) :
    { record with waiters, lastWaiter := last }.HeldOnce me where
  normal := heldOnce.normal
  owned := heldOnce.owned
  counter := heldOnce.counter
  guardLowered := heldOnce.guardLowered

/-- A normal mutex that is held keeps everybody out, its owner included. -/
theorem barred (heldOnce : record.HeldOnce me) (who : ThreadId) : record.Barred who where
  guardLowered := heldOnce.guardLowered
  held := heldOnce.held
  blocked := by
    intro _
    rw [heldOnce.normal]
    decide

end HeldOnce

end Record

/-- While its owner does nothing but lock, a visit changes a normal mutex in its waiters only. -/
theorem Visit.rebuffed
    {visit : Visit}
    {record : Record}
    {me : ThreadId}
    (admitted : visit.Admitted)
    (finds : visit.slot = .constructed record)
    (heldOnce : record.HeldOnce me)
    (unrenewed : ∀ attributes, visit.operation ≠ .create attributes)
    (onlyLocks : visit.thread = me → visit.operation = .lock) :
    Rebuffed me visit.operation visit.done.progress ∧
      ∃ left, visit.done.slot = .constructed left ∧ left.HeldOnce me := by
  cases operation : visit.operation with
  | create attributes =>
      exact (unrenewed attributes operation).elim
  | lock =>
      obtain ⟨waiters, meets, -⟩ := visit.meets_eq record
      have met : (visit.meets record).HeldOnce me := by
        rw [meets]
        exact heldOnce.withWaiters waiters record.lastWaiter
      rw [done_of_lock operation finds, Slot.attempt, (met.barred visit.thread).attempt]
      exact ⟨.waits, _, rfl, met.withWaiters _ _⟩
  | tryLock =>
      rw [done_of_ne_lock admitted (by simp [operation]), operation, Operation.enter,
        Slot.tryLock, finds, Slot.materialize]
      simp only [Record.tryTake_of_held heldOnce.held]
      exact ⟨.declines, record, rfl, heldOnce⟩
  | unlock =>
      have stranger : record.owner ≠ some visit.thread := by
        rw [heldOnce.owned]
        intro mine
        have locks := onlyLocks (Option.some.inj mine).symm
        simp [operation] at locks
      rw [done_of_ne_lock admitted (by simp [operation]), operation, Operation.enter,
        Operation.plain, finds, Slot.unlock]
      simp only [Record.release_of_stranger stranger]
      exact ⟨.denies, record, rfl, heldOnce⟩
  | destroy =>
      rw [done_of_ne_lock admitted (by simp [operation]), operation, Operation.enter,
        Operation.plain, finds, Slot.destroy]
      simp only [heldOnce.owned, Option.isSome_some, ↓reduceIte]
      exact ⟨.protects, record, rfl, heldOnce⟩
  | snapshot =>
      rw [done_of_ne_lock admitted (by simp [operation]), operation, Operation.enter, finds]
      exact ⟨.shows heldOnce, record, rfl, heldOnce⟩

/-- The owner of a normal mutex waits for it in a lock of its own. -/
structure World.Deadlocked (world : World) (me : ThreadId) (call : Call) : Prop where
  held : ∃ record, world.slot call.handle = .constructed record ∧ record.HeldOnce me
  waits :
    ∃ phase,
      (world.thread me).call = some { call with phase } ∧
        (phase = .arriving ∨ phase = .parked ∨ phase = .yielding)

namespace World.Deadlocked

variable
  {me who : ThreadId} {call : Call} {world next last : World} {event : Event} {reply : Reply}
  {steps : List (ThreadId × Event)} {replies : List Reply}

/-- A section on such a mutex is turned away, and leaves it as it is. -/
theorem rebuffs
    {visit : Visit}
    (deadlocked : world.Deadlocked me call)
    (lock : call.operation = .lock)
    (admitted : world.CallsAdmitted)
    (visits : world.visit? who event call.handle = some visit)
    (unrenewed : ∀ attributes, visit.operation ≠ .create attributes) :
    Rebuffed me visit.operation visit.done.progress ∧
      ∃ left, visit.done.slot = .constructed left ∧ left.HeldOnce me := by
  obtain ⟨record, holds, heldOnce⟩ := deadlocked.held
  obtain ⟨phase, running, -⟩ := deadlocked.waits
  rw [← visit?_slot visits] at holds
  apply Visit.rebuffed (visit?_admitted admitted visits) holds heldOnce unrenewed
  intro mine
  have same := visit?_thread visits
  obtain ⟨-, found, runningToo, -, -, visitIs⟩ := visit?_eq_some_iff.mp visits
  rw [← same, mine] at runningToo
  cases running.symm.trans runningToo
  rw [visitIs]
  exact lock

/-- The owner's own steps bring it back to waiting, unless they cancel it. -/
theorem waits_of_own
    (deadlocked : world.Deadlocked me call)
    (lock : call.operation = .lock)
    (admitted : world.CallsAdmitted)
    (stepped : world.step? me event = some (next, reply))
    (uncanceled : reply ≠ .canceled) :
    ∃ phase,
      (next.thread me).call = some { call with phase } ∧
        (phase = .arriving ∨ phase = .parked ∨ phase = .yielding) := by
  obtain ⟨phase, running, waiting⟩ := deadlocked.waits
  cases (step?_eq_some_iff.mp stepped).2 with
  | idle free =>
      simp [running] at free
  | visits found due unlatched =>
      cases running.symm.trans found
      have visits :
          world.visit? me .proceed call.handle = some (world.visitOf me { call with phase }) :=
        visit?_eq_some_iff.mpr ⟨rfl, _, running, rfl, due, rfl⟩
      have locks : (world.visitOf me { call with phase }).operation = .lock := lock
      obtain ⟨rebuffed, -⟩ :=
        deadlocked.rebuffs lock admitted visits (by simp [locks])
      rw [locks] at rebuffed
      refine ⟨.ofProgress (world.visitOf me { call with phase }).done.progress,
        by simp [afterVisit], ?_⟩
      generalize (world.visitOf me { call with phase }).done.progress = progress at rebuffed
      cases rebuffed
      exact .inr (.inl rfl)
  | yields found parked =>
      cases running.symm.trans found
      simp only [thread_counters, thread_setThread_self]
      rcases Thread.startYield_cases (world.thread me) { call with phase } with
        canceled | yielding
      · exact (uncanceled canceled.1).elim
      · exact ⟨.yielding, yielding.2, .inr (.inr rfl)⟩
  | spins found spinning =>
      cases running.symm.trans found
      cases spinning
      simp at waiting
  | leaves found leaving =>
      cases running.symm.trans found
      cases leaving
      simp at waiting
  | givesUp found arriving single =>
      cases running.symm.trans found
      simp [lock] at single
  | waits found =>
      exact ⟨phase, running, waiting⟩
  | waitsAgain found =>
      cases running.symm.trans found
      exact ⟨phase, by simp [running], waiting⟩

/-- The owner of a normal mutex that gets into a lock on it waits for itself. -/
theorem entered
    {handle : HandleId}
    {start : Slot}
    {past : List (ThreadId × Event)}
    {record : Record}
    {guarded : Bool}
    (course : Course handle start past world)
    (holds : world.slot handle = .constructed record)
    (normal : record.kind = .normal)
    (owned : record.owner = some me)
    (relocks : world.step? me (.call handle .lock guarded) = some (next, reply))
    (running : (next.thread me).call = some call) :
    call.handle = handle ∧ call.operation = .lock ∧ next.Deadlocked me call := by
  cases (step?_eq_some_iff.mp relocks).2 with
  | idle free stepped =>
      cases stepped
      rw [thread_setThread_self, Thread.start_call] at running
      cases running
      refine ⟨rfl, rfl, ⟨record, holds, ?_⟩, ⟨.arriving, by simp, .inl rfl⟩⟩
      exact (course.settled record holds).heldOnce normal owned

theorem step
    (deadlocked : world.Deadlocked me call)
    (lock : call.operation = .lock)
    (admitted : world.CallsAdmitted)
    (stepped : world.step? who event = some (next, reply))
    (kept : event.keeps call.handle = true)
    (unrenewed :
      ∀ visit ∈ (world.visit? who event call.handle).toList,
        ∀ attributes, visit.operation ≠ .create attributes)
    (uncanceled : who = me → reply ≠ .canceled) :
    next.Deadlocked me call ∧
      ∀ visit ∈ (world.visit? who event call.handle).toList,
        Rebuffed me visit.operation visit.done.progress := by
  simp only [Option.mem_toList] at unrenewed ⊢
  have rebuffs (visit : Visit) (visits : world.visit? who event call.handle = some visit) :=
    deadlocked.rebuffs lock admitted visits (unrenewed visit visits)
  refine ⟨⟨?_, ?_⟩, fun visit visits => (rebuffs visit visits).1⟩
  · have slot := step?_slot stepped kept
    cases visits : world.visit? who event call.handle with
    | none =>
        rw [visits] at slot
        rw [slot]
        exact deadlocked.held
    | some visit =>
        rw [visits] at slot
        rw [slot]
        exact (rebuffs visit visits).2
  · by_cases mine : who = me
    · subst mine
      exact deadlocked.waits_of_own lock admitted stepped (uncanceled rfl)
    · rw [step?_call_of_ne stepped (Ne.symm mine)]
      exact deadlocked.waits

/-- Whatever all threads do, the owner goes on waiting, and every section is turned away. -/
theorem run
    (deadlocked : world.Deadlocked me call)
    (lock : call.operation = .lock)
    (admitted : world.CallsAdmitted)
    (ran : world.run? steps = some (last, replies))
    (kept : ∀ step ∈ steps, step.2.keeps call.handle = true)
    (unrenewed :
      ∀ visit ∈ world.history call.handle steps,
        ∀ attributes, visit.operation ≠ .create attributes)
    (uncanceled : ∀ step ∈ steps.zip replies, step.1.1 = me → step.2 ≠ .canceled) :
    last.Deadlocked me call ∧
      ∀ visit ∈ world.history call.handle steps,
        Rebuffed me visit.operation visit.done.progress := by
  induction steps generalizing world replies with
  | nil =>
      cases ran
      exact ⟨deadlocked, by simp [history]⟩
  | cons step rest inductionHypothesis =>
      obtain ⟨who, event⟩ := step
      obtain ⟨next, reply, later, stepped, tail, rfl⟩ := run?_cons.mp ran
      simp only [history, stepped, List.forall_mem_append] at unrenewed ⊢
      rw [List.zip_cons_cons] at uncanceled
      rw [List.forall_mem_cons] at kept uncanceled
      obtain ⟨deadlockedNext, rebuffed⟩ :=
        deadlocked.step lock admitted stepped kept.1 unrenewed.1 uncanceled.1
      obtain ⟨deadlockedLast, rebuffedLater⟩ :=
        inductionHypothesis deadlockedNext (step?_admitted stepped admitted) tail kept.2
          unrenewed.2 uncanceled.2
      exact ⟨deadlockedLast, rebuffed, rebuffedLater⟩

end World.Deadlocked

/-- A call that a thread makes on a handle within a run, and that returns within it. -/
inductive World.ReturnsWithin
    (world : World)
    (handle : HandleId)
    (who : ThreadId)
    (operation : Operation)
    (result : Result) :
    List (ThreadId × Event) → Prop where
  | intro
      {before entered ending ended : World} {replies : List Reply} {event : Event}
      {reply : Reply} {call : Call} {earlier between later : List (ThreadId × Event)}
      (ran : world.run? earlier = some (before, replies))
      (idle : (before.thread who).call = none)
      (stepped : before.step? who event = some (entered, reply))
      (running : (entered.thread who).call = some call)
      (here : call.handle = handle)
      (same : call.operation = operation)
      (continues : entered.Continues who handle between ending)
      (returned : ending.step? who .proceed = some (ended, .returned result)) :
      ReturnsWithin world handle who operation result
        (earlier ++ (who, event) :: between ++ (who, .proceed) :: later)

/-- A call within a run that returns does so with the result of one of its sections, or gave up. -/
theorem World.ReturnsWithin.of_history
    {world : World}
    {handle : HandleId}
    {start : Slot}
    {past run : List (ThreadId × Event)}
    {who : ThreadId}
    {operation : Operation}
    {result : Result}
    (returns : world.ReturnsWithin handle who operation result run)
    (course : Course handle start past world)
    (kept : ∀ step ∈ run, step.2.keeps handle = true) :
    (∃ visit ∈ world.history handle run,
        visit.operation = operation ∧ visit.done.progress = .finished result) ∨
      (operation = .tryLock ∧ result = .error .busy) := by
  cases returns with
  | @intro before entered ending ended replies event reply call earlier between later ran idle
      stepped running here same continues returned =>
      have courseBefore : Course handle start (past ++ earlier) before :=
        course.append ran fun step member => kept step (by simp [member])
      obtain ⟨-, phase, runningThen, reached⟩ :=
        courseBefore.reached idle stepped running here continues
      obtain ⟨leaving, -⟩ := leaving_of_returned runningThen returned
      dsimp only at leaving
      rw [leaving, same] at reached
      generalize visitsAre : entered.visitsOf who handle between = visits at reached
      cases reached with
      | @leaving sections visit result parks sameToo finishes =>
          have own : visit ∈ entered.visitsOf who handle between := by
            simp [visitsAre]
          have between : visit ∈ entered.history handle between :=
            List.mem_of_mem_filter own
          obtain ⟨⟨answers, ranBetween⟩, -⟩ := continues.possible
          left
          refine ⟨visit, ?_, sameToo, finishes⟩
          rw [List.append_assoc, history_append ran, List.cons_append, history, stepped]
          simp only [List.mem_append]
          right
          right
          rw [history_append ranBetween]
          exact List.mem_append_left _ between
      | gaveUp single =>
          exact .inr ⟨single, rfl⟩

/--
The owner of a normal mutex calls lock on it again.  Whatever all threads do then,
as long as that call is not canceled and no create reaches the handle, the latch
is free between the sections, the record is still held once by its owner, whose
call is still waiting, and every section and every call made since is turned away:
a lock only parks.
-/
theorem Course.relocks_for_good
    {handle : HandleId}
    {start : Slot}
    {past run : List (ThreadId × Event)}
    {world entered later : World}
    {record : Record}
    {me : ThreadId}
    {guarded : Bool}
    {reply : Reply}
    {call : Call}
    {replies : List Reply}
    (course : Course handle start past world)
    (holds : world.slot handle = .constructed record)
    (normal : record.kind = .normal)
    (owned : record.owner = some me)
    (relocks : world.step? me (.call handle .lock guarded) = some (entered, reply))
    (running : (entered.thread me).call = some call)
    (ran : entered.run? run = some (later, replies))
    (kept : ∀ step ∈ run, step.2.keeps handle = true)
    (unrenewed :
      ∀ visit ∈ entered.history handle run,
        ∀ attributes, visit.operation ≠ .create attributes)
    (uncanceled : ∀ step ∈ run.zip replies, step.1.1 = me → step.2 ≠ .canceled) :
    (later.cells.get handle).holder = none ∧
      later.Deadlocked me call ∧
      (∀ visit ∈ entered.history handle run,
        Rebuffed me visit.operation visit.done.progress) ∧
      ∀ who operation result,
        entered.ReturnsWithin handle who operation result run →
        Rebuffed me operation (.finished result) := by
  have courseEntered := course.snoc relocks rfl
  have courseLater := courseEntered.append ran kept
  obtain ⟨here, lock, deadlocked⟩ :=
    World.Deadlocked.entered course holds normal owned relocks running
  subst here
  obtain ⟨deadlockedLater, rebuffed⟩ :=
    deadlocked.run lock courseEntered.admitted ran kept unrenewed uncanceled
  refine ⟨courseLater.latch_free, deadlockedLater, rebuffed, ?_⟩
  intro who operation result returns
  rcases returns.of_history courseEntered kept with ⟨visit, member, same, finishes⟩ | gaveUp
  · have fares := rebuffed visit member
    rwa [same, finishes] at fares
  · rw [gaveUp.1, gaveUp.2]
    exact .declines

/-- Thread 0 creates a normal mutex and takes it. -/
def takenNormal : List (ThreadId × Event) :=
  [(⟨0⟩, .call ⟨0⟩ (.create (some { kind := .normal })) false), (⟨0⟩, .proceed),
    (⟨0⟩, .proceed), (⟨0⟩, .call ⟨0⟩ .lock false), (⟨0⟩, .proceed), (⟨0⟩, .proceed)]

/-- The record then. -/
def heldNormal : Record where
  kind := .normal
  sharing := .processPrivate
  lockIndex := 0
  owner := some ⟨0⟩
  lastOwner := some ⟨0⟩

/-- Thread 1 tries every way to get at the mutex while thread 0, asked to cancel, parks twice. -/
def siegeOfOwner : List (ThreadId × Event) :=
  [(⟨0⟩, .proceed),
    (⟨1⟩, .call ⟨0⟩ .tryLock false), (⟨1⟩, .proceed), (⟨1⟩, .proceed),
    (⟨1⟩, .call ⟨0⟩ .unlock false), (⟨1⟩, .proceed), (⟨1⟩, .proceed),
    (⟨1⟩, .call ⟨0⟩ .destroy false), (⟨1⟩, .proceed), (⟨1⟩, .proceed),
    (⟨2⟩, .requestById ⟨0⟩), (⟨0⟩, .proceed), (⟨1⟩, .call ⟨0⟩ .lock false), (⟨1⟩, .proceed),
    (⟨0⟩, .proceed)]

theorem Course.relocks_for_good_siegeOfOwner :
    ∃ world entered later call replies,
      Course ⟨0⟩ .empty takenNormal world ∧
        world.step? ⟨0⟩ (.call ⟨0⟩ .lock false) = some (entered, .silent) ∧
        entered.run? siegeOfOwner = some (later, replies) ∧
        (later.thread ⟨0⟩).call.map Call.phase = some .parked ∧
        later.Deadlocked ⟨0⟩ call := by
  have course : Course ⟨0⟩ .empty takenNormal _ :=
    Course.of_isSome (by simp) (by decide) (by decide)
  generalize worldIs :
    (((World.opening ⟨0⟩ .empty).run? takenNormal).get _).1 = world at course
  have runs :
      ((world.step? ⟨0⟩ (.call ⟨0⟩ .lock false)).any fun entered =>
        entered.2 = .silent ∧
          (entered.1.thread ⟨0⟩).call.isSome ∧
          (entered.1.history ⟨0⟩ siegeOfOwner).map Visit.operation =
            [.lock, .tryLock, .unlock, .destroy, .lock, .lock] ∧
          (entered.1.run? siegeOfOwner).any fun later =>
            (later.1.thread ⟨0⟩).call.map Call.phase = some .parked ∧
              ∀ step ∈ siegeOfOwner.zip later.2,
                step.1.1 = ⟨0⟩ → step.2 ≠ .canceled) = true := by
    rw [← worldIs]
    decide +kernel
  simp only [Option.any_eq_true, decide_eq_true_eq, Prod.exists] at runs
  obtain ⟨entered, _, relocks, rfl, underway, operations, later, replies, ran, parked,
    uncanceled⟩ := runs
  obtain ⟨call, running⟩ := Option.isSome_iff_exists.mp underway
  have unrenewed :
      ∀ visit ∈ entered.history ⟨0⟩ siegeOfOwner,
        ∀ attributes, visit.operation ≠ .create attributes := by
    intro visit member attributes create
    have listed := List.mem_map_of_mem (f := Visit.operation) member
    simp [operations, create] at listed
  have holds : world.slot ⟨0⟩ = .constructed heldNormal := by
    rw [← worldIs]
    decide
  have deadlocked :=
    (course.relocks_for_good holds rfl rfl relocks running ran (by decide) unrenewed
      uncanceled).2.1
  exact ⟨world, entered, later, call, replies, course, relocks, ran, parked, deadlocked⟩

end LatchMutex
