import LatchMutex.Proofs.ContestedTenures
import LatchMutex.Proofs.SettledRecords

namespace LatchMutex

/-!
# What the sections of a run count

A run goes through sections on many handles, and the history of one handle is the
part of `World.sections` that is run on it.  `Visit.Counted` lists what a section
counts.  No section counts a branch twice.  The latch counts outside the sections, and
so does the wait loop, which counts a trip once it has let go of the latch.  All other
branches are counted by sections alone, so that their counters read the number of
sections that took them.
-/

/-- Whether the slot holds a record. -/
def Slot.isBuilt : Slot → Bool
  | .constructed _ => true
  | .empty | .sentinel => false

/-- Whether the branch is counted under the latch, and not by the latch or the wait loop. -/
def Branch.isOfSection : Branch → Bool
  | .slotContended | .slotTryFailed | .waitYield => false
  | _ => true

namespace Visit

/-- Whether the section takes a branch. -/
def takesBranch (branch : Branch) (visit : Visit) : Bool :=
  branch ∈ visit.done.branches

/-- Whether a lock or a try-lock turns the sentinel that it finds into a record. -/
def builds (visit : Visit) : Bool :=
  visit.slot = .sentinel ∧ visit.done.slot.isBuilt ∧
    (visit.operation = .lock ∨ visit.operation = .tryLock)

/-- Whether a lock comes to a deadlock. -/
def isRefused (visit : Visit) : Bool :=
  visit.operation = .lock ∧ visit.done.progress = .finished (.error .deadlock)

/-- What a section counts, by what it comes to. -/
inductive Counted (visit : Visit) : List Branch → Prop where
  | nothing
      (unbuilt : visit.builds = false)
      (settled : visit.done.progress ≠ .parked)
      (granted : visit.done.progress ≠ .finished (.error .deadlock)) :
      Counted visit []
  | builds
      (builds : visit.builds = true)
      (taken : visit.done.progress = .finished (.ok .done)) :
      Counted visit [.lazyInit]
  | resets
      {record : Record}
      (finds : visit.slot = .constructed record)
      (taken : visit.done.progress = .finished (.ok .done)) :
      Counted visit [.staleWaiterReset]
  | defers
      {record : Record}
      (finds : visit.slot = .constructed record)
      (free : record.lockIndex = unlocked)
      (parked : visit.done.progress = .parked) :
      Counted visit [.fairnessDeferral]
  | waits
      {record : Record}
      (finds : visit.slot = .constructed record)
      (held : record.lockIndex ≠ unlocked)
      (parked : visit.done.progress = .parked) :
      Counted visit []
  | refuses
      {record : Record}
      (lock : visit.operation = .lock)
      (finds : visit.slot = .constructed record)
      (refused : visit.done.progress = .finished (.error .deadlock)) :
      Counted visit [.deadlockReported]

/-- A section that finds no sentinel builds none. -/
theorem builds_of_ne_sentinel
    {visit : Visit}
    (found : visit.slot ≠ .sentinel) :
    visit.builds = false := by
  simp [Visit.builds, found]

/-- A lock on a record counts by what its attempt comes to. -/
theorem counted_of_attempt
    {visit : Visit}
    {record : Record}
    (lock : visit.operation = .lock)
    (finds : visit.slot = .constructed record)
    (lowered : record.tryGuard = 0) :
    visit.Counted visit.done.branches := by
  obtain ⟨waiters, meets, -⟩ := visit.meets_eq record
  have done := done_of_lock lock finds
  have attempted :=
    (visit.meets record).attempt_cases (by rw [meets]; exact lowered) visit.thread
  generalize turnIs : (visit.meets record).attempt visit.thread = turn at attempted
  rw [Slot.attempt, turnIs] at done
  rw [meets] at attempted
  have unbuilt : visit.builds = false := builds_of_ne_sentinel (by simp [finds])
  have branches : visit.done.branches = turn.branches := by
    simp [done]
  have progress : visit.done.progress = Slot.progressOf turn.decision := by
    rw [done]
  rw [branches]
  cases attempted with
  | takes | relocks =>
      exact .nothing unbuilt (by simp [progress, Slot.progressOf])
        (by simp [progress, Slot.progressOf])
  | resets =>
      exact .resets finds progress
  | defers free =>
      exact .defers finds free progress
  | refuses =>
      exact .refuses lock finds progress
  | waits held =>
      exact .waits finds held progress

/-- A section that ends in another way than with a record counts nothing. -/
theorem counted_of_unmoved
    {visit : Visit}
    {result : Result}
    (silent : visit.done.branches = [])
    (finished : visit.done.progress = .finished result)
    (granted : result ≠ .error .deadlock)
    (unbuilt : visit.builds = false) :
    visit.Counted visit.done.branches := by
  rw [silent]
  exact .nothing unbuilt (by simp [finished]) (by simpa [finished] using granted)

/-- A lock counts the record that it builds, or what its attempt comes to. -/
theorem counted_of_lock
    {visit : Visit}
    (lock : visit.operation = .lock)
    (lowered : visit.slot.Lowered) :
    visit.Counted visit.done.branches := by
  cases finds : visit.slot with
  | constructed record =>
      exact counted_of_attempt lock finds (lowered record finds)
  | empty =>
      have refused :
          visit.done.progress = .finished (.error .invalidArgument) ∧
            visit.done.branches = [] := by
        unfold done
        split
        · simp [finds, Slot.resume]
        · simp [lock, finds, Operation.enter, Slot.lock, Slot.materialize]
      exact counted_of_unmoved refused.2 refused.1 (by simp)
        (builds_of_ne_sentinel (by simp [finds]))
  | sentinel =>
      cases resumed : visit.resumed with
      | true =>
          have done : visit.done = visit.slot.resume visit.thread visit.budget := by
            simp [Visit.done, resumed]
          rw [finds, Slot.resume] at done
          exact counted_of_unmoved (by rw [done]) (by rw [done]) (by simp)
            (by simp [Visit.builds, done, Slot.isBuilt])
      | false =>
          have done : visit.done = visit.slot.lock visit.thread visit.budget := by
            simp [Visit.done, resumed, lock, Operation.enter]
          rw [finds, Slot.lock, Slot.materialize] at done
          by_cases empty : visit.budget.failures = 0
          · rw [Budget.allocate_of_empty empty] at done
            simp only [Slot.attempt, Record.attempt_fresh] at done
            have branches : visit.done.branches = [.lazyInit] := by
              rw [done]
              rfl
            rw [branches]
            exact .builds (by simp [Visit.builds, done, finds, lock, Slot.isBuilt])
              (by rw [done]; rfl)
          · rw [Budget.allocate_of_positive empty] at done
            exact counted_of_unmoved (by rw [done]) (by rw [done])
              (by simp [AllocationFailure.fault]) (by simp [Visit.builds, done, Slot.isBuilt])

/-- A try-lock counts the record that it builds. -/
theorem counted_of_tryLock
    {visit : Visit}
    (admitted : visit.Admitted)
    (tryLock : visit.operation = .tryLock) :
    visit.Counted visit.done.branches := by
  have done := done_of_ne_lock admitted (by simp [tryLock])
  rw [tryLock, Operation.enter, Slot.tryLock] at done
  cases finds : visit.slot with
  | empty =>
      rw [finds, Slot.materialize] at done
      exact counted_of_unmoved (by rw [done]) (by rw [done]) (by simp)
        (builds_of_ne_sentinel (by simp [finds]))
  | constructed record =>
      rw [finds, Slot.materialize] at done
      have result :
          visit.done.progress =
            .finished ((record.tryTake visit.thread).1.outcome.map fun _ => .done) := by
        rw [done]
      refine counted_of_unmoved (by rw [done]) result ?_ (builds_of_ne_sentinel (by simp [finds]))
      cases (record.tryTake visit.thread).1 <;> simp [TryPath.outcome, Except.map]
  | sentinel =>
      rw [finds, Slot.materialize] at done
      by_cases empty : visit.budget.failures = 0
      · rw [Budget.allocate_of_empty empty] at done
        simp only [Record.tryTake_of_free (Record.lockIndex_fresh none)] at done
        have branches : visit.done.branches = [.lazyInit] := by
          rw [done]
        rw [branches]
        exact .builds (by simp [Visit.builds, done, finds, tryLock, Slot.isBuilt])
          (by rw [done]; rfl)
      · rw [Budget.allocate_of_positive empty] at done
        exact counted_of_unmoved (by rw [done]) (by rw [done]) (by simp [AllocationFailure.fault])
          (by simp [Visit.builds, done, Slot.isBuilt])

/-- The other operations count nothing. -/
theorem counted_of_uncounting
    {visit : Visit}
    (admitted : visit.Admitted)
    (single : visit.operation ≠ .lock)
    (other : visit.operation ≠ .tryLock) :
    visit.Counted visit.done.branches := by
  have unbuilt : visit.builds = false := by
    simp [Visit.builds, single, other]
  have done := done_of_ne_lock admitted single
  cases operation : visit.operation with
  | lock =>
      exact (single operation).elim
  | tryLock =>
      exact (other operation).elim
  | create attributes =>
      have silent : visit.done.branches = [] := by
        rw [done, operation, Operation.enter, Slot.create]
        split <;> rfl
      rcases done_of_create admitted operation with ⟨finished, -⟩ | ⟨failed, -⟩
      · exact counted_of_unmoved silent finished (by simp) unbuilt
      · exact counted_of_unmoved silent failed (by simp) unbuilt
  | destroy =>
      rw [operation, Operation.enter, Operation.plain] at done
      refine counted_of_unmoved (by rw [done]) (by rw [done]) ?_ unbuilt
      unfold Slot.destroy
      split
      · simp [Except.map]
      · simp [Except.map]
      · split <;> simp [Except.map]
  | unlock =>
      rw [operation, Operation.enter, Operation.plain] at done
      refine counted_of_unmoved (by rw [done]) (by rw [done]) ?_ unbuilt
      unfold Slot.unlock
      split
      · simp [Except.map]
      · simp [Except.map]
      · dsimp only
        unfold Record.release
        split
        · simp [Except.map]
        · split <;> simp [Except.map]
  | snapshot =>
      rw [operation, Operation.enter] at done
      refine counted_of_unmoved (by rw [done]) (by rw [done]) ?_ unbuilt
      cases visit.slot <;> simp [Slot.view, Except.map]

/-- Every section to a slot with its guard lowered counts as listed. -/
theorem counted
    {visit : Visit}
    (admitted : visit.Admitted)
    (lowered : visit.slot.Lowered) :
    visit.Counted visit.done.branches := by
  by_cases lock : visit.operation = .lock
  · exact counted_of_lock lock lowered
  · by_cases tryLock : visit.operation = .tryLock
    · exact counted_of_tryLock admitted tryLock
    · exact counted_of_uncounting admitted lock tryLock

namespace Counted

variable {visit : Visit} {branches : List Branch}

theorem nodup (counted : visit.Counted branches) : branches.Nodup := by
  cases counted <;> simp

/-- Only a section that turns a sentinel into a record counts one. -/
theorem lazyInit (counted : visit.Counted branches) :
    decide (.lazyInit ∈ branches) = visit.builds := by
  cases counted with
  | nothing unbuilt =>
      simp [unbuilt]
  | builds builds =>
      simp [builds]
  | resets finds | defers finds | waits finds | refuses lock finds =>
      simp [builds_of_ne_sentinel, finds]

/-- Only a lock that comes to a deadlock counts one. -/
theorem deadlockReported (counted : visit.Counted branches) :
    decide (.deadlockReported ∈ branches) = visit.isRefused := by
  cases counted with
  | nothing unbuilt settled granted =>
      simp [Visit.isRefused, granted]
  | builds builds progress | resets finds progress | defers finds free progress
  | waits finds held progress =>
      simp [Visit.isRefused, progress]
  | refuses lock finds progress =>
      simp [Visit.isRefused, lock, progress]

/-- A section counts a deferral exactly where it parks with the mutex free. -/
theorem fairnessDeferral (counted : visit.Counted branches) :
    decide (.fairnessDeferral ∈ branches) =
      decide (visit.done.progress = .parked ∧ visit.slot.isFree = true) := by
  cases counted with
  | nothing unbuilt settled =>
      simp [settled]
  | builds builds progress | resets finds progress | refuses lock finds progress =>
      simp [progress]
  | defers finds free progress =>
      simp [progress, finds, Slot.isFree, free]
  | waits finds held progress =>
      simp [progress, finds, Slot.isFree, held]

/-- No section counts a trip through the wait loop, which starts once the latch is free. -/
theorem waitYield (counted : visit.Counted branches) : .waitYield ∉ branches := by
  cases counted <;> simp

/-- No section is left spinning, and none counts a spin. -/
theorem tryLockGuardSpin (counted : visit.Counted branches) :
    .tryLockGuardSpin ∉ branches := by
  cases counted <;> simp

end Counted

end Visit

namespace Counters

/-- A counter moves by as often as its branch is on the list. -/
theorem get_tally (counters : Counters) (branches : List Branch) (branch : Branch) :
    (counters.tally branches).get branch =
      counters.get branch + UInt64.ofNat (branches.count branch) := by
  induction branches generalizing counters with
  | nil =>
      simp [tally]
  | cons first rest inductionHypothesis =>
      change ((counters.record first).tally rest).get branch = _
      rw [inductionHypothesis, record]
      by_cases same : first = branch
      · subst same
        rw [get_set_self, List.count_cons_self, UInt64.ofNat_add, UInt64.add_assoc,
          UInt64.add_comm 1]
        rfl
      · rw [get_set_of_ne _ _ (Ne.symm same), List.count_cons_of_ne same]

end Counters

/-- A world in which every handle is settled and nobody spins. -/
structure World.Steady (world : World) : Prop where
  admitted : world.CallsAdmitted
  settled : ∀ handle, (world.slot handle).Settled
  unspun : ∀ thread call, (world.thread thread).call = some call → call.phase ≠ .spinning

/-- Whether a step leaves all storage to the operations, and the counters to what they count. -/
def Event.isCounted : Event → Bool
  | .place _ _ | .resetCounters => false
  | _ => true

namespace Event

theorem keeps_of_isCounted {event : Event} (counted : event.isCounted = true) (handle : HandleId) :
    event.keeps handle = true := by
  cases event <;> first | rfl | contradiction

end Event

namespace World

variable
  {me : ThreadId} {handle : HandleId} {world next last : World} {event : Event} {reply : Reply}
  {run : List (ThreadId × Event)} {replies : List Reply} {branch : Branch} {visit : Visit}

/-- The section that a small step runs, with its handle, if it runs one. -/
def section? (world : World) (me : ThreadId) (event : Event) : Option (HandleId × Visit) :=
  (world.thread me).call.bind fun call =>
    (world.visit? me event call.handle).map fun visit => (call.handle, visit)

/-- The sections of a run, on all handles. -/
def sections : World → List (ThreadId × Event) → List (HandleId × Visit)
  | _, [] => []
  | world, (me, event) :: rest =>
      match world.step? me event with
      | none => []
      | some (next, _) => (world.section? me event).toList ++ next.sections rest

/-- A section on a handle is a visit to it. -/
theorem section?_eq_some_iff :
    world.section? me event = some (handle, visit) ↔
      world.visit? me event handle = some visit := by
  simp only [section?, Option.bind_eq_some_iff, Option.map_eq_some_iff, Prod.mk.injEq]
  constructor
  · rintro ⟨call, -, found, visits, rfl, rfl⟩
    exact visits
  · intro visits
    obtain ⟨-, call, running, here, -, -⟩ := visit?_eq_some_iff.mp visits
    exact ⟨call, running, visit, by rw [here, visits], here, rfl⟩

/-- A call that is due for a section runs it. -/
theorem section?_of_due
    {call : Call}
    (running : (world.thread me).call = some call)
    (due : call.phase = .arriving ∨ call.phase = .yielding) :
    world.section? me .proceed = some (call.handle, world.visitOf me call) := by
  apply section?_eq_some_iff.mpr
  exact visit?_eq_some_iff.mpr ⟨rfl, call, running, rfl, due, rfl⟩

/-- The part of a list of sections that is run on a handle. -/
def visitsAt (handle : HandleId) (sections : List (HandleId × Visit)) : List Visit :=
  sections.filterMap fun (there, visit) => if there = handle then some visit else none

/-- The history of a handle is what the sections of the run do on it. -/
theorem history_eq (world : World) (run : List (ThreadId × Event)) (handle : HandleId) :
    world.history handle run = visitsAt handle (world.sections run) := by
  induction run generalizing world with
  | nil =>
      rfl
  | cons step rest inductionHypothesis =>
      obtain ⟨me, event⟩ := step
      have here :
          (world.visit? me event handle).toList =
            visitsAt handle (world.section? me event).toList := by
        cases visits : world.visit? me event handle with
        | some visit =>
            simp [section?_eq_some_iff.mpr visits, visitsAt]
        | none =>
            cases runs : world.section? me event with
            | none =>
                rfl
            | some found =>
                obtain ⟨there, visit⟩ := found
                have elsewhere : there ≠ handle := by
                  rintro rfl
                  rw [section?_eq_some_iff.mp runs] at visits
                  contradiction
                simp [visitsAt, elsewhere]
      cases stepped : world.step? me event with
      | none =>
          simp [history, sections, stepped, visitsAt]
      | some result =>
          simp only [history, sections, stepped, visitsAt, List.filterMap_append]
          rw [here, inductionHypothesis]
          rfl

/-- A call that a step leaves spinning was spinning before, or its section has left it so. -/
theorem step?_spinning
    {thread : ThreadId}
    {call : Call}
    (stepped : world.step? me event = some (next, reply))
    (running : (next.thread thread).call = some call)
    (spinning : call.phase = .spinning) :
    (world.thread thread).call = some call ∨
      ∃ visit,
        world.visit? me event call.handle = some visit ∧ visit.done.progress = .spinning := by
  by_cases mine : thread = me
  case neg =>
    rw [step?_call_of_ne stepped mine] at running
    exact .inl running
  subst mine
  cases (step?_eq_some_iff.mp stepped).2 with
  | idle free stepped =>
      simp [(stepIdle?_call free stepped running).2] at spinning
  | @visits found before due unlatched =>
      simp only [afterVisit, thread_counters, thread_setThread_self, Option.some.injEq] at running
      subst running
      refine .inr ⟨world.visitOf thread found, ?_, Phase.ofProgress_eq_spinning.mp spinning⟩
      exact visit?_eq_some_iff.mpr ⟨rfl, found, before, rfl, due, rfl⟩
  | @yields found before parked =>
      simp only [thread_counters, thread_setThread_self] at running
      rcases Thread.startYield_cases (world.thread thread) found with canceled | yielding
      · simp [canceled.2] at running
      · rw [yielding.2, Option.some.injEq] at running
        simp [← running] at spinning
  | leaves before leaving =>
      simp at running
  | givesUp before arriving single =>
      simp only [thread_counters, thread_setThread_self, Option.some.injEq] at running
      simp [← running] at spinning
  | spins | waits =>
      exact .inl running
  | waitsAgain before yielding =>
      simp only [thread_counters, thread_setThread_self, Thread.endYield_call] at running
      exact .inl running

/-- A steady world stays so. -/
theorem Steady.step
    (steady : world.Steady)
    (stepped : world.step? me event = some (next, reply))
    (counted : event.isCounted = true) :
    next.Steady where
  admitted := step?_admitted stepped steady.admitted
  settled := by
    intro handle
    have slot := step?_slot stepped (Event.keeps_of_isCounted counted handle)
    cases visits : world.visit? me event handle with
    | none =>
        rw [visits] at slot
        rw [slot]
        exact steady.settled handle
    | some visit =>
        rw [visits] at slot
        rw [slot]
        apply Visit.done_settled (visit?_admitted steady.admitted visits)
        rw [visit?_slot visits]
        exact steady.settled handle
  unspun := by
    intro thread call running spinning
    rcases step?_spinning stepped running spinning with before | ⟨visit, visits, left⟩
    · exact steady.unspun thread call before spinning
    · have settled := steady.settled call.handle
      rw [← visit?_slot visits] at settled
      exact Visit.progress_ne_spinning (visit?_admitted steady.admitted visits) settled.lowered left

/-- A section of a steady world was let in and finds a settled slot. -/
theorem Steady.section_settled
    (steady : world.Steady)
    (runs : world.section? me event = some (handle, visit)) :
    visit.Admitted ∧ visit.slot.Settled := by
  have visits := section?_eq_some_iff.mp runs
  refine ⟨visit?_admitted steady.admitted visits, ?_⟩
  rw [visit?_slot visits]
  exact steady.settled handle

/-- A step moves a counter by its section, unless the branch is counted outside of these. -/
theorem counters_step
    (steady : world.Steady)
    (stepped : world.step? me event = some (next, reply))
    (counted : event.isCounted = true)
    (guarded : branch.isOfSection = true) :
    next.counters.get branch =
      world.counters.get branch +
        UInt64.ofNat
          ((world.section? me event).toList.countP fun ran => ran.2.takesBranch branch) := by
  have apart {other : Branch} (outside : other.isOfSection = false) :
      (world.counters.record other).get branch = world.counters.get branch := by
    apply Counters.get_set_of_ne
    rintro rfl
    simp [guarded] at outside
  cases (step?_eq_some_iff.mp stepped).2 with
  | idle free stepped =>
      have silent : world.section? me event = none := by
        simp [section?, free]
      rw [silent]
      cases stepIdle?_idles stepped with
      | resets =>
          contradiction
      | _ =>
          simp [setThread, shareHandle, setCell]
  | @visits call running due unlatched =>
      have runs := section?_of_due running due
      obtain ⟨admitted, settled⟩ := steady.section_settled runs
      have nodup := (Visit.counted admitted settled.lowered).nodup
      rw [runs, afterVisit]
      simp [Counters.get_tally, nodup.count, List.countP_singleton, Visit.takesBranch]
  | leaves running phase =>
      simp [section?, visit?, running, phase, setThread]
  | yields running parked =>
      simpa [section?, visit?, running, parked] using apart rfl
  | spins running spinning =>
      exact (steady.unspun me _ running spinning).elim
  | givesUp running arriving single | waits running arriving blocking
  | waitsAgain running yielding =>
      simpa [section?, visit?, running] using apart rfl

/-- Along a run of a steady world the counters of the sections move by these. -/
theorem counters_run
    (steady : world.Steady)
    (ran : world.run? run = some (last, replies))
    (counted : ∀ step ∈ run, step.2.isCounted = true)
    (guarded : branch.isOfSection = true) :
    last.counters.get branch =
      world.counters.get branch +
        UInt64.ofNat ((world.sections run).countP fun ran => ran.2.takesBranch branch) := by
  induction run generalizing world replies with
  | nil =>
      cases ran
      simp [sections]
  | cons step rest inductionHypothesis =>
      obtain ⟨me, event⟩ := step
      obtain ⟨next, reply, _, stepped, tail, rfl⟩ := run?_cons.mp ran
      rw [List.forall_mem_cons] at counted
      have first := counters_step steady stepped counted.1 guarded
      have later := inductionHypothesis (steady.step stepped counted.1) tail counted.2
      simp only [sections, stepped, List.countP_append]
      rw [later, first, UInt64.ofNat_add, UInt64.add_assoc]

/-- Every section of a run of a steady world was let in and finds a settled slot. -/
theorem Steady.sections_settled
    (steady : world.Steady)
    (ran : world.run? run = some (last, replies))
    (counted : ∀ step ∈ run, step.2.isCounted = true) :
    ∀ found ∈ world.sections run, found.2.Admitted ∧ found.2.slot.Settled := by
  induction run generalizing world replies with
  | nil =>
      simp [sections]
  | cons step rest inductionHypothesis =>
      obtain ⟨me, event⟩ := step
      obtain ⟨next, reply, _, stepped, tail, rfl⟩ := run?_cons.mp ran
      rw [List.forall_mem_cons] at counted
      simp only [sections, stepped, List.forall_mem_append, Option.mem_toList]
      refine ⟨?_, inductionHypothesis (steady.step stepped counted.1) tail counted.2⟩
      rintro ⟨handle, visit⟩ runs
      exact steady.section_settled runs

/-- A run has at most one section for each step. -/
theorem length_sections_le (world : World) (run : List (ThreadId × Event)) :
    (world.sections run).length ≤ run.length := by
  induction run generalizing world with
  | nil =>
      simp [sections]
  | cons step rest inductionHypothesis =>
      obtain ⟨me, event⟩ := step
      unfold sections
      split
      · simp
      · rename_i next reply stepped
        have first := (world.section? me event).length_toList_le
        have later := inductionHypothesis next
        simp only [List.length_append, List.length_cons]
        omega

/-- A world without calls and records whose counters are zero. -/
structure Beginning (world : World) : Prop where
  idle : ∀ thread, (world.thread thread).call = none
  unbuilt : ∀ handle record, world.slot handle ≠ .constructed record
  zeroed : world.counters = .zero

namespace Beginning

theorem steady (beginning : world.Beginning) : world.Steady where
  admitted := by
    intro thread call running
    simp [beginning.idle] at running
  settled handle := Slot.settled_of_unbuilt (beginning.unbuilt handle)
  unspun := by
    intro thread call running
    simp [beginning.idle] at running

/-- After a run that is not too long, a counter reads how many sections took its branch. -/
theorem toNat_counter
    (beginning : world.Beginning)
    (ran : world.run? run = some (last, replies))
    (counted : ∀ step ∈ run, step.2.isCounted = true)
    (short : run.length < 2 ^ 64)
    (guarded : branch.isOfSection = true) :
    (last.counters.get branch).toNat =
      (world.sections run).countP fun ran => ran.2.takesBranch branch := by
  have bounded :
      (world.sections run).countP (fun ran => ran.2.takesBranch branch) < 2 ^ 64 :=
    (List.countP_le_length.trans (world.length_sections_le run)).trans_lt short
  have zero : world.counters.get branch = 0 := by
    rw [beginning.zeroed]
    cases branch <;> rfl
  rw [counters_run beginning.steady ran counted guarded, zero, UInt64.zero_add,
    UInt64.toNat_ofNat_of_lt' bounded]

end Beginning

end World

end LatchMutex
