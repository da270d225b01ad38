import LatchMutex.Proofs.LoneAnswers
import LatchMutex.Proofs.Sections

namespace LatchMutex

/-!
# Sections that allocate

A section allocates if it is the first one of its call and the call has no record to
work on.  It then spends a forced failure of its thread and leaves no record, or there
is none and it leaves one; a section that does not allocate does neither.  Outside the
sections a budget changes only by an injection, and a record appears only where storage
is overwritten.
-/

namespace Visit

/-- Whether a section allocates: one that parked before never does. -/
def allocates (visit : Visit) : Bool :=
  !visit.resumed && visit.slot.needsMemory visit.operation

variable {visit : Visit}

/-- Without memory the call is done, and a sentinel is left. -/
theorem done_of_starved
    (allocates : visit.allocates = true)
    (pending : visit.budget.failures ≠ 0) :
    visit.done =
      { progress := .finished (.error .outOfMemory)
        slot := .sentinel
        budget := { failures := visit.budget.failures - 1 } } := by
  obtain ⟨arrives, needs⟩ : visit.resumed = false ∧ visit.slot.needsMemory visit.operation := by
    simpa [Visit.allocates] using allocates
  rw [done, arrives]
  exact Operation.enter_of_failure needs pending visit.thread

/-- With memory the call is done on a record of its own. -/
theorem done_of_funded
    (allocates : visit.allocates = true)
    (funded : visit.budget.failures = 0) :
    visit.done.progress = .finished (.ok .done) ∧
      visit.done.slot.isBuilt = true ∧
        visit.done.budget = visit.budget := by
  obtain ⟨arrives, needs⟩ : visit.resumed = false ∧ visit.slot.needsMemory visit.operation := by
    simpa [Visit.allocates] using allocates
  have allocated (record : Record) :
      visit.budget.allocate Slot.recordSize record = (.ok record, visit.budget) :=
    Budget.allocate_of_empty funded _ record
  rw [done, arrives]
  cases operation : visit.operation with
  | create attributes =>
      simp [Operation.enter, Slot.create, allocated, Slot.isBuilt]
  | lock =>
      have sentinel : visit.slot = .sentinel := by
        simpa [operation, Slot.needsMemory] using needs
      simp [Operation.enter, sentinel, Slot.lock, Slot.materialize, allocated, Slot.attempt,
        Record.attempt_fresh, Slot.progressOf, Slot.isBuilt]
  | tryLock =>
      have sentinel : visit.slot = .sentinel := by
        simpa [operation, Slot.needsMemory] using needs
      have free := Record.tryTake_of_free (Record.lockIndex_fresh none)
      simp [Operation.enter, sentinel, Slot.tryLock, Slot.materialize, allocated, free,
        TryPath.outcome, Slot.isBuilt, Except.map]
  | unlock | destroy | snapshot =>
      rw [operation] at needs
      contradiction

/-- What a section leaves as it is that does not allocate. -/
structure Abstains (visit : Visit) : Prop where
  budget : visit.done.budget = visit.budget
  progress : visit.done.progress ≠ .finished (.error .outOfMemory)
  slot : visit.done.slot.isBuilt = true → visit.slot.isBuilt = true

/-- An attempt on a record does not allocate. -/
theorem abstains_of_attempt
    {record : Record}
    (built : visit.slot.isBuilt = true)
    (attempts : visit.done = Slot.attempt record visit.thread visit.budget []) :
    visit.Abstains := by
  refine ⟨by rw [attempts, Slot.attempt], ?_, fun _ => built⟩
  rw [attempts, Slot.attempt]
  cases (record.attempt visit.thread).decision <;> simp [Slot.progressOf]

/-- A section that only changes the slot abstains, unless it builds a record or lacks memory. -/
theorem abstains_of_plain
    {settled : Outcome × Slot}
    (plain : visit.done = Operation.plain settled visit.budget)
    (told : settled.1 ≠ .error .outOfMemory)
    (slot : settled.2.isBuilt = true → visit.slot.isBuilt = true) :
    visit.Abstains := by
  obtain ⟨outcome, left⟩ := settled
  refine ⟨by rw [plain, Operation.plain], ?_, by simpa [plain, Operation.plain] using slot⟩
  rw [plain, Operation.plain]
  cases outcome with
  | error fault =>
      simpa [Except.map] using told
  | ok =>
      simp [Except.map]

/-- A refusal leaves the slot as it is. -/
theorem abstains_of_refused
    {result : Result}
    (refuses :
      visit.done =
        { progress := .finished result, slot := visit.slot, budget := visit.budget })
    (told : result ≠ .error .outOfMemory) :
    visit.Abstains := by
  refine ⟨by rw [refuses], ?_, by simp [refuses]⟩
  rw [refuses]
  simpa using told

/-- A parked lock that comes back abstains. -/
theorem abstains_of_resumed (resumed : visit.resumed = true) : visit.Abstains := by
  have done : visit.done = visit.slot.resume visit.thread visit.budget := if_pos resumed
  cases finds : visit.slot with
  | empty | sentinel =>
      rw [finds, Slot.resume] at done
      exact abstains_of_refused (by rw [done, finds]) (by simp)
  | constructed record =>
      rw [finds, Slot.resume] at done
      exact abstains_of_attempt (by rw [finds, Slot.isBuilt]) done

/-- So does a first section that has what it works on. -/
theorem abstains_of_arriving
    (arrives : visit.resumed = false)
    (needs : visit.slot.needsMemory visit.operation = false) :
    visit.Abstains := by
  have done : visit.done = visit.operation.enter visit.thread visit.slot visit.budget := by
    simp [Visit.done, arrives]
  cases operation : visit.operation with
  | create attributes =>
      rw [operation] at needs
      contradiction
  | destroy =>
      rw [operation, Operation.enter] at done
      cases finds : visit.slot with
      | empty | sentinel =>
          exact abstains_of_plain done (by simp [finds, Slot.destroy])
            (by simp [finds, Slot.destroy, Slot.isBuilt])
      | constructed record =>
          refine abstains_of_plain done ?_ fun _ => by rw [finds, Slot.isBuilt]
          rw [finds, Slot.destroy]
          split <;> simp
  | unlock =>
      rw [operation, Operation.enter] at done
      cases finds : visit.slot with
      | empty | sentinel =>
          exact abstains_of_plain done (by simp [finds, Slot.unlock])
            (by simp [finds, Slot.unlock, Slot.isBuilt])
      | constructed record =>
          refine abstains_of_plain done ?_ fun _ => by rw [finds, Slot.isBuilt]
          simp only [finds, Slot.unlock, Record.release]
          split
          · simp
          · split <;> simp
  | snapshot =>
      rw [operation, Operation.enter] at done
      refine abstains_of_refused done ?_
      cases visit.slot <;> simp [Slot.view, Except.map]
  | lock =>
      cases finds : visit.slot with
      | sentinel =>
          simp [operation, finds, Slot.needsMemory] at needs
      | empty =>
          rw [operation, finds, Operation.enter, Slot.lock, Slot.materialize] at done
          exact abstains_of_refused (by rw [done, finds]) (by simp)
      | constructed record =>
          rw [operation, finds, Operation.enter, Slot.lock, Slot.materialize] at done
          exact abstains_of_attempt (by rw [finds, Slot.isBuilt]) done
  | tryLock =>
      cases finds : visit.slot with
      | sentinel =>
          simp [operation, finds, Slot.needsMemory] at needs
      | empty =>
          rw [operation, finds, Operation.enter, Slot.tryLock, Slot.materialize] at done
          exact abstains_of_refused (by rw [done, finds]) (by simp)
      | constructed record =>
          rw [operation, finds, Operation.enter, Slot.tryLock, Slot.materialize] at done
          rcases takes : record.tryTake visit.thread with ⟨path, after⟩
          simp only [takes] at done
          refine ⟨by rw [done], ?_, fun _ => by rw [finds, Slot.isBuilt]⟩
          rw [done]
          cases path <;> simp [TryPath.outcome, Except.map]

/-- Every section that does not allocate abstains. -/
theorem abstains (spares : visit.allocates = false) : visit.Abstains := by
  cases resumed : visit.resumed with
  | true =>
      exact abstains_of_resumed resumed
  | false =>
      exact abstains_of_arriving resumed (by simpa [allocates, resumed] using spares)

end Visit

namespace World

variable
  {me other : ThreadId} {handle : HandleId} {world next : World} {event : Event} {reply : Reply}
  {visit : Visit}

/-- A section draws on the budget of its thread. -/
theorem budget_of_visit
    (runs : world.section? me event = some (handle, visit)) :
    visit.budget = (world.thread me).budget := by
  obtain ⟨-, call, -, -, -, rfl⟩ := visit?_eq_some_iff.mp (section?_eq_some_iff.mp runs)
  rfl

/-- A section leaves its thread what it has left of the budget. -/
theorem budget_of_section
    (stepped : world.step? me event = some (next, reply))
    (runs : world.section? me event = some (handle, visit)) :
    (next.thread me).budget = visit.done.budget := by
  obtain ⟨call, -, -, -, rfl, rfl, -⟩ := step?_of_visit stepped (section?_eq_some_iff.mp runs)
  simp [afterVisit]

/-- Every other step but an injection leaves the budget as it is. -/
theorem budget_of_spared
    (stepped : world.step? me event = some (next, reply))
    (spares : world.section? me event = none)
    (uninjected : ∀ failures, event ≠ .inject failures) :
    (next.thread me).budget = (world.thread me).budget := by
  cases (step?_eq_some_iff.mp stepped).2 with
  | visits running due =>
      simp [section?_of_due running due] at spares
  | idle free stepped =>
      cases stepIdle?_idles stepped with
      | refuses | misses | places | resets =>
          rfl
      | calls | drops =>
          simp [Thread.start]
      | sharesHandle =>
          rw [thread_shareHandle, thread_setThread_self]
      | @requests target | @requestsById target =>
          obtain ⟨pending, raised⟩ := world.thread_raisePending target me
          rw [raised]
      | acts own =>
          rw [thread_setThread_self]
          cases Thread.step?_acts own with
          | injects failures =>
              exact (uninjected failures rfl).elim
          | tests | leavesScope | yields =>
              unfold Thread.afterTest
              split <;> rfl
          | _ =>
              rfl
  | yields running parked =>
      simp only [thread_counters, thread_setThread_self]
      unfold Thread.startYield
      split
      · split <;> rfl
      · rfl
  | leaves running leaving =>
      rw [thread_setThread_self]
      unfold Thread.finish
      split
      · rfl
      · split <;> rfl
  | spins | waits =>
      rfl
  | givesUp =>
      simp
  | waitsAgain =>
      simp only [thread_counters, thread_setThread_self]
      unfold Thread.endYield
      split <;> rfl

/-- The steps of the other threads leave it as well. -/
theorem budget_of_ne
    (stepped : world.step? me event = some (next, reply))
    (different : other ≠ me) :
    (next.thread other).budget = (world.thread other).budget := by
  rcases step?_thread_of_ne stepped different with same | raised
  · rw [same]
  · rw [raised]

/-- An injection replaces it. -/
theorem budget_of_injection
    {failures : UInt32}
    (stepped : world.step? me (.inject failures) = some (next, reply)) :
    (next.thread me).budget = { failures } := by
  cases (step?_eq_some_iff.mp stepped).2 with
  | idle free stepped =>
      cases stepIdle?_idles stepped with
      | acts own =>
          cases Thread.step?_acts own
          simp

/-- A record is built only by a section that allocates and has memory, or put there by hand. -/
theorem isBuilt_of_step
    (stepped : world.step? me event = some (next, reply))
    (kept : event.keeps handle = true)
    (built : (next.slot handle).isBuilt = true) :
    (world.slot handle).isBuilt = true ∨
      ∃ visit,
        world.section? me event = some (handle, visit) ∧
          visit.allocates = true ∧
            visit.budget.failures = 0 := by
  have left := step?_slot stepped kept
  cases visits : world.visit? me event handle with
  | none =>
      rw [visits] at left
      rw [left] at built
      exact .inl built
  | some visit =>
      simp only [visits] at left
      rw [left] at built
      cases allocates : visit.allocates with
      | false =>
          rw [← visit?_slot visits]
          exact .inl ((visit.abstains allocates).slot built)
      | true =>
          refine .inr ⟨visit, section?_eq_some_iff.mpr visits, allocates, ?_⟩
          by_contra pending
          rw [Visit.done_of_starved allocates pending] at built
          contradiction

/-- A thread that makes no call starts one, or has it refused. -/
theorem step?_call_of_free
    (awake : (world.thread me).exited = false)
    (idle : (world.thread me).call = none)
    (operation : Operation)
    (guarded : Bool) :
    world.step? me (.call handle operation guarded) =
      if operation.isRefused then
        some (world, .returned (.error .notSupported))
      else
        some (world.setThread me ((world.thread me).start handle operation guarded), .silent) := by
  simp only [step?, awake, idle, stepIdle?]
  rfl

end World

end LatchMutex
