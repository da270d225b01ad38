import Mathlib.Data.Finset.Card
import LatchMutex.Proofs.WaitLoops

namespace LatchMutex

/-!
# Waiters are never counted twice

A record counts the threads in its wait loop.  A visit raises the count by one
where it parks, lowers it by one where it comes back, and clears it where it
resets it or renews the record.  A thread that is canceled while it waits is
gone without lowering the count, and nothing else lets the count exceed the
number of threads that wait.
-/

/-- The waiters that a slot counts. -/
def Slot.waiters : Slot → Nat
  | .empty | .sentinel => 0
  | .constructed record => record.waiters.toNat

/-- Whether the visit resets a waiter count that it takes to be stale. -/
def Visit.resets (visit : Visit) : Bool :=
  Branch.staleWaiterReset ∈ visit.done.branches

/-- Whether the visit leaves its thread in the wait loop. -/
def Visit.parks (visit : Visit) : Bool :=
  visit.done.progress = .parked

/-- Greatest value of a waiter count. -/
def mostWaiters : Nat := 2 ^ 32 - 1

namespace Record

/-- Parking counts one waiter more, up to the greatest count. -/
theorem toNat_waiters_enterWait (record : Record) (me : ThreadId) :
    (record.enterWait me).waiters.toNat = min (record.waiters.toNat + 1) mostWaiters := by
  have below := record.waiters.toNat_lt
  change (if record.waiters = -1 then record.waiters else record.waiters + 1).toNat = _
  unfold mostWaiters
  split
  · rename_i full
    simp [full]
  · rename_i room
    have least : record.waiters.toNat ≠ 2 ^ 32 - 1 := by
      intro full
      exact room (UInt32.toNat_inj.mp full)
    have one : (1 : UInt32).toNat = 1 := rfl
    rw [UInt32.toNat_add, one]
    omega

/-- Coming back counts one waiter less, down to none. -/
theorem toNat_waiters_leaveWait (record : Record) :
    record.leaveWait.waiters.toNat = record.waiters.toNat - 1 := by
  unfold leaveWait
  split
  · rename_i none
    simp [none]
  · rename_i some
    have positive : 1 ≤ record.waiters := by
      grind
    simp [UInt32.toNat_sub_of_le _ _ positive]

/-- An attempt changes the count by parking or by resetting it, and by nothing else. -/
theorem toNat_waiters_attempt (record : Record) (me : ThreadId) :
    (record.attempt me).record.waiters.toNat =
      if .staleWaiterReset ∈ (record.attempt me).branches then
        0
      else if (record.attempt me).decision = .parked then
        min (record.waiters.toNat + 1) mostWaiters
      else
        record.waiters.toNat := by
  have claimed : record.claim.waiters = record.waiters := rfl
  have parked := record.claim.toNat_waiters_enterWait me
  unfold attempt
  split
  · split
    · split
      · simp [take]
      · simpa [claimed] using parked
    · simp [take, claimed]
  · split
    · simp [claimed]
    · split
      · simp [take, claimed]
      · split
        · simp
        · simpa [claimed] using parked

/-- A single try leaves the count as it is. -/
theorem waiters_tryTake (record : Record) (me : ThreadId) :
    (record.tryTake me).2.waiters = record.waiters := by
  unfold tryTake
  split
  · rfl
  · dsimp only
    split <;> rfl

/-- A release leaves the count as it is. -/
theorem waiters_release (record : Record) (me : ThreadId) :
    (record.release me).2.waiters = record.waiters := by
  unfold release
  split
  · rfl
  · split <;> rfl

end Record

namespace Visit

/-- Only a lock comes back. -/
theorem Admitted.arrives_of_ne_lock
    {visit : Visit}
    (admitted : visit.Admitted)
    (single : visit.operation ≠ .lock) :
    visit.resumed = false := by
  by_contra resumed
  exact single (admitted.onlyLocksResume (by simpa using resumed))

/-- Only a create or a destroy renews. -/
theorem deed_ne_renews
    {visit : Visit}
    (kept : ∀ attributes, visit.operation ≠ .create attributes)
    (standing : visit.operation ≠ .destroy) :
    visit.deed ≠ .renews := by
  unfold deed
  split <;> simp_all

/-- The count that a visit leaves: cleared, or one less if it comes back, one more if it parks. -/
def countLeft (visit : Visit) : Nat :=
  let others := visit.slot.waiters - visit.resumed.toNat
  if visit.deed = .renews ∨ visit.resets = true then
    0
  else if visit.parks then
    min (others + 1) mostWaiters
  else
    others

/-- A visit that finishes its call without a word on the count keeps it. -/
theorem waiters_done_of_kept
    {visit : Visit}
    (arrives : visit.resumed = false)
    (kept : visit.deed ≠ .renews)
    (settled : visit.parks = false)
    (silent : visit.resets = false)
    (same : visit.done.slot.waiters = visit.slot.waiters) :
    visit.done.slot.waiters = visit.countLeft := by
  simp [countLeft, kept, settled, silent, arrives, same]

/-- A visit that makes an attempt changes the count as the attempt does. -/
theorem waiters_done_of_attempt
    {visit : Visit}
    {record : Record}
    {budget : Budget}
    {earlier : List Branch}
    (lock : visit.operation = .lock)
    (done : visit.done = Slot.attempt record visit.thread budget earlier)
    (unreset : Branch.staleWaiterReset ∉ earlier)
    (counts : record.waiters.toNat = visit.slot.waiters - visit.resumed.toNat) :
    visit.done.slot.waiters = visit.countLeft := by
  have attempted := record.toNat_waiters_attempt visit.thread
  have kept : visit.deed ≠ .renews := deed_ne_renews (by simp [lock]) (by simp [lock])
  have resets :
      visit.resets = decide (.staleWaiterReset ∈ (record.attempt visit.thread).branches) := by
    simp [Visit.resets, done, Slot.attempt, unreset]
  have parks :
      visit.parks = decide ((record.attempt visit.thread).decision = .parked) := by
    simp only [Visit.parks, done, Slot.attempt]
    cases (record.attempt visit.thread).decision <;> simp [Slot.progressOf]
  have left : visit.done.slot.waiters = (record.attempt visit.thread).record.waiters.toNat := by
    rw [done]
    rfl
  rw [left, attempted, countLeft, ← counts, resets, parks]
  simp [kept]

/-- A lock counts a waiter less when it comes back and one more when it parks. -/
theorem waiters_done_of_lock
    {visit : Visit}
    (lock : visit.operation = .lock) :
    visit.done.slot.waiters = visit.countLeft := by
  cases finds : visit.slot with
  | constructed record =>
      apply waiters_done_of_attempt lock (done_of_lock lock finds) (by simp)
      unfold meets
      split
      · rename_i resumed
        simp [record.toNat_waiters_leaveWait, finds, Slot.waiters, resumed]
      · rename_i arrives
        simp [finds, Slot.waiters, arrives]
  | empty =>
      have refused :
          visit.done.progress = .finished (.error .invalidArgument) ∧
            visit.done.slot = .empty ∧ visit.done.branches = [] := by
        unfold done
        split
        · simp [finds, Slot.resume]
        · simp [lock, finds, Operation.enter, Slot.lock, Slot.materialize]
      simp [countLeft, deed, Visit.resets, Visit.parks, lock, refused, finds, Slot.waiters]
  | sentinel =>
      cases resumed : visit.resumed with
      | true =>
          simp [countLeft, deed, Visit.resets, Visit.parks, lock, done, resumed, finds,
            Slot.resume, Slot.waiters]
      | false =>
          have done : visit.done = visit.slot.lock visit.thread visit.budget := by
            simp [Visit.done, resumed, lock, Operation.enter]
          rw [finds, Slot.lock, Slot.materialize] at done
          by_cases empty : visit.budget.failures = 0
          · rw [Budget.allocate_of_empty empty] at done
            apply waiters_done_of_attempt lock done (by simp)
            simp [finds, Slot.waiters, Record.fresh]
          · rw [Budget.allocate_of_positive empty] at done
            apply waiters_done_of_kept resumed
            · simp [deed, lock, done]
            · simp [Visit.parks, done]
            · simp [Visit.resets, done]
            · rw [done, finds]

/-- A destroy clears the count with the record, or keeps both. -/
theorem waiters_done_of_destroy
    {visit : Visit}
    (admitted : visit.Admitted)
    (destroy : visit.operation = .destroy) :
    visit.done.slot.waiters = visit.countLeft := by
  have arrives := admitted.arrives_of_ne_lock (by simp [destroy])
  have done := done_of_ne_lock admitted (by simp [destroy])
  rw [destroy, Operation.enter, Operation.plain] at done
  have settled : visit.parks = false := by
    simp [Visit.parks, done]
  have silent : visit.resets = false := by
    simp [Visit.resets, done]
  cases finds : visit.slot with
  | empty =>
      rw [finds, Slot.destroy] at done
      apply waiters_done_of_kept arrives _ settled silent (by rw [done, finds])
      simp [deed, destroy, done, Except.map]
  | sentinel =>
      rw [finds, Slot.destroy] at done
      simp [countLeft, deed, destroy, done, Except.map, Slot.waiters]
  | constructed record =>
      cases owner : record.owner with
      | none =>
          simp only [finds, Slot.destroy, owner, Option.isSome_none, Bool.false_eq_true,
            ↓reduceIte] at done
          simp [countLeft, deed, destroy, done, Except.map, Slot.waiters]
      | some thread =>
          simp only [finds, Slot.destroy, owner, Option.isSome_some, ↓reduceIte] at done
          apply waiters_done_of_kept arrives _ settled silent (by rw [done, finds])
          simp [deed, destroy, done, Except.map]

/-- A try-lock keeps the count. -/
theorem waiters_done_of_tryLock
    {visit : Visit}
    (admitted : visit.Admitted)
    (tryLock : visit.operation = .tryLock) :
    visit.done.slot.waiters = visit.countLeft := by
  have arrives := admitted.arrives_of_ne_lock (by simp [tryLock])
  have kept : visit.deed ≠ .renews := deed_ne_renews (by simp [tryLock]) (by simp [tryLock])
  have settled : visit.parks = false := by
    simpa [Visit.parks] using progress_ne_parked admitted (by simp [tryLock])
  have done := done_of_ne_lock admitted (by simp [tryLock])
  rw [tryLock, Operation.enter, Slot.tryLock] at done
  cases finds : visit.slot with
  | empty =>
      rw [finds, Slot.materialize] at done
      apply waiters_done_of_kept arrives kept settled (by simp [Visit.resets, done])
      rw [done, finds]
  | constructed record =>
      rw [finds, Slot.materialize] at done
      apply waiters_done_of_kept arrives kept settled (by simp [Visit.resets, done])
      simp [done, finds, Slot.waiters, record.waiters_tryTake]
  | sentinel =>
      rw [finds, Slot.materialize] at done
      by_cases empty : visit.budget.failures = 0
      · rw [Budget.allocate_of_empty empty] at done
        apply waiters_done_of_kept arrives kept settled (by simp [Visit.resets, done])
        simp [done, finds, Slot.waiters, Record.waiters_tryTake, Record.fresh]
      · rw [Budget.allocate_of_positive empty] at done
        apply waiters_done_of_kept arrives kept settled (by simp [Visit.resets, done])
        rw [done, finds]

/-- A visit of anything but a lock clears the count with the record, or keeps it. -/
theorem waiters_done_of_ne_lock
    {visit : Visit}
    (admitted : visit.Admitted)
    (single : visit.operation ≠ .lock) :
    visit.done.slot.waiters = visit.countLeft := by
  have arrives := admitted.arrives_of_ne_lock single
  have done := done_of_ne_lock admitted single
  cases operation : visit.operation with
  | lock =>
      exact (single operation).elim
  | create attributes =>
      rcases done_of_create admitted operation with ⟨finished, built⟩ | ⟨failed, declared⟩
      · simp [countLeft, deed, operation, finished, built, Slot.waiters, Record.fresh]
      · simp [countLeft, deed, operation, failed, declared, Slot.waiters]
  | destroy =>
      exact waiters_done_of_destroy admitted operation
  | unlock =>
      have kept : visit.deed ≠ .renews :=
        deed_ne_renews (by simp [operation]) (by simp [operation])
      rw [operation, Operation.enter, Operation.plain] at done
      apply waiters_done_of_kept arrives kept
      · simp [Visit.parks, done]
      · simp [Visit.resets, done]
      · rw [done]
        cases finds : visit.slot with
        | empty | sentinel =>
            rfl
        | constructed record =>
            simp [Slot.unlock, Slot.waiters, record.waiters_release]
  | tryLock =>
      exact waiters_done_of_tryLock admitted operation
  | snapshot =>
      have kept : visit.deed ≠ .renews :=
        deed_ne_renews (by simp [operation]) (by simp [operation])
      rw [operation, Operation.enter] at done
      apply waiters_done_of_kept arrives kept
      · simp [Visit.parks, done]
      · simp [Visit.resets, done]
      · rw [done]

/-- Every visit leaves the count that its parking, coming back and clearing come to. -/
theorem waiters_done
    {visit : Visit}
    (admitted : visit.Admitted) :
    visit.done.slot.waiters = visit.countLeft := by
  by_cases lock : visit.operation = .lock
  · exact waiters_done_of_lock lock
  · exact waiters_done_of_ne_lock admitted lock

end Visit

namespace World

/-- Whether a thread is in the wait loop of a handle. -/
def isWaiting (world : World) (handle : HandleId) (thread : ThreadId) : Bool :=
  (world.thread thread).call.any fun call =>
    call.handle = handle ∧ (call.phase = .parked ∨ call.phase = .yielding)

/-- The threads in the wait loop of a handle. -/
def waitingAt (world : World) (handle : HandleId) : Finset ThreadId :=
  world.threads.keys.toFinset.filter fun thread => world.isWaiting handle thread

/-- Calls of a run that are canceled in the wait loop of a handle. -/
def canceledWaits (handle : HandleId) : World → List (ThreadId × Event) → Nat
  | _, [] => 0
  | world, (me, event) :: rest =>
      match world.step? me event with
      | none => 0
      | some (next, reply) =>
          (decide (world.isWaiting handle me ∧ reply = .canceled)).toNat +
            next.canceledWaits handle rest

theorem isWaiting_iff
    {world : World}
    {handle : HandleId}
    {thread : ThreadId} :
    world.isWaiting handle thread = true ↔
      ∃ call,
        (world.thread thread).call = some call ∧
          call.handle = handle ∧
          (call.phase = .parked ∨ call.phase = .yielding) := by
  simp [isWaiting, Option.any_eq_true]

/-- The threads in the middle of a call of a kind. -/
def callers (world : World) (kind : Call → Bool) : Finset ThreadId :=
  world.threads.keys.toFinset.filter fun thread => (world.thread thread).call.any kind

@[simp] theorem mem_callers
    {world : World}
    {kind : Call → Bool}
    {thread : ThreadId} :
    thread ∈ world.callers kind ↔ (world.thread thread).call.any kind = true := by
  simp only [callers, Finset.mem_filter, List.mem_toFinset, and_iff_right_iff_imp]
  intro calling
  -- A thread that is not stored has no call under way.
  by_contra absent
  rw [World.thread, Table.get_of_not_mem_keys absent] at calling
  contradiction

@[simp] theorem mem_waitingAt
    {world : World}
    {handle : HandleId}
    {thread : ThreadId} :
    thread ∈ world.waitingAt handle ↔ world.isWaiting handle thread = true :=
  mem_callers

/-- A step changes who is in a call of a kind by the thread that takes it. -/
theorem card_callers_step
    {world next : World}
    {me : ThreadId}
    {event : Event}
    {reply : Reply}
    (stepped : world.step? me event = some (next, reply))
    (kind : Call → Bool) :
    ∃ others,
      (world.callers kind).card = others + ((world.thread me).call.any kind).toNat ∧
        (next.callers kind).card = others + ((next.thread me).call.any kind).toNat := by
  have apart (state : World) :
      (state.callers kind).card =
        ((state.callers kind).erase me).card + ((state.thread me).call.any kind).toNat := by
    cases calling : (state.thread me).call.any kind with
    | true =>
        exact (Finset.card_erase_add_one (mem_callers.mpr calling)).symm
    | false =>
        have absent : me ∉ state.callers kind := by
          simp [calling]
        rw [Finset.erase_eq_of_notMem absent]
        rfl
  have same : (next.callers kind).erase me = (world.callers kind).erase me := by
    ext other
    simp only [Finset.mem_erase, mem_callers]
    apply and_congr_right
    intro different
    rw [step?_call_of_ne stepped different]
  exact ⟨_, apart world, by rw [apart next, same]⟩

/-- A step changes who waits by the thread that takes it. -/
theorem card_waitingAt_step
    {world next : World}
    {me : ThreadId}
    {event : Event}
    {reply : Reply}
    (stepped : world.step? me event = some (next, reply))
    (handle : HandleId) :
    ∃ others,
      (world.waitingAt handle).card = others + (world.isWaiting handle me).toNat ∧
        (next.waitingAt handle).card = others + (next.isWaiting handle me).toNat :=
  card_callers_step stepped _

/-- A visit finds its thread waiting exactly when it comes back, and leaves it so when it parks. -/
theorem isWaiting_of_visit
    {world next : World}
    {me : ThreadId}
    {event : Event}
    {reply : Reply}
    {handle : HandleId}
    {visit : Visit}
    (stepped : world.step? me event = some (next, reply))
    (visits : world.visit? me event handle = some visit) :
    world.isWaiting handle me = visit.resumed ∧
      next.isWaiting handle me = visit.parks ∧
      reply ≠ .canceled := by
  obtain ⟨call, running, here, due, rfl, rfl, rfl⟩ := step?_of_visit stepped visits
  refine ⟨?_, ?_, by simp⟩
  · rcases due with arriving | yielding
    · simp [isWaiting, running, visitOf, arriving]
    · simp [isWaiting, running, visitOf, yielding, here]
  · simp only [isWaiting, afterVisit, thread_counters, thread_setThread_self, Option.any_some,
      here, true_and, Visit.parks]
    cases (world.visitOf me call).done.progress <;> simp [Phase.ofProgress]

/-- Without a visit a thread stays in the wait loop until it is canceled there. -/
theorem isWaiting_of_unvisited
    {world next : World}
    {me : ThreadId}
    {event : Event}
    {reply : Reply}
    {handle : HandleId}
    (stepped : world.step? me event = some (next, reply))
    (unvisited : world.visit? me event handle = none) :
    (world.isWaiting handle me).toNat =
      (next.isWaiting handle me).toNat +
        (decide (world.isWaiting handle me ∧ reply = .canceled)).toNat := by
  cases (step?_eq_some_iff.mp stepped).2 with
  | idle free stepped =>
      have before : world.isWaiting handle me = false := by
        simp [isWaiting, free]
      have after : next.isWaiting handle me = false := by
        by_contra waiting
        obtain ⟨call, running, -, phase⟩ := isWaiting_iff.mp (by simpa using waiting)
        have entered := stepIdle?_call free stepped running
        simp [entered.2] at phase
      simp [before, after]
  | @visits call running due unlatched =>
      have elsewhere : call.handle ≠ handle := by
        intro here
        simp [visit?, running, here, due] at unvisited
      simp [isWaiting, running, elsewhere, afterVisit]
  | @yields call running parked =>
      rcases Thread.startYield_cases (world.thread me) call with canceled | yielding
      · simp [isWaiting, running, parked, canceled]
      · simp [isWaiting, running, parked, yielding]
  | spins running spinning =>
      simp [isWaiting, running, spinning]
  | leaves running leaving =>
      simp [isWaiting, running, leaving]
  | givesUp running arriving single =>
      simp [isWaiting, running, arriving]
  | waits running arriving blocking =>
      simp [isWaiting, running, arriving]
  | waitsAgain running yielding =>
      simp [isWaiting, running, yielding]

/-- Without a visit nobody new is in the wait loop. -/
theorem isWaiting_of_later
    {world next : World}
    {me thread : ThreadId}
    {event : Event}
    {reply : Reply}
    {handle : HandleId}
    (stepped : world.step? me event = some (next, reply))
    (unvisited : world.visit? me event handle = none)
    (waiting : next.isWaiting handle thread = true) :
    world.isWaiting handle thread = true := by
  by_cases mine : thread = me
  · subst mine
    have stays := isWaiting_of_unvisited stepped unvisited
    rw [waiting, Bool.toNat_true] at stays
    by_contra gone
    simp [gone] at stays
  · rw [isWaiting, ← step?_call_of_ne stepped mine]
    exact waiting

/-- A step counts no waiter that is neither in the wait loop nor canceled there. -/
theorem waiters_le_step
    {world next : World}
    {me : ThreadId}
    {event : Event}
    {reply : Reply}
    {handle : HandleId}
    {earlier : Nat}
    (admitted : world.CallsAdmitted)
    (stepped : world.step? me event = some (next, reply))
    (kept : event.keeps handle = true)
    (bounded : (world.slot handle).waiters ≤ (world.waitingAt handle).card + earlier) :
    (next.slot handle).waiters ≤
      (next.waitingAt handle).card +
        (earlier + (decide (world.isWaiting handle me ∧ reply = .canceled)).toNat) := by
  obtain ⟨others, before, after⟩ := card_waitingAt_step stepped handle
  have slot := step?_slot stepped kept
  cases visits : world.visit? me event handle with
  | none =>
      have stays := isWaiting_of_unvisited stepped visits
      simp only [visits] at slot
      rw [slot]
      omega
  | some visit =>
      obtain ⟨resumed, parks, -⟩ := isWaiting_of_visit stepped visits
      have finds := visit?_slot visits
      have counts := Visit.waiters_done (visit?_admitted admitted visits)
      rw [visits] at slot
      rw [slot, counts, Visit.countLeft, finds]
      rw [resumed] at before
      rw [parks] at after
      split
      · exact Nat.zero_le _
      · -- Who comes back was waiting until now, also where the count is at zero already.
        split
        · rename_i parked
          rw [parked, Bool.toNat_true] at after
          omega
        · omega

/-- Along a run every counted waiter is in the wait loop or was canceled there. -/
theorem waiters_le_run
    {world last : World}
    {run : List (ThreadId × Event)}
    {replies : List Reply}
    {handle : HandleId}
    {earlier : Nat}
    (admitted : world.CallsAdmitted)
    (ran : world.run? run = some (last, replies))
    (kept : ∀ step ∈ run, step.2.keeps handle = true)
    (bounded : (world.slot handle).waiters ≤ (world.waitingAt handle).card + earlier) :
    (last.slot handle).waiters ≤
      (last.waitingAt handle).card + (earlier + world.canceledWaits handle run) := by
  induction run generalizing world earlier replies with
  | nil =>
      cases ran
      exact bounded
  | cons step rest inductionHypothesis =>
      obtain ⟨me, event⟩ := step
      obtain ⟨next, reply, _, stepped, tail, rfl⟩ := run?_cons.mp ran
      have first := waiters_le_step admitted stepped (kept _ List.mem_cons_self) bounded
      have later :=
        inductionHypothesis (step?_admitted stepped admitted) tail
          (fun step member => kept step (List.mem_cons_of_mem _ member)) first
      simpa [canceledWaits, stepped, Nat.add_assoc] using later

/-- Without a cancellation no wait is canceled. -/
theorem canceledWaits_of_uncanceled
    {world last : World}
    {run : List (ThreadId × Event)}
    {replies : List Reply}
    (ran : world.run? run = some (last, replies))
    (uncanceled : .canceled ∉ replies)
    (handle : HandleId) :
    world.canceledWaits handle run = 0 := by
  induction run generalizing world replies with
  | nil =>
      rfl
  | cons step rest inductionHypothesis =>
      obtain ⟨next, reply, _, stepped, tail, rfl⟩ := run?_cons.mp ran
      simp only [List.mem_cons, not_or] at uncanceled
      simp [canceledWaits, stepped, Ne.symm uncanceled.1, inductionHypothesis tail uncanceled.2]

end World

/-- A visit to a standing record moves its count by one at most, save for a reset to zero. -/
structure Visit.CountsSteadily (visit : Visit) : Prop where
  up : visit.done.slot.waiters ≤ visit.slot.waiters + 1
  down : visit.resets = false → visit.slot.waiters ≤ visit.done.slot.waiters + 1

theorem Slot.waiters_le_mostWaiters (slot : Slot) : slot.waiters ≤ mostWaiters := by
  cases slot with
  | empty | sentinel =>
      exact Nat.zero_le _
  | constructed record =>
      exact Nat.le_sub_one_of_lt record.waiters.toNat_lt

theorem Visit.countsSteadily
    {visit : Visit}
    (admitted : visit.Admitted)
    (kept : visit.deed ≠ .renews) :
    visit.CountsSteadily := by
  have counts := waiters_done admitted
  have most := visit.slot.waiters_le_mostWaiters
  have once := visit.resumed.toNat_le
  simp only [countLeft, kept, false_or] at counts
  constructor
  · rw [counts]
    split
    · exact Nat.zero_le _
    · split <;> omega
  · intro unreset
    simp only [unreset, Bool.false_eq_true, ↓reduceIte] at counts
    rw [counts]
    split <;> omega

/-- A history that links two slots is made of visits that were let in. -/
theorem Linked.admitted_of_mem
    {first last : Slot}
    {history : List Visit}
    {visit : Visit}
    (linked : Linked first history last)
    (member : visit ∈ history) :
    visit.Admitted := by
  obtain ⟨earlier, later, rfl⟩ := List.append_of_mem member
  obtain ⟨middle, -, tail⟩ := linked.split
  cases tail with
  | cons admitted finds later =>
      exact admitted

/-- After every course each counted waiter is in the wait loop or was canceled there. -/
theorem Course.waiters_le
    {handle : HandleId}
    {start : Slot}
    {run : List (ThreadId × Event)}
    {world : World}
    {replies : List Reply}
    (course : Course handle start run world)
    (ran : (World.opening handle start).run? run = some (world, replies)) :
    (world.slot handle).waiters ≤
      (world.waitingAt handle).card + (World.opening handle start).canceledWaits handle run := by
  have nobody :
      ((World.opening handle start).slot handle).waiters ≤
        ((World.opening handle start).waitingAt handle).card + 0 := by
    cases start with
    | empty | sentinel =>
        simp [World.opening, World.slot, World.setCell, Slot.waiters]
    | constructed record =>
        exact (course.unbuilt record rfl).elim
  simpa using World.waiters_le_run (opening_admitted handle start) ran course.kept nobody

/--
After every course the count of waiters is bounded by the threads in the wait
loop of the handle and the waits canceled there, so by the former alone if
nobody was canceled; and no visit wraps the count around.
-/
theorem Course.waiters_bounded
    {handle : HandleId}
    {start : Slot}
    {run : List (ThreadId × Event)}
    {world : World}
    {replies : List Reply}
    {record : Record}
    (course : Course handle start run world)
    (ran : (World.opening handle start).run? run = some (world, replies))
    (holds : world.slot handle = .constructed record) :
    record.waiters.toNat ≤
        (world.waitingAt handle).card +
          (World.opening handle start).canceledWaits handle run ∧
      (.canceled ∉ replies → record.waiters.toNat ≤ (world.waitingAt handle).card) ∧
      ∀ visit ∈ (World.opening handle start).history handle run,
        visit.deed ≠ .renews → visit.CountsSteadily := by
  have bounded := course.waiters_le ran
  rw [holds, Slot.waiters] at bounded
  refine ⟨bounded, ?_, ?_⟩
  · intro uncanceled
    rw [World.canceledWaits_of_uncanceled ran uncanceled] at bounded
    exact bounded
  · intro visit member kept
    exact Visit.countsSteadily (course.linked.admitted_of_mem member) kept

/--
Thread 0 holds the mutex.  Thread 1 parks behind it and is canceled where it
yields, and thread 2 parks behind it and stays.
-/
def canceledWaiter : List (ThreadId × Event) :=
  [(⟨0⟩, .call ⟨0⟩ .lock false), (⟨0⟩, .proceed), (⟨0⟩, .proceed),
    (⟨1⟩, .makeHandle), (⟨1⟩, .setType .asynchronous), (⟨1⟩, .call ⟨0⟩ .lock false),
    (⟨1⟩, .proceed), (⟨0⟩, .request ⟨1⟩), (⟨1⟩, .proceed),
    (⟨2⟩, .call ⟨0⟩ .lock false), (⟨2⟩, .proceed), (⟨2⟩, .proceed)]

/-- The record then: two waiters counted, of which one is gone. -/
def overcounted : Record where
  kind := .recursive
  sharing := .processPrivate
  lockIndex := 0
  owner := some ⟨0⟩
  waiters := 2
  lastOwner := some ⟨0⟩
  lastWaiter := some ⟨2⟩

theorem Course.waiters_bounded_canceledWaiter :
    ∃ world replies,
      Course ⟨0⟩ .sentinel canceledWaiter world ∧
        (World.opening ⟨0⟩ .sentinel).run? canceledWaiter = some (world, replies) ∧
        world.slot ⟨0⟩ = .constructed overcounted ∧
        (world.waitingAt ⟨0⟩).card = 1 ∧
        (World.opening ⟨0⟩ .sentinel).canceledWaits ⟨0⟩ canceledWaiter = 1 ∧
        overcounted.waiters.toNat ≤
          (world.waitingAt ⟨0⟩).card +
            (World.opening ⟨0⟩ .sentinel).canceledWaits ⟨0⟩ canceledWaiter ∧
        ∀ visit ∈ (World.opening ⟨0⟩ .sentinel).history ⟨0⟩ canceledWaiter,
          visit.deed ≠ .renews → visit.CountsSteadily := by
  have course : Course ⟨0⟩ .sentinel canceledWaiter _ :=
    Course.of_isSome (by simp) (by decide) (by decide)
  obtain ⟨replies, ran⟩ := course.ran
  have holds :
      (((World.opening ⟨0⟩ .sentinel).run? canceledWaiter).get (by decide)).1.slot ⟨0⟩ =
        .constructed overcounted := by
    decide
  have bounded := course.waiters_bounded ran holds
  exact ⟨_, replies, course, ran, holds, by decide, by decide, bounded.1, bounded.2.2⟩

end LatchMutex
