import LatchMutex.Proofs.RecordSoundness

namespace LatchMutex

/-!
# What a call comes to alone

`Operation.alone` is what a call comes to when nobody interferes: its first
section, or, where that one parks, the section after the yield.  `Slot.Answers`
lists the results with what they leave.  The one call without an answer is a
lock that a record bars.
-/

/-- What a call that runs alone comes to: its first section, or the one after its only yield. -/
def Operation.alone
    (operation : Operation)
    (me : ThreadId)
    (slot : Slot)
    (budget : Budget) :
    Section :=
  let first := operation.enter me slot budget
  if first.progress = .parked then first.slot.resume me first.budget else first

namespace Record

/-- A lock by the thread waits until another thread does something about it. -/
structure Barred (record : Record) (me : ThreadId) : Prop where
  guardLowered : record.tryGuard = 0
  held : record.lockIndex ≠ unlocked
  blocked :
    record.owner = some me → record.kind.isRecursive = false ∧ record.kind ≠ .errorCheck

/-- Whoever parks behind others leaves somebody counted when it comes back. -/
theorem leaveWait_countWaiter
    (record : Record)
    (awaited : 0 < record.waiters)
    (me : ThreadId) :
    ∃ waiters,
      (record.countWaiter me).leaveWait = { record with waiters, lastWaiter := some me } ∧
        0 < waiters := by
  have counted := record.waiters_countWaiter_pos me
  refine ⟨(record.countWaiter me).waiters - 1, ?_, ?_⟩
  · rw [leaveWait, if_neg (by grind)]
    rfl
  · unfold countWaiter at counted ⊢
    grind

theorem Barred.attempt
    {record : Record}
    {me : ThreadId}
    (barred : record.Barred me) :
    record.attempt me = ⟨.parked, record.countWaiter me, []⟩ := by
  have attempted := record.attempt_cases barred.guardLowered me
  have held := barred.held
  have blocked := barred.blocked
  generalize record.attempt me = turn at attempted
  cases attempted with
  | waits held blocked =>
      rfl
  | takes free first | resets free awaited back alone | defers free awaited back contended =>
      exact (held free).elim
  | relocks held owned recursive =>
      simp [blocked owned] at recursive
  | refuses held owned checked =>
      exact ((blocked owned).2 checked).elim

/-- The bookkeeping of waiters has no part in who is kept out. -/
theorem Barred.withWaiters
    {record : Record}
    {me : ThreadId}
    (barred : record.Barred me)
    (waiters : UInt32)
    (last : Option ThreadId) :
    { record with waiters, lastWaiter := last }.Barred me where
  guardLowered := barred.guardLowered
  held := barred.held
  blocked := barred.blocked

end Record

/-- Whether a call has to construct a record before it can answer. -/
def Slot.needsMemory (slot : Slot) : Operation → Bool
  | .create _ => true
  | .lock | .tryLock => slot = .sentinel
  | _ => false

/-- What a call that runs alone answers and leaves, by what it finds, if there is memory. -/
inductive Slot.Answers (slot : Slot) (me : ThreadId) : Operation → Result → Slot → Prop where
  | creates
      (attributes : Option Attributes) :
      Answers slot me (.create attributes) (.ok .done)
        (.constructed (Record.fresh attributes))
  | shows :
      Answers slot me .snapshot (slot.view.map .seen) slot
  | vacant
      {operation : Operation}
      (empty : slot = .empty)
      (builds : ∀ attributes, operation ≠ .create attributes) :
      Answers slot me operation (.error .invalidArgument) slot
  | undeclared
      (sentinel : slot = .sentinel) :
      Answers slot me .unlock (.error .invalidArgument) slot
  | drops
      (present : slot ≠ .empty)
      (unowned : ∀ record, slot = .constructed record → record.owner = none) :
      Answers slot me .destroy (.ok .done) .empty
  | protects
      {record : Record} {owner : ThreadId}
      (finds : slot = .constructed record)
      (owned : record.owner = some owner) :
      Answers slot me .destroy (.error .busy) slot
  | takes
      {operation : Operation} {record : Record} (waiters : UInt32)
      (acquiring : operation = .lock ∨ operation = .tryLock)
      (offers : slot.offered = some record)
      (free : record.lockIndex = unlocked) :
      Answers slot me operation (.ok .done)
        (.constructed { record.claim.take me with waiters })
  | relocks
      {record : Record}
      (finds : slot = .constructed record)
      (owned : record.owner = some me)
      (recursive : record.kind.isRecursive = true) :
      Answers slot me .lock (.ok .done) (.constructed (record.claim.take me))
  | reports
      {record : Record}
      (finds : slot = .constructed record)
      (owned : record.owner = some me)
      (checked : record.kind = .errorCheck) :
      Answers slot me .lock (.error .deadlock) slot
  | declines
      {record : Record}
      (finds : slot = .constructed record)
      (held : record.lockIndex ≠ unlocked) :
      Answers slot me .tryLock (.error .busy) slot
  | denies
      {record : Record}
      (finds : slot = .constructed record)
      (stranger : record.owner ≠ some me) :
      Answers slot me .unlock (.error .permissionDenied) slot
  | unlocks
      {record : Record}
      (finds : slot = .constructed record)
      (owned : record.owner = some me)
      (recursive : record.kind.isRecursive = true)
      (nested : record.lockIndex ≠ 0) :
      Answers slot me .unlock (.ok .done) (.constructed record.unclaim)
  | frees
      {record : Record}
      (finds : slot = .constructed record)
      (owned : record.owner = some me)
      (outermost : record.kind.isRecursive = true → record.lockIndex = 0) :
      Answers slot me .unlock (.ok .done)
        (.constructed { record with owner := none }.unclaim)

namespace Operation

/-- Alone, a call comes to a result and a slot, and spends no forced failure. -/
def Comes
    (operation : Operation)
    (me : ThreadId)
    (slot : Slot)
    (budget : Budget)
    (result : Result)
    (left : Slot) :
    Prop :=
  ∃ branches,
    operation.alone me slot budget =
      { progress := .finished result, slot := left, budget, branches }

variable {me : ThreadId} {slot left : Slot} {budget : Budget} {record : Record}

theorem comes_of_enter
    {operation : Operation}
    {result : Result}
    (finishes :
      ∃ branches,
        operation.enter me slot budget =
          { progress := .finished result, slot := left, budget, branches }) :
    operation.Comes me slot budget result left := by
  obtain ⟨branches, finishes⟩ := finishes
  refine ⟨branches, ?_⟩
  rw [alone, finishes]
  rfl

/-- The attempt that a lone lock makes on a record decides it, unless it parks. -/
theorem comes_of_attempt
    {turn : Turn}
    {result : Result}
    (attempts : record.attempt me = turn)
    (decides : Slot.progressOf turn.decision = .finished result) :
    Operation.lock.Comes me (.constructed record) budget result (.constructed turn.record) := by
  apply comes_of_enter
  exact ⟨turn.branches,
    by simp [enter, Slot.lock, Slot.materialize, Slot.attempt, attempts, decides]⟩

/-- A lock that gave way to nobody takes the mutex when it comes back. -/
theorem comes_of_deferral
    (attempts : record.attempt me = ⟨.parked, record.countWaiter me, [.fairnessDeferral]⟩)
    (free : record.lockIndex = unlocked)
    (awaited : 0 < record.waiters)
    (back : record.lastOwner = some me) :
    Operation.lock.Comes me (.constructed record) budget (.ok .done)
      (.constructed { record.claim.take me with waiters := 0 }) := by
  have resumes :
      (record.countWaiter me).leaveWait.attempt me =
        ⟨.acquired, { record.claim.take me with waiters := 0 }, [.staleWaiterReset]⟩ := by
    obtain ⟨waiters, left, still⟩ := record.leaveWait_countWaiter awaited me
    simp [left, Record.attempt, free, still, back, Record.claim, Record.take]
  refine ⟨[.staleWaiterReset], ?_⟩
  simp [alone, enter, Slot.lock, Slot.materialize, Slot.attempt, Slot.progressOf, attempts,
    Slot.resume, resumes]

/-- A lone lock on a record is answered, or kept out. -/
theorem answers_lock
    (coherent : record.Coherent)
    (me : ThreadId)
    (budget : Budget) :
    (∃ result left,
        Operation.lock.Comes me (.constructed record) budget result left ∧
          (Slot.constructed record).Answers me .lock result left) ∨
      record.Barred me := by
  have attempted := record.attempt_cases coherent.guardLowered me
  generalize attempts : record.attempt me = turn at attempted
  cases attempted with
  | takes free first =>
      left
      exact ⟨_, _, comes_of_attempt attempts rfl, .takes record.waiters (.inl rfl) rfl free⟩
  | resets free awaited back alone =>
      left
      exact ⟨_, _, comes_of_attempt attempts rfl, .takes 0 (.inl rfl) rfl free⟩
  | defers free awaited back contended =>
      left
      exact ⟨_, _, comes_of_deferral attempts free awaited back, .takes 0 (.inl rfl) rfl free⟩
  | relocks held owned recursive =>
      left
      exact ⟨_, _, comes_of_attempt attempts rfl, .relocks rfl owned recursive⟩
  | refuses held owned checked =>
      left
      exact ⟨_, _, comes_of_attempt attempts rfl, .reports rfl owned checked⟩
  | waits held blocked =>
      right
      exact ⟨coherent.guardLowered, held, blocked⟩

/-- A lone try-lock on a record takes it, or leaves it to whoever holds it. -/
theorem answers_tryLock
    (record : Record)
    (me : ThreadId)
    (budget : Budget) :
    ∃ result left,
      Operation.tryLock.Comes me (.constructed record) budget result left ∧
        (Slot.constructed record).Answers me .tryLock result left := by
  by_cases free : record.lockIndex = unlocked
  · refine ⟨_, _, comes_of_enter ⟨[], ?_⟩, .takes record.waiters (.inr rfl) rfl free⟩
    simp only [enter, Slot.tryLock, Slot.materialize, Record.tryTake_of_free free]
    rfl
  · refine ⟨_, _, comes_of_enter ⟨[], ?_⟩, .declines rfl free⟩
    simp only [enter, Slot.tryLock, Slot.materialize, Record.tryTake_of_held free]
    rfl

/-- A lone unlock on a record gives back an acquisition of the owner. -/
theorem answers_unlock
    (record : Record)
    (me : ThreadId)
    (budget : Budget) :
    ∃ result left,
      Operation.unlock.Comes me (.constructed record) budget result left ∧
        (Slot.constructed record).Answers me .unlock result left := by
  by_cases owned : record.owner = some me
  · by_cases nested : record.kind.isRecursive = true ∧ record.lockIndex ≠ 0
    · refine ⟨_, _, comes_of_enter ⟨[], ?_⟩, .unlocks rfl owned nested.1 nested.2⟩
      simp only [enter, plain, Slot.unlock, Record.release_of_nested owned nested.1 nested.2]
      rfl
    · have outermost : record.kind.isRecursive = true → record.lockIndex = 0 := by
        simpa using nested
      refine ⟨_, _, comes_of_enter ⟨[], ?_⟩, .frees rfl owned outermost⟩
      simp only [enter, plain, Slot.unlock, Record.release_of_outermost owned outermost]
      rfl
  · refine ⟨_, _, comes_of_enter ⟨[], ?_⟩, .denies rfl owned⟩
    simp only [enter, plain, Slot.unlock, Record.release_of_stranger owned]
    rfl

/-- A lone destroy on a record empties the slot, unless the mutex is owned. -/
theorem answers_destroy
    (record : Record)
    (me : ThreadId)
    (budget : Budget) :
    ∃ result left,
      Operation.destroy.Comes me (.constructed record) budget result left ∧
        (Slot.constructed record).Answers me .destroy result left := by
  cases owner : record.owner with
  | none =>
      refine ⟨_, _, comes_of_enter ⟨[], ?_⟩, .drops (by simp) (by simp [owner])⟩
      simp only [enter, plain, Slot.destroy, owner]
      rfl
  | some thread =>
      refine ⟨_, _, comes_of_enter ⟨[], ?_⟩, .protects rfl owner⟩
      simp only [enter, plain, Slot.destroy, owner]
      rfl

/-- A call that finds no record is answered at once, if there is memory for the one it needs. -/
theorem answers_unbuilt
    (operation : Operation)
    (unbuilt : ∀ record, slot ≠ .constructed record)
    (me : ThreadId)
    (funded : slot.needsMemory operation = true → budget.failures = 0) :
    ∃ result left,
      operation.Comes me slot budget result left ∧ slot.Answers me operation result left := by
  have allocates
      (needs : slot.needsMemory operation = true)
      (record : Record) :
      budget.allocate Slot.recordSize record = (.ok record, budget) :=
    Budget.allocate_of_empty (funded needs) _ record
  cases slot with
  | constructed record =>
      exact (unbuilt record rfl).elim
  | empty =>
      cases operation with
      | create attributes =>
          refine ⟨_, _, comes_of_enter ⟨[], ?_⟩, .creates attributes⟩
          simp only [enter, Slot.create, allocates rfl]
      | lock | tryLock | unlock | destroy | snapshot =>
          exact ⟨_, _, comes_of_enter ⟨[], rfl⟩, .vacant rfl (by simp)⟩
  | sentinel =>
      cases operation with
      | create attributes =>
          refine ⟨_, _, comes_of_enter ⟨[], ?_⟩, .creates attributes⟩
          simp only [enter, Slot.create, allocates rfl]
      | lock =>
          refine ⟨_, _, comes_of_enter ⟨[.lazyInit], ?_⟩, .takes 0 (.inl rfl) rfl rfl⟩
          simp only [enter, Slot.lock, Slot.materialize, allocates rfl, Slot.attempt,
            Record.attempt_fresh]
          rfl
      | tryLock =>
          refine ⟨_, _, comes_of_enter ⟨[.lazyInit], ?_⟩, .takes 0 (.inr rfl) rfl rfl⟩
          simp only [enter, Slot.tryLock, Slot.materialize, allocates rfl,
            Record.tryTake_of_free (Record.lockIndex_fresh none)]
          rfl
      | unlock =>
          exact ⟨_, _, comes_of_enter ⟨[], rfl⟩, .undeclared rfl⟩
      | destroy =>
          exact ⟨_, _, comes_of_enter ⟨[], rfl⟩, .drops (by simp) (by simp)⟩
      | snapshot =>
          exact ⟨_, _, comes_of_enter ⟨[], rfl⟩, .shows⟩

/-- Every lone call with memory to spare is answered, or is a lock that is kept out. -/
theorem answers_cases
    (operation : Operation)
    (coherent : slot.Coherent)
    (me : ThreadId)
    (funded : slot.needsMemory operation = true → budget.failures = 0) :
    (∃ result left,
        operation.Comes me slot budget result left ∧ slot.Answers me operation result left) ∨
      operation = .lock ∧ ∃ record, slot = .constructed record ∧ record.Barred me := by
  cases slot with
  | empty | sentinel =>
      exact .inl (answers_unbuilt operation (by simp) me funded)
  | constructed record =>
      cases operation with
      | create attributes =>
          left
          refine ⟨_, _, comes_of_enter ⟨[], ?_⟩, .creates attributes⟩
          simp only [enter, Slot.create, Budget.allocate_of_empty (funded rfl)]
      | lock =>
          rcases answers_lock (coherent record rfl) me budget with answered | barred
          · exact .inl answered
          · exact .inr ⟨rfl, record, rfl, barred⟩
      | tryLock =>
          exact .inl (answers_tryLock record me budget)
      | unlock =>
          exact .inl (answers_unlock record me budget)
      | destroy =>
          exact .inl (answers_destroy record me budget)
      | snapshot =>
          exact .inl ⟨_, _, comes_of_enter ⟨[], rfl⟩, .shows⟩

/-- A section that cannot construct the record it needs leaves a sentinel. -/
theorem enter_of_failure
    {operation : Operation}
    (needs : slot.needsMemory operation = true)
    (failing : budget.failures ≠ 0)
    (me : ThreadId) :
    operation.enter me slot budget =
      { progress := .finished (.error .outOfMemory)
        slot := .sentinel
        budget := { failures := budget.failures - 1 } } := by
  have allocates (record : Record) :
      budget.allocate Slot.recordSize record =
        (.error { size := Slot.recordSize }, { failures := budget.failures - 1 }) :=
    Budget.allocate_of_positive failing _ record
  cases operation with
  | create attributes =>
      simp [enter, Slot.create, allocates, AllocationFailure.fault]
  | lock =>
      have sentinel : slot = .sentinel := by
        simpa [Slot.needsMemory] using needs
      simp [enter, sentinel, Slot.lock, Slot.materialize, allocates, AllocationFailure.fault]
  | tryLock =>
      have sentinel : slot = .sentinel := by
        simpa [Slot.needsMemory] using needs
      simp [enter, sentinel, Slot.tryLock, Slot.materialize, allocates,
        AllocationFailure.fault]
  | unlock | destroy | snapshot =>
      contradiction

/-- So does a call that runs alone. -/
theorem alone_of_failure
    {operation : Operation}
    (needs : slot.needsMemory operation = true)
    (failing : budget.failures ≠ 0)
    (me : ThreadId) :
    operation.alone me slot budget =
      { progress := .finished (.error .outOfMemory)
        slot := .sentinel
        budget := { failures := budget.failures - 1 } } := by
  simp [alone, enter_of_failure needs failing]

end Operation

end LatchMutex
