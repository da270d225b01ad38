import LatchMutex.Proofs.Histories

namespace LatchMutex

/-!
# Sound records

A record is sound when its owner and its acquisition counter agree, its guard is
lowered and its discipline is a resolved one.  `Record.Attempted` and
`Visit.Leaves` list what an attempt and a visit do to a sound record; a visit
keeps a slot sound as long as an acquisition has room in the counter.
-/

namespace Budget

/-- An allocation without a forced failure succeeds and spends nothing. -/
theorem allocate_of_empty
    {Value : Type}
    {budget : Budget}
    (empty : budget.failures = 0)
    (size : UInt64)
    (value : Value) :
    budget.allocate size value = (.ok value, budget) := by
  simp [allocate, draw, empty]

/-- A forced failure is spent by the allocation that it fails. -/
theorem allocate_of_positive
    {Value : Type}
    {budget : Budget}
    (positive : budget.failures ≠ 0)
    (size : UInt64)
    (value : Value) :
    budget.allocate size value =
      (.error { size }, { failures := budget.failures - 1 }) := by
  simp [allocate, draw, positive]

end Budget

namespace Record

/-- What the answers of the operations rely on. -/
structure Coherent (record : Record) : Prop where
  guardLowered : record.tryGuard = 0
  unowned_iff : record.owner = none ↔ record.lockIndex = unlocked

/-- The record as it stands whenever the latch is free. -/
structure Sound (record : Record) : Prop extends Coherent record where
  resolved : record.kind ≠ .byDefault
  processPrivate : record.sharing = .processPrivate
  counted : -1 ≤ record.lockIndex.toInt
  single : record.kind.isRecursive = false → record.lockIndex.toInt ≤ 0

/-- The record with one waiter more, which is the last one. -/
def countWaiter (record : Record) (me : ThreadId) : Record :=
  { record with
    waiters := if record.waiters = -1 then record.waiters else record.waiters + 1
    lastWaiter := some me }

/-- The counter at its lowest is the counter of a free mutex. -/
theorem lockIndex_eq_unlocked {record : Record} :
    record.lockIndex = unlocked ↔ record.lockIndex.toInt = -1 := by
  rw [← Int32.toInt_inj]
  rfl

@[simp] theorem unclaim_claim (record : Record) : record.claim.unclaim = record := by
  simp [claim, unclaim]

/-- A losing attempt takes its claim back. -/
@[simp] theorem enterWait_claim (record : Record) (me : ThreadId) :
    record.claim.enterWait me = record.countWaiter me :=
  unclaim_claim (record.countWaiter me)

/-- Somebody waits, once somebody is counted. -/
theorem waiters_countWaiter_pos (record : Record) (me : ThreadId) :
    0 < (record.countWaiter me).waiters := by
  unfold countWaiter
  grind

/-- A claim that has room raises the counter by one. -/
theorem toInt_lockIndex_claim
    {record : Record}
    (room : record.lockIndex.toInt + 1 < 2 ^ 31) :
    record.claim.lockIndex.toInt = record.lockIndex.toInt + 1 := by
  have least := Int32.le_toInt record.lockIndex
  have one : (1 : Int32).toInt = 1 := rfl
  rw [claim, Int32.toInt_add, one, Int.bmod_eq_of_le] <;> omega

/-- A claim given back lowers the counter by one. -/
theorem toInt_lockIndex_unclaim
    {record : Record}
    (counted : 0 ≤ record.lockIndex.toInt) :
    record.unclaim.lockIndex.toInt = record.lockIndex.toInt - 1 := by
  have greatest := Int32.toInt_lt record.lockIndex
  have one : (1 : Int32).toInt = 1 := rfl
  rw [unclaim, Int32.toInt_sub, one, Int.bmod_eq_of_le] <;> omega

/-- As long as the counter has room, the depth is what it counts. -/
theorem toNat_depth
    {record : Record}
    (counted : -1 ≤ record.lockIndex.toInt)
    (room : record.lockIndex.toInt + 1 < 2 ^ 31) :
    (record.depth.toNat : Int) = record.lockIndex.toInt + 1 := by
  have acquisitions : record.lockIndex - unlocked = record.claim.lockIndex := by
    unfold unlocked claim
    grind
  have claimed := toInt_lockIndex_claim room
  have nonnegative : 0 ≤ record.claim.lockIndex := by
    rw [Int32.le_iff_toInt_le, claimed]
    change 0 ≤ record.lockIndex.toInt + 1
    omega
  have depth : record.depth = record.claim.lockIndex.toUInt32 := by
    simp [Record.depth, acquisitions, Int32.not_lt.mpr nonnegative]
  rw [depth, Int32.toNat_toUInt32_of_le nonnegative, ← claimed]
  change ((record.claim.lockIndex.toInt.toNat : Nat) : Int) = _
  omega

/-- What an attempt on a record comes to, with the guard lowered. -/
inductive Attempted (record : Record) (me : ThreadId) : Turn → Prop where
  | takes
      (free : record.lockIndex = unlocked)
      (first : ¬ (0 < record.waiters ∧ record.lastOwner = some me)) :
      Attempted record me ⟨.acquired, record.claim.take me, []⟩
  | resets
      (free : record.lockIndex = unlocked)
      (awaited : 0 < record.waiters)
      (back : record.lastOwner = some me)
      (alone : record.lastWaiter = some me) :
      Attempted record me
        ⟨.acquired, { record.claim.take me with waiters := 0 }, [.staleWaiterReset]⟩
  | defers
      (free : record.lockIndex = unlocked)
      (awaited : 0 < record.waiters)
      (back : record.lastOwner = some me)
      (contended : record.lastWaiter ≠ some me) :
      Attempted record me ⟨.parked, record.countWaiter me, [.fairnessDeferral]⟩
  | relocks
      (held : record.lockIndex ≠ unlocked)
      (owned : record.owner = some me)
      (recursive : record.kind.isRecursive = true) :
      Attempted record me ⟨.acquired, record.claim.take me, []⟩
  | refuses
      (held : record.lockIndex ≠ unlocked)
      (owned : record.owner = some me)
      (checked : record.kind = .errorCheck) :
      Attempted record me ⟨.deadlocked, record, [.deadlockReported]⟩
  | waits
      (held : record.lockIndex ≠ unlocked)
      (blocked :
        record.owner = some me → record.kind.isRecursive = false ∧ record.kind ≠ .errorCheck) :
      Attempted record me ⟨.parked, record.countWaiter me, []⟩

/-- An attempt comes to one of the six endings. -/
theorem attempt_cases
    (record : Record)
    (lowered : record.tryGuard = 0)
    (me : ThreadId) :
    Attempted record me (record.attempt me) := by
  unfold attempt
  split
  · rename_i free
    split
    · rename_i awaited
      split
      · rename_i alone
        exact .resets free awaited.1 awaited.2 alone
      · rename_i contended
        simpa using Attempted.defers free awaited.1 awaited.2 contended
    · rename_i first
      exact .takes free first
  · rename_i held
    split
    · contradiction
    · split
      · rename_i relock
        exact .relocks held relock.1 relock.2
      · rename_i notRelock
        split
        · rename_i refused
          simpa using Attempted.refuses held refused.1 refused.2
        · rename_i notRefused
          have blocked :
              record.owner = some me →
                record.kind.isRecursive = false ∧ record.kind ≠ .errorCheck := by
            intro owned
            constructor
            · simpa [owned] using notRelock
            · intro checked
              exact notRefused ⟨owned, checked⟩
          simpa using Attempted.waits held blocked

/-- An owner with acquisitions to spare stays owner. -/
theorem release_of_nested
    {record : Record}
    {me : ThreadId}
    (owned : record.owner = some me)
    (recursive : record.kind.isRecursive = true)
    (nested : record.lockIndex ≠ 0) :
    record.release me = (.ok (), record.unclaim) := by
  simp [release, owned, recursive, nested]

/-- An owner without acquisitions to spare lets go. -/
theorem release_of_outermost
    {record : Record}
    {me : ThreadId}
    (owned : record.owner = some me)
    (outermost : record.kind.isRecursive = true → record.lockIndex = 0) :
    record.release me = (.ok (), { record with owner := none }.unclaim) := by
  by_cases recursive : record.kind.isRecursive = true
  · simp [release, owned, outermost recursive]
  · simp [release, owned, recursive]

/-- Only the owner releases. -/
theorem release_of_stranger
    {record : Record}
    {me : ThreadId}
    (stranger : record.owner ≠ some me) :
    record.release me = (.error .permissionDenied, record) := by
  simp [release, stranger]

/-- A fresh record is free. -/
theorem lockIndex_fresh (attributes : Option Attributes) :
    (fresh attributes).lockIndex = unlocked :=
  rfl

/-- An attempt on a fresh record takes it. -/
theorem attempt_fresh (attributes : Option Attributes) (me : ThreadId) :
    (fresh attributes).attempt me = ⟨.acquired, (fresh attributes).claim.take me, []⟩ := by
  simp [attempt, fresh, claim]

/-- The try-lock that a mutex found free is always taken. -/
theorem tryTake_of_free
    {record : Record}
    (free : record.lockIndex = unlocked)
    (me : ThreadId) :
    record.tryTake me = (.taken, record.claim.take me) := by
  simp [tryTake, free, raiseGuard, lowerGuard, claim, take]

/-- The try-lock that a mutex found held leaves it alone. -/
theorem tryTake_of_held
    {record : Record}
    (held : record.lockIndex ≠ unlocked)
    (me : ThreadId) :
    record.tryTake me = (.held, record) := by
  simp [tryTake, held]

/-- Coming back from the wait loop changes the count of waiters only. -/
theorem leaveWait_eq (record : Record) :
    ∃ waiters, record.leaveWait = { record with waiters } := by
  unfold leaveWait
  split
  · exact ⟨record.waiters, rfl⟩
  · exact ⟨_, rfl⟩

end Record

namespace Slot

/-- Whatever record the slot holds is coherent. -/
def Coherent (slot : Slot) : Prop :=
  ∀ record, slot = .constructed record → record.Coherent

/-- Whatever record the slot holds is sound. -/
def Sound (slot : Slot) : Prop :=
  ∀ record, slot = .constructed record → record.Sound

/-- Whatever record the slot holds has its guard lowered. -/
def Lowered (slot : Slot) : Prop :=
  ∀ record, slot = .constructed record → record.tryGuard = 0

theorem Sound.lowered {slot : Slot} (sound : slot.Sound) : slot.Lowered := by
  intro record finds
  exact (sound record finds).guardLowered

/-- The record that a lock is attempted on, if its allocation succeeds. -/
def offered : Slot → Option Record
  | .empty => none
  | .sentinel => some (Record.fresh none)
  | .constructed record => some record

end Slot

namespace Visit

/-- The record that an attempt starts from, given the one that the visit finds. -/
def meets (visit : Visit) (record : Record) : Record :=
  if visit.resumed then record.leaveWait else record

/-- What a visit comes to and what it leaves, by what it finds. -/
inductive Leaves (visit : Visit) : Deed → Slot → Prop where
  | keeps :
      Leaves visit .nothing visit.slot
  | empties :
      Leaves visit .renews .empty
  | declares :
      Leaves visit .renews .sentinel
  | creates
      (attributes : Option Attributes)
      (processPrivate : (attributes.getD {}).sharing = .processPrivate) :
      Leaves visit .renews (.constructed (Record.fresh attributes))
  | takes
      {record : Record} (waiters : UInt32)
      (offers : visit.slot.offered = some record)
      (free : record.lockIndex = unlocked) :
      Leaves visit .acquires
        (.constructed { record.claim.take visit.thread with waiters })
  | relocks
      {record : Record} (waiters : UInt32)
      (finds : visit.slot = .constructed record)
      (held : record.lockIndex ≠ unlocked)
      (owned : record.owner = some visit.thread)
      (recursive : record.kind.isRecursive = true)
      (uncounted : visit.resumed = false → waiters = record.waiters) :
      Leaves visit .acquires
        (.constructed { record.claim.take visit.thread with waiters })
  | parks
      {record : Record}
      (finds : visit.slot = .constructed record)
      (lock : visit.operation = .lock) :
      Leaves visit .parks
        (.constructed ((visit.meets record).countWaiter visit.thread))
  | refuses
      {record : Record} (waiters : UInt32)
      (finds : visit.slot = .constructed record)
      (owned : record.owner = some visit.thread)
      (checked : record.kind = .errorCheck)
      (uncounted : visit.resumed = false → waiters = record.waiters) :
      Leaves visit .nothing (.constructed { record with waiters })
  | unlocks
      {record : Record}
      (finds : visit.slot = .constructed record)
      (owned : record.owner = some visit.thread)
      (recursive : record.kind.isRecursive = true)
      (nested : record.lockIndex ≠ 0) :
      Leaves visit .releases (.constructed record.unclaim)
  | frees
      {record : Record}
      (finds : visit.slot = .constructed record)
      (owned : record.owner = some visit.thread)
      (outermost : record.kind.isRecursive = true → record.lockIndex = 0) :
      Leaves visit .releases (.constructed { record with owner := none }.unclaim)

/-- A lock that finds a record makes one attempt on it. -/
theorem done_of_lock
    {visit : Visit}
    {record : Record}
    (lock : visit.operation = .lock)
    (finds : visit.slot = .constructed record) :
    visit.done = Slot.attempt (visit.meets record) visit.thread visit.budget [] := by
  unfold done meets
  split
  · simp [Slot.resume, finds]
  · simp [lock, Operation.enter, Slot.lock, Slot.materialize, finds]

/-- A visit of anything but a lock runs its operation from the start. -/
theorem done_of_ne_lock
    {visit : Visit}
    (admitted : visit.Admitted)
    (single : visit.operation ≠ .lock) :
    visit.done = visit.operation.enter visit.thread visit.slot visit.budget := by
  unfold done
  split
  · rename_i resumed
    exact (single (admitted.onlyLocksResume resumed)).elim
  · rfl

/-- What an attempt starts from differs in the count of waiters only. -/
theorem meets_eq (visit : Visit) (record : Record) :
    ∃ waiters,
      visit.meets record = { record with waiters } ∧
        (visit.resumed = false → waiters = record.waiters) := by
  unfold meets
  split
  · rename_i resumed
    obtain ⟨waiters, left⟩ := record.leaveWait_eq
    exact ⟨waiters, left, by simp [resumed]⟩
  · exact ⟨record.waiters, rfl, fun _ => rfl⟩

/-- The deed and the slot that an attempt of a lock comes to. -/
theorem leaves_of_attempt
    {visit : Visit}
    {record : Record}
    (lock : visit.operation = .lock)
    (finds : visit.slot = .constructed record)
    (lowered : record.tryGuard = 0) :
    visit.Leaves visit.deed visit.done.slot := by
  have done := done_of_lock lock finds
  obtain ⟨waiters, meets, uncounted⟩ := visit.meets_eq record
  have attempted :=
    (visit.meets record).attempt_cases (by rw [meets]; exact lowered) visit.thread
  generalize turnIs : (visit.meets record).attempt visit.thread = turn at attempted
  have progress : visit.done.progress = Slot.progressOf turn.decision := by
    simp [done, Slot.attempt, turnIs]
  have left : visit.done.slot = .constructed turn.record := by
    simp [done, Slot.attempt, turnIs]
  have offers : visit.slot.offered = some record := by
    simp [finds, Slot.offered]
  rw [deed, lock, progress, left]
  cases attempted with
  | takes free first =>
      rw [meets] at free ⊢
      exact .takes waiters offers free
  | resets free awaited back alone =>
      rw [meets] at free ⊢
      change visit.Leaves .acquires
        (.constructed { record.claim.take visit.thread with waiters := 0 })
      exact .takes 0 offers free
  | defers free awaited back contended =>
      exact .parks finds lock
  | relocks held owned recursive =>
      rw [meets] at held owned recursive ⊢
      exact .relocks waiters finds held owned recursive uncounted
  | refuses held owned checked =>
      rw [meets] at owned checked ⊢
      exact .refuses waiters finds owned checked uncounted
  | waits held blocked =>
      exact .parks finds lock

/-- A visit that is refused comes to nothing, unless it is a create. -/
theorem deed_of_refused
    {visit : Visit}
    {fault : Fault}
    (kept : ∀ attributes, visit.operation ≠ .create attributes)
    (refused : visit.done.progress = .finished (.error fault)) :
    visit.deed = .nothing := by
  rw [deed, refused]
  split <;> simp_all

/-- A visit that is refused and leaves the slot alone is one of those listed. -/
theorem leaves_of_refused
    {visit : Visit}
    {fault : Fault}
    (kept : ∀ attributes, visit.operation ≠ .create attributes)
    (refused : visit.done.progress = .finished (.error fault))
    (same : visit.done.slot = visit.slot) :
    visit.Leaves visit.deed visit.done.slot := by
  rw [deed_of_refused kept refused, same]
  exact .keeps

/-- A lock takes the fresh record of a sentinel, unless there is no memory for it. -/
theorem leaves_of_materialize
    {visit : Visit}
    (lock : visit.operation = .lock)
    (arrives : visit.resumed = false)
    (finds : visit.slot = .sentinel) :
    visit.Leaves visit.deed visit.done.slot := by
  have done : visit.done = visit.slot.lock visit.thread visit.budget := by
    simp [Visit.done, arrives, lock, Operation.enter]
  have offers : visit.slot.offered = some (Record.fresh none) := by
    rw [finds, Slot.offered]
  rw [Slot.lock, finds, Slot.materialize] at done
  by_cases empty : visit.budget.failures = 0
  · rw [Budget.allocate_of_empty empty] at done
    simp only [Slot.attempt, Record.attempt_fresh] at done
    rw [deed, lock, done]
    exact .takes 0 offers (Record.lockIndex_fresh none)
  · rw [Budget.allocate_of_positive empty] at done
    apply leaves_of_refused (by simp [lock]) (by rw [done])
    rw [done, finds]

/-- A create leaves a fresh record, or the sentinel where there is no memory for it. -/
theorem done_of_create
    {visit : Visit}
    {attributes : Option Attributes}
    (admitted : visit.Admitted)
    (create : visit.operation = .create attributes) :
    (visit.done.progress = .finished (.ok .done) ∧
        visit.done.slot = .constructed (.fresh attributes)) ∨
      (visit.done.progress = .finished (.error .outOfMemory) ∧ visit.done.slot = .sentinel) := by
  have done := done_of_ne_lock admitted (by simp [create])
  rw [create, Operation.enter, Slot.create] at done
  by_cases empty : visit.budget.failures = 0
  · rw [Budget.allocate_of_empty empty] at done
    rw [done]
    exact .inl ⟨rfl, rfl⟩
  · rw [Budget.allocate_of_positive empty] at done
    rw [done]
    exact .inr ⟨rfl, rfl⟩

/-- Only attributes that keep the mutex to its process are let in, and a create renews. -/
theorem leaves_of_create
    {visit : Visit}
    {attributes : Option Attributes}
    (admitted : visit.Admitted)
    (create : visit.operation = .create attributes) :
    visit.Leaves visit.deed visit.done.slot := by
  have processPrivate : (attributes.getD {}).sharing = .processPrivate := by
    have accepted := admitted.accepted
    rw [create] at accepted
    cases attributes with
    | none =>
        rfl
    | some attributes =>
        cases sharing : attributes.sharing <;>
          simp_all [Operation.isRefused]
  rcases done_of_create admitted create with ⟨finished, built⟩ | ⟨failed, declared⟩
  · rw [deed, create, finished, built]
    exact .creates attributes processPrivate
  · rw [deed, create, failed, declared]
    exact .declares

/-- A destroy empties what nobody owns. -/
theorem leaves_of_destroy
    {visit : Visit}
    (admitted : visit.Admitted)
    (destroy : visit.operation = .destroy) :
    visit.Leaves visit.deed visit.done.slot := by
  have done := done_of_ne_lock admitted (by simp [destroy])
  rw [destroy, Operation.enter, Operation.plain] at done
  cases finds : visit.slot with
  | empty =>
      rw [finds, Slot.destroy] at done
      exact leaves_of_refused (by simp [destroy]) (by rw [done]; rfl) (by rw [done, finds])
  | sentinel =>
      rw [finds, Slot.destroy] at done
      rw [deed, destroy, done]
      exact .empties
  | constructed record =>
      rw [finds, Slot.destroy] at done
      cases owner : record.owner with
      | none =>
          simp only [owner, Option.isSome_none, Bool.false_eq_true, ↓reduceIte] at done
          rw [deed, destroy, done]
          exact .empties
      | some thread =>
          simp only [owner, Option.isSome_some, ↓reduceIte] at done
          exact leaves_of_refused (by simp [destroy]) (by rw [done]; rfl) (by rw [done, finds])

/-- An unlock gives back one acquisition of the owner. -/
theorem leaves_of_unlock
    {visit : Visit}
    (admitted : visit.Admitted)
    (unlock : visit.operation = .unlock) :
    visit.Leaves visit.deed visit.done.slot := by
  have done := done_of_ne_lock admitted (by simp [unlock])
  rw [unlock, Operation.enter, Operation.plain] at done
  cases finds : visit.slot with
  | empty | sentinel =>
      rw [finds, Slot.unlock] at done
      exact leaves_of_refused (by simp [unlock]) (by rw [done]; rfl) (by rw [done, finds])
  | constructed record =>
      rw [finds, Slot.unlock] at done
      by_cases owned : record.owner = some visit.thread
      · by_cases nested : record.kind.isRecursive = true ∧ record.lockIndex ≠ 0
        · rw [Record.release_of_nested owned nested.1 nested.2] at done
          rw [deed, unlock, done]
          exact .unlocks finds owned nested.1 nested.2
        · have outermost : record.kind.isRecursive = true → record.lockIndex = 0 := by
            simpa using nested
          rw [Record.release_of_outermost owned outermost] at done
          rw [deed, unlock, done]
          exact .frees finds owned outermost
      · rw [Record.release_of_stranger owned] at done
        exact leaves_of_refused (by simp [unlock]) (by rw [done]; rfl) (by rw [done, finds])

/-- A try-lock takes a free mutex and leaves a held one alone, its own included. -/
theorem leaves_of_tryLock
    {visit : Visit}
    (admitted : visit.Admitted)
    (tryLock : visit.operation = .tryLock) :
    visit.Leaves visit.deed visit.done.slot := by
  have done := done_of_ne_lock admitted (by simp [tryLock])
  rw [tryLock, Operation.enter, Slot.tryLock] at done
  cases finds : visit.slot with
  | empty =>
      rw [finds, Slot.materialize] at done
      exact leaves_of_refused (by simp [tryLock]) (by rw [done]) (by rw [done, finds])
  | sentinel =>
      have offers : visit.slot.offered = some (Record.fresh none) := by
        rw [finds, Slot.offered]
      rw [finds, Slot.materialize] at done
      by_cases empty : visit.budget.failures = 0
      · rw [Budget.allocate_of_empty empty] at done
        simp only [Record.tryTake_of_free (Record.lockIndex_fresh none)] at done
        rw [deed, tryLock, done]
        exact .takes 0 offers (Record.lockIndex_fresh none)
      · rw [Budget.allocate_of_positive empty] at done
        exact leaves_of_refused (by simp [tryLock]) (by rw [done]) (by rw [done, finds])
  | constructed record =>
      rw [finds, Slot.materialize] at done
      by_cases free : record.lockIndex = unlocked
      · simp only [Record.tryTake_of_free free] at done
        rw [deed, tryLock, done]
        exact .takes record.waiters (by simp [finds, Slot.offered]) free
      · simp only [Record.tryTake_of_held free] at done
        exact leaves_of_refused (by simp [tryLock]) (by rw [done]; rfl) (by rw [done, finds])

/-- With the guard lowered nobody spins. -/
theorem progress_ne_spinning
    {visit : Visit}
    (admitted : visit.Admitted)
    (lowered : visit.slot.Lowered) :
    visit.done.progress ≠ .spinning := by
  by_cases lock : visit.operation = .lock
  · cases finds : visit.slot with
    | constructed record =>
        obtain ⟨waiters, meets, -⟩ := visit.meets_eq record
        have loweredMet : (visit.meets record).tryGuard = 0 := by
          rw [meets]
          exact lowered record finds
        have attempted := (visit.meets record).attempt_cases loweredMet visit.thread
        generalize attempts : (visit.meets record).attempt visit.thread = turn at attempted
        rw [done_of_lock lock finds, Slot.attempt, attempts]
        cases attempted <;> simp [Slot.progressOf]
    | empty =>
        unfold done
        split <;> simp [finds, lock, Slot.resume, Operation.enter, Slot.lock, Slot.materialize]
    | sentinel =>
        unfold done
        split
        · simp [finds, Slot.resume]
        · rw [lock, finds, Operation.enter, Slot.lock, Slot.materialize]
          by_cases empty : visit.budget.failures = 0
          · simp [Budget.allocate_of_empty empty, Slot.attempt, Record.attempt_fresh,
              Slot.progressOf]
          · simp [Budget.allocate_of_positive empty]
  · obtain ⟨result, finished⟩ :=
      Operation.enter_progress lock visit.thread visit.slot visit.budget
    rw [done_of_ne_lock admitted lock, finished]
    simp

/-- Every visit to a slot with its guard lowered is one of the kinds listed. -/
theorem leaves_of_lowered
    {visit : Visit}
    (admitted : visit.Admitted)
    (lowered : visit.slot.Lowered) :
    visit.Leaves visit.deed visit.done.slot := by
  cases operation : visit.operation with
  | create attributes =>
      exact leaves_of_create admitted operation
  | destroy =>
      exact leaves_of_destroy admitted operation
  | lock =>
      cases finds : visit.slot with
      | empty =>
          have refused :
              visit.done.progress = .finished (.error .invalidArgument) ∧
                visit.done.slot = .empty := by
            unfold done
            split
            · simp [finds, Slot.resume]
            · simp [operation, finds, Operation.enter, Slot.lock, Slot.materialize]
          exact leaves_of_refused (by simp [operation]) refused.1 (by rw [refused.2, finds])
      | sentinel =>
          cases resumed : visit.resumed with
          | false =>
              exact leaves_of_materialize operation resumed finds
          | true =>
              have done : visit.done = visit.slot.resume visit.thread visit.budget := by
                simp [Visit.done, resumed]
              rw [finds, Slot.resume] at done
              exact leaves_of_refused (by simp [operation]) (by rw [done]) (by rw [done, finds])
      | constructed record =>
          exact leaves_of_attempt operation finds (lowered record finds)
  | unlock =>
      exact leaves_of_unlock admitted operation
  | tryLock =>
      exact leaves_of_tryLock admitted operation
  | snapshot =>
      have done := done_of_ne_lock admitted (by simp [operation])
      rw [operation, Operation.enter] at done
      rw [deed, operation, done]
      cases seen : visit.slot.view <;> exact .keeps

/-- Every visit to a sound slot is one of the kinds listed. -/
theorem leaves
    {visit : Visit}
    (admitted : visit.Admitted)
    (sound : visit.slot.Sound) :
    visit.Leaves visit.deed visit.done.slot :=
  leaves_of_lowered admitted sound.lowered

end Visit

namespace Record.Sound

variable {record : Record}

/-- A fresh record that is private to its process is sound. -/
theorem fresh
    {attributes : Option Attributes}
    (processPrivate : (attributes.getD {}).sharing = .processPrivate) :
    (Record.fresh attributes).Sound where
  resolved := Kind.resolve_ne_byDefault _
  processPrivate := processPrivate
  guardLowered := rfl
  unowned_iff := by simp [Record.fresh]
  counted := by
    rw [lockIndex_fresh]
    decide
  single := by
    intro _
    rw [lockIndex_fresh]
    decide

/-- A held record counts from zero. -/
theorem counted_of_held (sound : record.Sound) (held : record.lockIndex ≠ unlocked) :
    0 ≤ record.lockIndex.toInt := by
  have counted := sound.counted
  rw [ne_eq, lockIndex_eq_unlocked] at held
  omega

/-- An owned record is held. -/
theorem held_of_owned
    {thread : ThreadId}
    (sound : record.Sound)
    (owned : record.owner = some thread) :
    record.lockIndex ≠ unlocked := by
  intro free
  simp [sound.unowned_iff.mpr free] at owned

/-- A record that is held only once counts zero. -/
theorem lockIndex_of_single
    {thread : ThreadId}
    (sound : record.Sound)
    (owned : record.owner = some thread)
    (single : record.kind.isRecursive = false) :
    record.lockIndex.toInt = 0 := by
  have counted := sound.counted_of_held (sound.held_of_owned owned)
  have once := sound.single single
  omega

/-- An owner about to let go counts zero. -/
theorem lockIndex_of_outermost
    {thread : ThreadId}
    (sound : record.Sound)
    (owned : record.owner = some thread)
    (outermost : record.kind.isRecursive = true → record.lockIndex = 0) :
    record.lockIndex.toInt = 0 := by
  cases recursive : record.kind.isRecursive with
  | true =>
      rw [outermost recursive]
      rfl
  | false =>
      exact sound.lockIndex_of_single owned recursive

/-- The bookkeeping of waiters has no part in soundness. -/
theorem withWaiters (sound : record.Sound) (waiters : UInt32) (last : Option ThreadId) :
    { record with waiters, lastWaiter := last }.Sound where
  resolved := sound.resolved
  processPrivate := sound.processPrivate
  guardLowered := sound.guardLowered
  unowned_iff := sound.unowned_iff
  counted := sound.counted
  single := sound.single

/-- Taking keeps a record sound, if the counter of a relock has room. -/
theorem take
    (sound : record.Sound)
    (me : ThreadId)
    (waiters : UInt32)
    (entitled : record.lockIndex = unlocked ∨ record.kind.isRecursive = true)
    (room : record.lockIndex.toInt + 1 < 2 ^ 31) :
    { record.claim.take me with waiters }.Sound := by
  have claimed := toInt_lockIndex_claim room
  have counted := sound.counted
  refine
    { resolved := sound.resolved
      processPrivate := sound.processPrivate
      guardLowered := sound.guardLowered
      unowned_iff := ?_
      counted := ?_
      single := ?_ }
  · have held : record.claim.lockIndex ≠ unlocked := by
      rw [ne_eq, lockIndex_eq_unlocked]
      omega
    simpa [Record.take] using held
  · change -1 ≤ record.claim.lockIndex.toInt
    omega
  · intro single
    change record.claim.lockIndex.toInt ≤ 0
    rcases entitled with free | recursive
    · rw [lockIndex_eq_unlocked] at free
      omega
    · exact absurd (recursive.symm.trans single) (by decide)

/-- Giving back a nested acquisition keeps a record sound. -/
theorem unclaim
    {thread : ThreadId}
    (sound : record.Sound)
    (owned : record.owner = some thread)
    (nested : record.lockIndex ≠ 0) :
    record.unclaim.Sound := by
  have counted := sound.counted_of_held (sound.held_of_owned owned)
  have positive : record.lockIndex.toInt ≠ 0 := by
    intro zero
    exact nested (Int32.toInt_inj.mp zero)
  have unclaimed := toInt_lockIndex_unclaim counted
  refine
    { resolved := sound.resolved
      processPrivate := sound.processPrivate
      guardLowered := sound.guardLowered
      unowned_iff := ?_
      counted := ?_
      single := ?_ }
  · have held : record.unclaim.lockIndex ≠ unlocked := by
      rw [ne_eq, lockIndex_eq_unlocked]
      omega
    simpa [Record.unclaim, owned] using held
  · omega
  · intro single
    have once := sound.single single
    omega

/-- Letting go of the outermost acquisition keeps a record sound. -/
theorem free
    {thread : ThreadId}
    (sound : record.Sound)
    (owned : record.owner = some thread)
    (outermost : record.kind.isRecursive = true → record.lockIndex = 0) :
    { record with owner := none }.unclaim.Sound := by
  have zero := sound.lockIndex_of_outermost owned outermost
  have freed : record.unclaim.lockIndex.toInt = -1 := by
    rw [toInt_lockIndex_unclaim (by omega), zero]
    rfl
  exact
    { resolved := sound.resolved
      processPrivate := sound.processPrivate
      guardLowered := sound.guardLowered
      unowned_iff := by
        refine ⟨fun _ => lockIndex_eq_unlocked.mpr freed, fun _ => rfl⟩
      counted := by
        change -1 ≤ record.unclaim.lockIndex.toInt
        omega
      single := by
        intro _
        change record.unclaim.lockIndex.toInt ≤ 0
        omega }

end Record.Sound

namespace Slot

/-- A slot that holds no record is sound. -/
theorem sound_of_unbuilt {slot : Slot} (unbuilt : ∀ record, slot ≠ .constructed record) :
    slot.Sound := by
  intro record finds
  exact (unbuilt record finds).elim

/-- The record of a slot is sound with it. -/
theorem sound_constructed {record : Record} :
    (Slot.constructed record).Sound ↔ record.Sound := by
  simp [Sound]

theorem Sound.coherent {slot : Slot} (sound : slot.Sound) : slot.Coherent := by
  intro record finds
  exact (sound record finds).toCoherent

/-- What a sound slot offers is sound. -/
theorem Sound.offered
    {slot : Slot}
    {record : Record}
    (sound : slot.Sound)
    (offers : slot.offered = some record) :
    record.Sound := by
  cases slot with
  | empty =>
      contradiction
  | sentinel =>
      cases offers
      exact .fresh rfl
  | constructed found =>
      cases offers
      exact sound record rfl

end Slot

/-- A visit keeps a slot sound, if the counter of an acquisition has room. -/
theorem Visit.done_sound
    {visit : Visit}
    (admitted : visit.Admitted)
    (sound : visit.slot.Sound)
    (room :
      ∀ record,
        visit.slot = .constructed record →
        visit.deed = .acquires →
        record.lockIndex.toInt + 1 < 2 ^ 31) :
    visit.done.slot.Sound := by
  have leaves := Visit.leaves admitted sound
  generalize deedIs : visit.deed = deed at leaves
  generalize visit.done.slot = left at leaves
  cases leaves with
  | keeps =>
      exact sound
  | empties | declares =>
      exact Slot.sound_of_unbuilt (by simp)
  | creates attributes processPrivate =>
      exact Slot.sound_constructed.mpr (.fresh processPrivate)
  | takes waiters offers free =>
      have before := sound.offered offers
      have low : _ = -1 := Record.lockIndex_eq_unlocked.mp free
      exact Slot.sound_constructed.mpr (before.take _ waiters (.inl free) (by omega))
  | relocks waiters finds held owned recursive uncounted =>
      exact Slot.sound_constructed.mpr
        ((sound _ finds).take _ waiters (.inr recursive) (room _ finds deedIs))
  | parks finds lock =>
      obtain ⟨waiters, meets, -⟩ := visit.meets_eq _
      rw [meets]
      exact Slot.sound_constructed.mpr ((sound _ finds).withWaiters _ _)
  | refuses waiters finds owned checked uncounted =>
      exact Slot.sound_constructed.mpr ((sound _ finds).withWaiters _ _)
  | unlocks finds owned recursive nested =>
      exact Slot.sound_constructed.mpr ((sound _ finds).unclaim owned nested)
  | frees finds owned outermost =>
      exact Slot.sound_constructed.mpr ((sound _ finds).free owned outermost)

end LatchMutex
