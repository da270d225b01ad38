import LatchMutex.Proofs.ContestedTenures

namespace LatchMutex

/-!
# Deferrals are earned

A thread that gives way leaves the mutex free.  If another one could give way
next, everybody might yield forever.  `Record.credit` counts the deferrals that
a record still allows: taking the free mutex earns one, a deferral spends it, and
nothing else adds to it.  So two deferrals on a record have an acquisition of the
free mutex between them, and there are never more deferrals than such acquisitions.
-/

/-- Whether the visit gives way to a parked waiter. -/
def Visit.defers (visit : Visit) : Bool :=
  Branch.fairnessDeferral ∈ visit.done.branches

/-- Whether the visit takes a mutex that nobody holds. -/
def Visit.takesFree (visit : Visit) : Bool :=
  visit.deed = .acquires ∧ visit.slot.isFree

/-- The visits to the record that is there at the end of a history. -/
def present (history : List Visit) : List Visit :=
  history.rtakeWhile fun visit => visit.deed ≠ .renews

/-- The mutex is free, and somebody else stands between it and its last owner. -/
structure Record.Contends (record : Record) (me : ThreadId) : Prop where
  free : record.lockIndex = unlocked
  back : record.lastOwner = some me
  contended : record.lastWaiter ≠ some me

/-- Deferrals that a record allows before it is taken again. -/
def Record.credit (record : Record) : Nat :=
  if record.lockIndex = unlocked ∧ record.lastWaiter = record.lastOwner then 0 else 1

/-- Deferrals that a slot allows before its mutex is taken again. -/
def Slot.credit : Slot → Nat
  | .empty | .sentinel => 0
  | .constructed record => record.credit

namespace Record

/-- The last owner may give way. -/
theorem Contends.credit
    {record : Record}
    {me : ThreadId}
    (contends : record.Contends me) :
    record.credit = 1 := by
  have contended := contends.contended
  simp [Record.credit, contends.back, contended]

/-- Once it gave way, nobody may until the mutex is taken. -/
theorem Contends.credit_countWaiter
    {record : Record}
    {me : ThreadId}
    (contends : record.Contends me)
    (waiters : UInt32) :
    ({ record with waiters }.countWaiter me).credit = 0 := by
  simp [Record.credit, countWaiter, contends.free, contends.back]

end Record

namespace Slot

theorem credit_le_one (slot : Slot) : slot.credit ≤ 1 := by
  cases slot with
  | empty | sentinel =>
      simp [credit]
  | constructed record =>
      rw [credit, Record.credit]
      split <;> decide

/-- A held mutex allows a deferral once it is let go of. -/
theorem credit_of_held
    {slot : Slot}
    {record : Record}
    (finds : slot = .constructed record)
    (held : record.lockIndex ≠ unlocked) :
    slot.credit = 1 := by
  simp [finds, credit, Record.credit, held]

/-- The mutex that a slot offers is free with the slot. -/
theorem isFree_of_offered
    {slot : Slot}
    {record : Record}
    (offers : slot.offered = some record)
    (free : record.lockIndex = unlocked) :
    slot.isFree = true := by
  cases slot with
  | empty =>
      contradiction
  | sentinel =>
      rfl
  | constructed found =>
      cases offers
      simpa [isFree] using free

end Slot

namespace Visit

/-- Only a lock on a record comes to the fairness rule. -/
theorem finds_of_fairness
    {visit : Visit}
    {rule : Branch}
    (admitted : visit.Admitted)
    (fairness : rule = .fairnessDeferral ∨ rule = .staleWaiterReset)
    (branch : rule ∈ visit.done.branches) :
    visit.operation = .lock ∧ ∃ record, visit.slot = .constructed record := by
  have initializes : rule ≠ .lazyInit := by
    rcases fairness with rfl | rfl <;> simp
  have lock : visit.operation = .lock := by
    by_contra single
    rw [done_of_ne_lock admitted single] at branch
    cases operation : visit.operation with
    | lock =>
        exact single operation
    | create attributes =>
        simp only [operation, Operation.enter, Slot.create] at branch
        split at branch <;> simp at branch
    | tryLock =>
        rw [operation, Operation.enter, Slot.tryLock] at branch
        cases slot : visit.slot with
        | sentinel =>
            rw [slot, Slot.materialize] at branch
            by_cases empty : visit.budget.failures = 0
            · simp [Budget.allocate_of_empty empty, initializes] at branch
            · simp [Budget.allocate_of_positive empty] at branch
        | empty | constructed record =>
            simp [slot, Slot.materialize] at branch
    | destroy | unlock | snapshot =>
        simp [operation, Operation.enter, Operation.plain] at branch
  refine ⟨lock, ?_⟩
  cases slot : visit.slot with
  | constructed record =>
      exact ⟨record, rfl⟩
  | empty =>
      unfold done at branch
      split at branch <;>
        simp [slot, lock, Slot.resume, Operation.enter, Slot.lock, Slot.materialize] at branch
  | sentinel =>
      unfold done at branch
      split at branch
      · simp [slot, Slot.resume] at branch
      · rw [lock, slot, Operation.enter, Slot.lock, Slot.materialize] at branch
        by_cases empty : visit.budget.failures = 0
        · simp [Budget.allocate_of_empty empty, Slot.attempt, Record.attempt_fresh,
            initializes] at branch
        · simp [Budget.allocate_of_positive empty] at branch

/-- A lock gives way to contenders, or it parks behind a held mutex if it parks at all. -/
theorem contends_or_held
    {visit : Visit}
    {record : Record}
    (lock : visit.operation = .lock)
    (finds : visit.slot = .constructed record)
    (lowered : record.tryGuard = 0) :
    visit.defers = true ∧ visit.deed = .parks ∧ record.Contends visit.thread ∨
      visit.defers = false ∧ (visit.deed = .parks → record.lockIndex ≠ unlocked) := by
  obtain ⟨waiters, meets, -⟩ := visit.meets_eq record
  have done := done_of_lock lock finds
  have attempted :=
    (visit.meets record).attempt_cases (by rw [meets]; exact lowered) visit.thread
  generalize turnIs : (visit.meets record).attempt visit.thread = turn at attempted
  rw [Slot.attempt, turnIs] at done
  rw [meets] at attempted
  cases attempted with
  | defers free awaited back contended =>
      left
      refine ⟨?_, ?_, free, back, contended⟩
      · simp [Visit.defers, done]
      · simp [deed, lock, done, Slot.progressOf]
  | waits held blocked =>
      right
      exact ⟨by simp [Visit.defers, done], fun _ => held⟩
  | takes | resets | relocks | refuses =>
      right
      simp [Visit.defers, deed, lock, done, Slot.progressOf]

/-- A deferral parks the last owner of a free mutex. -/
theorem contends_of_defers
    {visit : Visit}
    (admitted : visit.Admitted)
    (sound : visit.slot.Sound)
    (defers : visit.defers = true) :
    visit.deed = .parks ∧
      ∃ record, visit.slot = .constructed record ∧ record.Contends visit.thread := by
  obtain ⟨lock, record, finds⟩ :=
    finds_of_fairness admitted (.inl rfl) (by simpa [Visit.defers] using defers)
  rcases contends_or_held lock finds (sound record finds).guardLowered with gave | kept
  · exact ⟨gave.2.1, record, finds, gave.2.2⟩
  · simp [defers] at kept

/-- A deferral spends the credit of the record, and only taking the free mutex earns one. -/
theorem credit_done
    {visit : Visit}
    (admitted : visit.Admitted)
    (sound : visit.slot.Sound)
    (kept : visit.deed ≠ .renews) :
    visit.defers.toNat + visit.done.slot.credit ≤
      visit.slot.credit + visit.takesFree.toNat := by
  have leaves := Visit.leaves admitted sound
  have atMost := visit.done.slot.credit_le_one
  cases defers : visit.defers with
  | true =>
      obtain ⟨parks, record, finds, contends⟩ := contends_of_defers admitted sound defers
      rw [parks] at leaves
      generalize visit.done.slot = left at leaves
      cases leaves with
      | parks found lock =>
          cases finds.symm.trans found
          obtain ⟨waiters, meets, -⟩ := visit.meets_eq record
          simp [finds, meets, Slot.credit, contends.credit, contends.credit_countWaiter]
  | false =>
      generalize deedIs : visit.deed = deed at leaves
      generalize visit.done.slot = left at leaves atMost
      rw [Bool.toNat_false, Nat.zero_add]
      cases leaves with
      | keeps =>
          omega
      | empties | declares | creates =>
          exact (kept deedIs).elim
      | takes waiters offers free =>
          have found := Slot.isFree_of_offered offers free
          have earns : visit.takesFree.toNat = 1 := by
            simp [Visit.takesFree, deedIs, found]
          omega
      | @parks record finds lock =>
          -- Who parks without giving way finds the mutex held.
          have held : record.lockIndex ≠ unlocked := by
            rcases contends_or_held lock finds (sound record finds).guardLowered with gave | waits
            · simp [defers] at gave
            · exact waits.2 deedIs
          have allowed := Slot.credit_of_held finds held
          omega
      | refuses waiters finds owned checked uncounted =>
          simp [finds, Slot.credit, Record.credit]
      | relocks waiters finds held owned recursive uncounted =>
          have allowed := Slot.credit_of_held finds held
          omega
      | unlocks finds owned | frees finds owned =>
          have allowed := Slot.credit_of_held finds ((sound _ finds).held_of_owned owned)
          omega

/-- A renewed slot allows no deferral before its mutex is taken. -/
theorem credit_of_renews
    {visit : Visit}
    (admitted : visit.Admitted)
    (sound : visit.slot.Sound)
    (renews : visit.deed = .renews) :
    visit.done.slot.credit = 0 := by
  have leaves := Visit.leaves admitted sound
  rw [renews] at leaves
  generalize visit.done.slot = left at leaves
  cases leaves with
  | empties | declares =>
      rfl
  | creates attributes processPrivate =>
      simp [Slot.credit, Record.credit, Record.fresh]

end Visit

/-- A visit counts for one where it is of the kind that is counted. -/
theorem countP_visit (kind : Visit → Bool) (visit : Visit) (rest : List Visit) :
    (visit :: rest).countP kind = rest.countP kind + (kind visit).toNat := by
  cases kinded : kind visit with
  | true =>
      rw [List.countP_cons_of_pos kinded, Bool.toNat_true]
  | false =>
      rw [List.countP_cons_of_neg (by simp [kinded]), Bool.toNat_false, Nat.add_zero]

/-- Along the visits to one record every deferral is paid for. -/
theorem Linked.credit
    {first last : Slot}
    {history : List Visit}
    (linked : Linked first history last)
    (sound : ∀ visit ∈ history, visit.slot.Sound)
    (kept : ∀ visit ∈ history, visit.deed ≠ .renews) :
    history.countP Visit.defers + last.credit ≤
      first.credit + history.countP Visit.takesFree := by
  induction linked with
  | nil =>
      simp
  | @cons visit rest first last admitted finds later inductionHypothesis =>
      subst finds
      rw [List.forall_mem_cons] at sound kept
      have spent := Visit.credit_done admitted sound.1 kept.1
      have final := inductionHypothesis sound.2 kept.2
      rw [countP_visit, countP_visit]
      omega

@[simp] theorem present_nil : present [] = [] :=
  rfl

/-- A visit that renews the record starts over, and each other one is added. -/
theorem present_snoc (history : List Visit) (visit : Visit) :
    present (history ++ [visit]) =
      if visit.deed = .renews then [] else present history ++ [visit] := by
  unfold present
  split
  · rename_i renews
    exact List.rtakeWhile_concat_neg _ _ _ (by simp [renews])
  · rename_i kept
    exact List.rtakeWhile_concat_pos _ _ _ (by simpa using kept)

/-- On the present record every deferral is paid for. -/
theorem Linked.credit_present
    {start last : Slot}
    {history : List Visit}
    (linked : Linked start history last)
    (unbuilt : ∀ record, start ≠ .constructed record)
    (sound : ∀ visit ∈ history, visit.slot.Sound) :
    (present history).countP Visit.defers + last.credit ≤
      (present history).countP Visit.takesFree := by
  revert sound
  apply linked.visit_induction
    (motive := fun history slot =>
      (∀ visit ∈ history, visit.slot.Sound) →
        (present history).countP Visit.defers + slot.credit ≤
          (present history).countP Visit.takesFree)
  · intro _
    cases start with
    | empty | sentinel =>
        simp [Slot.credit]
    | constructed record =>
        exact (unbuilt record rfl).elim
  · intro earlier visit admitted inductionHypothesis sound
    have soundHere := sound visit (by simp)
    have before := inductionHypothesis fun visit member => sound visit (by simp [member])
    rw [present_snoc]
    split
    · rename_i renews
      simp [Visit.credit_of_renews admitted soundHere renews]
    · rename_i kept
      have spent := Visit.credit_done admitted soundHere kept
      simp only [List.countP_append, countP_visit, List.countP_nil, Nat.zero_add]
      omega

/-- A history in which giving way never keeps the mutex from being taken. -/
structure GivesWayFairly (history : List Visit) : Prop where
  byLastOwner :
    ∀ visit ∈ history,
      visit.defers = true →
        ∃ record, visit.slot = .constructed record ∧ record.Contends visit.thread
  /-- Between two deferrals on a record the free mutex is taken. -/
  takenBetween :
    ∀ earlier first between second later,
      history = (earlier ++ [first]) ++ ((between ++ [second]) ++ later) →
      first.defers = true →
      second.defers = true →
      (∀ visit ∈ between, visit.deed ≠ .renews) →
      ∃ visit ∈ between, visit.takesFree = true
  bounded :
    ∀ earlier,
      earlier <+: history →
      (present earlier).countP Visit.defers ≤ (present earlier).countP Visit.takesFree

/-- Two deferrals on one record have an acquisition of the free mutex between them. -/
theorem Linked.taken_between
    {start last : Slot}
    {earlier between later : List Visit}
    {first second : Visit}
    (linked : Linked start ((earlier ++ [first]) ++ ((between ++ [second]) ++ later)) last)
    (sound :
      ∀ visit ∈ (earlier ++ [first]) ++ ((between ++ [second]) ++ later), visit.slot.Sound)
    (firstDefers : first.defers = true)
    (secondDefers : second.defers = true)
    (kept : ∀ visit ∈ between, visit.deed ≠ .renews) :
    ∃ visit ∈ between, visit.takesFree = true := by
  obtain ⟨middle, head, tail⟩ := linked.split
  obtain ⟨left, segment, -⟩ := tail.split
  obtain ⟨-, firstAdmitted, rfl⟩ := head.of_snoc
  obtain ⟨-, secondAdmitted, -⟩ := segment.of_snoc
  have firstSound := sound first (by simp)
  have secondSound := sound second (by simp)
  have firstParks := (Visit.contends_of_defers firstAdmitted firstSound firstDefers).1
  have secondParks := (Visit.contends_of_defers secondAdmitted secondSound secondDefers).1
  -- The first deferral spends the credit, so the second one was earned in between.
  have spent : first.done.slot.credit = 0 := by
    have once := Visit.credit_done firstAdmitted firstSound (by simp [firstParks])
    have allowed := first.slot.credit_le_one
    simp only [firstDefers, Visit.takesFree, firstParks, Bool.toNat_true, reduceCtorEq,
      false_and, decide_false, Bool.toNat_false] at once
    omega
  have earned :
      (between ++ [second]).countP Visit.defers ≤
        (between ++ [second]).countP Visit.takesFree := by
    have keptBoth : ∀ visit ∈ between ++ [second], visit.deed ≠ .renews := by
      intro visit member
      rcases List.mem_append.mp member with inside | last
      · exact kept visit inside
      · simp [List.mem_singleton.mp last, secondParks]
    have balance := segment.credit (fun visit member => sound visit (by grind)) keptBoth
    omega
  have notTaken : second.takesFree = false := by
    simp [Visit.takesFree, secondParks]
  simp only [List.countP_append, List.countP_singleton, secondDefers, notTaken,
    ↓reduceIte, Bool.false_eq_true] at earned
  exact List.countP_pos_iff.mp (by omega)

/--
In every shallow course only the last owner gives way, somebody takes the free
mutex between two deferrals on a record, and no record sees more deferrals than
acquisitions of the free mutex.
-/
theorem Course.gives_way_fairly
    {handle : HandleId}
    {start : Slot}
    {run : List (ThreadId × Event)}
    {world : World}
    (course : Course handle start run world)
    (shallow : Shallow ((World.opening handle start).history handle run)) :
    GivesWayFairly ((World.opening handle start).history handle run) := by
  have linked := course.linked
  generalize (World.opening handle start).history handle run = history at linked shallow
  have finds (visit : Visit) (member : visit ∈ history) :
      visit.Admitted ∧ visit.slot.Sound :=
    linked.finds_sound course.unbuilt shallow member
  refine ⟨?_, ?_, ?_⟩
  · intro visit member defers
    obtain ⟨admitted, sound⟩ := finds visit member
    exact (Visit.contends_of_defers admitted sound defers).2
  · rintro earlier first between second later rfl firstDefers secondDefers kept
    exact linked.taken_between (fun visit member => (finds visit member).2) firstDefers
      secondDefers kept
  · rintro earlier ⟨later, rfl⟩
    obtain ⟨middle, head, -⟩ := linked.split
    have balance :=
      head.credit_present course.unbuilt fun visit member =>
        (finds visit (List.mem_append_left _ member)).2
    omega

/--
Thread 1 parks behind thread 0, which unlocks and gives way at its next lock.
Thread 1 takes the mutex, unlocks it, and gives way to thread 0 in its turn.
-/
def mutualDeferral : List (ThreadId × Event) :=
  [(⟨0⟩, .call ⟨0⟩ .lock false), (⟨0⟩, .proceed), (⟨0⟩, .proceed),
    (⟨1⟩, .call ⟨0⟩ .lock false), (⟨1⟩, .proceed),
    (⟨0⟩, .call ⟨0⟩ .unlock false), (⟨0⟩, .proceed), (⟨0⟩, .proceed),
    (⟨0⟩, .call ⟨0⟩ .lock false), (⟨0⟩, .proceed),
    (⟨1⟩, .proceed), (⟨1⟩, .proceed), (⟨1⟩, .proceed),
    (⟨1⟩, .call ⟨0⟩ .unlock false), (⟨1⟩, .proceed), (⟨1⟩, .proceed),
    (⟨1⟩, .call ⟨0⟩ .lock false), (⟨1⟩, .proceed)]

theorem Course.gives_way_fairly_mutualDeferral :
    ∃ world,
      Course ⟨0⟩ .sentinel mutualDeferral world ∧
        Shallow ((World.opening ⟨0⟩ .sentinel).history ⟨0⟩ mutualDeferral) ∧
        ((World.opening ⟨0⟩ .sentinel).history ⟨0⟩ mutualDeferral).countP Visit.defers = 2 ∧
        GivesWayFairly ((World.opening ⟨0⟩ .sentinel).history ⟨0⟩ mutualDeferral) := by
  have course : Course ⟨0⟩ .sentinel mutualDeferral _ :=
    Course.of_isSome (by simp) (by decide) (by decide)
  have shallow : Shallow ((World.opening ⟨0⟩ .sentinel).history ⟨0⟩ mutualDeferral) :=
    .of_length_lt (by decide)
  exact ⟨_, course, shallow, by decide, course.gives_way_fairly shallow⟩

end LatchMutex
