import LatchMutex.Proofs.RecordSoundness

namespace LatchMutex

/-!
# Ownership is exclusive and exactly counted

`outstanding` counts, from the history alone, the acquisitions of a thread that
it has not given back since the record was last renewed.  The record keeps the
same account: its owner is the one thread with acquisitions outstanding, and its
counter is their number less one.  This holds after every step of every course
that is shallow, which means that the number of outstanding acquisitions stays
below the range of the counter.
-/

/-- Acquisitions of the present record that a thread has not given back. -/
def outstanding (thread : ThreadId) (history : List Visit) : Int :=
  let present := history.rtakeWhile fun visit => visit.deed ≠ .renews
  (present.countP fun visit => visit.thread = thread ∧ visit.deed = .acquires : Nat) -
    (present.countP fun visit => visit.thread = thread ∧ visit.deed = .releases : Nat)

/-- No record ever has as many outstanding acquisitions as its counter can tell apart. -/
def Shallow (history : List Visit) : Prop :=
  ∀ earlier, earlier <+: history → ∀ thread, outstanding thread earlier < 2 ^ 31

/-- What one visit adds to the account of a thread. -/
def Visit.gain (visit : Visit) (thread : ThreadId) : Int :=
  if visit.thread = thread then
    match visit.deed with
    | .acquires => 1
    | .releases => -1
    | _ => 0
  else
    0

@[simp] theorem outstanding_nil (thread : ThreadId) : outstanding thread [] = 0 := by
  simp [outstanding]

/-- A visit that renews the record clears every account, and each other one adds its gain. -/
theorem outstanding_snoc (thread : ThreadId) (history : List Visit) (visit : Visit) :
    outstanding thread (history ++ [visit]) =
      if visit.deed = .renews then
        0
      else
        outstanding thread history + visit.gain thread := by
  unfold outstanding Visit.gain
  by_cases renews : visit.deed = .renews
  · simp [renews]
  · rw [List.rtakeWhile_concat_pos _ _ _ (by simpa using renews)]
    by_cases mine : visit.thread = thread
    · cases deed : visit.deed <;> simp_all [List.countP_append] <;> omega
    · simp [renews, mine, List.countP_append]

namespace Shallow

/-- The beginning of a shallow history is shallow. -/
theorem of_append
    {history later : List Visit}
    (shallow : Shallow (history ++ later)) :
    Shallow history := by
  intro earlier isEarlier thread
  exact shallow earlier (isEarlier.trans (List.prefix_append _ _)) thread

/-- A short history is shallow. -/
theorem of_length_lt
    {history : List Visit}
    (short : history.length < 2 ^ 31) :
    Shallow history := by
  intro earlier isEarlier thread
  have length := isEarlier.length_le
  have present :
      (earlier.rtakeWhile fun visit => visit.deed ≠ .renews).length ≤ earlier.length :=
    (List.rtakeWhile_suffix _ _).length_le
  have acquired :=
    List.countP_le_length
      (p := fun visit : Visit => decide (visit.thread = thread ∧ visit.deed = .acquires))
      (l := earlier.rtakeWhile fun visit => visit.deed ≠ .renews)
  unfold outstanding
  simp only
  omega

end Shallow

/-- The acquisitions that a record counts for a thread. -/
def Record.share (record : Record) (thread : ThreadId) : Int :=
  if record.owner = some thread then record.lockIndex.toInt + 1 else 0

/-- The acquisitions that a slot counts for a thread. -/
def Slot.share (slot : Slot) (thread : ThreadId) : Int :=
  match slot with
  | .empty | .sentinel => 0
  | .constructed record => record.share thread

namespace Record

theorem share_of_ne
    {record : Record}
    {thread : ThreadId}
    (other : record.owner ≠ some thread) :
    record.share thread = 0 := by
  simp [share, other]

/-- A sound record that is free or the caller's own counts one acquisition more once taken. -/
theorem Sound.share_take
    {record : Record}
    {me : ThreadId}
    (sound : record.Sound)
    (mine : record.owner = none ∨ record.owner = some me)
    (room : record.lockIndex.toInt + 1 < 2 ^ 31)
    (waiters : UInt32)
    (thread : ThreadId) :
    { record.claim.take me with waiters }.share thread =
      record.share thread + if me = thread then 1 else 0 := by
  have claimed := toInt_lockIndex_claim room
  change (if some me = some thread then record.claim.lockIndex.toInt + 1 else 0) = _
  by_cases same : me = thread
  · subst same
    simp only [claimed, ↓reduceIte]
    rcases mine with unowned | owned
    · have low := lockIndex_eq_unlocked.mp (sound.unowned_iff.mp unowned)
      simp [share, unowned, low]
    · simp [share, owned]
  · have other : record.owner ≠ some thread := by
      rcases mine with unowned | owned
      · simp [unowned]
      · simpa [owned] using same
    simp [same, share_of_ne other]

/-- A sound record counts one acquisition less for an owner that gives one back. -/
theorem Sound.share_unclaim
    {record : Record}
    {me : ThreadId}
    (sound : record.Sound)
    (owned : record.owner = some me)
    (thread : ThreadId) :
    record.unclaim.share thread =
      record.share thread + if me = thread then -1 else 0 := by
  have unclaimed := toInt_lockIndex_unclaim (sound.counted_of_held (sound.held_of_owned owned))
  change (if record.owner = some thread then record.unclaim.lockIndex.toInt + 1 else 0) = _
  by_cases same : me = thread
  · subst same
    simp only [share, owned, unclaimed, ↓reduceIte]
    omega
  · simp [share, owned, same]

/-- A sound record counts nothing for an owner that lets go. -/
theorem Sound.share_free
    {record : Record}
    {me : ThreadId}
    (sound : record.Sound)
    (owned : record.owner = some me)
    (outermost : record.kind.isRecursive = true → record.lockIndex = 0)
    (thread : ThreadId) :
    { record with owner := none }.unclaim.share thread =
      record.share thread + if me = thread then -1 else 0 := by
  have zero := sound.lockIndex_of_outermost owned outermost
  change (if (none : Option ThreadId) = some thread then _ else (0 : Int)) = _
  by_cases same : me = thread
  · subst same
    simp [share, owned, zero]
  · simp [share, owned, same]

end Record

theorem Slot.share_of_offered
    {slot : Slot}
    {record : Record}
    (offers : slot.offered = some record)
    (thread : ThreadId) :
    slot.share thread = record.share thread := by
  cases slot with
  | empty =>
      contradiction
  | sentinel =>
      cases offers
      rfl
  | constructed found =>
      cases offers
      rfl

/-- A visit changes what a sound slot counts for a thread by its gain. -/
theorem Visit.share_done
    {visit : Visit}
    (admitted : visit.Admitted)
    (sound : visit.slot.Sound)
    (room :
      ∀ record,
        visit.slot = .constructed record →
        visit.deed = .acquires →
        record.lockIndex.toInt + 1 < 2 ^ 31)
    (thread : ThreadId) :
    visit.done.slot.share thread =
      if visit.deed = .renews then
        0
      else
        visit.slot.share thread + visit.gain thread := by
  have leaves := Visit.leaves admitted sound
  unfold Visit.gain
  generalize deedIs : visit.deed = deed at leaves
  generalize visit.done.slot = left at leaves
  cases leaves with
  | keeps =>
      simp
  | empties | declares =>
      simp [Slot.share]
  | creates attributes processPrivate =>
      simp [Slot.share, Record.share, Record.fresh]
  | takes waiters offers free =>
      have before := sound.offered offers
      have low := Record.lockIndex_eq_unlocked.mp free
      rw [Slot.share_of_offered offers, Slot.share,
        before.share_take (.inl (before.unowned_iff.mpr free)) (by omega)]
      rfl
  | relocks waiters finds held owned recursive uncounted =>
      rw [finds, Slot.share, (sound _ finds).share_take (.inr owned) (room _ finds deedIs)]
      rfl
  | @parks record finds lock =>
      obtain ⟨waiters, meets, -⟩ := visit.meets_eq record
      simp [finds, meets, Slot.share, Record.share, Record.countWaiter]
  | refuses waiters finds owned checked uncounted =>
      simp [finds, Slot.share, Record.share]
  | unlocks finds owned recursive nested =>
      rw [finds, Slot.share, (sound _ finds).share_unclaim owned]
      rfl
  | frees finds owned outermost =>
      rw [finds, Slot.share, (sound _ finds).share_free owned outermost]
      rfl

/-- A thread whose acquisition is counted had room for it. -/
theorem Visit.room_of_gain
    {visit : Visit}
    {record : Record}
    (admitted : visit.Admitted)
    (sound : visit.slot.Sound)
    (finds : visit.slot = .constructed record)
    (acquires : visit.deed = .acquires)
    (bounded : visit.slot.share visit.thread + visit.gain visit.thread < 2 ^ 31) :
    record.lockIndex.toInt + 1 < 2 ^ 31 := by
  have gain : visit.gain visit.thread = 1 := by
    simp [Visit.gain, acquires]
  have leaves := Visit.leaves admitted sound
  rw [acquires] at leaves
  generalize visit.done.slot = left at leaves
  cases leaves with
  | takes waiters offers free =>
      rw [finds] at offers
      cases offers
      have low := Record.lockIndex_eq_unlocked.mp free
      omega
  | relocks waiters found held owned recursive uncounted =>
      cases finds.symm.trans found
      simp only [gain, finds, Slot.share, Record.share, owned, ↓reduceIte] at bounded
      omega

/-- Along a shallow history a slot stays sound and counts what is outstanding. -/
theorem Linked.accounts
    {start last : Slot}
    {history : List Visit}
    (linked : Linked start history last)
    (unbuilt : ∀ record, start ≠ .constructed record)
    (shallow : Shallow history) :
    last.Sound ∧ ∀ thread, outstanding thread history = last.share thread := by
  revert shallow
  apply linked.visit_induction
    (motive := fun history slot =>
      Shallow history → slot.Sound ∧ ∀ thread, outstanding thread history = slot.share thread)
  · intro _
    refine ⟨Slot.sound_of_unbuilt unbuilt, ?_⟩
    intro thread
    cases start with
    | empty | sentinel =>
        simp [Slot.share]
    | constructed record =>
        exact (unbuilt record rfl).elim
  · intro earlier visit admitted inductionHypothesis shallow
    obtain ⟨sound, accounts⟩ := inductionHypothesis shallow.of_append
    -- The bound on what is outstanding now is the room that a relock needs.
    have room :
        ∀ record,
          visit.slot = .constructed record →
          visit.deed = .acquires →
          record.lockIndex.toInt + 1 < 2 ^ 31 := by
      intro record finds acquires
      have bounded := shallow _ (List.prefix_refl _) visit.thread
      rw [outstanding_snoc, accounts] at bounded
      simp only [acquires, reduceCtorEq, ↓reduceIte] at bounded
      exact Visit.room_of_gain admitted sound finds acquires bounded
    refine ⟨Visit.done_sound admitted sound room, ?_⟩
    intro thread
    rw [outstanding_snoc, Visit.share_done admitted sound room, accounts]

/-- Every visit of a shallow history finds a sound slot. -/
theorem Linked.finds_sound
    {start last : Slot}
    {history : List Visit}
    {visit : Visit}
    (linked : Linked start history last)
    (unbuilt : ∀ record, start ≠ .constructed record)
    (shallow : Shallow history)
    (member : visit ∈ history) :
    visit.Admitted ∧ visit.slot.Sound := by
  obtain ⟨earlier, later, rfl⟩ := List.append_of_mem member
  obtain ⟨middle, head, tail⟩ := linked.split
  cases tail with
  | cons admitted finds rest =>
      subst finds
      exact ⟨admitted, (head.accounts unbuilt (shallow.of_append)).1⟩

/-- After every shallow course the latch is free. -/
theorem Course.unlatched
    {handle : HandleId}
    {start : Slot}
    {run : List (ThreadId × Event)}
    {world : World}
    (course : Course handle start run world)
    (shallow : Shallow ((World.opening handle start).history handle run)) :
    (world.cells.get handle).holder = none := by
  obtain ⟨replies, ran⟩ := course.ran
  apply World.run?_unlatched ran course.kept
  · simp [World.opening, World.setCell]
  · intro visit member
    obtain ⟨admitted, sound⟩ := course.linked.finds_sound course.unbuilt shallow member
    exact Visit.progress_ne_spinning admitted sound.lowered

/-- What a record and the outstanding acquisitions of every thread have to do with each other. -/
structure Record.OwnedExactly (record : Record) (held : ThreadId → Int) : Prop where
  exclusive : ∀ first second, 0 < held first → 0 < held second → first = second
  nonnegative : ∀ thread, 0 ≤ held thread
  owner_iff : ∀ thread, record.owner = some thread ↔ 0 < held thread
  counter : ∀ thread, record.owner = some thread → record.lockIndex.toInt = held thread - 1
  free_iff : record.owner = none ↔ record.lockIndex.toInt = -1
  single :
    record.kind = .normal ∨ record.kind = .errorCheck →
      record.lockIndex.toInt = -1 ∨ record.lockIndex.toInt = 0
  resolved : record.kind ≠ .byDefault
  processPrivate : record.sharing = .processPrivate

/-- A sound record is owned exactly by what it counts. -/
theorem Record.Sound.ownedExactly
    {record : Record}
    (sound : record.Sound) :
    record.OwnedExactly record.share := by
  have owner_iff (thread : ThreadId) : record.owner = some thread ↔ 0 < record.share thread := by
    unfold Record.share
    constructor
    · intro owned
      have counted := sound.counted_of_held (sound.held_of_owned owned)
      simp only [owned, ↓reduceIte]
      omega
    · intro positive
      split at positive
      · assumption
      · omega
  refine
    { exclusive := ?_
      nonnegative := ?_
      owner_iff := owner_iff
      counter := ?_
      free_iff := sound.unowned_iff.trans Record.lockIndex_eq_unlocked
      single := ?_
      resolved := sound.resolved
      processPrivate := sound.processPrivate }
  · intro first second firstHolds secondHolds
    rw [← owner_iff] at firstHolds secondHolds
    simpa using firstHolds.symm.trans secondHolds
  · intro thread
    have counted := sound.counted
    unfold Record.share
    split <;> omega
  · intro thread owned
    simp [Record.share, owned]
  · intro single
    have counted := sound.counted
    have once : record.lockIndex.toInt ≤ 0 := by
      apply sound.single
      rcases single with normal | checked
      · simp [normal, Kind.isRecursive, Kind.resolve]
      · simp [checked, Kind.isRecursive, Kind.resolve]
    omega

/--
After every shallow course, whatever record the handle holds is owned by the one
thread with acquisitions outstanding, and counts exactly these.
-/
theorem Course.ownership_exact
    {handle : HandleId}
    {start : Slot}
    {run : List (ThreadId × Event)}
    {world : World}
    {record : Record}
    (course : Course handle start run world)
    (shallow : Shallow ((World.opening handle start).history handle run))
    (holds : world.slot handle = .constructed record) :
    record.OwnedExactly fun thread =>
      outstanding thread ((World.opening handle start).history handle run) := by
  obtain ⟨sound, accounts⟩ := course.linked.accounts course.unbuilt shallow
  rw [holds] at sound accounts
  have counted :
      (fun thread =>
          outstanding thread ((World.opening handle start).history handle run)) =
        record.share :=
    funext accounts
  rw [counted]
  exact (Slot.sound_constructed.mp sound).ownedExactly

/--
Thread 0 takes a sentinel, thread 1 parks behind it and retries, and thread 0
relocks, where a cancellation meets it at the end of the scope.
-/
def contendedRelock : List (ThreadId × Event) :=
  [(⟨0⟩, .call ⟨0⟩ .lock false), (⟨0⟩, .proceed), (⟨0⟩, .proceed),
    (⟨1⟩, .call ⟨0⟩ .lock false), (⟨1⟩, .proceed), (⟨1⟩, .proceed), (⟨1⟩, .proceed),
    (⟨0⟩, .makeHandle), (⟨0⟩, .setType .asynchronous), (⟨0⟩, .call ⟨0⟩ .lock false),
    (⟨0⟩, .proceed), (⟨2⟩, .request ⟨0⟩), (⟨0⟩, .proceed)]

/-- The record then: two acquisitions of thread 0, and thread 1 counted as a waiter. -/
def relockedTwice : Record where
  kind := .recursive
  sharing := .processPrivate
  lockIndex := 1
  owner := some ⟨0⟩
  waiters := 1
  lastOwner := some ⟨0⟩

theorem Course.ownership_exact_contendedRelock :
    ∃ world record,
      Course ⟨0⟩ .sentinel contendedRelock world ∧
        Shallow ((World.opening ⟨0⟩ .sentinel).history ⟨0⟩ contendedRelock) ∧
        world.slot ⟨0⟩ = .constructed record ∧
        record.owner = some ⟨0⟩ ∧
        record.lockIndex = 1 ∧
        record.OwnedExactly fun thread =>
          outstanding thread ((World.opening ⟨0⟩ .sentinel).history ⟨0⟩ contendedRelock) := by
  have course : Course ⟨0⟩ .sentinel contendedRelock _ :=
    Course.of_isSome (by simp) (by decide) (by decide)
  have shallow :
      Shallow ((World.opening ⟨0⟩ .sentinel).history ⟨0⟩ contendedRelock) :=
    .of_length_lt (by decide)
  exact ⟨_, relockedTwice, course, shallow, by decide, rfl, rfl,
    course.ownership_exact shallow (by decide)⟩

end LatchMutex
