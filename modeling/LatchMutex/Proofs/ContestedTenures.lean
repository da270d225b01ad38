import LatchMutex.Proofs.Ownership
import LatchMutex.Proofs.WaitLoops

namespace LatchMutex

/-!
# Contested tenures

A tenure goes from taking a free mutex to letting go of it.  If another thread
parked during it, the mutex is left with a waiter counted and with its last owner
on record, and no visit short of an acquisition undoes that.
-/

/-- Whether there is a mutex that nobody holds. -/
def Slot.isFree : Slot → Bool
  | .empty => false
  | .sentinel => true
  | .constructed record => record.lockIndex = unlocked

/-- The visits of a thread's tenure, from taking the free mutex to letting go of it. -/
structure Tenure (me : ThreadId) (take : Visit) (during : List Visit) (release : Visit) : Prop where
  taker : take.thread = me
  takes : take.deed = .acquires
  found : take.slot.isFree = true
  kept : ∀ visit ∈ during, visit.deed ≠ .renews
  held : ∀ visit ∈ during, visit.done.slot.isFree = false
  /-- The thread itself does not go into the wait loop. -/
  attentive : ∀ visit ∈ during, visit.thread = me → visit.deed ≠ .parks
  releaser : release.thread = me
  releases : release.deed = .releases
  leaves : release.done.slot.isFree = true

/--
A history at whose end a thread is about to lock again for the first time since
a tenure during which another thread parked, with nobody having taken or renewed
the mutex in between.
-/
inductive LeftContested (me : ThreadId) : List Visit → Prop where
  | intro
      {earlier during rest : List Visit} {take release : Visit}
      (tenure : Tenure me take during release)
      (contested : ∃ visit ∈ during, visit.thread ≠ me ∧ visit.deed = .parks)
      (undisturbed : ∀ visit ∈ rest, visit.deed ≠ .acquires ∧ visit.deed ≠ .renews)
      (absent : ∀ visit ∈ rest, visit.thread = me → visit.operation ≠ .lock) :
      LeftContested me ((earlier ++ [take]) ++ (during ++ release :: rest))

/-- A record that remembers the tenure of a thread, and who waited since if somebody did. -/
structure Record.Remembers (record : Record) (me : ThreadId) (awaited : Prop) : Prop where
  mine : record.owner = none ∨ record.owner = some me
  back : record.lastOwner = some me
  others : record.lastWaiter ≠ some me
  counted : awaited → 0 < record.waiters

/-- A slot whose record remembers the tenure of a thread. -/
def Slot.Remembers (slot : Slot) (me : ThreadId) (awaited : Prop) : Prop :=
  ∃ record, slot = .constructed record ∧ record.Remembers me awaited

/-- A visit that leaves the tenure of a thread on record. -/
structure Visit.Spares (visit : Visit) (me : ThreadId) : Prop where
  kept : visit.deed ≠ .renews
  held : visit.deed = .acquires → visit.slot.isFree = false
  fresh : visit.thread = me → visit.resumed = false
  attentive : visit.thread = me → visit.deed ≠ .parks

/-- A tenure stays on record, and whoever parks is counted. -/
theorem Visit.Spares.remembers
    {visit : Visit}
    {me : ThreadId}
    {awaited : Prop}
    (spares : visit.Spares me)
    (admitted : visit.Admitted)
    (sound : visit.slot.Sound)
    (remembers : visit.slot.Remembers me awaited) :
    visit.done.slot.Remembers me (awaited ∨ visit.deed = .parks) := by
  obtain ⟨record, finds, remembers⟩ := remembers
  have leaves := Visit.leaves admitted sound
  generalize deedIs : visit.deed = deed at leaves
  generalize visit.done.slot = left at leaves
  cases leaves with
  | keeps =>
      refine ⟨record, finds, remembers.mine, remembers.back, remembers.others, ?_⟩
      simpa using remembers.counted
  | empties | declares | creates =>
      exact (spares.kept deedIs).elim
  | takes waiters offers free =>
      -- Only a free mutex is taken so, and a visit that spares the tenure finds none.
      have held := spares.held deedIs
      rw [finds] at offers held
      cases offers
      simp [Slot.isFree, free] at held
  | relocks waiters found held owned recursive uncounted =>
      cases finds.symm.trans found
      have mine : visit.thread = me := by
        simpa [owned] using remembers.mine
      -- A relock that came back from the wait loop would count a waiter less.
      have same := uncounted (spares.fresh mine)
      refine ⟨_, rfl, .inr (by rw [← mine]; rfl), by rw [← mine]; rfl, ?_, ?_⟩
      · simp [Record.take]
      · simpa [same] using remembers.counted
  | parks found lock =>
      cases finds.symm.trans found
      obtain ⟨waiters, meets, -⟩ := visit.meets_eq record
      have other : visit.thread ≠ me := by
        intro mine
        exact spares.attentive mine deedIs
      rw [meets]
      refine ⟨_, rfl, remembers.mine, remembers.back, ?_, ?_⟩
      · simpa [Record.countWaiter] using other
      · intro _
        exact Record.waiters_countWaiter_pos _ _
  | refuses waiters found owned checked uncounted =>
      cases finds.symm.trans found
      have mine : visit.thread = me := by
        simpa [owned] using remembers.mine
      have same := uncounted (spares.fresh mine)
      refine ⟨_, rfl, remembers.mine, remembers.back, remembers.others, ?_⟩
      simpa [same] using remembers.counted
  | unlocks found owned recursive nested =>
      cases finds.symm.trans found
      refine ⟨_, rfl, remembers.mine, remembers.back, remembers.others, ?_⟩
      simpa [Record.unclaim] using remembers.counted
  | frees found owned outermost =>
      cases finds.symm.trans found
      refine ⟨_, rfl, .inl rfl, remembers.back, remembers.others, ?_⟩
      simpa [Record.unclaim] using remembers.counted

/-- Along a history a tenure stays on record, and whoever parks is counted. -/
theorem Linked.remembers
    {me : ThreadId}
    {awaited : Prop}
    {first last : Slot}
    {history : List Visit}
    (linked : Linked first history last)
    (spares : ∀ visit ∈ history, visit.slot.Sound ∧ visit.Spares me)
    (remembers : first.Remembers me awaited) :
    last.Remembers me (awaited ∨ ∃ visit ∈ history, visit.deed = .parks) := by
  induction linked generalizing awaited with
  | nil =>
      simpa using remembers
  | @cons visit rest first last admitted finds later inductionHypothesis =>
      subst finds
      obtain ⟨sound, sparesFirst⟩ := spares visit List.mem_cons_self
      have next := sparesFirst.remembers admitted sound remembers
      have final :=
        inductionHypothesis
          (fun visit member => spares visit (List.mem_cons_of_mem _ member)) next
      simpa [or_assoc] using final

/-- As long as a mutex is held after every visit, every visit finds it held. -/
theorem Linked.finds_held
    {first last : Slot}
    {history : List Visit}
    (linked : Linked first history last)
    (unfree : first.isFree = false)
    (held : ∀ visit ∈ history, visit.done.slot.isFree = false) :
    ∀ visit ∈ history, visit.slot.isFree = false := by
  induction linked with
  | nil =>
      simp
  | @cons visit rest first last admitted finds later inductionHypothesis =>
      subst finds
      intro found member
      rcases List.mem_cons.mp member with rfl | member
      · exact unfree
      · apply inductionHypothesis (held visit List.mem_cons_self) _ found member
        intro later member
        exact held later (List.mem_cons_of_mem _ member)

/-- A visit that neither takes nor renews a free mutex changes the bookkeeping of waiters only. -/
theorem Visit.recounts
    {visit : Visit}
    {record : Record}
    (admitted : visit.Admitted)
    (sound : visit.slot.Sound)
    (finds : visit.slot = .constructed record)
    (free : record.lockIndex = unlocked)
    (idle : visit.deed ≠ .acquires ∧ visit.deed ≠ .renews) :
    ∃ waiters last,
      visit.done.slot = .constructed { record with waiters, lastWaiter := last } := by
  have unowned := (sound record finds).unowned_iff.mpr free
  have leaves := Visit.leaves admitted sound
  generalize deedIs : visit.deed = deed at leaves
  generalize visit.done.slot = left at leaves
  cases leaves with
  | keeps =>
      exact ⟨record.waiters, record.lastWaiter, finds⟩
  | empties | declares | creates =>
      exact (idle.2 deedIs).elim
  | takes | relocks =>
      exact (idle.1 deedIs).elim
  | parks found lock =>
      cases finds.symm.trans found
      obtain ⟨waiters, meets, -⟩ := visit.meets_eq record
      rw [meets]
      exact ⟨_, _, rfl⟩
  | refuses waiters found owned | unlocks found owned | frees found owned =>
      cases finds.symm.trans found
      simp [unowned] at owned

/-- A free mutex that nobody takes or renews changes the bookkeeping of waiters only. -/
theorem Linked.recounts
    {record : Record}
    {last : Slot}
    {history : List Visit}
    (linked : Linked (.constructed record) history last)
    (sound : record.Sound)
    (free : record.lockIndex = unlocked)
    (idle : ∀ visit ∈ history, visit.deed ≠ .acquires ∧ visit.deed ≠ .renews) :
    ∃ waiters lastWaiter,
      last = .constructed { record with waiters, lastWaiter } := by
  generalize firstIs : Slot.constructed record = first at linked
  induction linked generalizing record with
  | nil =>
      subst firstIs
      exact ⟨_, _, rfl⟩
  | @cons visit rest first last admitted finds later inductionHypothesis =>
      subst firstIs
      have soundSlot : visit.slot.Sound := by
        rw [finds]
        exact Slot.sound_constructed.mpr sound
      obtain ⟨waiters, lastWaiter, left⟩ :=
        Visit.recounts admitted soundSlot finds free (idle visit List.mem_cons_self)
      have final :=
        inductionHypothesis (sound.withWaiters waiters lastWaiter) free
          (fun visit member => idle visit (List.mem_cons_of_mem _ member)) left.symm
      exact final

/-- Whoever takes a free mutex is on record as its last owner, with no waiter after it. -/
theorem Visit.remembers_of_takes
    {visit : Visit}
    (admitted : visit.Admitted)
    (sound : visit.slot.Sound)
    (acquires : visit.deed = .acquires)
    (found : visit.slot.isFree = true) :
    visit.done.slot.Remembers visit.thread False ∧ visit.done.slot.isFree = false := by
  have leaves := Visit.leaves admitted sound
  rw [acquires] at leaves
  generalize visit.done.slot = left at leaves
  cases leaves with
  | takes waiters offers free =>
      constructor
      · exact ⟨_, rfl, .inr rfl, rfl, by simp [Record.take], False.elim⟩
      · simp [Slot.isFree, Record.take, Record.claim, free, unlocked]
  | relocks waiters finds held owned recursive uncounted =>
      rw [finds] at found
      simp [Slot.isFree, held] at found

/-- An acquisition given back for good leaves a free record. -/
theorem Visit.frees_of_releases
    {visit : Visit}
    (admitted : visit.Admitted)
    (sound : visit.slot.Sound)
    (releases : visit.deed = .releases)
    (frees : visit.done.slot.isFree = true) :
    ∃ record,
      visit.done.slot = .constructed record ∧ record.Sound ∧ record.lockIndex = unlocked := by
  have soundAfter := Visit.done_sound admitted sound (by simp [releases])
  have leaves := Visit.leaves admitted sound
  rw [releases] at leaves
  generalize visit.done.slot = left at leaves frees soundAfter
  cases leaves with
  | unlocks | frees =>
      exact ⟨_, rfl, Slot.sound_constructed.mp soundAfter, by simpa [Slot.isFree] using frees⟩

namespace Tenure

variable {me : ThreadId} {earlier during rest : List Visit} {take release : Visit}

/-- Nothing from the taking on brings the thread into the wait loop. -/
theorem attends
    (tenure : Tenure me take during release)
    (admitted : ∀ visit ∈ rest, visit.Admitted)
    (absent : ∀ visit ∈ rest, visit.thread = me → visit.operation ≠ .lock) :
    ∀ visit ∈ during ++ release :: rest, visit.thread = me → visit.deed ≠ .parks := by
  intro visit member mine
  rcases List.mem_append.mp member with tenured | after
  · exact tenure.attentive visit tenured mine
  · rcases List.mem_cons.mp after with rfl | later
    · simp [tenure.releases]
    · have letIn := admitted visit later
      rw [ne_eq, Visit.deed_eq_parks_iff letIn]
      exact Visit.progress_ne_parked letIn (absent visit later mine)

/-- Every visit from the taking on leaves the tenure on record. -/
theorem spares
    (tenure : Tenure me take during release)
    (admitted : ∀ visit ∈ rest, visit.Admitted)
    (undisturbed : ∀ visit ∈ rest, visit.deed ≠ .acquires ∧ visit.deed ≠ .renews)
    (absent : ∀ visit ∈ rest, visit.thread = me → visit.operation ≠ .lock)
    (heldFound : ∀ visit ∈ during, visit.slot.isFree = false)
    (recalled : Recalled ((earlier ++ [take]) ++ (during ++ release :: rest))) :
    ∀ visit ∈ during ++ release :: rest, visit.Spares me := by
  have attends := tenure.attends admitted absent
  have settled : lastDeed me (earlier ++ [take]) ≠ some .parks := by
    simp [tenure.taker, tenure.takes]
  have fresh :
      ∀ visit ∈ during ++ release :: rest, visit.thread = me → visit.resumed = false := by
    intro visit member mine
    apply Recalled.unresumed _ settled attends member mine
    · exact []
    · simpa using recalled
  intro visit member
  refine ⟨?_, ?_, fresh visit member, attends visit member⟩
  · rcases List.mem_append.mp member with tenured | after
    · exact tenure.kept visit tenured
    · rcases List.mem_cons.mp after with rfl | later
      · simp [tenure.releases]
      · exact (undisturbed visit later).2
  · intro acquires
    rcases List.mem_append.mp member with tenured | after
    · exact heldFound visit tenured
    · rcases List.mem_cons.mp after with rfl | later
      · simp [tenure.releases] at acquires
      · exact ((undisturbed visit later).1 acquires).elim

end Tenure

/-- A mutex that is left contested is free, with a waiter counted and its last owner on record. -/
theorem LeftContested.remembers
    {me : ThreadId}
    {start last : Slot}
    {history : List Visit}
    (contested : LeftContested me history)
    (linked : Linked start history last)
    (unbuilt : ∀ record, start ≠ .constructed record)
    (shallow : Shallow history)
    (recalled : Recalled history) :
    lastDeed me history ≠ some .parks ∧
      ∃ record,
        last = .constructed record ∧
          record.Sound ∧ record.lockIndex = unlocked ∧ record.Remembers me True := by
  cases contested with
  | @intro earlier during rest take release tenure contested undisturbed absent =>
      have finds (visit : Visit) (member : visit ∈ during ++ release :: rest) :
          visit.Admitted ∧ visit.slot.Sound :=
        linked.finds_sound unbuilt shallow (List.mem_append_right _ member)
      have findsTake : take.Admitted ∧ take.slot.Sound :=
        linked.finds_sound unbuilt shallow (by simp)
      have findsRelease := finds release (by simp)
      have admitted : ∀ visit ∈ rest, visit.Admitted := by
        intro visit member
        exact (finds visit (by simp [member])).1
      obtain ⟨middle, head, tail⟩ := linked.split
      obtain ⟨-, -, rfl⟩ := head.of_snoc
      obtain ⟨first, unfree⟩ :=
        Visit.remembers_of_takes findsTake.1 findsTake.2 tenure.takes tenure.found
      rw [tenure.taker] at first
      obtain ⟨left, tenured, after⟩ := tail.split
      have heldFound := tenured.finds_held unfree tenure.held
      have spares := tenure.spares admitted undisturbed absent heldFound recalled
      constructor
      · apply lastDeed_append_ne_parks
        · simp [tenure.taker, tenure.takes]
        · exact tenure.attends admitted absent
      · obtain ⟨record, holds, remembers⟩ :=
          tail.remembers (fun visit member => ⟨(finds visit member).2, spares visit member⟩) first
        cases after with
        | cons releaseAdmitted releaseFinds later =>
            obtain ⟨freed, frees, sound, free⟩ :=
              Visit.frees_of_releases findsRelease.1 findsRelease.2 tenure.releases tenure.leaves
            rw [frees] at later
            -- The same last record, once seen from the taking and once from the release: the
            -- first tells who is on record, the second that nobody holds it.
            obtain ⟨waiters, lastWaiter, left⟩ := later.recounts sound free undisturbed
            cases holds.symm.trans left
            refine ⟨_, left, sound.withWaiters _ _, free, remembers.mine, remembers.back,
              remembers.others, ?_⟩
            intro _
            obtain ⟨visit, member, -, parks⟩ := contested
            apply remembers.counted
            exact .inr ⟨visit, List.mem_append_left _ member, parks⟩

end LatchMutex
