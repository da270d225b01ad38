import LatchMutex.Proofs.DeferralCredit
import LatchMutex.Proofs.Sections
import LatchMutex.Proofs.WaiterCounts

namespace LatchMutex

/-!
# Resets are paid for

A record lets its last owner reset the waiters if that thread is the last waiter
too.  A thread becomes both by giving way, or by relocking a normal mutex of its
own, and of the latter it comes back only by being canceled.  `World.owesReset`
tells that such a reset is still to come: a deferral or a canceled relock adds it,
a reset takes it away, and nothing else adds to it.
-/

/-- A resolved kind that neither relocks nor checks is the normal one. -/
theorem Kind.eq_normal_of_single
    {kind : Kind}
    (resolved : kind ≠ .byDefault)
    (single : kind.isRecursive = false)
    (unchecked : kind ≠ .errorCheck) :
    kind = .normal := by
  cases kind <;> first | rfl | contradiction

namespace Slot

/-- The thread that owns the record of the slot. -/
def owner? : Slot → Option ThreadId
  | .empty | .sentinel => none
  | .constructed record => record.owner

/-- The thread that was both the last owner and the last to wait. -/
def suspect? : Slot → Option ThreadId
  | .empty | .sentinel => none
  | .constructed record => if record.lastOwner = record.lastWaiter then record.lastWaiter else none

/-- Whether a thread owns the record of the slot and the mutex is a normal one. -/
def isNormalOf (slot : Slot) (thread : ThreadId) : Bool :=
  match slot with
  | .empty | .sentinel => false
  | .constructed record => record.kind = .normal ∧ record.owner = some thread

/-- An owner of the slot's record is on record as its last one. -/
def RecallsOwner (slot : Slot) : Prop :=
  ∀ record owner,
    slot = .constructed record →
    record.owner = some owner →
    record.lastOwner = some owner

theorem owner?_eq_some_iff {slot : Slot} {thread : ThreadId} :
    slot.owner? = some thread ↔
      ∃ record, slot = .constructed record ∧ record.owner = some thread := by
  cases slot <;> simp [owner?]

/-- Whether a reset is to come, given who is in the wait loop. -/
def owesReset (slot : Slot) (waiting : ThreadId → Bool) : Bool :=
  slot.suspect?.any fun thread => ¬ (slot.owner? = some thread ∧ waiting thread = true)

theorem owesReset_of_unsuspected
    {slot : Slot}
    (unsuspected : slot.suspect? = none)
    (waiting : ThreadId → Bool) :
    slot.owesReset waiting = false := by
  simp [owesReset, unsuspected]

/-- Who was not waiting and is not now makes no difference. -/
theorem owesReset_congr
    {slot : Slot}
    {before after : ThreadId → Bool}
    (same : ∀ thread, slot.suspect? = some thread → after thread = before thread) :
    slot.owesReset after = slot.owesReset before := by
  unfold owesReset
  cases suspect : slot.suspect? with
  | none =>
      rfl
  | some thread =>
      simp [same thread suspect]

/-- A thread that starts to wait makes no reset due: it is the last owner only as the owner. -/
theorem owesReset_countWaiter
    {record : Record}
    {me owner : ThreadId}
    {waiting : ThreadId → Bool}
    (owned : record.owner = some owner)
    (back : record.lastOwner = some owner)
    (waits : waiting me = true) :
    (Slot.constructed (record.countWaiter me)).owesReset waiting = false := by
  by_cases mine : owner = me
  · simp [Slot.owesReset, Slot.suspect?, Slot.owner?, Record.countWaiter, back, owned, mine, waits]
  · simp [Slot.owesReset, Slot.suspect?, Record.countWaiter, back, mine]

end Slot

namespace Visit

variable {visit : Visit} {record : Record} {before after : ThreadId → Bool}

/-- A lock on a record pays for the reset that it makes, and for the one that it leaves to come. -/
theorem owesReset_of_lock
    (lock : visit.operation = .lock)
    (finds : visit.slot = .constructed record)
    (sound : record.Sound)
    (recalls : visit.slot.RecallsOwner)
    (normal :
      visit.resumed = true → record.owner = some visit.thread → record.kind = .normal)
    (others : ∀ thread, thread ≠ visit.thread → after thread = before thread)
    (found : before visit.thread = visit.resumed)
    (left : after visit.thread = visit.parks) :
    visit.resets.toNat + (visit.done.slot.owesReset after).toNat ≤
      visit.defers.toNat + (visit.slot.owesReset before).toNat := by
  obtain ⟨waiters, meets, -⟩ := visit.meets_eq record
  have done := done_of_lock lock finds
  have attempted :=
    (visit.meets record).attempt_cases (by rw [meets]; exact sound.guardLowered) visit.thread
  generalize turnIs : (visit.meets record).attempt visit.thread = turn at attempted
  rw [Slot.attempt, turnIs] at done
  rw [meets] at attempted
  cases attempted with
  | takes | relocks =>
      have silent : visit.resets = false := by
        simp [Visit.resets, done]
      have cleared : visit.done.slot.suspect? = none := by
        simp [done, Slot.suspect?, Record.take]
      simp [silent, Slot.owesReset_of_unsuspected cleared]
  | resets free awaited back alone =>
      have unowned : record.owner = none := sound.unowned_iff.mpr free
      have cleared : visit.done.slot.suspect? = none := by
        simp [done, Slot.suspect?, Record.take]
      have owed : visit.slot.owesReset before = true := by
        change record.lastOwner = some visit.thread at back
        change record.lastWaiter = some visit.thread at alone
        simp [Slot.owesReset, finds, Slot.suspect?, Slot.owner?, back, alone, unowned]
      have once := visit.resets.toNat_le
      rw [owed, Slot.owesReset_of_unsuspected cleared]
      simp only [Bool.toNat_true, Bool.toNat_false]
      omega
  | defers =>
      have silent : visit.resets = false := by
        simp [Visit.resets, done]
      have gives : visit.defers = true := by
        simp [Visit.defers, done]
      have once := (visit.done.slot.owesReset after).toNat_le
      rw [silent, gives]
      simp only [Bool.toNat_true, Bool.toNat_false]
      omega
  | refuses held owned checked =>
      have silent : visit.resets = false := by
        simp [Visit.resets, done]
      have arrives : visit.resumed = false := by
        by_contra resumed
        have kind := normal (by simpa using resumed) owned
        exact absurd (kind.symm.trans checked) (by decide)
      have settled : visit.parks = false := by
        simp [Visit.parks, done, Slot.progressOf]
      have same : visit.done.slot.owesReset after = visit.slot.owesReset before := by
        have slot : visit.done.slot.owesReset after = visit.slot.owesReset after := by
          rw [done, finds]
          rfl
        rw [slot]
        apply Slot.owesReset_congr
        intro thread suspected
        by_cases mine : thread = visit.thread
        · rw [mine, found, left, arrives, settled]
        · exact others thread mine
      rw [silent, same]
      simp
  | waits held blocked =>
      have silent : visit.resets = false := by
        simp [Visit.resets, done]
      have parks : visit.parks = true := by
        simp [Visit.parks, done, Slot.progressOf]
      have spared : visit.done.slot.owesReset after = false := by
        cases owner : record.owner with
        | none =>
            exact (held (sound.unowned_iff.mp owner)).elim
        | some thread =>
            rw [done]
            exact Slot.owesReset_countWaiter owner (recalls record thread finds owner)
              (left.trans parks)
      simp [silent, spared]

/-- A lock that finds no record leaves no reset to come. -/
theorem unsuspected_of_unbuilt
    (admitted : visit.Admitted)
    (unbuilt : ∀ record, visit.slot ≠ .constructed record) :
    visit.done.slot.suspect? = none := by
  have leaves := Visit.leaves admitted (Slot.sound_of_unbuilt unbuilt)
  have unsuspected : visit.slot.suspect? = none := by
    cases finds : visit.slot with
    | empty | sentinel =>
        rfl
    | constructed record =>
        exact (unbuilt record finds).elim
  generalize visit.deed = deed at leaves
  generalize visit.done.slot = final at leaves
  cases leaves with
  | keeps =>
      exact unsuspected
  | empties | declares =>
      rfl
  | creates | takes =>
      simp [Slot.suspect?, Record.fresh, Record.take]
  | relocks waiters finds | parks finds | refuses waiters finds | unlocks finds | frees finds =>
      exact (unbuilt _ finds).elim

/-- A visit that is not a lock leaves no reset to come that was not to come before. -/
theorem owesReset_of_ne_lock
    (admitted : visit.Admitted)
    (sound : visit.slot.Sound)
    (single : visit.operation ≠ .lock)
    (arrives : before visit.thread = false)
    (owes : visit.done.slot.owesReset before = true) :
    visit.slot.owesReset before = true := by
  have leaves := Visit.leaves admitted sound
  generalize visit.deed = deed at leaves
  generalize visit.done.slot = final at leaves owes
  cases leaves with
  | keeps =>
      exact owes
  | empties | declares =>
      contradiction
  | creates | takes | relocks =>
      simp [Slot.owesReset, Slot.suspect?, Record.fresh, Record.take] at owes
  | parks finds lock =>
      exact (single lock).elim
  | refuses waiters finds | unlocks finds =>
      rw [finds]
      exact owes
  | @frees record finds owned =>
      rw [finds]
      simp only [Slot.owesReset, Slot.suspect?, Slot.owner?, owned, Option.any_eq_true] at owes ⊢
      obtain ⟨thread, suspected, -⟩ := owes
      refine ⟨thread, suspected, ?_⟩
      -- The owner is here to unlock, and so not in the wait loop.
      rw [decide_eq_true_iff]
      rintro ⟨mine, waiting⟩
      rw [← Option.some.inj mine, arrives] at waiting
      contradiction

/-- Every visit pays for the reset that it makes, and for the one that it leaves to come. -/
theorem owesReset_done
    (admitted : visit.Admitted)
    (sound : visit.slot.Sound)
    (recalls : visit.slot.RecallsOwner)
    (normal :
      visit.resumed = true →
      visit.slot.owner? = some visit.thread →
      visit.slot.isNormalOf visit.thread = true)
    (others : ∀ thread, thread ≠ visit.thread → after thread = before thread)
    (found : before visit.thread = visit.resumed)
    (left : after visit.thread = visit.parks) :
    visit.resets.toNat + (visit.done.slot.owesReset after).toNat ≤
      visit.defers.toNat + (visit.slot.owesReset before).toNat := by
  by_cases attempts : visit.operation = .lock ∧ ∃ record, visit.slot = .constructed record
  · obtain ⟨lock, record, finds⟩ := attempts
    refine owesReset_of_lock lock finds (sound record finds) recalls ?_ others found left
    intro resumed owned
    have normal := normal resumed (by rw [finds]; exact owned)
    rw [finds] at normal
    simp only [Slot.isNormalOf, decide_eq_true_eq] at normal
    exact normal.1
  · have silent : visit.resets = false := by
      by_contra resets
      exact attempts (finds_of_fairness admitted (.inr rfl) (by simpa [Visit.resets] using resets))
    have fewer :
        visit.done.slot.owesReset after = true → visit.slot.owesReset before = true := by
      by_cases lock : visit.operation = .lock
      · have unbuilt : ∀ record, visit.slot ≠ .constructed record := by
          intro record finds
          exact attempts ⟨lock, record, finds⟩
        simp [Slot.owesReset_of_unsuspected (unsuspected_of_unbuilt admitted unbuilt)]
      · have arrives := admitted.arrives_of_ne_lock lock
        have settled : visit.parks = false := by
          simpa [Visit.parks] using progress_ne_parked admitted lock
        have same : after = before := by
          funext thread
          by_cases mine : thread = visit.thread
          · rw [mine, found, left, arrives, settled]
          · exact others thread mine
        rw [same]
        exact owesReset_of_ne_lock admitted sound lock (found.trans arrives)
    have bound := Bool.toNat_le_toNat fewer
    rw [silent, Bool.toNat_false]
    omega

/-- A visit leaves its record with the owner on record as the last one. -/
theorem recallsOwner_done
    (admitted : visit.Admitted)
    (sound : visit.slot.Sound)
    (recalls : visit.slot.RecallsOwner) :
    visit.done.slot.RecallsOwner := by
  have leaves := Visit.leaves admitted sound
  intro left owner leavesRecord owned
  generalize visit.deed = deed at leaves
  rw [leavesRecord] at leaves
  generalize finalIs : Slot.constructed left = final at leaves
  cases leaves with
  | keeps =>
      exact recalls left owner finalIs.symm owned
  | empties | declares =>
      contradiction
  | creates =>
      cases finalIs
      contradiction
  | takes | relocks =>
      cases finalIs
      exact owned
  | @parks record finds =>
      cases finalIs
      obtain ⟨waiters, meets, -⟩ := visit.meets_eq record
      rw [meets] at owned ⊢
      exact recalls record owner finds owned
  | @refuses record waiters finds =>
      cases finalIs
      exact recalls record owner finds owned
  | @unlocks record finds =>
      cases finalIs
      exact recalls record owner finds owned
  | frees =>
      cases finalIs
      contradiction

/-- An owner parks on a normal mutex only. -/
theorem isNormalOf_of_parks
    (admitted : visit.Admitted)
    (sound : visit.slot.Sound)
    (parks : visit.parks = true)
    (owned : visit.done.slot.owner? = some visit.thread) :
    visit.done.slot.isNormalOf visit.thread = true := by
  have parked : visit.done.progress = .parked := by
    simpa [Visit.parks] using parks
  have leaves := Visit.leaves admitted sound
  rw [(Visit.deed_eq_parks_iff admitted).mpr parked] at leaves
  generalize visit.done.slot = final at leaves owned
  cases leaves with
  | @parks record finds lock =>
      have soundRecord := sound record finds
      obtain ⟨waiters, meets, -⟩ := visit.meets_eq record
      rw [meets] at owned ⊢
      have mine : record.owner = some visit.thread := owned
      have attempted :=
        (visit.meets record).attempt_cases (by rw [meets]; exact soundRecord.guardLowered)
          visit.thread
      generalize attempts : (visit.meets record).attempt visit.thread = turn at attempted
      rw [done_of_lock lock finds, Slot.attempt, attempts] at parked
      rw [meets] at attempted
      cases attempted with
      | takes | resets | relocks | refuses =>
          contradiction
      | defers free =>
          exact (soundRecord.held_of_owned mine free).elim
      | waits held blocked =>
          have resolved := soundRecord.resolved
          obtain ⟨single, unchecked⟩ := blocked mine
          have normal := Kind.eq_normal_of_single resolved single unchecked
          simp [Slot.isNormalOf, Record.countWaiter, normal, mine]

end Visit

/-- What the account of the resets of a handle relies on. -/
structure World.Tended (world : World) (handle : HandleId) : Prop where
  recalls : (world.slot handle).RecallsOwner
  normal :
    ∀ thread,
      world.isWaiting handle thread = true →
      (world.slot handle).owner? = some thread →
      (world.slot handle).isNormalOf thread = true

namespace World

variable
  {me : ThreadId} {handle : HandleId} {world next last : World} {event : Event} {reply : Reply}
  {run : List (ThreadId × Event)} {replies : List Reply} {visit : Visit}

/-- The handle of the normal mutex that a thread owns and waits for, if there is one. -/
def relocking? (world : World) (me : ThreadId) : Option HandleId :=
  (world.thread me).call.bind fun call =>
    if world.isWaiting call.handle me ∧ (world.slot call.handle).isNormalOf me then
      some call.handle
    else
      none

/-- The handles of the calls of a run that are canceled relocking a normal mutex. -/
def canceledRelocks : World → List (ThreadId × Event) → List HandleId
  | _, [] => []
  | world, (me, event) :: rest =>
      match world.step? me event with
      | none => []
      | some (next, reply) =>
          (if reply = .canceled then world.relocking? me else none).toList ++
            next.canceledRelocks rest

theorem relocking?_eq_some_iff :
    world.relocking? me = some handle ↔
      world.isWaiting handle me = true ∧ (world.slot handle).isNormalOf me = true := by
  simp only [relocking?, Option.bind_eq_some_iff, Option.ite_none_right_eq_some,
    Option.some.injEq]
  constructor
  · rintro ⟨call, -, relocks, rfl⟩
    exact relocks
  · rintro ⟨waiting, normal⟩
    obtain ⟨call, running, rfl, -⟩ := isWaiting_iff.mp waiting
    exact ⟨call, running, ⟨waiting, normal⟩, rfl⟩

/-- A visit keeps the account of resets going. -/
theorem Tended.of_visit
    (tended : world.Tended handle)
    (stepped : world.step? me event = some (next, reply))
    (kept : event.keeps handle = true)
    (visits : world.visit? me event handle = some visit)
    (admitted : visit.Admitted)
    (sound : visit.slot.Sound) :
    next.Tended handle := by
  have slot := step?_slot stepped kept
  simp only [visits] at slot
  have finds := visit?_slot visits
  have mine := visit?_thread visits
  refine ⟨?_, ?_⟩
  · rw [slot]
    apply Visit.recallsOwner_done admitted sound
    rw [finds]
    exact tended.recalls
  · intro thread waiting owned
    rw [slot] at owned ⊢
    by_cases other : thread = me
    · subst other
      obtain ⟨-, parks, -⟩ := isWaiting_of_visit stepped visits
      rw [← mine] at owned ⊢
      exact Visit.isNormalOf_of_parks admitted sound (parks.symm.trans waiting) owned
    · have waited : world.isWaiting handle thread = true := by
        rw [isWaiting, ← step?_call_of_ne stepped other]
        exact waiting
      obtain ⟨left, leavesRecord, leftOwned⟩ := Slot.owner?_eq_some_iff.mp owned
      obtain ⟨record, found, recordOwned, sameKind, -⟩ :=
        Visit.owner_of_done admitted sound.lowered leavesRecord leftOwned
          (by rw [mine]; exact Ne.symm other)
      have ownedBefore : (world.slot handle).owner? = some thread := by
        rw [← finds, found]
        exact recordOwned
      have normal := tended.normal thread waited ownedBefore
      rw [← finds, found] at normal
      rw [leavesRecord]
      simpa [Slot.isNormalOf, leftOwned, recordOwned, sameKind] using normal

/-- A step keeps the account of resets going. -/
theorem Tended.step
    (tended : world.Tended handle)
    (stepped : world.step? me event = some (next, reply))
    (kept : event.keeps handle = true)
    (sound :
      ∀ visit, world.visit? me event handle = some visit → visit.Admitted ∧ visit.slot.Sound) :
    next.Tended handle := by
  cases visits : world.visit? me event handle with
  | some visit =>
      exact tended.of_visit stepped kept visits (sound visit visits).1 (sound visit visits).2
  | none =>
      have slot := step?_slot stepped kept
      simp only [visits] at slot
      refine ⟨by rw [slot]; exact tended.recalls, ?_⟩
      intro thread waiting
      rw [slot]
      exact tended.normal thread (isWaiting_of_later stepped visits waiting)

/-- A reset is to come because it was before, or because a relock was canceled. -/
theorem owesReset_of_unvisited
    (tended : world.Tended handle)
    (stepped : world.step? me event = some (next, reply))
    (unvisited : world.visit? me event handle = none)
    (owes : (world.slot handle).owesReset (next.isWaiting handle) = true) :
    (world.slot handle).owesReset (world.isWaiting handle) = true ∨
      reply = .canceled ∧ world.relocking? me = some handle := by
  simp only [Slot.owesReset, Option.any_eq_true, decide_eq_true_eq] at owes ⊢
  obtain ⟨thread, suspected, gone⟩ := owes
  by_cases relocks : (world.slot handle).owner? = some thread ∧ world.isWaiting handle thread
  · right
    obtain ⟨owned, waiting⟩ := relocks
    -- Only the thread that takes the step leaves the wait loop, and that by being canceled.
    have left : next.isWaiting handle thread = false := by
      simpa [owned] using gone
    have mine : thread = me := by
      by_contra other
      rw [isWaiting, step?_call_of_ne stepped other] at left
      rw [isWaiting, left] at waiting
      contradiction
    subst mine
    have stays := isWaiting_of_unvisited stepped unvisited
    simp only [waiting, left, Bool.toNat_true, Bool.toNat_false, true_and, Nat.zero_add] at stays
    refine ⟨?_, relocking?_eq_some_iff.mpr ⟨waiting, tended.normal thread waiting owned⟩⟩
    by_contra kept
    simp [kept] at stays
  · exact .inl ⟨thread, suspected, relocks⟩

/-- A step pays for the reset that it makes, and for the one that it leaves to come. -/
theorem owesReset_step
    (tended : world.Tended handle)
    (stepped : world.step? me event = some (next, reply))
    (kept : event.keeps handle = true)
    (sound :
      ∀ visit, world.visit? me event handle = some visit → visit.Admitted ∧ visit.slot.Sound) :
    (world.visit? me event handle).toList.countP Visit.resets +
        ((next.slot handle).owesReset (next.isWaiting handle)).toNat ≤
      (world.visit? me event handle).toList.countP Visit.defers +
        (if reply = .canceled then world.relocking? me else none).toList.count handle +
        ((world.slot handle).owesReset (world.isWaiting handle)).toNat := by
  have slot := step?_slot stepped kept
  cases visits : world.visit? me event handle with
  | some visit =>
      rw [visits] at slot
      obtain ⟨admitted, sound⟩ := sound visit visits
      have finds := visit?_slot visits
      have mine := visit?_thread visits
      obtain ⟨found, left, uncanceled⟩ := isWaiting_of_visit stepped visits
      have recalls : visit.slot.RecallsOwner := by
        rw [finds]
        exact tended.recalls
      have normal :
          visit.resumed = true →
          visit.slot.owner? = some visit.thread →
          visit.slot.isNormalOf visit.thread = true := by
        intro resumed
        rw [finds]
        exact tended.normal visit.thread (by rw [mine, found, resumed])
      have others (thread : ThreadId) (other : thread ≠ visit.thread) :
          next.isWaiting handle thread = world.isWaiting handle thread := by
        rw [mine] at other
        rw [isWaiting, isWaiting, step?_call_of_ne stepped other]
      rw [← mine] at found left
      have paid := Visit.owesReset_done admitted sound recalls normal others found left
      rw [slot, ← finds, Option.toList_some, countP_visit, countP_visit]
      simpa [uncanceled] using paid
  | none =>
      rw [visits] at slot
      rw [slot]
      cases owes : (world.slot handle).owesReset (next.isWaiting handle) with
      | false =>
          simp
      | true =>
          rcases owesReset_of_unvisited tended stepped visits owes with before | canceled
          · simp [before]
          · simp [canceled]

/-- Along a run every reset on a handle is paid for. -/
theorem owesReset_run
    (tended : world.Tended handle)
    (ran : world.run? run = some (last, replies))
    (kept : ∀ step ∈ run, step.2.keeps handle = true)
    (sound : ∀ visit ∈ world.history handle run, visit.Admitted ∧ visit.slot.Sound) :
    (world.history handle run).countP Visit.resets ≤
      (world.history handle run).countP Visit.defers +
        (world.canceledRelocks run).count handle +
        ((world.slot handle).owesReset (world.isWaiting handle)).toNat := by
  induction run generalizing world replies with
  | nil =>
      simp [history]
  | cons step rest inductionHypothesis =>
      obtain ⟨me, event⟩ := step
      obtain ⟨next, reply, _, stepped, tail, rfl⟩ := run?_cons.mp ran
      rw [List.forall_mem_cons] at kept
      simp only [history, stepped, List.mem_append, Option.mem_toList] at sound
      have soundHere :
          ∀ visit,
            world.visit? me event handle = some visit → visit.Admitted ∧ visit.slot.Sound :=
        fun visit visits => sound visit (.inl visits)
      have paid := owesReset_step tended stepped kept.1 soundHere
      have later :=
        inductionHypothesis (tended.step stepped kept.1 soundHere) tail kept.2
          fun visit member => sound visit (.inr member)
      simp only [history, canceledRelocks, stepped, List.countP_append, List.count_append]
      omega

/-- What no thread waits for and no record stands for needs no account. -/
theorem Beginning.tended (beginning : world.Beginning) (handle : HandleId) :
    world.Tended handle where
  recalls record owner finds := (beginning.unbuilt handle record finds).elim
  normal thread waiting := by
    simp [isWaiting, beginning.idle] at waiting

/-- Nothing is owed where nothing is built. -/
theorem Beginning.owesReset_eq_false
    (beginning : world.Beginning)
    (handle : HandleId)
    (waiting : ThreadId → Bool) :
    (world.slot handle).owesReset waiting = false := by
  apply Slot.owesReset_of_unsuspected
  cases finds : world.slot handle with
  | empty | sentinel =>
      rfl
  | constructed record =>
      exact (beginning.unbuilt handle record finds).elim

/-- The sections of a kind on one handle are counted by how often it is among their handles. -/
theorem countP_visitsAt
    (kind : Visit → Bool)
    (handle : HandleId)
    (sections : List (HandleId × Visit)) :
    (visitsAt handle sections).countP kind =
      ((sections.filter fun ran => kind ran.2).map Prod.fst).count handle := by
  induction sections with
  | nil =>
      rfl
  | cons ran rest inductionHypothesis =>
      obtain ⟨there, visit⟩ := ran
      by_cases here : there = handle <;> cases kinded : kind visit <;>
        simp_all [visitsAt]

/-- From the beginning on, the resets are paid for by the deferrals and the canceled relocks. -/
theorem Beginning.countP_resets_le
    (beginning : world.Beginning)
    (ran : world.run? run = some (last, replies))
    (counted : ∀ step ∈ run, step.2.isCounted = true)
    (shallow : ∀ handle, Shallow (world.history handle run)) :
    (world.sections run).countP (fun ran => ran.2.resets) ≤
      (world.sections run).countP (fun ran => ran.2.defers) +
        (world.canceledRelocks run).length := by
  have kept (handle : HandleId) : ∀ step ∈ run, step.2.keeps handle = true :=
    fun step member => Event.keeps_of_isCounted (counted step member) handle
  have paid (handle : HandleId) :
      (((world.sections run).filter fun ran => ran.2.resets).map Prod.fst).count handle ≤
        (((world.sections run).filter fun ran => ran.2.defers).map Prod.fst ++
          world.canceledRelocks run).count handle := by
    have linked := history_linked beginning.steady.admitted ran (kept handle)
    have sound (visit : Visit) (member : visit ∈ world.history handle run) :
        visit.Admitted ∧ visit.slot.Sound :=
      linked.finds_sound (beginning.unbuilt handle) (shallow handle) member
    have account := owesReset_run (beginning.tended handle) ran (kept handle) sound
    rw [beginning.owesReset_eq_false, history_eq, countP_visitsAt, countP_visitsAt] at account
    rw [List.count_append]
    simpa using account
  have fewer := (List.subperm_ext_iff.mpr fun handle _ => paid handle).length_le
  simpa [← List.countP_eq_length_filter] using fewer

end World

end LatchMutex
