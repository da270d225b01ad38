import LatchMutex.Proofs.StaleResets
import LatchMutex.Proofs.Withdrawals

namespace LatchMutex

/-!
# What the counters say of a run

From zeroed counters on, each counter of the locking machine reads how often a run
did what the counter is named for.  A lock is counted as deadlocked in its section,
and leaves its scope later: it returns the deadlock there, or it is canceled there.
A lock that parks lets go of the latch and counts its trip through the wait loop after
that, so the counter stays behind the parks by the locks that are in between.
-/

/-- Whether the call has parked and its yield has not started, so that the trip is not counted. -/
def Call.isParked (call : Call) : Bool :=
  call.phase = .parked

/-- Whether the call is a lock that came to a deadlock and has still to leave its scope. -/
def Call.isDeadlocked (call : Call) : Bool :=
  call.operation = .lock ∧ call.phase = .leaving (.error .deadlock)

/-- A call at its last step, with the reply to it. -/
structure Ending where
  call : Call
  reply : Reply
  deriving Repr, DecidableEq

namespace Ending

/-- Whether a lock returns a deadlock. -/
def returnsDeadlock (ending : Ending) : Bool :=
  ending.call.operation = .lock ∧ ending.reply = .returned (.error .deadlock)

/-- Whether a lock that came to a deadlock is canceled at the end of its scope. -/
def cancelsDeadlock (ending : Ending) : Bool :=
  ending.call.isDeadlocked ∧ ending.reply = .canceled

end Ending

namespace World

variable
  {me : ThreadId} {handle : HandleId} {start world next last : World} {event : Event}
  {reply : Reply} {run : List (ThreadId × Event)} {replies : List Reply}

/-- The call of a thread that a step ends, if it ends one. -/
def ending? (world next : World) (me : ThreadId) (reply : Reply) : Option Ending :=
  if (next.thread me).call = none then
    (world.thread me).call.map fun call => { call, reply }
  else
    none

/-- The calls that end along a run. -/
def endings : World → List (ThreadId × Event) → List Ending
  | _, [] => []
  | world, (me, event) :: rest =>
      match world.step? me event with
      | none => []
      | some (next, reply) => (world.ending? next me reply).toList ++ next.endings rest

/-- A lock comes to a deadlock, is about to leave with it, and then leaves with it. -/
theorem deadlocks_step
    (stepped : world.step? me event = some (next, reply)) :
    (world.section? me event).toList.countP (fun ran => ran.2.isRefused) +
        ((world.thread me).call.any Call.isDeadlocked).toNat =
      (world.ending? next me reply).toList.countP Ending.returnsDeadlock +
        (world.ending? next me reply).toList.countP Ending.cancelsDeadlock +
        ((next.thread me).call.any Call.isDeadlocked).toNat := by
  cases (step?_eq_some_iff.mp stepped).2 with
  | idle free stepped =>
      have after : (next.thread me).call.any Call.isDeadlocked = false := by
        cases running : (next.thread me).call with
        | none =>
            rfl
        | some call =>
            simp [Call.isDeadlocked, (stepIdle?_call free stepped running).2]
      rw [after]
      simp [section?, ending?, free]
  | @visits call running due unlatched =>
      have runs := section?_of_due running due
      have before : call.isDeadlocked = false := by
        rcases due with phase | phase <;> simp [Call.isDeadlocked, phase]
      have after :
          ((world.afterVisit me call).thread me).call.any Call.isDeadlocked =
            (world.visitOf me call).isRefused := by
        have sameOperation : (world.visitOf me call).operation = call.operation := rfl
        simp [afterVisit, Call.isDeadlocked, Visit.isRefused, Phase.ofProgress_eq_leaving,
          sameOperation]
      have goesOn : world.ending? (world.afterVisit me call) me .silent = none := by
        simp [ending?, afterVisit]
      rw [runs, after, goesOn, Option.toList_some, List.countP_singleton]
      cases (world.visitOf me call).isRefused <;> simp [running, before]
  | @yields call running parked =>
      have silent : world.section? me .proceed = none := by
        simp [section?, visit?, running, parked]
      rcases Thread.startYield_cases (world.thread me) call with canceled | yielding
      · simp [silent, ending?, running, canceled, Call.isDeadlocked, parked,
          Ending.returnsDeadlock, Ending.cancelsDeadlock]
      · simp [silent, ending?, running, yielding, Call.isDeadlocked, parked]
  | @leaves call result running leaving =>
      have silent : world.section? me .proceed = none := by
        simp [section?, visit?, running, leaving]
      have counts (told : Bool) : told.toNat = if told then 1 else 0 := by
        cases told <;> rfl
      rcases Thread.finish_cases (world.thread me) call result with canceled | returned
      · simp [silent, ending?, running, canceled, Call.isDeadlocked, leaving,
          Ending.returnsDeadlock, Ending.cancelsDeadlock, List.countP_singleton, counts]
      · simp [silent, ending?, running, returned, Call.isDeadlocked, leaving,
          Ending.returnsDeadlock, Ending.cancelsDeadlock, List.countP_singleton, counts]
  | spins running phase | givesUp running phase | waits running phase
  | waitsAgain running phase =>
      simp [section?, visit?, ending?, running, phase, Call.isDeadlocked]

/-- A section leaves its call parked exactly if it parks. -/
theorem isParked_afterVisit (world : World) (me : ThreadId) (call : Call) :
    ((world.afterVisit me call).thread me).call.any Call.isParked =
      (world.visitOf me call).parks := by
  simp only [afterVisit, thread_counters, thread_setThread_self, Option.any_some, Call.isParked,
    Visit.parks]
  cases (world.visitOf me call).done.progress <;> simp [Phase.ofProgress]

/-- A lock parks in its section, and the trip is counted where its yield starts. -/
theorem trips_step
    (steady : world.Steady)
    (stepped : world.step? me event = some (next, reply))
    (counted : event.isCounted = true) :
    ∃ trips ≤ 1,
      next.counters.waitYields = world.counters.waitYields + UInt64.ofNat trips ∧
        (world.section? me event).toList.countP
              (fun ran => ran.2.operation = .lock ∧ ran.2.parks) +
            ((world.thread me).call.any Call.isParked).toNat =
          trips + ((next.thread me).call.any Call.isParked).toNat := by
  cases (step?_eq_some_iff.mp stepped).2 with
  | idle free stepped =>
      have after : (next.thread me).call.any Call.isParked = false := by
        cases running : (next.thread me).call with
        | none =>
            rfl
        | some call =>
            simp [Call.isParked, (stepIdle?_call free stepped running).2]
      have counters : next.counters = world.counters := by
        cases stepIdle?_idles stepped with
        | resets =>
            contradiction
        | requests | requestsById =>
            exact counters_raisePending _ _
        | _ =>
            rfl
      exact ⟨0, by simp, by simp [counters], by simp [section?, free, after]⟩
  | @visits call running due unlatched =>
      have runs := section?_of_due running due
      obtain ⟨admitted, settled⟩ := steady.section_settled runs
      have before : call.isParked = false := by
        rcases due with phase | phase <;> simp [Call.isParked, phase]
      have uncounted : .waitYield ∉ (world.visitOf me call).done.branches :=
        (Visit.counted admitted settled.lowered).waitYield
      have locks : (world.visitOf me call).parks = true → call.operation = .lock := by
        intro parks
        by_contra single
        exact Visit.progress_ne_parked admitted single (by simpa [Visit.parks] using parks)
      refine ⟨0, by simp, ?_, ?_⟩
      · have same := world.counters.get_tally (world.visitOf me call).done.branches .waitYield
        rw [List.count_eq_zero_of_not_mem uncounted] at same
        exact same
      · rw [runs, isParked_afterVisit, Option.toList_some, List.countP_singleton, running,
          Option.any_some, before]
        cases parks : (world.visitOf me call).parks with
        | false => simp
        | true => simpa [visitOf] using locks parks
  | @yields call running parked =>
      have counters :
          (world.counters.record .waitYield).waitYields = world.counters.waitYields + 1 :=
        rfl
      refine ⟨1, le_rfl, counters, ?_⟩
      rcases Thread.startYield_cases (world.thread me) call with canceled | yielding
      · simp [section?, visit?, running, parked, Call.isParked, canceled]
      · simp [section?, visit?, running, parked, Call.isParked, yielding]
  | @leaves call result running leaving =>
      refine ⟨0, by simp, by simp [setThread], ?_⟩
      simp [section?, visit?, running, leaving, Call.isParked]
  | spins running spinning =>
      exact (steady.unspun me _ running spinning).elim
  | givesUp running arriving single =>
      refine ⟨0, by simp, (UInt64.add_zero _).symm, ?_⟩
      simp [section?, visit?, running, arriving, Call.isParked]
  | waits running arriving blocking =>
      refine ⟨0, by simp, (UInt64.add_zero _).symm, ?_⟩
      simp [section?, visit?, running, arriving, Call.isParked]
  | waitsAgain running yielding =>
      refine ⟨0, by simp, (UInt64.add_zero _).symm, ?_⟩
      simp [section?, visit?, running, yielding, Call.isParked]

/-- Along a run every lock that parks counts its trip, or is about to. -/
theorem trips_run
    (steady : world.Steady)
    (ran : world.run? run = some (last, replies))
    (counted : ∀ step ∈ run, step.2.isCounted = true) :
    ∃ trips ≤ run.length,
      last.counters.waitYields = world.counters.waitYields + UInt64.ofNat trips ∧
        (world.sections run).countP (fun ran => ran.2.operation = .lock ∧ ran.2.parks) +
            (world.callers Call.isParked).card =
          trips + (last.callers Call.isParked).card := by
  induction run generalizing world replies with
  | nil =>
      cases ran
      exact ⟨0, by simp, by simp, by simp [sections]⟩
  | cons step rest inductionHypothesis =>
      obtain ⟨me, event⟩ := step
      obtain ⟨next, reply, _, stepped, tail, rfl⟩ := run?_cons.mp ran
      rw [List.forall_mem_cons] at counted
      obtain ⟨others, before, after⟩ := card_callers_step stepped Call.isParked
      obtain ⟨now, few, moves, first⟩ := trips_step steady stepped counted.1
      obtain ⟨trips, bounded, moved, later⟩ :=
        inductionHypothesis (steady.step stepped counted.1) tail counted.2
      refine ⟨now + trips, by simp only [List.length_cons]; omega, ?_, ?_⟩
      · rw [moved, moves, UInt64.ofNat_add, UInt64.add_assoc]
      · simp only [sections, stepped, List.countP_append]
        omega

/-- Along a run every lock that comes to a deadlock leaves with it, or is about to. -/
theorem deadlocks_run
    (ran : world.run? run = some (last, replies)) :
    (world.sections run).countP (fun ran => ran.2.isRefused) +
        (world.callers Call.isDeadlocked).card =
      (world.endings run).countP Ending.returnsDeadlock +
        (world.endings run).countP Ending.cancelsDeadlock +
        (last.callers Call.isDeadlocked).card := by
  induction run generalizing world replies with
  | nil =>
      cases ran
      simp [sections, endings]
  | cons step rest inductionHypothesis =>
      obtain ⟨me, event⟩ := step
      obtain ⟨next, reply, _, stepped, tail, rfl⟩ := run?_cons.mp ran
      obtain ⟨others, before, after⟩ := card_callers_step stepped Call.isDeadlocked
      have first := deadlocks_step stepped
      have later := inductionHypothesis tail
      simp only [sections, endings, stepped, List.countP_append]
      omega

end World

/-- Between a slot that is no sentinel and one that is, a visit installs the sentinel. -/
theorem Linked.installs
    {first last : Slot}
    {history : List Visit}
    (linked : Linked first history last)
    (without : first ≠ .sentinel)
    (installed : last = .sentinel) :
    ∃ visit ∈ history, visit.slot ≠ .sentinel ∧ visit.done.slot = .sentinel := by
  induction linked with
  | nil =>
      exact (without installed).elim
  | @cons visit rest first last admitted finds later inductionHypothesis =>
      subst finds
      by_cases here : visit.done.slot = .sentinel
      · exact ⟨visit, List.mem_cons_self, without, here⟩
      · obtain ⟨found, member, installs⟩ := inductionHypothesis here installed
        exact ⟨found, List.mem_cons_of_mem _ member, installs⟩

/-- Between two visits that build from a sentinel, one installs it again. -/
theorem Linked.installs_between
    {start last : Slot}
    {earlier between later : List Visit}
    {first second : Visit}
    (linked : Linked start ((earlier ++ [first]) ++ ((between ++ [second]) ++ later)) last)
    (firstBuilds : first.builds = true)
    (secondBuilds : second.builds = true) :
    ∃ visit ∈ between, visit.slot ≠ .sentinel ∧ visit.done.slot = .sentinel := by
  obtain ⟨middle, head, tail⟩ := linked.split
  obtain ⟨left, segment, -⟩ := tail.split
  obtain ⟨-, -, rfl⟩ := head.of_snoc
  obtain ⟨inside, -, -⟩ := segment.of_snoc
  simp only [Visit.builds, decide_eq_true_eq] at firstBuilds secondBuilds
  apply inside.installs _ secondBuilds.1
  intro sentinel
  simp [sentinel, Slot.isBuilt] at firstBuilds

/-- What the counters at the end of a run have to do with the run. -/
structure Accounts (start last : World) (run : List (ThreadId × Event)) : Prop where
  lazyInits :
    last.counters.lazyInits.toNat = (start.sections run).countP fun ran => ran.2.builds
  /-- A sentinel that was built from is built from again only if it was installed again. -/
  builtOnce :
    ∀ handle earlier first between second later,
      start.history handle run = (earlier ++ [first]) ++ ((between ++ [second]) ++ later) →
      first.builds = true →
      second.builds = true →
      ∃ visit ∈ between, visit.slot ≠ .sentinel ∧ visit.done.slot = .sentinel
  /-- Every lock that came to a deadlock returned it, was canceled with it, or has it to return. -/
  deadlocksReported :
    last.counters.deadlocksReported.toNat =
      (start.endings run).countP Ending.returnsDeadlock +
        (start.endings run).countP Ending.cancelsDeadlock +
        (last.callers Call.isDeadlocked).card
  /-- Every lock that parked and let go of the latch counted that, or has it to count. -/
  waitYields :
    last.counters.waitYields.toNat + (last.callers Call.isParked).card =
      (start.sections run).countP fun ran => ran.2.operation = .lock ∧ ran.2.parks
  fairnessDeferrals :
    last.counters.fairnessDeferrals.toNat =
      (start.sections run).countP fun ran => ran.2.parks ∧ ran.2.slot.isFree
  tryLockGuardSpins : last.counters.tryLockGuardSpins = 0
  staleWaiterResets :
    last.counters.staleWaiterResets.toNat ≤
      last.counters.fairnessDeferrals.toNat + (start.canceledRelocks run).length

namespace World.Beginning

variable
  {start last : World} {run : List (ThreadId × Event)} {replies : List Reply}

/-- A counter reads how many sections have the feature that its branch stands for. -/
theorem counter_eq_countP
    (beginning : start.Beginning)
    (ran : start.run? run = some (last, replies))
    (counted : ∀ step ∈ run, step.2.isCounted = true)
    (short : run.length < 2 ^ 64)
    {branch : Branch}
    (guarded : branch.isOfSection = true)
    (feature : Visit → Bool)
    (stands :
      ∀ visit,
        visit.Admitted →
        visit.Counted visit.done.branches →
        visit.takesBranch branch = feature visit) :
    (last.counters.get branch).toNat =
      (start.sections run).countP fun ran => feature ran.2 := by
  rw [beginning.toNat_counter ran counted short guarded]
  apply List.countP_congr
  intro found member
  obtain ⟨admitted, settled⟩ := beginning.steady.sections_settled ran counted found member
  rw [stands found.2 admitted (Visit.counted admitted settled.lowered)]

/--
From a beginning on, in every run that is not too long and relocks no record too
often, the counters account for what the run did.
-/
theorem counters_account
    (beginning : start.Beginning)
    (ran : start.run? run = some (last, replies))
    (counted : ∀ step ∈ run, step.2.isCounted = true)
    (short : run.length < 2 ^ 64)
    (shallow : ∀ handle, Shallow (start.history handle run)) :
    Accounts start last run where
  lazyInits := by
    have guarded : Branch.lazyInit.isOfSection = true := rfl
    exact beginning.counter_eq_countP ran counted short guarded Visit.builds
      fun _ _ counts => counts.lazyInit
  builtOnce := by
    intro handle earlier first between second later history
    have kept : ∀ step ∈ run, step.2.keeps handle = true :=
      fun step member => Event.keeps_of_isCounted (counted step member) handle
    have linked := history_linked beginning.steady.admitted ran kept
    rw [history] at linked
    exact linked.installs_between
  deadlocksReported := by
    have guarded : Branch.deadlockReported.isOfSection = true := rfl
    have counter :=
      beginning.counter_eq_countP ran counted short guarded Visit.isRefused
        fun _ _ counts => counts.deadlockReported
    have nobody : start.callers Call.isDeadlocked = ∅ := by
      ext thread
      simp [beginning.idle]
    have leaving := deadlocks_run ran
    rw [nobody, Finset.card_empty, Nat.add_zero] at leaving
    exact counter.trans leaving
  waitYields := by
    obtain ⟨trips, bounded, moved, parked⟩ := trips_run beginning.steady ran counted
    have nobody : start.callers Call.isParked = ∅ := by
      ext thread
      simp [beginning.idle]
    have zero : start.counters.waitYields = 0 := by
      rw [beginning.zeroed]
      rfl
    rw [zero, UInt64.zero_add] at moved
    rw [nobody, Finset.card_empty, Nat.add_zero] at parked
    rw [moved, UInt64.toNat_ofNat_of_lt' (bounded.trans_lt short)]
    exact parked.symm
  fairnessDeferrals := by
    have guarded : Branch.fairnessDeferral.isOfSection = true := rfl
    apply beginning.counter_eq_countP ran counted short guarded fun visit =>
      visit.parks ∧ visit.slot.isFree
    intro visit _ counts
    simpa [Visit.takesBranch, Visit.parks] using counts.fairnessDeferral
  tryLockGuardSpins := by
    have guarded : Branch.tryLockGuardSpin.isOfSection = true := rfl
    have counter :=
      beginning.counter_eq_countP ran counted short guarded (fun _ => false)
        fun _ _ counts => by simp [Visit.takesBranch, counts.tryLockGuardSpin]
    rw [List.countP_false] at counter
    exact UInt64.toNat_inj.mp counter
  staleWaiterResets := by
    have guardedResets : Branch.staleWaiterReset.isOfSection = true := rfl
    have guardedDeferrals : Branch.fairnessDeferral.isOfSection = true := rfl
    have resets := beginning.toNat_counter ran counted short guardedResets
    have deferrals := beginning.toNat_counter ran counted short guardedDeferrals
    have paid := beginning.countP_resets_le ran counted shallow
    exact resets.trans_le (paid.trans_eq (congrArg (· + _) deferrals.symm))

/-- Nothing has happened yet in the first world. -/
theorem opening
    {handle : HandleId}
    {slot : Slot}
    (unbuilt : ∀ record, slot ≠ .constructed record) :
    (World.opening handle slot).Beginning where
  idle _ := rfl
  unbuilt := by
    intro other record
    by_cases here : other = handle
    · subst here
      simpa [World.opening, World.slot, World.setCell] using unbuilt record
    · rw [World.slot, World.opening, World.setCell, Table.get_set_of_ne _ here]
      intro found
      cases found
  zeroed := rfl

end World.Beginning

/-- A short run relocks no record too often. -/
theorem Shallow.of_short_run
    {run : List (ThreadId × Event)}
    (short : run.length < 2 ^ 31)
    (world : World)
    (handle : HandleId) :
    Shallow (world.history handle run) := by
  apply Shallow.of_length_lt
  rw [World.history_eq]
  exact ((List.length_filterMap_le _ _).trans (world.length_sections_le run)).trans_lt short

/--
Thread 1 is canceled where it waits for thread 0, which gives way and then resets
the waiters.  Thread 1 is canceled again where it relocks a normal mutex of its own,
and resets the waiters of that one.  Thread 2 comes to a deadlock, and thread 3 parks
behind thread 2 and has not counted that yet.
-/
def accountedRun : List (ThreadId × Event) :=
  [(⟨1⟩, .setType .asynchronous),
    (⟨0⟩, .call ⟨0⟩ .lock false), (⟨0⟩, .proceed), (⟨0⟩, .proceed),
    (⟨1⟩, .call ⟨0⟩ .lock false), (⟨1⟩, .proceed),
    (⟨0⟩, .call ⟨0⟩ .unlock false), (⟨0⟩, .proceed), (⟨0⟩, .proceed),
    (⟨0⟩, .call ⟨0⟩ .lock false), (⟨0⟩, .proceed),
    (⟨2⟩, .requestById ⟨1⟩), (⟨1⟩, .proceed), (⟨1⟩, .catchCancel),
    (⟨0⟩, .proceed), (⟨0⟩, .proceed), (⟨0⟩, .proceed),
    (⟨1⟩, .call ⟨1⟩ (.create (some { kind := .normal })) false), (⟨1⟩, .proceed), (⟨1⟩, .proceed),
    (⟨1⟩, .call ⟨1⟩ .lock false), (⟨1⟩, .proceed), (⟨1⟩, .proceed),
    (⟨1⟩, .call ⟨1⟩ .lock false), (⟨1⟩, .proceed),
    (⟨2⟩, .requestById ⟨1⟩), (⟨1⟩, .proceed), (⟨1⟩, .catchCancel),
    (⟨1⟩, .call ⟨1⟩ .unlock false), (⟨1⟩, .proceed), (⟨1⟩, .proceed),
    (⟨1⟩, .call ⟨1⟩ .lock false), (⟨1⟩, .proceed), (⟨1⟩, .proceed),
    (⟨2⟩, .call ⟨2⟩ (.create (some { kind := .errorCheck })) false),
    (⟨2⟩, .proceed), (⟨2⟩, .proceed),
    (⟨2⟩, .call ⟨2⟩ .lock false), (⟨2⟩, .proceed), (⟨2⟩, .proceed),
    (⟨2⟩, .call ⟨2⟩ .lock false), (⟨2⟩, .proceed), (⟨2⟩, .proceed),
    (⟨3⟩, .call ⟨2⟩ .lock false), (⟨3⟩, .proceed)]

theorem World.Beginning.counters_account_accountedRun :
    ∃ last replies,
      (World.opening ⟨0⟩ .sentinel).Beginning ∧
        (World.opening ⟨0⟩ .sentinel).run? accountedRun = some (last, replies) ∧
        (∀ step ∈ accountedRun, step.2.isCounted = true) ∧
        accountedRun.length < 2 ^ 64 ∧
        (∀ handle, Shallow ((World.opening ⟨0⟩ .sentinel).history handle accountedRun)) ∧
        last.counters =
          { lazyInits := 1, deadlocksReported := 1, waitYields := 3
            fairnessDeferrals := 1, staleWaiterResets := 2 } ∧
        last.callers Call.isParked = {⟨3⟩} ∧
        (World.opening ⟨0⟩ .sentinel).canceledRelocks accountedRun = [⟨1⟩] ∧
        Accounts (World.opening ⟨0⟩ .sentinel) last accountedRun := by
  have beginning : (World.opening ⟨0⟩ .sentinel).Beginning := .opening (by simp)
  have counted : ∀ step ∈ accountedRun, step.2.isCounted = true := by
    decide
  have short : accountedRun.length < 2 ^ 64 := by
    decide
  have shallow (handle : HandleId) :
      Shallow ((World.opening ⟨0⟩ .sentinel).history handle accountedRun) :=
    .of_short_run (by decide) _ _
  have possible : ((World.opening ⟨0⟩ .sentinel).run? accountedRun).isSome = true := by
    decide
  have ran := (Option.some_get possible).symm
  exact ⟨_, _, beginning, ran, counted, short, shallow, by decide, by decide, by decide,
    beginning.counters_account ran counted short shallow⟩

/--
Thread 0 relocks an error-checking mutex of its own with a request pending, and is
canceled at the end of the scope of the call that came to the deadlock.
-/
def canceledRefusal : List (ThreadId × Event) :=
  [(⟨0⟩, .call ⟨0⟩ (.create (some { kind := .errorCheck })) false),
    (⟨0⟩, .proceed), (⟨0⟩, .proceed),
    (⟨0⟩, .call ⟨0⟩ .lock false), (⟨0⟩, .proceed), (⟨0⟩, .proceed),
    (⟨0⟩, .setType .asynchronous), (⟨0⟩, .requestById ⟨0⟩),
    (⟨0⟩, .call ⟨0⟩ .lock false), (⟨0⟩, .proceed), (⟨0⟩, .proceed)]

/-- Thread 1 parks behind thread 0, which keeps the mutex, and has let go of the latch. -/
def uncountedPark : List (ThreadId × Event) :=
  [(⟨0⟩, .call ⟨0⟩ .lock false), (⟨0⟩, .proceed), (⟨0⟩, .proceed),
    (⟨1⟩, .call ⟨0⟩ .lock false), (⟨1⟩, .proceed)]

/--
A deadlock is counted, though no call is under way and none has returned one; and a park
is not counted yet, though the latch is free again.
-/
theorem World.refusal_counted_park_uncounted :
    (∃ last replies,
      (World.opening ⟨0⟩ .empty).Beginning ∧
        (World.opening ⟨0⟩ .empty).run? canceledRefusal = some (last, replies) ∧
        (∀ step ∈ canceledRefusal, step.2.isCounted = true) ∧
        canceledRefusal.length < 2 ^ 64 ∧
        (∀ handle, Shallow ((World.opening ⟨0⟩ .empty).history handle canceledRefusal)) ∧
        last.callers (fun _ => true) = ∅ ∧
        ((World.opening ⟨0⟩ .empty).endings canceledRefusal).countP Ending.returnsDeadlock = 0 ∧
        last.counters.deadlocksReported = 1) ∧
      ∃ last replies,
        (World.opening ⟨0⟩ .sentinel).Beginning ∧
          (World.opening ⟨0⟩ .sentinel).run? uncountedPark = some (last, replies) ∧
          (∀ step ∈ uncountedPark, step.2.isCounted = true) ∧
          uncountedPark.length < 2 ^ 64 ∧
          (∀ handle, Shallow ((World.opening ⟨0⟩ .sentinel).history handle uncountedPark)) ∧
          (last.cells.get ⟨0⟩).holder = none ∧
          ((World.opening ⟨0⟩ .sentinel).sections uncountedPark).countP
              (fun ran => ran.2.operation = .lock ∧ ran.2.parks) =
            1 ∧
          last.counters.waitYields = 0 := by
  constructor
  · have beginning : (World.opening ⟨0⟩ .empty).Beginning := .opening (by simp)
    have possible : ((World.opening ⟨0⟩ .empty).run? canceledRefusal).isSome = true := by
      decide
    exact ⟨_, _, beginning, (Option.some_get possible).symm, by decide, by decide,
      .of_short_run (by decide) _, by decide, by decide, by decide⟩
  · have beginning : (World.opening ⟨0⟩ .sentinel).Beginning := .opening (by simp)
    have possible : ((World.opening ⟨0⟩ .sentinel).run? uncountedPark).isSome = true := by
      decide
    exact ⟨_, _, beginning, (Option.some_get possible).symm, by decide, by decide,
      .of_short_run (by decide) _, by decide, by decide, by decide⟩

end LatchMutex
