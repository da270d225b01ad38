import LatchMutex.Proofs.MutexInitialization
import LatchMutex.Proofs.Processes
import LatchMutex.Proofs.Withdrawals

namespace LatchMutex

/-!
# The turns of a thread in a process

A thread without a call under way begins one in its turn, or is over with something at
once: `Process.Opens`.  A thread with a call under way goes on with it: `Process.Moves`.
In both cases the turn says whether the thread reaches an allocation and what it finds
under the latch, and a failure that it meets is reported at once or owed until its call
returns.
-/

/-- A step of a thread's own returns no result. -/
theorem Thread.step?_ne_returned
    {thread after : Thread}
    {event : Event}
    {reply : Reply}
    (own : thread.step? event = some (reply, after))
    (result : Result) :
    reply ≠ .returned result := by
  have tested (thread : Thread) (told : Bool × CancelStatus) :
      (thread.afterTest told).1 ≠ .returned result := by
    unfold Thread.afterTest
    split <;> simp
  cases Thread.step?_acts own with
  | tests | leavesScope | yields =>
      exact tested _ _
  | _ =>
      simp

namespace Process

/-- A step that a thread takes itself. -/
structure Turn where
  before : Process
  event : ProcessEvent
  after : Process

namespace Turn

/-- Whether the thread reaches an allocation in its turn. -/
def reaches (turn : Turn) (me : ThreadId) : Bool :=
  turn.before.allocates me turn.event

/-- What the thread finds under the latch, if it obtains the latch in its turn. -/
def found? (turn : Turn) (me : ThreadId) : Option Slot :=
  match turn.event with
  | .step event =>
      (turn.before.platform.world.section? me event).map fun (_, visit) => visit.slot
  | .call _ => none

/-- A turn without the latch and without an allocation. -/
structure Quiet (turn : Turn) (me : ThreadId) : Prop where
  unlatched : turn.found? me = none
  spares : turn.reaches me = false

/-- A small step that runs no section is quiet. -/
theorem quiet_of_unvisited
    {me : ThreadId}
    {before after : Process}
    {event : Event}
    (unvisited : before.platform.world.section? me event = none) :
    Quiet ⟨before, .step event, after⟩ me where
  unlatched := by simp [found?, unvisited]
  spares := by simp [reaches, Process.allocates, unvisited]

end Turn

/-- What a thread with a call under way does in its turn, and how it is answered. -/
inductive Moves (me : ThreadId) (call : Call) (turn : Turn) : ProcessAnswer → Prop where
  | visits
      {visit : Visit}
      (due : call.phase = .arriving ∨ call.phase = .yielding)
      (comes : visit = turn.before.platform.world.visitOf me call)
      (finds : turn.found? me = some visit.slot)
      (reaches : turn.reaches me = visit.allocates)
      (running :
        (turn.after.thread me).call =
          some { call with phase := .ofProgress visit.done.progress }) :
      Moves me call turn (.replied .silent)
  | waits
      (quiet : turn.Quiet me)
      (running : (turn.after.thread me).call = some call)
      (staying : ∀ result, call.phase ≠ .leaving result) :
      Moves me call turn (.replied .silent)
  | yields
      (quiet : turn.Quiet me)
      (parked : call.phase = .parked)
      (running : (turn.after.thread me).call = some { call with phase := .yielding }) :
      Moves me call turn (.replied .silent)
  | givesUp
      (quiet : turn.Quiet me)
      (arriving : call.phase = .arriving)
      (single : call.operation = .tryLock)
      (running :
        (turn.after.thread me).call = some { call with phase := .leaving (.error .busy) }) :
      Moves me call turn (.replied .silent)
  | returns
      {result : Result}
      (quiet : turn.Quiet me)
      (leaving : call.phase = .leaving result)
      (ended : (turn.after.thread me).call = none) :
      Moves me call turn (.replied (.returned result))
  | canceled
      (quiet : turn.Quiet me)
      (ended : (turn.after.thread me).call = none) :
      Moves me call turn (.replied .canceled)

variable
  {process next : Process} {me other : ThreadId} {event : ProcessEvent} {call : Call}
  {answer : ProcessAnswer}

/-- A thread with a call under way only goes on with it. -/
theorem moves
    (running : (process.thread me).call = some call)
    (stepped : process.step? me event = some (answer, next)) :
    Moves me call ⟨process, event, next⟩ answer := by
  cases event with
  | call begun =>
      simp [step?, isFree, running] at stepped
  | step event =>
      obtain ⟨⟨world, reply⟩, ran, done⟩ := Option.map_eq_some_iff.mp stepped
      cases done
      have silent
          (unvisited : process.platform.world.section? me event = none) :
          Turn.Quiet ⟨process, .step event, process.withWorld world⟩ me :=
        Turn.quiet_of_unvisited unvisited
      cases (World.step?_eq_some_iff.mp ran).2 with
      | idle free =>
          simp [thread, free] at running
      | visits found due unlatched =>
          cases running.symm.trans found
          have runs := World.section?_of_due found due
          refine .visits due rfl ?_ ?_ ?_
          · simp [Turn.found?, runs]
          · simp [Turn.reaches, allocates, runs]
          · simp [thread, withWorld, World.afterVisit]
      | yields found parked =>
          cases running.symm.trans found
          have quiet := silent (by simp [World.section?, World.visit?, found, parked])
          rcases Thread.startYield_cases (process.platform.world.thread me) call with
            ⟨told, ended⟩ | ⟨told, yielding⟩
          · rw [told]
            exact .canceled quiet (by simpa [thread, withWorld] using ended)
          · rw [told]
            exact .yields quiet parked (by simpa [thread, withWorld] using yielding)
      | spins found spinning =>
          cases running.symm.trans found
          exact .waits (silent (by simp [World.section?, World.visit?, found, spinning])) running
            (by simp [spinning])
      | @leaves _ result found leaving =>
          cases running.symm.trans found
          have quiet := silent (by simp [World.section?, World.visit?, found, leaving])
          rcases Thread.finish_cases (process.platform.world.thread me) call result with
            told | told
          · rw [told]
            exact .canceled quiet (by simp [thread, withWorld])
          · rw [told]
            exact .returns quiet leaving (by simp [thread, withWorld])
      | givesUp found arriving single =>
          cases running.symm.trans found
          exact .givesUp (silent (by simp [World.section?, World.visit?, found])) arriving single
            (by simp [thread, withWorld])
      | waits found arriving =>
          cases running.symm.trans found
          exact .waits (silent (by simp [World.section?, World.visit?, found])) running
            (by simp [arriving])
      | waitsAgain found yielding =>
          cases running.symm.trans found
          refine .waits (silent (by simp [World.section?, World.visit?, found])) ?_
            (by simp [yielding])
          simpa [thread, withWorld] using running

/-- The steps of the other threads leave the call of a thread as it is. -/
theorem call_of_ne
    (stepped : process.step? me event = some (answer, next))
    (different : other ≠ me) :
    (next.thread other).call = (process.thread other).call := by
  have unset
      {world : World}
      {own : Thread}
      (drawn : world = process.platform.world.setThread me own) :
      (world.thread other).call = (process.thread other).call := by
    rw [drawn, World.thread_setThread_of_ne _ different]
    rfl
  cases event with
  | step event =>
      obtain ⟨⟨world, reply⟩, ran, done⟩ := Option.map_eq_some_iff.mp stepped
      cases done
      exact World.step?_call_of_ne ran different
  | call call =>
      obtain ⟨free, called⟩ := Option.ite_none_right_eq_some.mp stepped
      cases call with
      | attributes call =>
          obtain ⟨reply, boundary, rest, -, -, rfl⟩ := call?_attribute called
          exact unset rfl
      | owner owner call =>
          cases called
          exact unset rfl
      | nullMutex | copy source target | switch level =>
          cases called
          rfl
      | initMutex mutex place =>
          cases mutex with
          | none =>
              cases called
              rfl
          | some mutex =>
              cases initiates free called with
              | turnedAway | unsupported =>
                  rfl
              | begins =>
                  exact congrArg Thread.call (World.thread_setThread_of_ne _ different _)

/-- A failure that a thread has met and not reported yet. -/
def owes (process : Process) (me : ThreadId) : Nat :=
  if (process.thread me).call.any fun call => call.phase = .leaving (.error .outOfMemory) then
    1
  else
    0

theorem owes_of_idle (idle : (process.thread me).call = none) : process.owes me = 0 := by
  simp [owes, idle]

theorem owes_of_running (running : (process.thread me).call = some call) :
    process.owes me = if call.phase = .leaving (.error .outOfMemory) then 1 else 0 := by
  simp [owes, running]

/-- What a section that allocates leaves a thread with: an unreported failure, or none. -/
theorem Turn.owed_of_visit
    {turn : Turn}
    {visit : Visit}
    (accounts : turn.before.Accounts turn.after me turn.event)
    (uninjected : ∀ failures, turn.event ≠ .step (.inject failures))
    (comes : visit = turn.before.platform.world.visitOf me call)
    (reaches : turn.reaches me = visit.allocates)
    (running :
      (turn.after.thread me).call =
        some { call with phase := .ofProgress visit.done.progress }) :
    turn.after.pending me + turn.after.owes me = turn.before.pending me := by
  rw [owes_of_running running]
  cases allocates : visit.allocates with
  | false =>
      have spares : turn.before.allocates me turn.event = false := reaches.trans allocates
      rw [if_neg, accounts.spares spares uninjected, Nat.add_zero]
      rw [Phase.ofProgress_eq_leaving]
      exact (visit.abstains allocates).progress
  | true =>
      have meets : turn.before.allocates me turn.event = true := reaches.trans allocates
      have budget : visit.budget = (turn.before.thread me).budget := by
        rw [comes]
        rfl
      rw [progress_of_allocating budget allocates]
      by_cases none : turn.before.pending me = 0
      · rw [if_pos none, if_neg (by simp [Phase.ofProgress]), (accounts.succeeds meets none).1,
          none]
      · rw [if_neg none, if_pos (by rfl), (accounts.starves meets none).1]

/-- A thread with a call under way neither injects failures nor overwrites storage. -/
theorem operates_of_running
    (running : (process.thread me).call = some call)
    (stepped : process.step? me event = some (answer, next)) :
    event.operates = true := by
  cases event with
  | call =>
      rfl
  | step event =>
      rw [thread] at running
      cases event with
      | inject | place =>
          simp [step?, World.step?, running] at stepped
      | _ =>
          rfl

/-- A turn of a call under way spends a failure that it reports or owes, unless it is canceled. -/
theorem kept_of_running
    (running : (process.thread me).call = some call)
    (stepped : process.step? me event = some (answer, next))
    (uncanceled : answer ≠ .replied .canceled) :
    next.pending me + next.owes me + answer.lacksMemory.toNat =
      process.pending me + process.owes me := by
  have accounts := process.accounts stepped
  have uninjected := ProcessEvent.ne_inject (operates_of_running running stepped)
  have same (quiet : Turn.Quiet ⟨process, event, next⟩ me) :
      next.pending me = process.pending me :=
    accounts.spares quiet.spares uninjected
  rw [owes_of_running running]
  cases moves running stepped with
  | visits due comes finds reaches after =>
      have owed := Turn.owed_of_visit accounts uninjected comes reaches after
      have unowing : call.phase ≠ .leaving (.error .outOfMemory) := by
        rcases due with phase | phase <;> simp [phase]
      rw [owed, if_neg unowing]
      rfl
  | waits quiet after staying =>
      rw [same quiet, owes_of_running after, if_neg (staying _)]
      rfl
  | yields quiet parked after =>
      rw [same quiet, owes_of_running after, parked]
      rfl
  | givesUp quiet arriving single after =>
      rw [same quiet, owes_of_running after, arriving]
      rfl
  | returns quiet leaving ended =>
      rw [same quiet, owes_of_idle ended, leaving, ProcessAnswer.lacksMemory]
      simp only [Phase.leaving.injEq, Reply.returned.injEq]
      split <;> rename_i lacks <;> simp [lacks]
  | canceled =>
      exact (uncanceled rfl).elim

variable {operation : Operation} {turns : List Turn}

/-- The operation on a mutex that a step begins. -/
inductive Starts (process : Process) : ProcessEvent → Operation → Prop where
  | called
      {handle : HandleId} {operation : Operation} {guarded : Bool}
      (accepted : operation.isRefused = false) :
      Starts process (.step (.call handle operation guarded)) operation
  | dropped
      (position : Nat) :
      Starts process (.step (.dropGuard position)) .unlock
  | initialized
      {mutex : HandleId} {place : Option SlotId} {attributes : Option Attributes}
      (accepted :
        process.platform.boundary.attributesOf process.level place = .ok (.ok attributes))
      (unshared : (Operation.create attributes).isRefused = false) :
      Starts process (.call (.initMutex (some mutex) place)) (.create attributes)

theorem Starts.operates (starts : process.Starts event operation) : event.operates = true := by
  cases starts <;> rfl

/-- The operations that have to allocate, with the turns of their thread. -/
inductive Demands (process : Process) (me : ThreadId) (turns : List Turn) :
    ProcessEvent → Prop where
  | initializesSlot
      (slot : SlotId) :
      Demands process me turns (.call (.attributes (.init (some slot))))
  | createsObject
      (owner : OwnerId) :
      Demands process me turns (.call (.owner owner .create))
  | createsMutex
      {handle : HandleId} {attributes : Option Attributes} {guarded : Bool}
      (unshared : ∀ object ∈ attributes, object.sharing = .processPrivate) :
      Demands process me turns (.step (.call handle (.create attributes) guarded))
  | initializesMutex
      {mutex : HandleId} {place : Option SlotId} {attributes : Option Attributes}
      (accepted :
        process.platform.boundary.attributesOf process.level place = .ok (.ok attributes))
      (unshared : ∀ object ∈ attributes, object.sharing = .processPrivate) :
      Demands process me turns (.call (.initMutex (some mutex) place))
  /-- The first time that a lock has the latch, it finds the sentinel. -/
  | locks
      {handle : HandleId} {operation : Operation} {guarded : Bool}
      (locks : operation = .lock ∨ operation = .tryLock)
      (finds : turns.findSome? (·.found? me) = some .sentinel) :
      Demands process me turns (.step (.call handle operation guarded))

/-- An operation that is let in has to allocate by what it does and what it finds. -/
theorem demands_iff (starts : process.Starts event operation) :
    process.Demands me turns event ↔
      (∃ attributes, operation = .create attributes) ∨
        (operation = .lock ∨ operation = .tryLock) ∧
          turns.findSome? (·.found? me) = some .sentinel := by
  cases starts with
  | called accepted =>
      constructor
      · rintro (_ | _ | _ | _ | ⟨locks, finds⟩)
        · exact .inl ⟨_, rfl⟩
        · exact .inr ⟨locks, finds⟩
      · rintro (⟨attributes, rfl⟩ | ⟨locks, finds⟩)
        · exact .createsMutex (Operation.isRefused_create_eq_false_iff.mp accepted)
        · exact .locks locks finds
  | dropped position =>
      refine iff_of_false (fun demands => by cases demands) ?_
      simp
  | initialized accepted unshared =>
      have unsharing := Operation.isRefused_create_eq_false_iff.mp unshared
      exact iff_of_true (.initializesMutex accepted unsharing) (.inl ⟨_, rfl⟩)

/-- What an operation needs memory for that finds its first slot. -/
theorem demands_of_needs
    {slot : Slot}
    (starts : process.Starts event operation)
    (finds : turns.findSome? (·.found? me) = some slot) :
    process.Demands me turns event ↔ slot.needsMemory operation = true := by
  rw [demands_iff starts, finds]
  cases operation <;> simp [Slot.needsMemory]

/-- What a thread without a call does in its turn. -/
inductive Opens
    (process next : Process)
    (me : ThreadId)
    (event : ProcessEvent)
    (answer : ProcessAnswer) :
    Prop where
  | starts
      {operation : Operation} {call : Call}
      (starts : process.Starts event operation)
      (running : (next.thread me).call = some call)
      (performs : call.operation = operation)
      (arriving : call.phase = .arriving)
      (told : answer.lacksMemory = false)
      (spares : process.allocates me event = false) :
      Opens process next me event answer
  | passes
      (ended : (next.thread me).call = none)
      (told : answer.lacksMemory = false)
      (spares : process.allocates me event = false)
      (undemanding : ¬process.Demands me [⟨process, event, next⟩] event) :
      Opens process next me event answer
  | allocates
      (ended : (next.thread me).call = none)
      (starved : process.pending me ≠ 0 → answer.lacksMemory = true)
      (funded : process.pending me = 0 → answer.succeeds = true)
      (reaches : process.allocates me event = true)
      (demands : process.Demands me [⟨process, event, next⟩] event) :
      Opens process next me event answer

/-- A thread without a call finds nothing under a latch. -/
theorem unlatched_of_idle (idle : (process.thread me).call = none) :
    Turn.found? ⟨process, event, next⟩ me = none := by
  cases event with
  | step event =>
      rw [thread] at idle
      simp [Turn.found?, World.section?, idle]
  | call =>
      rfl

theorem opens_of_step
    {event : Event}
    (idle : (process.thread me).call = none)
    (stepped : process.step? me (.step event) = some (answer, next)) :
    process.Opens next me (.step event) answer := by
  rw [thread] at idle
  have spares : process.allocates me (.step event) = false := by
    simp [allocates, World.section?, idle]
  have passes
      (ended : (next.thread me).call = none)
      (told : answer.lacksMemory = false)
      (other : ∀ handle operation guarded, event ≠ .call handle operation guarded) :
      process.Opens next me (.step event) answer := by
    refine .passes ended told spares fun demands => ?_
    cases demands <;> exact other _ _ _ rfl
  obtain ⟨⟨world, reply⟩, ran, done⟩ := Option.map_eq_some_iff.mp stepped
  cases done
  cases (World.step?_eq_some_iff.mp ran).2 with
  | idle free stepped =>
      cases World.stepIdle?_idles stepped with
      | calls accepted =>
          exact .starts (.called accepted)
            (congrArg Thread.call (World.thread_setThread_self _ _ _)) rfl rfl rfl spares
      | drops held =>
          exact .starts (.dropped _)
            (congrArg Thread.call (World.thread_setThread_self _ _ _)) rfl rfl rfl spares
      | refuses refused =>
          refine .passes idle rfl spares fun demands => ?_
          cases demands with
          | createsMutex unshared =>
              rw [Operation.isRefused_create_eq_false_iff.mpr unshared] at refused
              contradiction
          | locks locks finds =>
              rcases locks with rfl | rfl <;> contradiction
      | sharesHandle =>
          refine passes ?_ rfl (by simp)
          rw [thread, withWorld, World.thread_shareHandle, World.thread_setThread_self]
          exact idle
      | @requests target | @requestsById target =>
          obtain ⟨pending, raised⟩ := process.platform.world.thread_raisePending target me
          exact passes (by rw [thread, withWorld, raised, idle]) rfl (by simp)
      | misses | places | resets =>
          exact passes idle rfl (by simp)
      | acts own =>
          refine passes ?_ ?_ ?_
          · rw [thread, withWorld, World.thread_setThread_self, Thread.step?_call free own]
          · have told := Thread.step?_ne_returned own (.error .outOfMemory)
            simp [ProcessAnswer.lacksMemory, told]
          · rintro handle operation guarded rfl
            cases own
  | _ busy =>
      simp [idle] at busy

/-- Without memory a call on an attribute slot reports it, and with memory it succeeds. -/
theorem opens_of_attribute
    {call : AttributeCall}
    (idle : (process.thread me).call = none)
    (called : process.call? me (.attributes call) = some (answer, next)) :
    process.Opens next me (.call (.attributes call)) answer := by
  obtain ⟨reply, boundary, rest, performed, rfl, rfl⟩ := call?_attribute called
  have ended :
      ((process.platform.world.setThread me
        { process.thread me with budget := rest }).thread me).call = none := by
    rw [World.thread_setThread_self]
    exact idle
  cases initializes : call.isInit with
  | false =>
      have acts := Boundary.acts_of_perform initializes performed
      refine .passes ended (decide_eq_false acts.status) ?_ fun demands => ?_
      · cases call <;> first | rfl | contradiction
      · cases demands
        contradiction
  | true =>
      cases call with
      | init place =>
          cases place with
          | none =>
              cases performed
              exact .passes ended rfl rfl fun demands => by cases demands
          | some place =>
              obtain ⟨-, starves, succeeds⟩ := Boundary.initializes_of_perform performed
              refine .allocates ended (fun pending => ?_) (fun none => ?_) rfl
                (.initializesSlot place)
              · rw [(starves (pending_eq_zero.not.mp pending)).1]
                rfl
              · rw [(succeeds (pending_eq_zero.mp none)).1]
                rfl
      | destroy | setKind | setSharing | getKind | getSharing =>
          contradiction

theorem opens_of_owner
    {owner : OwnerId}
    {call : OwnerCall}
    (idle : (process.thread me).call = none)
    (called : process.call? me (.owner owner call) = some (answer, next)) :
    process.Opens next me (.call (.owner owner call)) answer := by
  simp only [call?, Option.some.injEq, Prod.mk.injEq] at called
  obtain ⟨rfl, rfl⟩ := called
  have ended (budget : Budget) :
      ((process.platform.world.setThread me
        { process.thread me with budget }).thread me).call = none := by
    rw [World.thread_setThread_self]
    exact idle
  by_cases creates : call = .create
  · subst creates
    refine .allocates (ended _) (fun pending => ?_) (fun none => ?_) rfl (.createsObject owner)
    · simp only [AttributeHandle.call,
        AttributeHandle.create_of_starved (pending_eq_zero.not.mp pending)]
      rfl
    · simp only [AttributeHandle.call,
        AttributeHandle.create_of_funded (pending_eq_zero.mp none)]
      rfl
  · obtain ⟨-, told, -⟩ :=
      (process.owned.get owner).call_of_ne_create process.platform.sharing
        (process.thread me).budget creates
    refine .passes (ended _) (Bool.eq_false_iff.mpr fun lacks => ?_) ?_ fun demands => ?_
    · exact told (Outcome.lacksMemory_iff.mp lacks)
    · cases call <;> first | rfl | exact (creates rfl).elim
    · cases demands
      exact creates rfl

theorem opens_of_initMutex
    {mutex : Option HandleId}
    {place : Option SlotId}
    (free : process.isFree me = true)
    (called : process.call? me (.initMutex mutex place) = some (answer, next)) :
    process.Opens next me (.call (.initMutex mutex place)) answer := by
  have idle := (isFree_iff.mp free).2
  cases mutex with
  | none =>
      cases called
      exact .passes idle rfl rfl fun demands => by cases demands
  | some mutex =>
      cases initiates free called with
      | turnedAway refused =>
          obtain rfl := Boundary.eq_invalid_of_attributesOf refused
          refine .passes idle rfl rfl fun demands => ?_
          cases demands with
          | initializesMutex reads =>
              cases refused.symm.trans reads
      | unsupported accepted shared =>
          refine .passes idle rfl rfl fun demands => ?_
          cases demands with
          | initializesMutex reads unshared =>
              cases accepted.symm.trans reads
              rw [Operation.isRefused_create_eq_false_iff.mpr unshared] at shared
              contradiction
      | begins accepted unshared =>
          exact .starts (.initialized accepted unshared)
            (congrArg Thread.call (World.thread_setThread_self _ _ _)) rfl rfl rfl rfl

theorem opens
    (idle : (process.thread me).call = none)
    (stepped : process.step? me event = some (answer, next)) :
    process.Opens next me event answer := by
  cases event with
  | step event =>
      exact opens_of_step idle stepped
  | call call =>
      obtain ⟨free, called⟩ := Option.ite_none_right_eq_some.mp stepped
      cases call with
      | attributes call =>
          exact opens_of_attribute idle called
      | owner owner call =>
          exact opens_of_owner idle called
      | initMutex mutex place =>
          exact opens_of_initMutex free called
      | nullMutex | copy source target | switch level =>
          cases called
          exact .passes idle rfl rfl fun demands => by cases demands

end Process

end LatchMutex
