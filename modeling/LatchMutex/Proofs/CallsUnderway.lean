import LatchMutex.Proofs.LoneCalls
import LatchMutex.Proofs.Registrations
import LatchMutex.Proofs.SettledRecords
import LatchMutex.Proofs.Withdrawals

namespace LatchMutex

/-!
# One call among the steps of the others

`World.Continues` is a run, of all threads in any interleaving, that leaves the
call of one thread under way from its first step to its last.  During it the
thread stays in that call with the cancel state that it had, and its pending flag
is raised by requests only.  `Call.Reached` tells from the visits of the call how
far it has come: every visit but the last one parked.
-/

/-- A run that leaves a handle to its operations and a thread in the middle of its call. -/
inductive World.Continues (me : ThreadId) (handle : HandleId) :
    World → List (ThreadId × Event) → World → Prop where
  | nil
      {world : World}
      (underway : (world.thread me).call ≠ none) :
      Continues me handle world [] world
  | cons
      {world next last : World} {who : ThreadId} {event : Event} {reply : Reply}
      {rest : List (ThreadId × Event)}
      (underway : (world.thread me).call ≠ none)
      (stepped : world.step? who event = some (next, reply))
      (kept : event.keeps handle = true)
      (later : Continues me handle next rest last) :
      Continues me handle world ((who, event) :: rest) last

namespace World.Continues

variable
  {me : ThreadId} {handle : HandleId} {world middle last : World}
  {run earlier later : List (ThreadId × Event)}

theorem underway_first (continues : world.Continues me handle run last) :
    (world.thread me).call ≠ none := by
  cases continues <;> assumption

/-- The run is possible, and leaves the handle to its operations. -/
theorem possible (continues : world.Continues me handle run last) :
    (∃ replies, world.run? run = some (last, replies)) ∧
      ∀ step ∈ run, step.2.keeps handle = true := by
  induction continues with
  | nil underway =>
      exact ⟨⟨[], rfl⟩, by simp⟩
  | cons underway stepped kept later inductionHypothesis =>
      obtain ⟨⟨replies, ran⟩, keptLater⟩ := inductionHypothesis
      exact ⟨⟨_, run?_cons.mpr ⟨_, _, replies, stepped, ran, rfl⟩⟩,
        List.forall_mem_cons.mpr ⟨kept, keptLater⟩⟩

theorem append
    (first : world.Continues me handle earlier middle)
    (second : middle.Continues me handle later last) :
    world.Continues me handle (earlier ++ later) last := by
  induction first with
  | nil underway =>
      exact second
  | cons underway stepped kept tail inductionHypothesis =>
      exact .cons underway stepped kept (inductionHypothesis second)

/-- A run in which a thread only goes on with its call leaves the call under way, if it ends so. -/
theorem of_run?
    {replies : List Reply}
    (ran : world.run? run = some (last, replies))
    (kept : ∀ step ∈ run, step.2.keeps handle = true)
    (goesOn : ∀ step ∈ run, step.1 = me → step.2.continues = true)
    (underway : (last.thread me).call ≠ none) :
    world.Continues me handle run last := by
  induction run generalizing world replies with
  | nil =>
      cases ran
      exact .nil underway
  | cons step rest inductionHypothesis =>
      obtain ⟨who, event⟩ := step
      have running : (world.thread me).call ≠ none := by
        intro free
        exact underway (run?_call_of_free free ran goesOn)
      obtain ⟨next, reply, _, stepped, tail, rfl⟩ := run?_cons.mp ran
      rw [List.forall_mem_cons] at kept goesOn
      exact .cons running stepped kept.1 (inductionHypothesis tail kept.2 goesOn.2)

/-- Every section along the way is run in the middle of the call. -/
theorem visit_of_mem
    {visit : Visit}
    (continues : world.Continues me handle run last)
    (member : visit ∈ world.history handle run) :
    ∃ earlier event later before,
      run = earlier ++ (visit.thread, event) :: later ∧
        world.Continues me handle earlier before ∧
        before.visit? visit.thread event handle = some visit := by
  induction continues with
  | nil underway =>
      contradiction
  | @cons world next last who event reply rest underway stepped kept tail inductionHypothesis =>
      simp only [history, stepped, List.mem_append, Option.mem_toList] at member
      rcases member with here | after
      · have mine := visit?_thread here
        subst mine
        exact ⟨[], event, rest, world, rfl, .nil underway, here⟩
      · obtain ⟨earlier, laterEvent, later, before, rfl, onward, visits⟩ :=
          inductionHypothesis after
        exact ⟨(who, event) :: earlier, laterEvent, later, before, rfl,
          .cons underway stepped kept onward, visits⟩

end World.Continues

namespace Course

variable
  {handle : HandleId} {start : Slot} {run more : List (ThreadId × Event)} {world later : World}

/-- A course goes on with every possible run that leaves the handle to its operations. -/
theorem append
    {replies : List Reply}
    (course : Course handle start run world)
    (ran : world.run? more = some (later, replies))
    (kept : ∀ step ∈ more, step.2.keeps handle = true) :
    Course handle start (run ++ more) later where
  unbuilt := course.unbuilt
  kept := List.forall_mem_append.mpr ⟨course.kept, kept⟩
  ran := by
    obtain ⟨before, ranBefore⟩ := course.ran
    exact ⟨_, World.run?_append.mpr ⟨world, before, replies, ranBefore, ran, rfl⟩⟩

theorem snoc
    {me : ThreadId}
    {event : Event}
    {reply : Reply}
    (course : Course handle start run world)
    (stepped : world.step? me event = some (later, reply))
    (kept : event.keeps handle = true) :
    Course handle start (run ++ [(me, event)]) later :=
  course.append (World.run?_cons.mpr ⟨later, reply, [], stepped, rfl, rfl⟩) (by simpa using kept)

theorem continues
    {me : ThreadId}
    (course : Course handle start run world)
    (continues : world.Continues me handle more later) :
    Course handle start (run ++ more) later := by
  obtain ⟨⟨replies, ran⟩, kept⟩ := continues.possible
  exact course.append ran kept

end Course

/-- What stays of a thread while its call is under way, with or without a request to it. -/
structure Thread.Sustains (first later : Thread) (requested : Bool) : Prop where
  call : ∀ call, first.call = some call → ∃ phase, later.call = some { call with phase }
  awake : later.exited = first.exited
  touched : later.touched = first.touched
  unwinding : later.unwinding = first.unwinding
  state : later.cancel.state = first.cancel.state
  pending : later.cancel.pending = (first.cancel.pending || requested)

namespace Thread

variable {first second third : Thread}

theorem Sustains.refl (thread : Thread) : thread.Sustains thread false where
  call call running := ⟨call.phase, running⟩
  awake := rfl
  touched := rfl
  unwinding := rfl
  state := rfl
  pending := (Bool.or_false _).symm

theorem Sustains.trans
    {requested again : Bool}
    (sustains : first.Sustains second requested)
    (later : second.Sustains third again) :
    first.Sustains third (requested || again) where
  call := by
    intro call running
    obtain ⟨phase, runningSecond⟩ := sustains.call call running
    obtain ⟨last, runningThird⟩ := later.call _ runningSecond
    exact ⟨last, runningThird⟩
  awake := later.awake.trans sustains.awake
  touched := later.touched.trans sustains.touched
  unwinding := later.unwinding.trans sustains.unwinding
  state := later.state.trans sustains.state
  pending := by rw [later.pending, sustains.pending, Bool.or_assoc]

/-- Whether the call would be canceled if its scope ended now. -/
def isDue (thread : Thread) (call : Call) : Bool :=
  (thread.cancel.setType call.previous).isDeliverable

theorem isDue_iff {thread : Thread} {call : Call} :
    thread.isDue call = true ↔
      call.previous = .asynchronous ∧
        thread.cancel.state = .enabled ∧
        thread.cancel.pending = true := by
  simp only [isDue, CancelStatus.isDeliverable, CancelStatus.setType]
  exact decide_eq_true_iff.trans and_left_comm

/-- Where a yield would start, a call that is due is canceled. -/
theorem startYield_of_due
    {thread : Thread}
    {call : Call}
    (due : thread.isDue call = true) :
    thread.startYield call =
      (.canceled,
        thread.unwind { thread.cancel with type := call.previous, pending := false }) := by
  obtain ⟨asynchronous, enabled, pending⟩ := isDue_iff.mp due
  simp [startYield, asynchronous, enabled, pending, CancelStatus.openWindow, CancelStatus.test,
    CancelStatus.isDeliverable, CancelStatus.closeWindow, CancelStatus.unwindScope,
    CancelStatus.setType]

/-- At the end of its scope a call that is due is canceled, unless its thread unwinds already. -/
theorem finish_of_due
    {thread : Thread}
    {call : Call}
    (calm : thread.unwinding = false)
    (due : thread.isDue call = true)
    (result : Result) :
    thread.finish call result =
      (.canceled,
        thread.unwind { thread.cancel with type := call.previous, pending := false }) := by
  obtain ⟨asynchronous, enabled, pending⟩ := isDue_iff.mp due
  simp [finish, calm, asynchronous, enabled, pending, CancelStatus.leaveScope,
    CancelStatus.unwindScope, CancelStatus.test, CancelStatus.isDeliverable,
    CancelStatus.setType]

end Thread

namespace World

variable
  {me who : ThreadId} {handle : HandleId} {world next entered middle last : World} {event : Event}
  {reply : Reply} {run earlier : List (ThreadId × Event)} {call : Call}

/-- A thread that got into a call has only entered the scope of the operation. -/
theorem enters_cases
    (idle : (world.thread me).call = none)
    (stepped : world.step? me event = some (entered, reply))
    (running : (entered.thread me).call = some call) :
    (world.thread me).exited = false ∧
      (∀ handle, event.keeps handle = true) ∧
      reply = .silent ∧
      call.operation.isRefused = false ∧
      call.phase = .arriving ∧
      ∃ guards,
        entered =
          world.setThread me
            ({ world.thread me with guards }.start call.handle call.operation call.guarded) := by
  obtain ⟨awake, step⟩ := step?_eq_some_iff.mp stepped
  refine ⟨awake, ?_⟩
  clear stepped
  cases step with
  | idle free stepped =>
      obtain ⟨accepted, arriving⟩ := stepIdle?_call free stepped running
      cases stepIdle?_idles stepped with
      | calls | drops =>
          rw [thread_setThread_self, Thread.start_call, Option.some.injEq] at running
          subst running
          exact ⟨fun _ => rfl, rfl, accepted, arriving, _, rfl⟩
      | @requests target | @requestsById target =>
          obtain ⟨pending, raised⟩ := world.thread_raisePending target me
          simp [raised, idle] at running
      | sharesHandle =>
          simp [idle] at running
      | refuses | misses | places | resets =>
          simp [idle] at running
      | acts own =>
          simp [Thread.step?_call free own] at running
  | _ busy =>
      simp [idle] at busy

/-- What another thread's step does to a thread that others can find is whether it asks it. -/
theorem sustains_of_ne
    (registered : world.isRegistered me = true)
    (stepped : world.step? who event = some (next, reply))
    (different : me ≠ who) :
    (world.thread me).Sustains (next.thread me) (event.requests me) := by
  have raised : (world.thread me).Sustains ((world.raisePending me).thread me) true := by
    rw [thread_raisePending_self (world.facade.isEnrolled_of_isRegistered registered)]
    exact
      { call := fun call running => ⟨call.phase, running⟩
        awake := rfl
        touched := rfl
        unwinding := rfl
        state := rfl
        pending := (Bool.or_true _).symm }
  cases requested : event.requests me with
  | false =>
      rw [step?_thread_of_unrequested stepped different requested]
      exact .refl _
  | true =>
      cases (step?_eq_some_iff.mp stepped).2 with
      | idle free stepped =>
          cases stepIdle?_idles stepped with
          | @requests target | @requestsById target =>
              have same : target = me := by
                simpa [Event.requests] using requested
              rwa [same]
          | @misses target unregistered =>
              have same : target = me := by
                simpa [Event.requests] using requested
              rw [same, registered] at unregistered
              contradiction
          | acts own =>
              cases event <;> contradiction
          | _ =>
              contradiction
      | _ =>
          contradiction

/-- The thread's own steps in a call that goes on keep all but its phase. -/
theorem sustains_of_own
    (running : (world.thread me).call = some call)
    (stepped : world.step? me event = some (next, reply))
    (underway : (next.thread me).call ≠ none) :
    (world.thread me).Sustains (next.thread me) (event.requests me) := by
  have kept
      {later : Thread}
      (phase : Phase)
      (runningLater : later.call = some { call with phase })
      (awake : later.exited = (world.thread me).exited)
      (touched : later.touched = (world.thread me).touched)
      (unwinding : later.unwinding = (world.thread me).unwinding)
      (state : later.cancel.state = (world.thread me).cancel.state)
      (pending : later.cancel.pending = (world.thread me).cancel.pending) :
      (world.thread me).Sustains later false := by
    refine ⟨?_, awake, touched, unwinding, state, by rw [pending, Bool.or_false]⟩
    intro same found
    cases running.symm.trans found
    exact ⟨phase, runningLater⟩
  cases (step?_eq_some_iff.mp stepped).2 with
  | idle free =>
      simp [running] at free
  | visits found due unlatched =>
      cases running.symm.trans found
      simp only [afterVisit, thread_counters, thread_setThread_self]
      unfold Thread.endYield
      split <;> exact kept _ rfl rfl rfl rfl rfl rfl
  | yields found parked =>
      cases running.symm.trans found
      simp only [thread_counters, thread_setThread_self] at underway ⊢
      cases due : (world.thread me).isDue call with
      | true =>
          rw [Thread.startYield_of_due due] at underway
          exact (underway rfl).elim
      | false =>
          obtain ⟨type, yields⟩ := Thread.startYield_of_quiet due
          rw [yields]
          exact kept .yielding rfl rfl rfl rfl rfl rfl
  | spins found spinning =>
      exact .refl _
  | leaves found leaving =>
      simp at underway
  | givesUp found arriving single =>
      cases running.symm.trans found
      simp only [thread_counters, thread_setThread_self]
      exact kept _ rfl rfl rfl rfl rfl rfl
  | waits found arriving blocking =>
      exact .refl _
  | waitsAgain found yielding =>
      cases running.symm.trans found
      simp only [thread_counters, thread_setThread_self]
      unfold Thread.endYield
      split
      · exact kept call.phase running rfl rfl rfl rfl rfl
      · exact .refl _

/-- A thread in the middle of its call keeps all but the phase, and is asked to cancel at most. -/
theorem Continues.sustains
    (continues : world.Continues me handle run last)
    (registers : world.Registers)
    (awake : (world.thread me).exited = false)
    (touched : (world.thread me).touched = true) :
    (world.thread me).Sustains (last.thread me) (run.any fun step => step.2.requests me) := by
  induction continues with
  | nil underway =>
      exact .refl _
  | @cons world next last who event reply rest underway stepped kept later inductionHypothesis =>
      have first : (world.thread me).Sustains (next.thread me) (event.requests me) := by
        by_cases mine : me = who
        · subst mine
          obtain ⟨call, running⟩ := Option.ne_none_iff_exists'.mp underway
          exact sustains_of_own running stepped later.underway_first
        · have registered : world.isRegistered me = true := by
            rw [registers.registered, touched, awake]
            rfl
          exact sustains_of_ne registered stepped mine
      exact first.trans
        (inductionHypothesis (registers.step stepped) (first.awake.trans awake)
          (first.touched.trans touched))

/-- The sections that a thread runs on a handle along a run. -/
def visitsOf
    (me : ThreadId)
    (handle : HandleId)
    (world : World)
    (run : List (ThreadId × Event)) :
    List Visit :=
  (world.history handle run).filter fun visit => visit.thread = me

theorem visitsOf_cons
    (stepped : world.step? who event = some (next, reply))
    (me : ThreadId)
    (handle : HandleId)
    (rest : List (ThreadId × Event)) :
    world.visitsOf me handle ((who, event) :: rest) =
      (if who = me then (world.visit? me event handle).toList else []) ++
        next.visitsOf me handle rest := by
  simp only [visitsOf, history, stepped, List.filter_append]
  congr 1
  cases visits : world.visit? who event handle with
  | none =>
      split
      · rename_i mine
        rw [← mine, visits]
        rfl
      · rfl
  | some visit =>
      by_cases mine : who = me
      · subst mine
        simp [visits, visit?_thread visits]
      · simp [visit?_thread visits, mine]

/-- The sections of a call up to one of its steps. -/
theorem visitsOf_append
    (continues : world.Continues me handle earlier middle)
    (later : List (ThreadId × Event)) :
    world.visitsOf me handle (earlier ++ later) =
      world.visitsOf me handle earlier ++ middle.visitsOf me handle later := by
  obtain ⟨⟨replies, ran⟩, -⟩ := continues.possible
  rw [visitsOf, history_append ran, List.filter_append]
  rfl

/-- A step that returns comes from the end of the scope, with the result of the call. -/
theorem leaving_of_returned
    {result : Result}
    (running : (world.thread me).call = some call)
    (stepped : world.step? me event = some (next, .returned result)) :
    call.phase = .leaving result ∧ next.cells = world.cells := by
  generalize replyIs : Reply.returned result = reply at stepped
  cases (step?_eq_some_iff.mp stepped).2 with
  | idle free =>
      simp [running] at free
  | yields found parked =>
      cases running.symm.trans found
      rcases Thread.startYield_cases (world.thread me) call with canceled | yielding
      · simp [canceled.1] at replyIs
      · simp [yielding.1] at replyIs
  | @leaves found reached runningToo leaving =>
      cases running.symm.trans runningToo
      refine ⟨?_, rfl⟩
      rcases Thread.finish_cases (world.thread me) call reached with canceled | returned
      · simp [canceled] at replyIs
      · rw [returned, Reply.returned.injEq] at replyIs
        rw [leaving, replyIs]
  | visits | spins | givesUp | waits | waitsAgain =>
      cases replyIs

end World

/-- How far the sections of a call have brought it: every one but the last has parked. -/
inductive Call.Reached (operation : Operation) : Phase → List Visit → Prop where
  | arriving :
      Reached operation .arriving []
  | parked
      {visits : List Visit}
      (parks :
        ∀ visit ∈ visits, visit.operation = operation ∧ visit.done.progress = .parked) :
      Reached operation .parked visits
  | yielding
      {visits : List Visit}
      (parks :
        ∀ visit ∈ visits, visit.operation = operation ∧ visit.done.progress = .parked) :
      Reached operation .yielding visits
  | leaving
      {earlier : List Visit} {visit : Visit} {result : Result}
      (parks :
        ∀ before ∈ earlier, before.operation = operation ∧ before.done.progress = .parked)
      (same : visit.operation = operation)
      (finishes : visit.done.progress = .finished result) :
      Reached operation (.leaving result) (earlier ++ [visit])
  /-- A try-lock that found the latch held, before it had a section. -/
  | gaveUp
      (single : operation = .tryLock) :
      Reached operation (.leaving (.error .busy)) []

/-- Every section of a call that is about to leave has parked, or come to what the call returns. -/
theorem Call.Reached.of_mem
    {operation : Operation}
    {result : Result}
    {visits : List Visit}
    {visit : Visit}
    (reached : Call.Reached operation (.leaving result) visits)
    (member : visit ∈ visits) :
    visit.operation = operation ∧
      (visit.done.progress = .parked ∨ visit.done.progress = .finished result) := by
  cases reached with
  | @leaving earlier last result parks same finishes =>
      rcases List.mem_append.mp member with before | here
      · exact ⟨(parks visit before).1, .inl (parks visit before).2⟩
      · obtain rfl := List.mem_singleton.mp here
        exact ⟨same, .inr finishes⟩
  | gaveUp single =>
      contradiction

namespace World

variable
  {me : ThreadId} {handle : HandleId} {start : Slot} {world next last : World}
  {past run : List (ThreadId × Event)} {call : Call} {visits : List Visit}

/-- A step of its own brings a call on by the section that it runs. -/
theorem reached_of_own
    {event : Event}
    {reply : Reply}
    (course : Course handle start past world)
    (running : (world.thread me).call = some call)
    (here : call.handle = handle)
    (reached : Call.Reached call.operation call.phase visits)
    (stepped : world.step? me event = some (next, reply))
    (underway : (next.thread me).call ≠ none) :
    ∃ phase,
      (next.thread me).call = some { call with phase } ∧
        Call.Reached call.operation phase
          (visits ++ (world.visit? me event handle).toList) := by
  cases (step?_eq_some_iff.mp stepped).2 with
  | idle free =>
      simp [running] at free
  | visits found due unlatched =>
      cases running.symm.trans found
      have visited : world.visit? me .proceed handle = some (world.visitOf me call) :=
        visit?_eq_some_iff.mpr ⟨rfl, call, running, here, due, rfl⟩
      refine ⟨.ofProgress (world.visitOf me call).done.progress, by simp [afterVisit], ?_⟩
      have parks :
          ∀ visit ∈ visits,
            visit.operation = call.operation ∧ visit.done.progress = .parked := by
        generalize call.phase = phase at due reached
        cases reached with
        | arriving =>
            simp
        | yielding parks =>
            exact parks
        | parked | leaving | gaveUp =>
            simp at due
      rw [visited, Option.toList_some]
      cases progress : (world.visitOf me call).done.progress with
      | finished result =>
          exact .leaving parks rfl progress
      | parked =>
          refine .parked ?_
          rw [List.forall_mem_append]
          exact ⟨parks, by simpa using ⟨rfl, progress⟩⟩
      | spinning =>
          exact (course.smooth visited progress).elim
  | yields found parked =>
      cases running.symm.trans found
      simp only [thread_counters, thread_setThread_self] at underway ⊢
      rcases Thread.startYield_cases (world.thread me) call with canceled | yielding
      · exact (underway canceled.2).elim
      · refine ⟨.yielding, yielding.2, ?_⟩
        rw [parked] at reached
        cases reached with
        | parked parks =>
            simpa [visit?, running, parked] using Call.Reached.yielding parks
  | spins found spinning =>
      cases running.symm.trans found
      rw [spinning] at reached
      cases reached
  | leaves found leaving =>
      simp at underway
  | givesUp found arriving single =>
      cases running.symm.trans found
      refine ⟨.leaving (.error .busy), by simp, ?_⟩
      rw [arriving] at reached
      cases reached
      exact .gaveUp single
  | waits found arriving blocking =>
      exact ⟨call.phase, running, by simpa [visit?] using reached⟩
  | waitsAgain found yielding =>
      cases running.symm.trans found
      exact ⟨call.phase, by simp [running], by simpa [visit?] using reached⟩

/-- At every point of a call its sections so far tell how far it has come. -/
theorem Continues.reached
    (continues : world.Continues me handle run last)
    (course : Course handle start past world)
    (running : (world.thread me).call = some call)
    (here : call.handle = handle)
    (reached : Call.Reached call.operation call.phase visits) :
    ∃ phase,
      (last.thread me).call = some { call with phase } ∧
        Call.Reached call.operation phase (visits ++ world.visitsOf me handle run) := by
  induction continues generalizing past call visits with
  | nil underway =>
      exact ⟨call.phase, running, by simpa [visitsOf, history] using reached⟩
  | @cons world next last who event reply rest underway stepped kept later inductionHypothesis =>
      have courseNext := course.snoc stepped kept
      rw [visitsOf_cons stepped, ← List.append_assoc]
      by_cases mine : who = me
      · subst mine
        obtain ⟨phase, runningNext, reachedNext⟩ :=
          reached_of_own course running here reached stepped later.underway_first
        simpa using inductionHypothesis courseNext runningNext here reachedNext
      · have runningNext : (next.thread me).call = some call := by
          rw [step?_call_of_ne stepped (Ne.symm mine), running]
        simpa [mine] using inductionHypothesis courseNext runningNext here reached

end World

/-- Every point of a call on the handle is one of a course, with its sections so far. -/
theorem Course.reached
    {handle : HandleId}
    {start : Slot}
    {past run : List (ThreadId × Event)}
    {world entered last : World}
    {me : ThreadId}
    {event : Event}
    {reply : Reply}
    {call : Call}
    (course : Course handle start past world)
    (idle : (world.thread me).call = none)
    (stepped : world.step? me event = some (entered, reply))
    (running : (entered.thread me).call = some call)
    (here : call.handle = handle)
    (continues : entered.Continues me handle run last) :
    Course handle start (past ++ [(me, event)] ++ run) last ∧
      ∃ phase,
        (last.thread me).call = some { call with phase } ∧
          Call.Reached call.operation phase (entered.visitsOf me handle run) := by
  obtain ⟨-, keeps, -, -, arriving, -⟩ := World.enters_cases idle stepped running
  have courseEntered := course.snoc stepped (keeps handle)
  have reached : Call.Reached call.operation call.phase [] := by
    rw [arriving]
    exact .arriving
  exact ⟨courseEntered.continues continues, continues.reached courseEntered running here reached⟩

end LatchMutex
