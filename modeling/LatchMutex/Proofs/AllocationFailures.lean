import LatchMutex.Proofs.ProcessTurns

namespace LatchMutex

/-!
# Forced failures surface once

An operation of a thread lasts from a step that the thread takes without a call
under way to the step that leaves it without one.  In between the other threads may
do anything; the turns of the thread itself are what the operation does.
`Process.Stage` tells how far an operation has come: before its first section, past
one that had to allocate, or past one that had not.
-/

namespace Process

variable
  {process next : Process} {me : ThreadId} {event : ProcessEvent} {answer : ProcessAnswer}
  {operation : Operation} {count : Nat} {turns : List Turn} {phase : Phase} {turn : Turn}

/-- An operation that a thread has begun and not ended, with the turns of the thread so far. -/
inductive Underway (process : Process) (me : ThreadId) (event : ProcessEvent) :
    List Turn → Process → Prop where
  | begins
      {next : Process} {answer : ProcessAnswer}
      (idle : (process.thread me).call = none)
      (stepped : process.step? me event = some (answer, next))
      (underway : (next.thread me).call ≠ none) :
      Underway process me event [⟨process, event, next⟩] next
  | goesOn
      {turns : List Turn} {before next : Process} {later : ProcessEvent} {answer : ProcessAnswer}
      (earlier : Underway process me event turns before)
      (stepped : before.step? me later = some (answer, next))
      (underway : (next.thread me).call ≠ none) :
      Underway process me event (turns ++ [⟨before, later, next⟩]) next
  | lets
      {turns : List Turn} {before next : Process} {who : ThreadId} {step : ProcessEvent}
      {answer : ProcessAnswer}
      (earlier : Underway process me event turns before)
      (different : me ≠ who)
      (stepped : before.step? who step = some (answer, next)) :
      Underway process me event turns next

/-- An operation from its beginning to its answer, which is no cancellation. -/
inductive Performs (process : Process) (me : ThreadId) (event : ProcessEvent) :
    List Turn → ProcessAnswer → Process → Prop where
  | atOnce
      {next : Process} {answer : ProcessAnswer}
      (idle : (process.thread me).call = none)
      (stepped : process.step? me event = some (answer, next))
      (ended : (next.thread me).call = none) :
      Performs process me event [⟨process, event, next⟩] answer next
  | later
      {turns : List Turn} {before next : Process} {last : ProcessEvent} {answer : ProcessAnswer}
      (earlier : Underway process me event turns before)
      (stepped : before.step? me last = some (answer, next))
      (ended : (next.thread me).call = none)
      (uncanceled : answer ≠ .replied .canceled) :
      Performs process me event (turns ++ [⟨before, last, next⟩]) answer next

/-- How far an operation has come whose thread had so many failures ahead of it at first. -/
inductive Stage (me : ThreadId) (operation : Operation) (count : Nat) :
    List Turn → Phase → Prop where
  | arriving
      {turns : List Turn}
      (spares : turns.filter (·.reaches me) = [])
      (unlatched : turns.findSome? (·.found? me) = none) :
      Stage me operation count turns .arriving
  /-- A try-lock found the latch held. -/
  | gaveUp
      {turns : List Turn}
      (single : operation = .tryLock)
      (spares : turns.filter (·.reaches me) = [])
      (unlatched : turns.findSome? (·.found? me) = none) :
      Stage me operation count turns (.leaving (.error .busy))
  /-- The first section had what it works on; later ones come back from a wait. -/
  | spared
      {turns : List Turn} {phase : Phase} {slot : Slot}
      (moved : phase ≠ .arriving)
      (told : phase ≠ .leaving (.error .outOfMemory))
      (spares : turns.filter (·.reaches me) = [])
      (finds : turns.findSome? (·.found? me) = some slot)
      (unneeded : slot.needsMemory operation = false) :
      Stage me operation count turns phase
  /-- The first section had to allocate, and decided the call. -/
  | served
      {turns : List Turn} {turn : Turn} {slot : Slot}
      (reaches : turns.filter (·.reaches me) = [turn])
      (meets : turn.before.pending me = count)
      (finds : turns.findSome? (·.found? me) = some slot)
      (needs : slot.needsMemory operation = true) :
      Stage me operation count turns
        (.leaving (if count = 0 then .ok .done else .error .outOfMemory))

theorem Turn.Quiet.filter_snoc (quiet : turn.Quiet me) :
    (turns ++ [turn]).filter (·.reaches me) = turns.filter (·.reaches me) := by
  simp [List.filter_append, quiet.spares]

theorem Turn.Quiet.findSome?_snoc (quiet : turn.Quiet me) :
    (turns ++ [turn]).findSome? (·.found? me) = turns.findSome? (·.found? me) := by
  simp [List.findSome?_append, quiet.unlatched]

/-- Before its first section an operation has not had the latch. -/
theorem Stage.of_arriving (stage : Stage me operation count turns .arriving) :
    turns.filter (·.reaches me) = [] ∧ turns.findSome? (·.found? me) = none := by
  cases stage with
  | arriving spares unlatched =>
      exact ⟨spares, unlatched⟩
  | spared moved =>
      exact (moved rfl).elim

/-- An operation that waits has had the latch and allocated nothing. -/
theorem Stage.of_waiting
    (stage : Stage me operation count turns phase)
    (moved : phase ≠ .arriving)
    (staying : ∀ result, phase ≠ .leaving result) :
    turns.filter (·.reaches me) = [] ∧
      ∃ slot,
        turns.findSome? (·.found? me) = some slot ∧ slot.needsMemory operation = false := by
  cases stage with
  | arriving =>
      exact (moved rfl).elim
  | gaveUp | served =>
      exact (staying _ rfl).elim
  | spared _ _ spares finds unneeded =>
      exact ⟨spares, _, finds, unneeded⟩

/-- A quiet turn brings an operation no further. -/
theorem Stage.quiet
    (stage : Stage me operation count turns phase)
    (quiet : turn.Quiet me) :
    Stage me operation count (turns ++ [turn]) phase := by
  cases stage with
  | arriving spares unlatched =>
      exact .arriving (quiet.filter_snoc.trans spares) (quiet.findSome?_snoc.trans unlatched)
  | gaveUp single spares unlatched =>
      exact .gaveUp single (quiet.filter_snoc.trans spares)
        (quiet.findSome?_snoc.trans unlatched)
  | spared moved told spares finds unneeded =>
      exact .spared moved told (quiet.filter_snoc.trans spares)
        (quiet.findSome?_snoc.trans finds) unneeded
  | served reaches meets finds needs =>
      exact .served (quiet.filter_snoc.trans reaches) meets
        (quiet.findSome?_snoc.trans finds) needs

/-- The first section of an operation decides whether it allocates. -/
theorem Stage.firstVisit
    {visit : Visit}
    (spares : turns.filter (·.reaches me) = [])
    (unlatched : turns.findSome? (·.found? me) = none)
    (first : visit.resumed = false)
    (performs : visit.operation = operation)
    (meets : turn.before.pending me = count)
    (budget : visit.budget = (turn.before.thread me).budget)
    (finds : turn.found? me = some visit.slot)
    (reaches : turn.reaches me = visit.allocates) :
    Stage me operation count (turns ++ [turn]) (.ofProgress visit.done.progress) := by
  have found : (turns ++ [turn]).findSome? (·.found? me) = some visit.slot := by
    simp [List.findSome?_append, unlatched, finds]
  cases allocates : visit.allocates with
  | false =>
      have unneeded : visit.slot.needsMemory visit.operation = false := by
        simpa [Visit.allocates, first] using allocates
      refine .spared ?_ ?_ ?_ found (performs ▸ unneeded)
      · cases visit.done.progress <;> simp [Phase.ofProgress]
      · rw [Ne, Phase.ofProgress_eq_leaving]
        exact (visit.abstains allocates).progress
      · simp [List.filter_append, spares, reaches, allocates]
  | true =>
      have needs : visit.slot.needsMemory visit.operation = true := by
        simpa [Visit.allocates, first] using allocates
      have only : (turns ++ [turn]).filter (·.reaches me) = [turn] := by
        simp [List.filter_append, spares, reaches, allocates]
      have served :
          Stage me operation count (turns ++ [turn])
            (.leaving (if count = 0 then .ok .done else .error .outOfMemory)) :=
        .served only meets found (performs ▸ needs)
      rwa [progress_of_allocating budget allocates, meets]

/-- A section that comes later allocates nothing. -/
theorem Stage.laterVisit
    {visit : Visit}
    (stage : Stage me operation count turns .yielding)
    (later : visit.resumed = true)
    (reaches : turn.reaches me = visit.allocates) :
    Stage me operation count (turns ++ [turn]) (.ofProgress visit.done.progress) := by
  obtain ⟨spares, slot, finds, unneeded⟩ := stage.of_waiting (by simp) (by simp)
  have allocates : visit.allocates = false := by simp [Visit.allocates, later]
  have found : (turns ++ [turn]).findSome? (·.found? me) = some slot := by
    simp [List.findSome?_append, finds]
  refine .spared ?_ ?_ ?_ found unneeded
  · cases visit.done.progress <;> simp [Phase.ofProgress]
  · rw [Ne, Phase.ofProgress_eq_leaving]
    exact (visit.abstains allocates).progress
  · simp [List.filter_append, spares, reaches, allocates]

/-- An operation under way, and the failures that are ahead of its thread or not reported yet. -/
structure Stands
    (process : Process)
    (me : ThreadId)
    (operation : Operation)
    (count : Nat)
    (turns : List Turn) :
    Prop where
  running :
    ∃ call,
      (process.thread me).call = some call ∧
        call.operation = operation ∧ Stage me operation count turns call.phase
  kept : process.pending me + process.owes me = count

/-- What a turn of the thread itself makes of its operation, if it does not end it. -/
theorem Stands.step
    (stands : process.Stands me operation count turns)
    (stepped : process.step? me event = some (answer, next))
    (underway : (next.thread me).call ≠ none) :
    next.Stands me operation count (turns ++ [⟨process, event, next⟩]) := by
  obtain ⟨⟨call, running, performs, stage⟩, kept⟩ := stands
  have conserved (silent : answer = .replied .silent) :
      next.pending me + next.owes me = count := by
    subst silent
    rw [← kept, ← kept_of_running running stepped (by simp)]
    rfl
  cases moves running stepped with
  | @visits visit due comes finds reaches after =>
      refine ⟨⟨_, after, performs, ?_⟩, conserved rfl⟩
      have resumed : visit.resumed = decide (call.phase = .yielding) := by
        rw [comes]
        rfl
      -- Only a section that did not come back from a wait can allocate.
      rcases due with arriving | yielding
      · rw [arriving] at stage resumed
        obtain ⟨spares, unlatched⟩ := stage.of_arriving
        have meets : process.pending me = count := by
          rw [← kept, owes_of_running running, arriving]
          rfl
        exact .firstVisit spares unlatched resumed (comes ▸ performs) meets (comes ▸ rfl) finds
          reaches
      · rw [yielding] at stage resumed
        exact stage.laterVisit resumed reaches
  | waits quiet after staying =>
      exact ⟨⟨_, after, performs, stage.quiet quiet⟩, conserved rfl⟩
  | yields quiet parked after =>
      rw [parked] at stage
      obtain ⟨spares, slot, finds, unneeded⟩ :=
        (stage.quiet quiet).of_waiting (by simp) (by simp)
      exact ⟨⟨_, after, performs, .spared (by simp) (by simp) spares finds unneeded⟩,
        conserved rfl⟩
  | givesUp quiet arriving single after =>
      rw [arriving] at stage
      obtain ⟨spares, unlatched⟩ := (stage.quiet quiet).of_arriving
      exact ⟨⟨_, after, performs, .gaveUp (performs ▸ single) spares unlatched⟩, conserved rfl⟩
  | returns quiet leaving ended | canceled quiet ended =>
      exact (underway ended).elim

/-- What the other threads do to it. -/
theorem Stands.step_of_ne
    {who : ThreadId}
    (stands : process.Stands me operation count turns)
    (stepped : process.step? who event = some (answer, next))
    (different : me ≠ who) :
    next.Stands me operation count turns := by
  obtain ⟨⟨call, running, performs, stage⟩, kept⟩ := stands
  have goesOn := (call_of_ne stepped different).trans running
  refine ⟨⟨call, goesOn, performs, stage⟩, ?_⟩
  rw [(process.accounts stepped).others me different, owes_of_running goesOn, ← kept,
    owes_of_running running]

/-- A thread that begins an operation stands before its first section. -/
theorem stands_of_begun
    (idle : (process.thread me).call = none)
    (stepped : process.step? me event = some (answer, next))
    (underway : (next.thread me).call ≠ none) :
    ∃ operation,
      process.Starts event operation ∧
        next.Stands me operation (process.pending me) [⟨process, event, next⟩] := by
  cases opens idle stepped with
  | @starts operation call starts running performs arriving _ spares =>
      have first : Stage me operation (process.pending me) [⟨process, event, next⟩] .arriving :=
        .arriving (by simp [Turn.reaches, spares]) (by simp [unlatched_of_idle idle])
      refine ⟨_, starts, ⟨_, running, performs, arriving ▸ first⟩, ?_⟩
      rw [owes_of_running running, arriving]
      exact (process.accounts stepped).spares spares (ProcessEvent.ne_inject starts.operates)
  | passes ended | allocates ended =>
      exact (underway ended).elim

/-- So does every operation that is under way. -/
theorem Underway.stands
    {before : Process}
    (underway : process.Underway me event turns before) :
    ∃ operation,
      process.Starts event operation ∧ before.Stands me operation (process.pending me) turns := by
  induction underway with
  | begins idle stepped running =>
      exact stands_of_begun idle stepped running
  | goesOn earlier stepped running inductionHypothesis =>
      obtain ⟨operation, starts, stands⟩ := inductionHypothesis
      exact ⟨operation, starts, stands.step stepped running⟩
  | lets earlier different stepped inductionHypothesis =>
      obtain ⟨operation, starts, stands⟩ := inductionHypothesis
      exact ⟨operation, starts, stands.step_of_ne stepped different⟩

/-- A turn that a thread takes and that leaves storage and injections alone. -/
structure Turn.Taken (turn : Turn) (me : ThreadId) : Prop where
  stepped : ∃ answer, turn.before.step? me turn.event = some (answer, turn.after)
  operates : turn.event.operates = true

theorem Underway.taken
    {before : Process}
    (underway : process.Underway me event turns before) :
    ∀ turn ∈ turns, turn.Taken me := by
  induction underway with
  | begins idle stepped running =>
      obtain ⟨operation, starts, -⟩ := stands_of_begun idle stepped running
      simpa using ⟨⟨_, stepped⟩, starts.operates⟩
  | goesOn earlier stepped running inductionHypothesis =>
      obtain ⟨-, -, ⟨call, goesOn, -⟩, -⟩ := earlier.stands
      refine List.forall_mem_append.mpr ⟨inductionHypothesis, ?_⟩
      simpa using ⟨⟨_, stepped⟩, operates_of_running goesOn stepped⟩
  | lets earlier different stepped inductionHypothesis =>
      exact inductionHypothesis

/-- What an operation does with the pending failures of its thread, from its turns and answer. -/
structure Settles
    (before after : Process)
    (me : ThreadId)
    (event : ProcessEvent)
    (turns : List Turn)
    (answer : ProcessAnswer) :
    Prop where
  reports :
    answer.lacksMemory = true ↔
      ∃ turn ∈ turns, turn.reaches me = true ∧ turn.before.pending me ≠ 0
  once : (turns.filter (·.reaches me)).length ≤ 1
  drops :
    (∀ failures, event ≠ .step (.inject failures)) →
      after.pending me + answer.lacksMemory.toNat = before.pending me
  creates :
    answer.lacksMemory = true → ∀ turn ∈ turns, turn.before.CreatesNothing turn.after
  succeeds :
    ∀ turn ∈ turns,
      turn.reaches me = true →
        turn.before.pending me = 0 →
          answer.succeeds = true ∧ turn.before.Creates turn.after me turn.event
  reaches : (∃ turn ∈ turns, turn.reaches me = true) ↔ before.Demands me turns event

/-- No success reports a lack of memory. -/
theorem lacksMemory_of_succeeds (succeeds : answer.succeeds = true) :
    answer.lacksMemory = false := by
  cases answer with
  | replied reply =>
      obtain rfl : reply = .returned (.ok .done) := of_decide_eq_true succeeds
      rfl
  | status reply =>
      obtain rfl : reply = .success := of_decide_eq_true succeeds
      rfl
  | outcome told =>
      cases told with
      | error =>
          contradiction
      | ok =>
          rfl

/-- An operation that is over at once settles what it has to allocate. -/
theorem settles_of_atOnce
    (idle : (process.thread me).call = none)
    (stepped : process.step? me event = some (answer, next))
    (ended : (next.thread me).call = none) :
    process.Settles next me event [⟨process, event, next⟩] answer := by
  have accounts := process.accounts stepped
  cases opens idle stepped with
  | starts starts running =>
      simp [ended] at running
  | passes _ told spares undemanding =>
      constructor
      case reports =>
        simp [told, Turn.reaches, spares]
      case once =>
        simp [Turn.reaches, spares]
      case drops =>
        simpa [told] using accounts.spares spares
      case creates =>
        simp [told]
      case succeeds =>
        simp [Turn.reaches, spares]
      case reaches =>
        simpa [Turn.reaches, spares] using undemanding
  | allocates _ starved funded reaches demands =>
      have lacks : answer.lacksMemory = true ↔ process.pending me ≠ 0 :=
        ⟨fun lacks none => by simp [lacksMemory_of_succeeds (funded none)] at lacks, starved⟩
      constructor
      case reports =>
        simpa [Turn.reaches, reaches] using lacks
      case once =>
        simp [Turn.reaches, reaches]
      case drops =>
        intro uninjected
        by_cases none : process.pending me = 0
        · rw [lacksMemory_of_succeeds (funded none), (accounts.succeeds reaches none).1, none]
          rfl
        · rw [lacks.mpr none, ← (accounts.starves reaches none).1]
          rfl
      case creates =>
        intro told
        simpa using (accounts.starves reaches (lacks.mp told)).2.createsNothing
      case succeeds =>
        simpa [Turn.reaches, reaches] using fun none =>
          ⟨funded none, (accounts.succeeds reaches none).2⟩
      case reaches =>
        simpa [Turn.reaches, reaches] using demands

/-- An operation without an allocation spends nothing. -/
theorem settles_of_spared
    (spares : turns.filter (·.reaches me) = [])
    (told : answer.lacksMemory = false)
    (kept : next.pending me = process.pending me)
    (undemanding : ¬process.Demands me turns event) :
    process.Settles next me event turns answer := by
  have none : ∀ turn ∈ turns, turn.reaches me = false := by
    simpa [List.filter_eq_nil_iff] using spares
  constructor
  case reports =>
    simpa [told] using fun turn member reaches => by simp [none turn member] at reaches
  case once =>
    simp [spares]
  case drops =>
    simpa [told] using fun _ => kept
  case creates =>
    simp [told]
  case succeeds =>
    exact fun turn member reaches => by simp [none turn member] at reaches
  case reaches =>
    simpa [undemanding] using none

/-- An operation on a mutex with an allocation fails by it, or succeeds. -/
theorem settles_of_served
    {result : Result}
    (reaches : turns.filter (·.reaches me) = [turn])
    (meets : turn.before.pending me = process.pending me)
    (resultIs : result = if process.pending me = 0 then .ok .done else .error .outOfMemory)
    (taken : ∀ turn ∈ turns, turn.Taken me)
    (drops :
      next.pending me + (ProcessAnswer.replied (.returned result)).lacksMemory.toNat =
        process.pending me)
    (demands : process.Demands me turns event) :
    process.Settles next me event turns (.replied (.returned result)) := by
  have only (other : Turn) (member : other ∈ turns) (meets : other.reaches me = true) :
      other = turn := by
    have found : other ∈ turns.filter (·.reaches me) := List.mem_filter.mpr ⟨member, meets⟩
    simpa [reaches] using found
  obtain ⟨member, meetsHere⟩ : turn ∈ turns ∧ turn.reaches me = true :=
    List.mem_filter.mp (reaches ▸ List.mem_singleton_self turn)
  have lacks :
      (ProcessAnswer.replied (.returned result)).lacksMemory = true ↔ process.pending me ≠ 0 := by
    rw [resultIs]
    by_cases none : process.pending me = 0 <;> simp [none, ProcessAnswer.lacksMemory]
  constructor
  case reports =>
    rw [lacks]
    constructor
    · exact fun pending => ⟨turn, member, meetsHere, meets ▸ pending⟩
    · rintro ⟨other, there, meetsThere, pending⟩
      rwa [only other there meetsThere, meets] at pending
  case once =>
    simp [reaches]
  case drops =>
    exact fun _ => drops
  case creates =>
    intro told other there
    obtain ⟨⟨_, stepped⟩, operates⟩ := taken other there
    have accounts := other.before.accounts stepped
    cases meetsThere : other.reaches me with
    | false =>
        exact accounts.abstains meetsThere (ProcessEvent.ne_place operates)
    | true =>
        refine (accounts.starves meetsThere ?_).2.createsNothing
        rw [only other there meetsThere, meets]
        exact lacks.mp told
  case succeeds =>
    intro other there meetsThere none
    obtain ⟨⟨_, stepped⟩, -⟩ := taken other there
    refine ⟨?_, ((other.before.accounts stepped).succeeds meetsThere none).2⟩
    rw [only other there meetsThere, meets] at none
    simp [resultIs, none, ProcessAnswer.succeeds]
  case reaches =>
    exact iff_of_true ⟨turn, member, meetsHere⟩ demands

/-- So does an operation on a mutex that has got to its result. -/
theorem settles_of_stage
    {result : Result}
    (starts : process.Starts event operation)
    (stage : Stage me operation (process.pending me) turns (.leaving result))
    (taken : ∀ turn ∈ turns, turn.Taken me)
    (drops :
      next.pending me + (ProcessAnswer.replied (.returned result)).lacksMemory.toNat =
        process.pending me) :
    process.Settles next me event turns (.replied (.returned result)) := by
  have spared
      (spares : turns.filter (·.reaches me) = [])
      (told : result ≠ .error .outOfMemory)
      (undemanding : ¬process.Demands me turns event) :
      process.Settles next me event turns (.replied (.returned result)) := by
    have told : (ProcessAnswer.replied (.returned result)).lacksMemory = false := by
      simpa [ProcessAnswer.lacksMemory] using told
    rw [told] at drops
    exact settles_of_spared spares told drops undemanding
  cases stage with
  | gaveUp single spares unlatched =>
      refine spared spares (by simp) ?_
      rw [demands_iff starts, single, unlatched]
      simp
  | spared _ told spares finds unneeded =>
      refine spared spares (fun same => told (same ▸ rfl)) ?_
      rw [demands_of_needs starts finds, unneeded]
      simp
  | served reaches meets finds needs =>
      exact settles_of_served reaches meets rfl taken drops
        ((demands_of_needs starts finds).mpr needs)

/-- Every operation settles what it has to allocate. -/
theorem Performs.settles (performs : process.Performs me event turns answer next) :
    process.Settles next me event turns answer := by
  cases performs with
  | atOnce idle stepped ended =>
      exact settles_of_atOnce idle stepped ended
  | later earlier stepped ended uncanceled =>
      obtain ⟨operation, starts, ⟨call, running, performs, stage⟩, kept⟩ := earlier.stands
      have spent := kept_of_running running stepped uncanceled
      rw [owes_of_idle ended, kept, Nat.add_zero] at spent
      cases moves running stepped with
      | returns quiet leaving =>
          rw [leaving] at stage
          refine settles_of_stage starts (stage.quiet quiet) ?_ spent
          refine List.forall_mem_append.mpr ⟨earlier.taken, ?_⟩
          simpa using ⟨⟨_, stepped⟩, operates_of_running running stepped⟩
      | visits due comes finds reaches after | waits quiet after | yields quiet parked after
      | givesUp quiet arriving single after =>
          simp [ended] at after
      | canceled =>
          exact (uncanceled rfl).elim

/-- A step of any thread spends a failure that is reported or owed, or none. -/
theorem conserved_step
    {who : ThreadId}
    (stepped : process.step? who event = some (answer, next))
    (uninjected : who = me → ∀ failures, event ≠ .step (.inject failures))
    (uncanceled : who = me → answer ≠ .replied .canceled) :
    next.pending me + next.owes me + (if who = me then answer.lacksMemory.toNat else 0) =
      process.pending me + process.owes me := by
  by_cases mine : who = me
  · subst mine
    rw [if_pos rfl]
    -- A thread without a call owes nothing, and its step is over at once or begins a call.
    cases idle : (process.thread who).call with
    | some call =>
        exact kept_of_running idle stepped (uncanceled rfl)
    | none =>
        rw [owes_of_idle idle]
        cases ended : (next.thread who).call with
        | none =>
            rw [owes_of_idle ended]
            exact (settles_of_atOnce idle stepped ended).drops (uninjected rfl)
        | some call =>
            obtain ⟨operation, -, -, kept⟩ := stands_of_begun idle stepped (by simp [ended])
            cases opens idle stepped with
            | starts starts running performs arriving told =>
                rw [kept, told]
                rfl
            | passes finished | allocates finished =>
                simp [ended] at finished
  · rw [if_neg mine, (process.accounts stepped).others me (Ne.symm mine)]
    simp only [owes, call_of_ne stepped (Ne.symm mine), Nat.add_zero]

/-- How often a thread was told that memory is missing. -/
def reports (me : ThreadId) (answers : List (ThreadId × ProcessAnswer)) : Nat :=
  answers.countP fun (who, answer) => who = me ∧ answer.lacksMemory

theorem reports_cons (who : ThreadId) (answers : List (ThreadId × ProcessAnswer)) :
    reports me ((who, answer) :: answers) =
      reports me answers + if who = me then answer.lacksMemory.toNat else 0 := by
  rw [reports, List.countP_cons]
  by_cases mine : who = me <;> cases lacks : answer.lacksMemory <;> simp [reports, mine, lacks]

/-- Along a run every failure of a thread is still ahead, owed or reported, and none twice. -/
theorem conserved_run
    {run : List (ThreadId × ProcessEvent)}
    {last : Process}
    {answers : List (ThreadId × ProcessAnswer)}
    (ran : process.run? run = some (last, answers))
    (uninjected : ∀ step ∈ run, step.1 = me → ∀ failures, step.2 ≠ .step (.inject failures))
    (uncanceled : (me, .replied .canceled) ∉ answers) :
    last.pending me + last.owes me + reports me answers =
      process.pending me + process.owes me := by
  induction run generalizing process answers with
  | nil =>
      cases ran
      rfl
  | cons step rest inductionHypothesis =>
      obtain ⟨who, event⟩ := step
      simp only [run?, Option.bind_eq_bind, Option.bind_eq_some_iff, Option.pure_def,
        Option.some.injEq, Prod.mk.injEq, Prod.exists] at ran
      obtain ⟨answer, next, stepped, final, later, tail, rfl, rfl⟩ := ran
      rw [List.forall_mem_cons] at uninjected
      rw [List.mem_cons, not_or] at uncanceled
      have first :
          next.pending me + next.owes me +
              (if who = me then answer.lacksMemory.toNat else 0) =
            process.pending me + process.owes me :=
        conserved_step stepped uninjected.1 fun mine told =>
          uncanceled.1 (by rw [mine, told])
      have onward := inductionHypothesis tail uninjected.2 uncanceled.2
      rw [reports_cons, ← first]
      omega

/--
Forced failures surface once, and where an allocation happens.

Every step accounts for the failures that it spends and for what it creates, every
operation that is not canceled settles them with its answer, and along a run that cancels
nothing of a thread the failures that are ahead of it go down by those that it is told of.
-/
theorem failures_surface_once (process : Process) (me : ThreadId) :
    (∀ who event answer next,
      process.step? who event = some (answer, next) → process.Accounts next who event) ∧
    (∀ event turns answer next,
      process.Performs me event turns answer next →
        process.Settles next me event turns answer) ∧
    ∀ run last answers,
      process.run? run = some (last, answers) →
        (∀ step ∈ run, step.1 = me → ∀ failures, step.2 ≠ .step (.inject failures)) →
          (me, .replied .canceled) ∉ answers →
            last.pending me + last.owes me + reports me answers =
              process.pending me + process.owes me :=
  ⟨fun _ _ _ _ stepped => process.accounts stepped,
    fun _ _ _ _ performs => performs.settles,
    fun _ _ _ ran uninjected uncanceled => conserved_run ran uninjected uncanceled⟩

/-- The first thread has a failure ahead of it, and the mutex is not constructed yet. -/
def oneFailureAhead : Process where
  platform :=
    { world :=
        { cells := { entries := [(⟨0⟩, { slot := .sentinel })] }
          threads := { entries := [(⟨1⟩, { budget := { failures := 1 } })] } } }

/-- The first thread locks while the second one makes an attribute object. -/
def contendedRun : List (ThreadId × ProcessEvent) :=
  [(⟨1⟩, .step (.call ⟨0⟩ .lock false)),
    (⟨2⟩, .call (.attributes (.init (some ⟨0⟩)))),
    (⟨1⟩, .step .proceed),
    (⟨1⟩, .step .proceed)]

/-- The process after so many steps of that run. -/
def contended (steps : Nat) : Process :=
  ((oneFailureAhead.run? (contendedRun.take steps)).map Prod.fst).getD oneFailureAhead

/-- The lock meets the failure in its section, reports it, and leaves the sentinel. -/
theorem failures_surface_once_starvedLock :
    (∃ turns,
      oneFailureAhead.Performs ⟨1⟩ (.step (.call ⟨0⟩ .lock false)) turns
          (.replied (.returned (.error .outOfMemory))) (contended 4) ∧
        oneFailureAhead.Settles (contended 4) ⟨1⟩ (.step (.call ⟨0⟩ .lock false)) turns
          (.replied (.returned (.error .outOfMemory)))) ∧
      (contended 2).Accounts (contended 3) ⟨1⟩ (.step .proceed) ∧
        (contended 4).pending ⟨1⟩ = 0 ∧
          (contended 4).slot ⟨0⟩ = .sentinel ∧
            ∃ answers,
              oneFailureAhead.run? contendedRun = some (contended 4, answers) ∧
                (contended 4).pending ⟨1⟩ + (contended 4).owes ⟨1⟩ + reports ⟨1⟩ answers = 1 := by
  obtain ⟨-, settles, conserves⟩ := oneFailureAhead.failures_surface_once ⟨1⟩
  obtain ⟨accounts, -, -⟩ := (contended 2).failures_surface_once ⟨1⟩
  have begun :
      oneFailureAhead.Underway ⟨1⟩ (.step (.call ⟨0⟩ .lock false))
        [⟨oneFailureAhead, .step (.call ⟨0⟩ .lock false), contended 1⟩] (contended 1) :=
    .begins rfl rfl (by decide)
  have interrupted :
      (contended 1).step? ⟨2⟩ (.call (.attributes (.init (some ⟨0⟩)))) =
        some (.status .success, contended 2) :=
    rfl
  have visits :
      (contended 2).step? ⟨1⟩ (.step .proceed) = some (.replied .silent, contended 3) :=
    rfl
  have returns :
      (contended 3).step? ⟨1⟩ (.step .proceed) =
        some (.replied (.returned (.error .outOfMemory)), contended 4) :=
    rfl
  have performs :=
    Performs.later ((begun.lets (by decide) interrupted).goesOn visits (by decide)) returns
      (by decide) (by simp)
  have ran :
      oneFailureAhead.run? contendedRun =
        some
          (contended 4,
            [(⟨1⟩, .replied .silent), (⟨2⟩, .status .success), (⟨1⟩, .replied .silent),
              (⟨1⟩, .replied (.returned (.error .outOfMemory)))]) :=
    rfl
  exact
    ⟨⟨_, performs, settles _ _ _ _ performs⟩, accounts _ _ _ _ visits, rfl, rfl, _, ran,
      conserves _ _ _ ran (by simp [contendedRun]) (by simp)⟩

end Process

end LatchMutex
