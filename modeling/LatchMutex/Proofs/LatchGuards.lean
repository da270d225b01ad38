import LatchMutex.Proofs.LatchSections

namespace LatchMutex

/-!
# Guards of a latch

`Bench.Steps` lists the atomic steps at a latch.  A latch is `Bench.Guarded` if its
flag is down, nobody owns a guard and the completed sections lead to its value, or if
its flag is up for the one guard that there is, and what the owner has done since its
claim leads to the value from where the completed sections left it.  Every step keeps
that, so every run does.
-/

namespace LatchHappening

variable {Value : Type}

/-- The steps of a run with the answers to them. -/
def ofRun (moves : List (ThreadId × LatchMove Value)) (replies : List (LatchReply Value)) :
    List (LatchHappening Value) :=
  List.zipWith (fun step reply => ⟨step.1, step.2, reply⟩) moves replies

/-- How many steps of a history brought a thread a guard. -/
def claimsOf (me : ThreadId) (history : List (LatchHappening Value)) : Nat :=
  history.countP fun happening => happening.thread = me ∧ happening.claims

/-- How many steps of a history gave a guard of a thread up. -/
def releasesOf (me : ThreadId) (history : List (LatchHappening Value)) : Nat :=
  history.countP fun happening => happening.thread = me ∧ happening.releases

end LatchHappening

namespace Bench

open LatchHappening

variable
  {Value : Type} {bench next last : Bench Value} {me other : ThreadId} {move : LatchMove Value}
  {reply : LatchReply Value} {moves : List (ThreadId × LatchMove Value)}
  {replies : List (LatchReply Value)} {first : Value} {past : List (LatchHappening Value)}

/-- A latch that nobody has come to yet. -/
def opening (value : Value) : Bench Value :=
  { latch := { value } }

@[simp] theorem stance_setStance_self (stance : Stance) :
    (bench.setStance me stance).stance me = stance := by
  simp [Bench.stance, setStance]

theorem stance_setStance_of_ne (different : other ≠ me) (stance : Stance) :
    (bench.setStance me stance).stance other = bench.stance other := by
  simp [Bench.stance, setStance, Table.get_set_of_ne _ different]

/-- A blocking acquisition that comes to another stage leaves the guards as they are. -/
@[simp] theorem guards_setStage (stage : LatchStage) :
    (bench.setStage me stage).guards other = bench.guards other := by
  unfold setStage guards
  by_cases same : other = me
  · subst same
    rw [stance_setStance_self]
  · rw [stance_setStance_of_ne same]

@[simp] theorem guards_grant_self (latch : Latch Value) :
    (bench.grant me latch).guards me = bench.guards me + 1 := by
  simp [grant, guards]

theorem guards_grant_of_ne (different : other ≠ me) (latch : Latch Value) :
    (bench.grant me latch).guards other = bench.guards other := by
  unfold grant guards
  rw [stance_setStance_of_ne different]
  rfl

@[simp] theorem guards_drop_self : (bench.drop me).guards me = bench.guards me - 1 := by
  simp [drop, guards]

theorem guards_drop_of_ne (different : other ≠ me) :
    (bench.drop me).guards other = bench.guards other := by
  unfold drop guards
  rw [stance_setStance_of_ne different]
  rfl

/-- The kinds of atomic steps at a latch, with the answer to each. -/
inductive Steps (bench : Bench Value) (me : ThreadId) :
    LatchMove Value → Bench Value → LatchReply Value → Prop where
  | claims
      {move : LatchMove Value}
      (asks : move = .acquire false ∨ move = .tryAcquire)
      (down : bench.latch.held = false) :
      Steps bench me move (bench.grant me { bench.latch with held := true }) .done
  | waits
      {spurious : Bool} (counters : Counters)
      (failed : bench.latch.held = true ∨ spurious = true) :
      Steps bench me (.acquire spurious)
        ({ bench with counters }.setStage me .watching) .refused
  | watches
      (up : bench.latch.held = true) :
      Steps bench me .look bench .refused
  | retries
      (down : bench.latch.held = false) :
      Steps bench me .look (bench.setStage me .retrying) .done
  | misses
      (up : bench.latch.held = true) :
      Steps bench me .tryAcquire (bench.count .slotTryFailed) .refused
  | reads
      (owned : bench.guards me ≠ 0) :
      Steps bench me .read bench (.seen bench.latch.value)
  | writes
      (value : Value)
      (owned : bench.guards me ≠ 0) :
      Steps bench me (.write value) { bench with latch := bench.latch.write value } .done
  | drops
      (owned : bench.guards me ≠ 0) :
      Steps bench me .release (bench.drop me) .done

/-- A claim goes through where the flag is down. -/
theorem claim?_of_down (down : bench.latch.held = false) :
    bench.latch.claim? = some { bench.latch with held := true } := by
  simp [Latch.claim?, down]

theorem claim?_of_up (up : bench.latch.held = true) : bench.latch.claim? = none := by
  simp [Latch.claim?, up]

/-- An attempt fails where the flag is up, or spuriously, and goes through otherwise. -/
theorem steps_acquire (spurious : Bool) :
    bench.Steps me (.acquire spurious) (bench.acquire me spurious).1
      (bench.acquire me spurious).2 := by
  have refused (failed : bench.latch.held = true ∨ spurious = true)
      (kept : (bench.acquire me spurious) =
        ((if (bench.stance me).stage = .idle then bench.count .slotContended
          else bench).setStage me .watching, .refused)) :
      bench.Steps me (.acquire spurious) (bench.acquire me spurious).1
        (bench.acquire me spurious).2 := by
    rw [kept]
    split
    · exact .waits (bench.counters.record .slotContended) failed
    · exact .waits bench.counters failed
  cases up : bench.latch.held with
  | true =>
      exact refused (.inl up) (by simp [acquire, claim?_of_up up])
  | false =>
      cases spurious with
      | true =>
          exact refused (.inr rfl) (by simp [acquire, claim?_of_down up])
      | false =>
          simp only [acquire, claim?_of_down up]
          exact .claims (.inl rfl) up

/-- A single try fails where the flag is up, and nowhere else. -/
theorem steps_tryAcquire :
    bench.Steps me .tryAcquire (bench.tryAcquire me).1 (bench.tryAcquire me).2 := by
  cases up : bench.latch.held with
  | true =>
      simp only [tryAcquire, claim?_of_up up]
      exact .misses up
  | false =>
      simp only [tryAcquire, claim?_of_down up]
      exact .claims (.inr rfl) up

theorem guarded?_eq_some_iff {step result : Bench Value × LatchReply Value} :
    bench.guarded? me step = some result ↔ bench.guards me ≠ 0 ∧ step = result := by
  unfold guarded?
  split <;> simp_all

/-- An atomic step is one of the kinds listed. -/
theorem steps_of_step? (stepped : bench.step? me move = some (next, reply)) :
    bench.Steps me move next reply := by
  unfold step? at stepped
  split at stepped
  · obtain ⟨rfl, rfl⟩ := Prod.ext_iff.mp (Option.some.inj stepped)
    exact steps_acquire _
  · obtain ⟨rfl, rfl⟩ := Prod.ext_iff.mp (Option.some.inj stepped)
    exact steps_acquire _
  · obtain ⟨rfl, rfl⟩ := Prod.ext_iff.mp (Option.some.inj stepped)
    unfold look
    split
    · rename_i up
      exact .watches up
    · rename_i down
      exact .retries (by simpa using down)
  · obtain ⟨rfl, rfl⟩ := Prod.ext_iff.mp (Option.some.inj stepped)
    exact steps_tryAcquire
  · obtain ⟨owned, same⟩ := guarded?_eq_some_iff.mp stepped
    cases same
    exact .reads owned
  · obtain ⟨owned, same⟩ := guarded?_eq_some_iff.mp stepped
    cases same
    exact .writes _ owned
  · obtain ⟨owned, same⟩ := guarded?_eq_some_iff.mp stepped
    cases same
    exact .drops owned
  · contradiction

/-- A nonempty run is a step and a run from where it led. -/
theorem run?_cons {rest : List (ThreadId × LatchMove Value)} :
    bench.run? ((me, move) :: rest) = some (last, replies) ↔
      ∃ next reply later,
        bench.step? me move = some (next, reply) ∧
          next.run? rest = some (last, later) ∧
          replies = reply :: later := by
  simp only [run?, Option.bind_eq_bind, Option.bind_eq_some_iff, Option.pure_def,
    Option.some.injEq, Prod.mk.injEq, Prod.exists]
  constructor
  · rintro ⟨next, reply, stepped, final, later, ran, rfl, rfl⟩
    exact ⟨next, reply, later, stepped, ran, rfl⟩
  · rintro ⟨next, reply, later, stepped, ran, rfl⟩
    exact ⟨next, reply, stepped, last, later, ran, rfl, rfl⟩

/-- The flag is down and there is no guard, or it is up for the one guard that there is. -/
inductive Guarded (bench : Bench Value) (first : Value) (past : List (LatchHappening Value)) :
    Prop where
  | free
      (down : bench.latch.held = false)
      (unowned : ∀ thread, bench.guards thread = 0)
      (serial : LatchSection.Serial first (completed past) bench.latch.value)
  | owned
      {owner : ThreadId} {left : Value}
      (up : bench.latch.held = true)
      (owns : bench.guards owner = 1)
      (others : ∀ thread, thread ≠ owner → bench.guards thread = 0)
      (serial : LatchSection.Serial first (completed past) left)
      (works : LatchAccess.Leads left (underway owner past) bench.latch.value)

namespace Guarded

/-- Nobody has done anything at a latch that nobody has come to. -/
theorem opening (value : Value) : (opening value).Guarded value [] :=
  .free rfl (fun _ => rfl) (.nil value)

/-- A step that moves neither the latch nor a guard keeps a latch guarded. -/
theorem snoc_of_unmoved
    {happening : LatchHappening Value}
    (guarded : bench.Guarded first past)
    (latch : next.latch = bench.latch)
    (guards : ∀ thread, next.guards thread = bench.guards thread)
    (unclaimed : happening.claims = false)
    (untouched : happening.access? = none)
    (kept : happening.releases = false) :
    next.Guarded first (past ++ [happening]) := by
  have sameCompleted := completed_snoc kept past
  have sameUnderway (thread : ThreadId) :
      underway thread (past ++ [happening]) = underway thread past := by
    by_cases mine : happening.thread = thread
    · simp [underway_snoc mine unclaimed, untouched]
    · exact underway_snoc_of_ne mine past
  cases guarded with
  | free down unowned serial =>
      refine .free (by rw [latch, down]) (by simpa [guards] using unowned) ?_
      rwa [sameCompleted, latch]
  | owned up owns others serial works =>
      refine .owned (by rw [latch, up]) (by rw [guards, owns]) (by simpa [guards] using others)
        (by rwa [sameCompleted]) ?_
      rwa [sameUnderway, latch]

/-- A claim finds no guard, and brings the only one. -/
theorem snoc_of_claims
    {happening : LatchHappening Value}
    (guarded : bench.Guarded first past)
    (down : bench.latch.held = false)
    (mine : happening.thread = me)
    (claims : happening.claims = true)
    (kept : happening.releases = false) :
    (bench.grant me { bench.latch with held := true }).Guarded first (past ++ [happening]) := by
  subst mine
  cases guarded with
  | owned up =>
      simp [up] at down
  | free _ unowned serial =>
      have owns :
          (bench.grant happening.thread { bench.latch with held := true }).guards
            happening.thread = 1 := by
        rw [guards_grant_self, unowned]
      refine .owned rfl owns ?_ (by rwa [completed_snoc kept]) ?_
      · intro thread different
        rw [guards_grant_of_ne different, unowned]
      · rw [underway_snoc_of_claims claims]
        exact .nil _

/-- Whoever owns a guard owns the only one, and the flag is up for it. -/
theorem of_owns
    (guarded : bench.Guarded first past)
    (owns : bench.guards me ≠ 0) :
    bench.latch.held = true ∧ bench.guards me = 1 ∧
      (∀ thread, thread ≠ me → bench.guards thread = 0) ∧
      ∃ left,
        LatchSection.Serial first (completed past) left ∧
          LatchAccess.Leads left (underway me past) bench.latch.value := by
  cases guarded with
  | free down unowned serial =>
      exact (owns (unowned me)).elim
  | @owned owner left up one others serial works =>
      by_cases same : me = owner
      · subst same
        exact ⟨up, one, others, left, serial, works⟩
      · exact (owns (others me same)).elim

/-- An access of the owner goes on from the value that it finds. -/
theorem snoc_of_access
    {happening : LatchHappening Value}
    {access : LatchAccess Value}
    (guarded : bench.Guarded first past)
    (owns : bench.guards happening.thread ≠ 0)
    (accesses : happening.access? = some access)
    (unclaimed : happening.claims = false)
    (kept : happening.releases = false)
    (flag : next.latch.held = bench.latch.held)
    (guards : ∀ thread, next.guards thread = bench.guards thread)
    (leads :
      ∀ left earlier,
        LatchAccess.Leads left earlier bench.latch.value →
        LatchAccess.Leads left (earlier ++ [access]) next.latch.value) :
    next.Guarded first (past ++ [happening]) := by
  obtain ⟨up, one, others, left, serial, works⟩ := guarded.of_owns owns
  refine .owned (flag.trans up) ((guards _).trans one) (by simpa [guards] using others)
    (by rwa [completed_snoc kept]) ?_
  rw [underway_snoc rfl unclaimed, accesses, Option.toList_some]
  exact leads left _ works

/-- Giving up the only guard completes the section of its owner. -/
theorem snoc_of_releases
    {happening : LatchHappening Value}
    (guarded : bench.Guarded first past)
    (owns : bench.guards me ≠ 0)
    (mine : happening.thread = me)
    (releases : happening.releases = true) :
    (bench.drop me).Guarded first (past ++ [happening]) := by
  subst mine
  obtain ⟨up, one, others, left, serial, works⟩ := guarded.of_owns owns
  refine .free rfl ?_ ?_
  · intro thread
    by_cases same : thread = happening.thread
    · rw [same, guards_drop_self, one]
    · rw [guards_drop_of_ne same, others thread same]
  · rw [completed_snoc_of_releases releases]
    exact serial.snoc works

/-- An atomic step keeps a latch guarded. -/
theorem step
    (guarded : bench.Guarded first past)
    (steps : bench.Steps me move next reply) :
    next.Guarded first (past ++ [⟨me, move, reply⟩]) := by
  cases steps with
  | claims asks down =>
      rcases asks with rfl | rfl
      · exact guarded.snoc_of_claims down rfl rfl rfl
      · exact guarded.snoc_of_claims down rfl rfl rfl
  | waits counters failed =>
      exact guarded.snoc_of_unmoved rfl (fun _ => guards_setStage _) rfl rfl rfl
  | watches up | misses up =>
      exact guarded.snoc_of_unmoved rfl (fun _ => rfl) rfl rfl rfl
  | retries down =>
      exact guarded.snoc_of_unmoved rfl (fun _ => guards_setStage _) rfl rfl rfl
  | reads owned =>
      exact guarded.snoc_of_access owned rfl rfl rfl rfl (fun _ => rfl)
        fun _ _ works => works.snoc_saw
  | writes value owned =>
      exact guarded.snoc_of_access owned rfl rfl rfl rfl (fun _ => rfl)
        fun _ _ works => works.snoc_wrote value
  | drops owned =>
      exact guarded.snoc_of_releases owned rfl rfl

/-- Along a run a latch stays guarded. -/
theorem run
    (guarded : bench.Guarded first past)
    (ran : bench.run? moves = some (last, replies)) :
    last.Guarded first (past ++ ofRun moves replies) := by
  induction moves generalizing bench past replies with
  | nil =>
      cases ran
      simpa [ofRun] using guarded
  | cons step rest inductionHypothesis =>
      obtain ⟨me, move⟩ := step
      obtain ⟨next, reply, later, stepped, tail, rfl⟩ := run?_cons.mp ran
      have kept := inductionHypothesis (guarded.step (steps_of_step? stepped)) tail
      simpa [ofRun] using kept

/-- Nobody owns more than one guard. -/
theorem guards_le_one (guarded : bench.Guarded first past) : bench.guards me ≤ 1 := by
  by_cases owns : bench.guards me = 0
  · exact owns.trans_le (Nat.zero_le 1)
  · exact (guarded.of_owns owns).2.1.le

/-- The flag is up exactly while somebody owns a guard. -/
theorem held_iff (guarded : bench.Guarded first past) :
    bench.latch.held = true ↔ ∃ thread, 0 < bench.guards thread := by
  cases guarded with
  | free down unowned serial =>
      simp [down, unowned]
  | owned up owns others serial works =>
      exact ⟨fun _ => ⟨_, by rw [owns]; exact Nat.one_pos⟩, fun _ => up⟩

end Guarded

/-- A step raises the guards of a thread by its claim, and lowers them by its release. -/
theorem guards_step (steps : bench.Steps me move next reply) (thread : ThreadId) :
    next.guards thread + releasesOf thread [⟨me, move, reply⟩] =
      bench.guards thread + claimsOf thread [⟨me, move, reply⟩] := by
  cases steps with
  | claims asks down =>
      by_cases same : thread = me
      · subst same
        rcases asks with rfl | rfl <;> simp [claimsOf, releasesOf, claims, releases]
      · rw [guards_grant_of_ne same]
        simp [claimsOf, releasesOf, Ne.symm same]
  | waits counters failed =>
      rw [guards_setStage]
      simp [claimsOf, releasesOf, claims, releases, guards, Bench.stance]
  | retries down =>
      rw [guards_setStage]
      simp [claimsOf, releasesOf, claims, releases]
  | watches up | misses up | reads owned | writes value owned =>
      simp [claimsOf, releasesOf, claims, releases, guards, Bench.stance, count]
  | drops owned =>
      by_cases same : thread = me
      · subst same
        have one := Nat.sub_one_add_one owned
        simpa [claimsOf, releasesOf, claims, releases] using one
      · rw [guards_drop_of_ne same]
        simp [claimsOf, releasesOf, Ne.symm same]

/-- Along a run a thread owns one guard more for each claim, and one less for each release. -/
theorem guards_run (ran : bench.run? moves = some (last, replies)) (thread : ThreadId) :
    last.guards thread + releasesOf thread (ofRun moves replies) =
      bench.guards thread + claimsOf thread (ofRun moves replies) := by
  induction moves generalizing bench replies with
  | nil =>
      cases ran
      rfl
  | cons step rest inductionHypothesis =>
      obtain ⟨me, move⟩ := step
      obtain ⟨next, reply, later, stepped, tail, rfl⟩ := run?_cons.mp ran
      have first := guards_step (steps_of_step? stepped) thread
      have others := inductionHypothesis tail
      have history :
          ofRun ((me, move) :: rest) (reply :: later) = [⟨me, move, reply⟩] ++ ofRun rest later :=
        rfl
      simp only [history, claimsOf, releasesOf, List.countP_append] at first others ⊢
      omega

/-- A thread outside a blocking acquisition claims a latch whose flag is down. -/
theorem step?_claim (idle : (bench.stance me).stage = .idle) (down : bench.latch.held = false) :
    bench.step? me (.acquire false) =
      some (bench.grant me { bench.latch with held := true }, .done) := by
  simp [step?, idle, acquire, claim?_of_down down]

/-- An owner outside a blocking acquisition reads the value. -/
theorem step?_read (idle : (bench.stance me).stage = .idle) (owns : bench.guards me ≠ 0) :
    bench.step? me .read = some (bench, .seen bench.latch.value) := by
  simp [step?, idle, guarded?, owns]

theorem step?_write
    (idle : (bench.stance me).stage = .idle)
    (owns : bench.guards me ≠ 0)
    (value : Value) :
    bench.step? me (.write value) =
      some ({ bench with latch := bench.latch.write value }, .done) := by
  simp [step?, idle, guarded?, owns]

theorem step?_release (idle : (bench.stance me).stage = .idle) (owns : bench.guards me ≠ 0) :
    bench.step? me .release = some (bench.drop me, .done) := by
  simp [step?, idle, guarded?, owns]

/-- Two runs, the second from where the first led, are one. -/
theorem run?_append
    {earlier later : List (ThreadId × LatchMove Value)}
    {before after : List (LatchReply Value)}
    (head : bench.run? earlier = some (next, before))
    (tail : next.run? later = some (last, after)) :
    bench.run? (earlier ++ later) = some (last, before ++ after) := by
  induction earlier generalizing bench before with
  | nil =>
      cases head
      exact tail
  | cons step rest inductionHypothesis =>
      obtain ⟨me, move⟩ := step
      obtain ⟨middle, reply, others, stepped, ran, rfl⟩ := run?_cons.mp head
      exact run?_cons.mpr ⟨middle, reply, _, stepped, inductionHypothesis ran, rfl⟩

/-- The owner of a guard makes accesses that lead on from the value that it finds. -/
theorem run?_accesses
    {accesses : List (LatchAccess Value)}
    {value : Value}
    (idle : (bench.stance me).stage = .idle)
    (owns : bench.guards me ≠ 0)
    (leads : LatchAccess.Leads bench.latch.value accesses value) :
    bench.run? (accesses.map fun access => (me, access.move)) =
      some
        ({ bench with latch := bench.latch.write value }, accesses.map LatchAccess.reply) := by
  generalize found : bench.latch.value = start at leads
  induction leads generalizing bench with
  | nil value =>
      subst found
      rfl
  | saw later inductionHypothesis =>
      subst found
      exact run?_cons.mpr
        ⟨_, _, _, step?_read idle owns, inductionHypothesis idle owns rfl, rfl⟩
  | @wrote first written last rest later inductionHypothesis =>
      exact run?_cons.mpr
        ⟨_, _, _, step?_write idle owns written, inductionHypothesis idle owns rfl, rfl⟩

/-- A latch that nobody is at, with its value. -/
structure Resting (bench : Bench Value) (value : Value) : Prop where
  latch : bench.latch = { value }
  idle : ∀ thread, bench.stance thread = {}

namespace Resting

theorem opening (value : Value) : (opening value).Resting value where
  latch := rfl
  idle _ := rfl

/-- At a latch that nobody is at, a section runs on its own and leaves nobody there. -/
theorem run?_section
    {part : LatchSection Value}
    {value : Value}
    (resting : bench.Resting first)
    (leads : LatchAccess.Leads first part.accesses value) :
    ∃ next, bench.run? part.moves = some (next, part.replies) ∧ next.Resting value := by
  obtain ⟨me, accesses⟩ := part
  have down : bench.latch.held = false := by
    rw [resting.latch]
  have claimed := step?_claim (by rw [resting.idle me]) down
  generalize grantedIs : bench.grant me { bench.latch with held := true } = granted at claimed
  have stance : granted.stance me = { guards := 1 } := by
    rw [← grantedIs, grant, stance_setStance_self, guards, resting.idle]
  have others (thread : ThreadId) (different : thread ≠ me) : granted.stance thread = {} := by
    rw [← grantedIs, grant, stance_setStance_of_ne different]
    exact resting.idle thread
  have idle : (granted.stance me).stage = .idle := by
    rw [stance]
  have owns : granted.guards me ≠ 0 := by
    simp [guards, stance]
  have found : granted.latch.value = first := by
    rw [← grantedIs, grant, resting.latch]
    rfl
  have accessed := run?_accesses idle owns (found ▸ leads)
  generalize workedIs : { granted with latch := granted.latch.write value } = worked at accessed
  have released : worked.step? me .release = some (worked.drop me, .done) := by
    subst workedIs
    exact step?_release idle owns
  refine ⟨worked.drop me, ?_, ?_, ?_⟩
  · exact run?_append (run?_cons.mpr ⟨_, _, _, claimed, accessed, rfl⟩)
      (run?_cons.mpr ⟨_, _, _, released, rfl, rfl⟩)
  · subst workedIs
    rfl
  · intro thread
    subst workedIs
    by_cases same : thread = me
    · subst same
      rw [drop, stance_setStance_self]
      change ({ guards := (granted.stance thread).guards - 1 } : Stance) = {}
      rw [stance]
      rfl
    · rw [drop, stance_setStance_of_ne same]
      exact others thread same

/-- Sections that lead from one to the next run on their own, one after the other. -/
theorem run?_sections
    {sections : List (LatchSection Value)}
    {value : Value}
    (resting : bench.Resting first)
    (serial : LatchSection.Serial first sections value) :
    ∃ alone,
      bench.run? (sections.flatMap LatchSection.moves) =
          some (alone, sections.flatMap LatchSection.replies) ∧
        alone.Resting value := by
  induction serial generalizing bench with
  | nil value =>
      exact ⟨bench, rfl, resting⟩
  | cons leads later inductionHypothesis =>
      obtain ⟨middle, head, rested⟩ := resting.run?_section leads
      obtain ⟨alone, tail, rests⟩ := inductionHypothesis rested
      exact ⟨alone, run?_append head tail, rests⟩

end Resting

/-- What a list of sections, each from where the last one left the value, makes of a value. -/
structure Amounts (first : Value) (sections : List (LatchSection Value)) (left : Value) : Prop where
  serial : LatchSection.Serial first sections left
  /-- Run one after the other by themselves, the sections see and leave the same. -/
  alone :
    ∃ alone,
      (opening first).run? (sections.flatMap LatchSection.moves) =
          some (alone, sections.flatMap LatchSection.replies) ∧
        alone.latch = { value := left }
  /-- If all that write read, change and write back, then every change is made, one after another. -/
  updated :
    ∀ changes,
      List.Forall₂ LatchSection.Updates (sections.filter LatchSection.isWriting) changes →
      left = changes.foldl (fun value change => change value) first

/-- The state of a latch and of the threads at it, against the history that led there. -/
structure Serializes (bench : Bench Value) (first : Value) (history : List (LatchHappening Value)) :
    Prop where
  /-- A guard is live from the step that brings it to the one that gives it up. -/
  live :
    ∀ thread, bench.guards thread + releasesOf thread history = claimsOf thread history
  single : ∀ thread, bench.guards thread ≤ 1
  exclusive :
    ∀ one other, 0 < bench.guards one → 0 < bench.guards other → one = other
  held_iff : bench.latch.held = true ↔ ∃ owner, 0 < bench.guards owner
  /-- The value is what the completed sections left, or what the owner has made of that. -/
  sections :
    ∃ left,
      Amounts first (completed history) left ∧
        (bench.latch.held = false → bench.latch.value = left) ∧
        ∀ owner,
          0 < bench.guards owner →
          LatchAccess.Leads left (underway owner history) bench.latch.value
  /-- A single try fails exactly where a guard is live, and brings the only one elsewhere. -/
  tried :
    ∀ me next reply,
      bench.step? me .tryAcquire = some (next, reply) →
      (reply = .refused ∧ ∃ owner, 0 < bench.guards owner) ∨
        (reply = .done ∧ next.guards me = 1 ∧ ∀ thread, bench.guards thread = 0)

/-- Sections that lead from one to the next amount to what they leave. -/
theorem amounts_of_serial
    {sections : List (LatchSection Value)}
    {left : Value}
    (serial : LatchSection.Serial first sections left) :
    Amounts first sections left where
  serial := serial
  alone := by
    obtain ⟨alone, ran, rests⟩ := (Resting.opening first).run?_sections serial
    exact ⟨alone, ran, rests.latch⟩
  updated _ updates := serial.eq_foldl updates

/-- At a guarded latch the completed sections leave what the owner goes on from. -/
theorem Guarded.amounts (guarded : bench.Guarded first past) :
    ∃ left,
      Amounts first (completed past) left ∧
        (bench.latch.held = false → bench.latch.value = left) ∧
        ∀ owner,
          0 < bench.guards owner →
          LatchAccess.Leads left (underway owner past) bench.latch.value := by
  cases guarded with
  | free down unowned serial =>
      refine ⟨bench.latch.value, amounts_of_serial serial, fun _ => rfl, ?_⟩
      intro owner owns
      simp [unowned] at owns
  | @owned owner left up one others serial works =>
      refine ⟨left, amounts_of_serial serial, by simp [up], ?_⟩
      intro thread owns
      by_cases same : thread = owner
      · exact same ▸ works
      · simp [others thread same] at owns

/--
After every run at a latch at most one guard is live, the flag is up exactly while
one is, and the completed sections amount to running them one after the other in the
order of their releases.  A single try never fails but for a guard that is live.
-/
theorem guards_serialize (ran : (opening first).run? moves = some (bench, replies)) :
    bench.Serializes first (ofRun moves replies) where
  live := by
    intro thread
    have counted := guards_run ran thread
    have nobody : (opening first).guards thread = 0 := rfl
    rwa [nobody, Nat.zero_add] at counted
  single _ := ((Guarded.opening first).run ran).guards_le_one
  exclusive := by
    intro one other oneOwns otherOwns
    have guarded := (Guarded.opening first).run ran
    obtain ⟨-, -, others, -⟩ := guarded.of_owns oneOwns.ne'
    by_contra different
    exact otherOwns.ne' (others other (Ne.symm different))
  held_iff := ((Guarded.opening first).run ran).held_iff
  sections := ((Guarded.opening first).run ran).amounts
  tried := by
    intro me next reply stepped
    have guarded := (Guarded.opening first).run ran
    cases steps_of_step? stepped with
    | misses up =>
        exact .inl ⟨rfl, guarded.held_iff.mp up⟩
    | claims asks down =>
        cases guarded with
        | owned up =>
            simp [up] at down
        | free _ unowned serial =>
            exact .inr ⟨rfl, by rw [guards_grant_self, unowned], unowned⟩

/--
Thread 0 adds one to five while thread 1 waits and thread 2 tries in vain.  Thread 1
fails once more though the flag is down, and then doubles what thread 0 left.  Thread 2
tries again and sees that.
-/
def contendedUpdates : List (ThreadId × LatchMove Nat) :=
  [(⟨0⟩, .acquire false), (⟨1⟩, .acquire false), (⟨0⟩, .read), (⟨2⟩, .tryAcquire), (⟨1⟩, .look),
    (⟨0⟩, .write 6), (⟨0⟩, .tryAcquire), (⟨0⟩, .release), (⟨1⟩, .look), (⟨1⟩, .acquire true),
    (⟨1⟩, .look), (⟨1⟩, .acquire false), (⟨1⟩, .read), (⟨0⟩, .acquire false), (⟨1⟩, .write 12),
    (⟨0⟩, .look), (⟨1⟩, .release), (⟨2⟩, .tryAcquire), (⟨2⟩, .read), (⟨0⟩, .look)]

theorem guards_serialize_contendedUpdates :
    ∃ bench replies,
      (opening 5).run? contendedUpdates = some (bench, replies) ∧
        bench.Serializes 5 (ofRun contendedUpdates replies) ∧
        bench.latch = { held := true, value := 12 } ∧
        completed (ofRun contendedUpdates replies) =
          [⟨⟨0⟩, [.saw 5, .wrote 6]⟩, ⟨⟨1⟩, [.saw 6, .wrote 12]⟩] ∧
        underway ⟨2⟩ (ofRun contendedUpdates replies) = [.saw 12] := by
  obtain ⟨bench, replies, ran, latch, sections, begun⟩ :
      ∃ bench replies,
        (opening 5).run? contendedUpdates = some (bench, replies) ∧
          bench.latch = { held := true, value := 12 } ∧
          completed (ofRun contendedUpdates replies) =
            [⟨⟨0⟩, [.saw 5, .wrote 6]⟩, ⟨⟨1⟩, [.saw 6, .wrote 12]⟩] ∧
          underway ⟨2⟩ (ofRun contendedUpdates replies) = [.saw 12] :=
    ⟨_, _, rfl, rfl, rfl, rfl⟩
  exact ⟨bench, replies, ran, guards_serialize ran, latch, sections, begun⟩

end Bench

end LatchMutex
