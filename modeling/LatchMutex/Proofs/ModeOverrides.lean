import LatchMutex.Mode

namespace LatchMutex

/-!
# Overrides of the mode

The history of a run at the mode cache is what its steps come to.  Reading the level
takes a load, and a compare-and-exchange if the load found the cell unresolved; an
override reads the level first and then stores its own.

The level in force after a history is that of its last store, and without a store it
is that of the environment.  A cell that is resolved holds the level in force, and
only before the first store it may be unresolved.  So a reader that has seen it
unresolved can seed nothing any more once an override is stored.
-/

/-- What a step at the mode cache comes to. -/
inductive ModeDeed where
  /-- A request arrives, about to load the cell. -/
  | begins
  /-- The cell is loaded unresolved. -/
  | misses
  /-- A reading of the level is done: a request for it, or the first part of an override. -/
  | reads (level : SafetyLevel)
  /-- An override is stored. -/
  | stores (level : SafetyLevel)
  deriving Repr, DecidableEq, Inhabited

/-- What one step of one thread came to. -/
structure ModeHappening where
  thread : ThreadId
  deed : ModeDeed
  deriving Repr, DecidableEq, Inhabited

namespace ModeHappening

/-- The level that is stored by an override, if one is. -/
def override? (happening : ModeHappening) : Option SafetyLevel :=
  match happening.deed with
  | .stores level => some level
  | _ => none

/-- The levels that overrides stored, in this order. -/
def overrides (history : List ModeHappening) : List SafetyLevel :=
  history.filterMap override?

/-- The level in force after a history: that of the last override, or else of the environment. -/
def inForce (value : Option ByteArray) (history : List ModeHappening) : SafetyLevel :=
  (overrides history).getLast?.getD (.ofEnvironment value)

/-- Nothing but a store changes the level in force. -/
theorem inForce_snoc_of_unstored
    {happening : ModeHappening}
    (unstored : happening.override? = none)
    (value : Option ByteArray)
    (history : List ModeHappening) :
    inForce value (history ++ [happening]) = inForce value history := by
  simp [inForce, overrides, unstored]

/-- A store puts its own level in force. -/
theorem inForce_snoc_stores
    (value : Option ByteArray)
    (history : List ModeHappening)
    (me : ThreadId)
    (level : SafetyLevel) :
    inForce value (history ++ [⟨me, .stores level⟩]) = level := by
  simp [inForce, overrides, override?]

/-- After a store the environment does not matter. -/
theorem getLast?_overrides
    {history : List ModeHappening}
    (overridden : overrides history ≠ [])
    (value : Option ByteArray) :
    (overrides history).getLast? = some (inForce value history) := by
  rw [inForce, List.getLast?_eq_some_getLast overridden, Option.getD_some]

end ModeHappening

namespace ModeCache

open ModeHappening

/-- The cache of a process with an environment value, before anybody asked. -/
def opening (value : Option ByteArray) : ModeCache :=
  { environment := .ofEnvironment value }

/-- What a step of a thread comes to, by its stages before and after it and its answer. -/
def deed (cache next : ModeCache) (me : ThreadId) (answer : Option SafetyLevel) : ModeDeed :=
  match cache.stage me, next.stage me, answer with
  | .storing level _, _, _ => .stores level
  | _, .storing _ previous, _ => .reads previous
  | _, _, some level => .reads level
  | .idle, _, none => .begins
  | _, _, none => .misses

/-- A run of steps with what they come to, if each is possible. -/
def run? (cache : ModeCache) :
    List (ThreadId × ModeEvent) → Option (ModeCache × List ModeHappening)
  | [] => some (cache, [])
  | (me, event) :: rest => do
      let (next, answer) ← cache.step? me event
      let (last, history) ← next.run? rest
      pure (last, ⟨me, cache.deed next me answer⟩ :: history)

variable
  {value : Option ByteArray} {cache next last : ModeCache} {me : ThreadId} {event : ModeEvent}
  {answer : Option SafetyLevel} {moves : List (ThreadId × ModeEvent)} {history : List ModeHappening}

@[simp] theorem stage_setStage_self (stage : ModeStage) :
    (cache.setStage me stage).stage me = stage := by
  simp [ModeCache.stage, setStage]

/-- The kinds of steps at the mode cache, with what each comes to. -/
inductive Steps (cache : ModeCache) (me : ThreadId) : ModeEvent → ModeDeed → ModeCache → Prop where
  | begins
      {request : ModeRequest}
      (idle : cache.stage me = .idle) :
      Steps cache me (.start request) .begins (cache.setStage me (.loading request))
  | misses
      {request : ModeRequest}
      (loading : cache.stage me = .loading request)
      (unresolved : cache.cell = none) :
      Steps cache me .proceed .misses (cache.setStage me (.seeding request))
  | reads
      {request : ModeRequest} {level : SafetyLevel}
      (reading : cache.stage me = .loading request ∨ cache.stage me = .seeding request)
      (resolved : cache.cell = some level) :
      Steps cache me .proceed (.reads level) (cache.learned me request level).1
  | seeds
      {request : ModeRequest}
      (seeding : cache.stage me = .seeding request)
      (unresolved : cache.cell = none) :
      Steps cache me .proceed (.reads cache.environment)
        ({ cache with cell := some cache.environment }.learned me request cache.environment).1
  | stores
      {level previous : SafetyLevel}
      (storing : cache.stage me = .storing level previous) :
      Steps cache me .proceed (.stores level)
        ({ cache with cell := some level }.setStage me .idle)

/-- A request that learns the level has read it. -/
theorem deed_learned
    {stage : ModeStage}
    (standing : cache.stage me = stage)
    (unstored : ∀ level previous, stage ≠ .storing level previous)
    (request : ModeRequest)
    (level : SafetyLevel)
    (resolved : ModeCache) :
    cache.deed (resolved.learned me request level).1 me (resolved.learned me request level).2 =
      .reads level := by
  unfold deed learned
  rw [standing]
  cases request <;> cases stage <;> simp_all

/-- A step is one of the kinds listed. -/
theorem steps_of_step?
    (stepped : cache.step? me event = some (next, answer)) :
    cache.Steps me event (cache.deed next me answer) next := by
  unfold step? at stepped
  split at stepped
  · rename_i request idle
    cases stepped
    have deed : cache.deed (cache.setStage me (.loading request)) me none = .begins := by
      simp [ModeCache.deed, idle]
    exact deed ▸ .begins idle
  · rename_i request loading
    have unstored (level previous : SafetyLevel) :
        ModeStage.loading request ≠ .storing level previous := by
      simp
    split at stepped
    · rename_i level resolved
      obtain ⟨rfl, rfl⟩ := Prod.ext_iff.mp (Option.some.inj stepped)
      exact deed_learned loading unstored request level cache ▸ .reads (.inl loading) resolved
    · rename_i unresolved
      cases stepped
      have deed : cache.deed (cache.setStage me (.seeding request)) me none = .misses := by
        simp [ModeCache.deed, loading]
      exact deed ▸ .misses loading unresolved
  · rename_i request seeding
    have unstored (level previous : SafetyLevel) :
        ModeStage.seeding request ≠ .storing level previous := by
      simp
    split at stepped
    · rename_i level resolved
      obtain ⟨rfl, rfl⟩ := Prod.ext_iff.mp (Option.some.inj stepped)
      exact deed_learned seeding unstored request level cache ▸ .reads (.inr seeding) resolved
    · rename_i unresolved
      obtain ⟨rfl, rfl⟩ := Prod.ext_iff.mp (Option.some.inj stepped)
      exact deed_learned seeding unstored request cache.environment _ ▸ .seeds seeding unresolved
  · rename_i level previous storing
    cases stepped
    have deed :
        cache.deed ({ cache with cell := some level }.setStage me .idle) me (some previous) =
          .stores level := by
      simp [ModeCache.deed, storing]
    exact deed ▸ .stores storing
  · contradiction

/-- The cell holds the level in force, or is unresolved and nobody has overridden anything. -/
structure Keeps (cache : ModeCache) (value : Option ByteArray) (past : List ModeHappening) :
    Prop where
  environment : cache.environment = .ofEnvironment value
  cell : cache.cell = some (inForce value past) ∨ cache.cell = none ∧ overrides past = []

/-- A resolved cell holds the level in force. -/
theorem Keeps.eq_of_cell
    {past : List ModeHappening}
    {level : SafetyLevel}
    (keeps : cache.Keeps value past)
    (resolved : cache.cell = some level) :
    level = inForce value past := by
  rcases keeps.cell with held | ⟨unresolved, -⟩
  · exact Option.some.inj (resolved.symm.trans held)
  · simp [unresolved] at resolved

/-- An unresolved cell says that nobody has overridden anything. -/
theorem Keeps.unstored_of_cell
    {past : List ModeHappening}
    (keeps : cache.Keeps value past)
    (unresolved : cache.cell = none) :
    overrides past = [] := by
  rcases keeps.cell with held | ⟨-, unstored⟩
  · simp [unresolved] at held
  · exact unstored

/-- Learning a level leaves the cell and the environment alone. -/
@[simp] theorem learned_cell (request : ModeRequest) (level : SafetyLevel) :
    (cache.learned me request level).1.cell = cache.cell := by
  cases request <;> rfl

@[simp] theorem learned_environment (request : ModeRequest) (level : SafetyLevel) :
    (cache.learned me request level).1.environment = cache.environment := by
  cases request <;> rfl

/-- What stores nothing keeps a cell that stays as it is. -/
theorem Keeps.snoc_of_unstored
    {past : List ModeHappening}
    {happening : ModeHappening}
    (keeps : cache.Keeps value past)
    (unstored : happening.override? = none)
    (environment : next.environment = cache.environment)
    (cell : next.cell = cache.cell) :
    next.Keeps value (past ++ [happening]) where
  environment := environment.trans keeps.environment
  cell := by
    have same : overrides (past ++ [happening]) = overrides past := by
      simp [overrides, unstored]
    rw [inForce_snoc_of_unstored unstored, same, cell]
    exact keeps.cell

/-- A step reads the level in force, if it reads one, and keeps the cell at that level. -/
theorem Keeps.step
    {past : List ModeHappening}
    {deed : ModeDeed}
    (keeps : cache.Keeps value past)
    (steps : cache.Steps me event deed next) :
    next.Keeps value (past ++ [⟨me, deed⟩]) ∧
      ∀ level, deed = .reads level → level = inForce value past := by
  cases steps with
  | begins idle =>
      exact ⟨keeps.snoc_of_unstored rfl rfl rfl, by simp⟩
  | misses loading unresolved =>
      exact ⟨keeps.snoc_of_unstored rfl rfl rfl, by simp⟩
  | reads reading resolved =>
      refine ⟨keeps.snoc_of_unstored rfl (by simp) (by simp), ?_⟩
      rintro level ⟨⟩
      exact keeps.eq_of_cell resolved
  | seeds seeding unresolved =>
      -- Whoever seeds the cell puts the environment in force, as nobody has overridden it.
      have unstored := keeps.unstored_of_cell unresolved
      have named : cache.environment = inForce value past := by
        rw [keeps.environment, inForce, unstored, List.getLast?_nil, Option.getD_none]
      have seeded : ({ cache with cell := some cache.environment } : ModeCache).Keeps value past :=
        ⟨keeps.environment, .inl (congrArg some named)⟩
      refine ⟨seeded.snoc_of_unstored rfl (by simp) (by simp), ?_⟩
      rintro level ⟨⟩
      exact named
  | stores storing =>
      exact ⟨⟨keeps.environment, .inl (by simp [inForce_snoc_stores, setStage])⟩, by simp⟩

/-- Along a run every reading is of the level in force at that step. -/
theorem Keeps.run
    {past : List ModeHappening}
    (keeps : cache.Keeps value past)
    (ran : cache.run? moves = some (last, history)) :
    last.Keeps value (past ++ history) ∧
      ∀ earlier later me level,
        history = earlier ++ ⟨me, .reads level⟩ :: later →
        level = inForce value (past ++ earlier) := by
  induction moves generalizing cache past history with
  | nil =>
      cases ran
      simpa using keeps
  | cons move rest inductionHypothesis =>
      obtain ⟨me, event⟩ := move
      simp only [run?, Option.bind_eq_bind, Option.bind_eq_some_iff, Option.pure_def,
        Option.some.injEq, Prod.mk.injEq, Prod.exists] at ran
      obtain ⟨next, answer, stepped, last, rested, ran, rfl, rfl⟩ := ran
      obtain ⟨kept, reads⟩ := keeps.step (steps_of_step? stepped)
      obtain ⟨keptLast, readsLater⟩ := inductionHypothesis kept ran
      refine ⟨by simpa using keptLast, ?_⟩
      intro earlier later reader level here
      cases earlier with
      | nil =>
          simp only [List.nil_append, List.cons.injEq, ModeHappening.mk.injEq] at here
          simpa using reads level here.1.2
      | cons first others =>
          simp only [List.cons_append, List.cons.injEq] at here
          obtain ⟨rfl, here⟩ := here
          simpa using readsLater others later reader level here

/--
Whatever the environment says, it is never to switch validation off, and every reading
of the level that is done before an override is stored gives the environment's level.
From the first store on the cell always holds what was stored last, and that is what
every reading gives, whenever it began: also one that has seen the cell unresolved.
A reading that begins after a store never waits: its load is enough.
-/
theorem overrides_prevail
    (ran : (opening value).run? moves = some (cache, history)) :
    SafetyLevel.ofEnvironment value ≠ .off ∧
      (∀ earlier later me level,
        history = earlier ++ ⟨me, .reads level⟩ :: later →
        overrides earlier = [] →
        level = .ofEnvironment value) ∧
      (overrides history ≠ [] → cache.cell = (overrides history).getLast?) ∧
      (∀ earlier later me level,
        history = earlier ++ ⟨me, .reads level⟩ :: later →
        overrides earlier ≠ [] →
        (overrides earlier).getLast? = some level) ∧
      ∀ me request,
        overrides history ≠ [] →
        cache.stage me = .loading request →
        ∃ next answer level,
          cache.step? me .proceed = some (next, answer) ∧
            cache.deed next me answer = .reads level := by
  have start : (opening value).Keeps value [] := ⟨rfl, .inr ⟨rfl, rfl⟩⟩
  obtain ⟨keeps, reads⟩ := start.run ran
  simp only [List.nil_append] at keeps reads
  have resolved (overridden : overrides history ≠ []) :
      cache.cell = (overrides history).getLast? := by
    rw [getLast?_overrides overridden value]
    exact keeps.cell.resolve_right fun unresolved => overridden unresolved.2
  refine ⟨SafetyLevel.ofEnvironment_ne_off value, ?_, resolved, ?_, ?_⟩
  · intro earlier later me level here unstored
    rw [reads earlier later me level here, inForce, unstored, List.getLast?_nil, Option.getD_none]
  · intro earlier later me level here overridden
    rw [getLast?_overrides overridden value, reads earlier later me level here]
  · intro me request overridden loading
    have held := (resolved overridden).trans (getLast?_overrides overridden value)
    have stepped :
        cache.step? me .proceed = some (cache.learned me request (inForce value history)) := by
      simp [step?, loading, held]
    exact ⟨_, _, _, stepped, deed_learned loading (by simp) request _ cache⟩

/-- A reader sees the cell unresolved, an override is stored, and then the reader goes on. -/
def overtakenReader : List (ThreadId × ModeEvent) :=
  [(⟨0⟩, .start .read), (⟨0⟩, .proceed), (⟨1⟩, .start (.override .off)), (⟨1⟩, .proceed),
    (⟨1⟩, .proceed), (⟨1⟩, .proceed), (⟨0⟩, .proceed), (⟨2⟩, .start .read)]

theorem overrides_prevail_overtakenReader :
    ∃ cache earlier later next answer level,
      (opening none).run? overtakenReader =
          some (cache, earlier ++ ⟨⟨0⟩, .reads .off⟩ :: later) ∧
        overrides earlier = [.off] ∧
        cache.cell = some .off ∧
        cache.stage ⟨2⟩ = .loading .read ∧
        cache.step? ⟨2⟩ .proceed = some (next, answer) ∧
        cache.deed next ⟨2⟩ answer = .reads level := by
  obtain ⟨cache, ran, loading⟩ :
      ∃ cache,
        (opening none).run? overtakenReader =
            some
              (cache,
                [⟨⟨0⟩, .begins⟩, ⟨⟨0⟩, .misses⟩, ⟨⟨1⟩, .begins⟩, ⟨⟨1⟩, .misses⟩,
                  ⟨⟨1⟩, .reads .strict⟩, ⟨⟨1⟩, .stores .off⟩] ++
                  ⟨⟨0⟩, .reads .off⟩ :: [⟨⟨2⟩, .begins⟩]) ∧
          cache.stage ⟨2⟩ = .loading .read :=
    ⟨_, rfl, rfl⟩
  obtain ⟨-, -, resolved, -, prompt⟩ := overrides_prevail ran
  obtain ⟨next, answer, level, stepped, reads⟩ := prompt ⟨2⟩ .read (by decide) loading
  exact ⟨cache, _, _, next, answer, level, ran, by decide, resolved (by decide), loading, stepped,
    reads⟩

end ModeCache

end LatchMutex
