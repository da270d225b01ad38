import Mathlib.Data.List.DropRight
import LatchMutex.Latch

namespace LatchMutex

/-!
# Sections under a latch

The history of a run at a latch lists its atomic steps with their answers.  A section
of a thread reaches from the step that brings it a guard to the one that gives the
guard up, and holds what the thread read and wrote in between.  Sections are cut out of
the history thread by thread, whatever the other threads do meanwhile.

The flag is up exactly while somebody owns a guard, and nobody ever owns a second one.
So the completed sections, in the order of their releases, each start from the value
that the one before left; run one after the other, they see and leave the same.
-/

/-- One use of the value behind a latch. -/
inductive LatchAccess (Value : Type) where
  | saw (value : Value)
  | wrote (value : Value)
  deriving Repr, DecidableEq

/-- What a thread does from one claim of a latch to the release of its guard. -/
structure LatchSection (Value : Type) where
  thread : ThreadId
  accesses : List (LatchAccess Value)
  deriving Repr, DecidableEq

/-- One atomic step at a latch, with its answer. -/
structure LatchHappening (Value : Type) where
  thread : ThreadId
  move : LatchMove Value
  reply : LatchReply Value
  deriving Repr, DecidableEq

namespace LatchAccess

variable {Value : Type}

/-- The step that makes the access. -/
def move : LatchAccess Value → LatchMove Value
  | .saw _ => .read
  | .wrote value => .write value

/-- The answer to the step that makes the access. -/
def reply : LatchAccess Value → LatchReply Value
  | .saw value => .seen value
  | .wrote _ => .done

/-- Whether the access replaces the value. -/
def isWrite : LatchAccess Value → Bool
  | .saw _ => false
  | .wrote _ => true

/-- Accesses that lead from one value to another, each read seeing the value so far. -/
inductive Leads : Value → List (LatchAccess Value) → Value → Prop where
  | nil (value : Value) :
      Leads value [] value
  | saw
      {first last : Value} {rest : List (LatchAccess Value)}
      (later : Leads first rest last) :
      Leads first (.saw first :: rest) last
  | wrote
      {first written last : Value} {rest : List (LatchAccess Value)}
      (later : Leads written rest last) :
      Leads first (.wrote written :: rest) last

namespace Leads

variable {first last value : Value} {accesses : List (LatchAccess Value)}

/-- A read at the end sees the last value. -/
theorem snoc_saw (leads : Leads first accesses last) :
    Leads first (accesses ++ [.saw last]) last := by
  induction leads with
  | nil value =>
      exact .saw (.nil value)
  | saw later inductionHypothesis =>
      exact .saw inductionHypothesis
  | wrote later inductionHypothesis =>
      exact .wrote inductionHypothesis

/-- A write at the end leaves what it writes. -/
theorem snoc_wrote (leads : Leads first accesses last) (value : Value) :
    Leads first (accesses ++ [.wrote value]) value := by
  induction leads with
  | nil _ =>
      exact .wrote (.nil value)
  | saw later inductionHypothesis =>
      exact .saw inductionHypothesis
  | wrote later inductionHypothesis =>
      exact .wrote inductionHypothesis

/-- Accesses in two parts pass through a value in between. -/
theorem split
    {earlier later : List (LatchAccess Value)}
    (leads : Leads first (earlier ++ later) last) :
    ∃ middle, Leads first earlier middle ∧ Leads middle later last := by
  induction earlier generalizing first with
  | nil =>
      exact ⟨first, .nil first, leads⟩
  | cons access rest inductionHypothesis =>
      cases leads with
      | saw tail =>
          obtain ⟨middle, head, tail⟩ := inductionHypothesis tail
          exact ⟨middle, .saw head, tail⟩
      | wrote tail =>
          obtain ⟨middle, head, tail⟩ := inductionHypothesis tail
          exact ⟨middle, .wrote head, tail⟩

/-- Reads alone leave the value as it is. -/
theorem eq_of_unwritten
    (leads : Leads first accesses last)
    (unwritten : ∀ access ∈ accesses, access.isWrite = false) :
    last = first := by
  induction leads with
  | nil value =>
      rfl
  | saw later inductionHypothesis =>
      exact inductionHypothesis (List.forall_mem_cons.mp unwritten).2
  | wrote later inductionHypothesis =>
      exact absurd (List.forall_mem_cons.mp unwritten).1 (by simp [isWrite])

end Leads

end LatchAccess

namespace LatchSection

variable {Value : Type} {first last : Value} {sections : List (LatchSection Value)}

/-- Whether the section replaces the value. -/
def isWriting (part : LatchSection Value) : Bool :=
  part.accesses.any LatchAccess.isWrite

/-- The steps of the section, if nobody else takes one in between. -/
def moves (part : LatchSection Value) : List (ThreadId × LatchMove Value) :=
  (part.thread, .acquire false) ::
    (part.accesses.map fun access => (part.thread, access.move)) ++ [(part.thread, .release)]

/-- The answers to the steps of the section. -/
def replies (part : LatchSection Value) : List (LatchReply Value) :=
  .done :: part.accesses.map LatchAccess.reply ++ [.done]

/-- Sections that lead from one value to another, each from where the last one left it. -/
inductive Serial : Value → List (LatchSection Value) → Value → Prop where
  | nil (value : Value) :
      Serial value [] value
  | cons
      {part : LatchSection Value} {rest : List (LatchSection Value)}
      {first middle last : Value}
      (leads : LatchAccess.Leads first part.accesses middle)
      (later : Serial middle rest last) :
      Serial first (part :: rest) last

/-- One section more goes on from where the others left the value. -/
theorem Serial.snoc
    {part : LatchSection Value}
    {middle : Value}
    (serial : Serial first sections middle)
    (leads : LatchAccess.Leads middle part.accesses last) :
    Serial first (sections ++ [part]) last := by
  induction serial with
  | nil value =>
      exact .cons leads (.nil last)
  | cons head later inductionHypothesis =>
      exact .cons head (inductionHypothesis leads)

/--
The section reads the value, and the last that it writes is the changed one.  What it
does before the read, and after that write, replaces nothing.
-/
def Updates (part : LatchSection Value) (change : Value → Value) : Prop :=
  ∃ before seen between after,
    part.accesses =
        before ++ .saw seen :: (between ++ .wrote (change seen) :: after) ∧
      (∀ access ∈ before, access.isWrite = false) ∧
      ∀ access ∈ after, access.isWrite = false

/-- An update leaves the change of the value that it starts from. -/
theorem Updates.eq
    {part : LatchSection Value}
    {change : Value → Value}
    (updates : part.Updates change)
    (leads : LatchAccess.Leads first part.accesses last) :
    last = change first := by
  obtain ⟨before, seen, between, after, accesses, unwritten, kept⟩ := updates
  rw [accesses] at leads
  obtain ⟨found, head, tail⟩ := leads.split
  cases head.eq_of_unwritten unwritten
  cases tail with
  | saw tail =>
      obtain ⟨_, -, tail⟩ := tail.split
      cases tail with
      | wrote tail =>
          exact tail.eq_of_unwritten kept

/-- A section that writes nothing leaves the value as it is. -/
theorem eq_of_not_isWriting
    {part : LatchSection Value}
    (unwritten : part.isWriting = false)
    (leads : LatchAccess.Leads first part.accesses last) :
    last = first :=
  leads.eq_of_unwritten (by simpa [isWriting] using unwritten)

/-- Sections that write nothing or update leave all the changes, one after the other. -/
theorem Serial.eq_foldl
    {changes : List (Value → Value)}
    (serial : Serial first sections last)
    (updates : List.Forall₂ Updates (sections.filter isWriting) changes) :
    last = changes.foldl (fun value change => change value) first := by
  induction serial generalizing changes with
  | nil value =>
      cases updates
      rfl
  | @cons part rest first middle last leads later inductionHypothesis =>
      cases writing : part.isWriting with
      | false =>
          rw [List.filter_cons_of_neg (by simp [writing])] at updates
          cases eq_of_not_isWriting writing leads
          exact inductionHypothesis updates
      | true =>
          rw [List.filter_cons_of_pos writing] at updates
          cases updates with
          | cons update others =>
              cases update.eq leads
              exact inductionHypothesis others

end LatchSection

namespace LatchHappening

variable {Value : Type}

/-- Whether the step brings its thread a guard. -/
def claims (happening : LatchHappening Value) : Bool :=
  match happening.move, happening.reply with
  | .acquire _, .done | .tryAcquire, .done => true
  | _, _ => false

/-- Whether the step gives a guard up. -/
def releases (happening : LatchHappening Value) : Bool :=
  match happening.move with
  | .release => true
  | _ => false

/-- The access that the step makes, if it makes one. -/
def access? (happening : LatchHappening Value) : Option (LatchAccess Value) :=
  match happening.move, happening.reply with
  | .read, .seen value => some (.saw value)
  | .write value, _ => some (.wrote value)
  | _, _ => none

/-- What a thread has done since its last claim. -/
def underway (me : ThreadId) (history : List (LatchHappening Value)) :
    List (LatchAccess Value) :=
  ((history.filter fun happening => happening.thread = me).rtakeWhile
    fun happening => !happening.claims).filterMap access?

/-- The sections that are completed by some steps, given the steps before. -/
def completedAfter (past : List (LatchHappening Value)) :
    List (LatchHappening Value) → List (LatchSection Value)
  | [] => []
  | happening :: rest =>
      let here :=
        if happening.releases then
          [⟨happening.thread, underway happening.thread past⟩]
        else
          []
      here ++ completedAfter (past ++ [happening]) rest

/-- The completed sections of a history, in the order of their releases. -/
def completed (history : List (LatchHappening Value)) : List (LatchSection Value) :=
  completedAfter [] history

variable {me : ThreadId} {happening : LatchHappening Value}

/-- The steps of other threads have no part in what a thread has done. -/
theorem underway_snoc_of_ne
    (other : happening.thread ≠ me)
    (past : List (LatchHappening Value)) :
    underway me (past ++ [happening]) = underway me past := by
  simp [underway, other]

/-- Nothing is done yet at a claim. -/
theorem underway_snoc_of_claims
    (claims : happening.claims = true)
    (past : List (LatchHappening Value)) :
    underway happening.thread (past ++ [happening]) = [] := by
  simp [underway, List.filter_append, claims]

/-- A step that is no claim adds the access that it makes. -/
theorem underway_snoc
    (mine : happening.thread = me)
    (unclaimed : happening.claims = false)
    (past : List (LatchHappening Value)) :
    underway me (past ++ [happening]) = underway me past ++ happening.access?.toList := by
  have kept :
      ((past ++ [happening]).filter fun happening => happening.thread = me) =
        (past.filter fun happening => happening.thread = me) ++ [happening] := by
    simp [List.filter_append, mine]
  rw [underway, kept, List.rtakeWhile_concat_pos _ _ _ (by simp [unclaimed]),
    List.filterMap_append]
  cases access : happening.access? <;> simp [underway, access]

theorem completedAfter_append (past earlier later : List (LatchHappening Value)) :
    completedAfter past (earlier ++ later) =
      completedAfter past earlier ++ completedAfter (past ++ earlier) later := by
  induction earlier generalizing past with
  | nil =>
      simp [completedAfter]
  | cons happening rest inductionHypothesis =>
      simp [completedAfter, inductionHypothesis]

/-- Only a release completes a section. -/
theorem completed_snoc
    (kept : happening.releases = false)
    (past : List (LatchHappening Value)) :
    completed (past ++ [happening]) = completed past := by
  simp [completed, completedAfter_append, completedAfter, kept]

/-- A release completes the section of its thread. -/
theorem completed_snoc_of_releases
    (releases : happening.releases = true)
    (past : List (LatchHappening Value)) :
    completed (past ++ [happening]) =
      completed past ++ [⟨happening.thread, underway happening.thread past⟩] := by
  simp [completed, completedAfter_append, completedAfter, releases]

end LatchHappening

end LatchMutex
