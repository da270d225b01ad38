import LatchMutex.Log.Files
import LatchMutex.Proofs.EntryLines
import Mathlib.Data.List.Nodup

namespace LatchMutex

/-!
# Emitted logs

An emitter that answers every call with an entry has written exactly the lines of
these entries, each with a line feed of its own, so that the lines of the text
are the lines of the entries.  What it fills in is a bead and a trace id with
three parts; the ids that it gives out are numbered from one, and the numbers
stay apart until their counter is used up.
-/

namespace Text

/-- A part without line feeds goes into the line that is under way. -/
theorem linesFrom_append
    {characters : List Char}
    (unbroken : '\n' ∉ characters)
    (part rest : List Char) :
    linesFrom part (characters ++ '\n' :: rest) =
      endLine (characters.reverse ++ part) :: linesFrom [] rest := by
  induction characters generalizing part with
  | nil =>
      rfl
  | cons character others inductionHypothesis =>
      simp only [List.mem_cons, not_or] at unbroken
      have later := inductionHypothesis unbroken.2 (character :: part)
      rw [List.cons_append, linesFrom]
      · simpa using later
      · exact fun feed => unbroken.1 feed.symm

/-- A text that ends no line early is one line, without the line feed behind it. -/
structure IsLine (text : String) : Prop where
  printed : Printed text.toList
  visible : ∃ inside, text.toList = '\x7b' :: (inside ++ ['\x7d'])

namespace IsLine

variable {text : String}

/-- There is nothing to trim, and the line is not blank. -/
theorem trim_eq (isLine : IsLine text) : trim text = text := by
  obtain ⟨inside, braces⟩ := isLine.visible
  have opened : isBlank '\x7b' = false := by decide
  have closed : isBlank '\x7d' = false := by decide
  rw [trim, braces]
  simp only [List.dropWhile_cons, opened, Bool.false_eq_true, ↓reduceIte, List.reverse_cons,
    List.reverse_append, List.reverse_nil, List.nil_append, List.cons_append, closed,
    List.reverse_reverse]
  rw [← String.toList_inj, String.toList_ofList, braces]

theorem isEmpty_eq (isLine : IsLine text) : text.isEmpty = false := by
  obtain ⟨inside, braces⟩ := isLine.visible
  cases blank : text.isEmpty with
  | false =>
      rfl
  | true =>
      rw [String.isEmpty_iff.mp blank] at braces
      contradiction

/-- In front of other lines it is the first one. -/
theorem linesFrom_eq (isLine : IsLine text) (rest : List Char) :
    linesFrom [] (text.toList ++ '\n' :: rest) = text.toList :: linesFrom [] rest := by
  have unbroken : '\n' ∉ text.toList := fun member =>
    absurd (isLine.printed '\n' member) (by decide)
  obtain ⟨inside, braces⟩ := isLine.visible
  have ended : endLine text.toList.reverse = text.toList := by
    rw [braces]
    simp [endLine]
  rw [linesFrom_append unbroken, List.append_nil, ended]

end IsLine

/-- Lines that are each ended by a line feed are the lines of the text. -/
theorem lines_join {texts : List String} (each : ∀ text ∈ texts, IsLine text) :
    lines (String.join (texts.map (· ++ "\n"))) = texts := by
  have cut :
      linesFrom [] (texts.flatMap fun text => text.toList ++ ['\n']) =
        texts.map String.toList := by
    induction texts with
    | nil =>
        rfl
    | cons text rest inductionHypothesis =>
        have later := inductionHypothesis fun other member => each other (by simp [member])
        have first := (each text (by simp)).linesFrom_eq
        simp [first, later]
  have characters :
      (String.join (texts.map (· ++ "\n"))).toList =
        texts.flatMap fun text => text.toList ++ ['\n'] := by
    simp [String.toList_join, List.flatMap_map]
  rw [lines, characters, cut, List.map_map]
  simp [Function.comp_def]

end Text

theorem LogEntry.isLine (entry : LogEntry) : Text.IsLine entry.line := by
  obtain ⟨inside, braces, printed⟩ := entry.exists_line_eq
  exact ⟨printed, inside, braces⟩

namespace LogSummary

/-- The lines of entries are the lines of the text that they make up. -/
theorem lines_join (entries : List LogEntry) :
    Text.lines (String.join (entries.map fun entry => entry.line ++ "\n")) =
      entries.map LogEntry.line := by
  have lines : ∀ text ∈ entries.map LogEntry.line, Text.IsLine text := by
    intro text member
    obtain ⟨entry, -, rfl⟩ := List.mem_map.mp member
    exact entry.isLine
  have joined := Text.lines_join lines
  rwa [List.map_map] at joined

/-- None of them is blank, so they are the records of the log. -/
theorem recordLines_join (entries : List LogEntry) :
    recordLines (String.join (entries.map fun entry => entry.line ++ "\n")) =
      (entries.map LogEntry.line).zipIdx 1 := by
  have trimmed : (entries.map LogEntry.line).map Text.trim = entries.map LogEntry.line := by
    rw [List.map_map]
    exact List.map_congr_left fun entry _ => entry.isLine.trim_eq
  rw [recordLines, lines_join, trimmed, List.filter_eq_self]
  rintro ⟨text, number⟩ member
  obtain ⟨entry, -, rfl⟩ := List.mem_map.mp (List.fst_mem_of_mem_zipIdx member)
  simp [entry.isLine.isEmpty_eq]

/-- Lines that are accepted one by one are read back as the entries they were written for. -/
theorem map_validate_zipIdx
    {entries : List LogEntry}
    (accepted : ∀ entry ∈ entries, ∀ number, LogEntry.validate entry.line number = .ok entry)
    (first : Nat) :
    ((entries.map LogEntry.line).zipIdx first).map
        (fun line => LogEntry.validate line.1 line.2) =
      entries.map .ok := by
  induction entries generalizing first with
  | nil =>
      rfl
  | cons entry rest inductionHypothesis =>
      obtain ⟨here, others⟩ := List.forall_mem_cons.mp accepted
      rw [List.map_cons, List.zipIdx_cons, List.map_cons, here, inductionHypothesis others,
        List.map_cons]

/-- A log of such lines has a record for each of them and no violation. -/
theorem ofText_join
    {entries : List LogEntry}
    (accepted : ∀ entry ∈ entries, ∀ number, LogEntry.validate entry.line number = .ok entry) :
    ofText (String.join (entries.map fun entry => entry.line ++ "\n")) =
      { records := entries.length, violations := [] } := by
  have none : ((entries.map LogEntry.line).zipIdx 1).flatMap violationsOf = [] := by
    rw [List.flatMap_eq_nil_iff]
    rintro ⟨text, number⟩ member
    obtain ⟨entry, there, rfl⟩ := List.mem_map.mp (List.fst_mem_of_mem_zipIdx member)
    rw [violationsOf, accepted entry there number]
  rw [ofText, recordLines_join, none, List.length_zipIdx, List.length_map]

end LogSummary

/-- An entry with only the required fields can be printed. -/
theorem LogEntry.Printable.new (now : Moment) (traceId : String) (level : LogLevel)
    (event : String) :
    (LogEntry.new now traceId level event).Printable :=
  { mode := nofun
    mutexKind := nofun
    supported := nofun
    details := nofun }

/-- A call for the emission of an entry. -/
inductive LogCall where
  /-- A bare entry under the next trace id. -/
  | bare (now : Moment) (level : LogLevel) (event : String)
  | full (entry : LogEntry)

namespace LogCall

/-- The entry before anything is filled in. -/
def entry : LogCall → LogEntry
  | .bare now level event => .new now "" level event
  | .full entry => entry

/-- Whether the entry comes without a trace id. -/
def lacksTraceId (call : LogCall) : Bool :=
  call.entry.traceId.isEmpty

/-- What may be asked for: a printable entry whose trace id is still to come or has its parts. -/
structure Admissible (call : LogCall) : Prop where
  printable : call.entry.Printable
  traceId : call.entry.traceId = "" ∨ Text.HasThreeParts call.entry.traceId

/--
What a call is answered with: the entry as it was asked for, but for a bead and a
trace id where it came without.
-/
structure Yields (bead : String) (call : LogCall) (entry : LogEntry) : Prop where
  kept :
    entry =
      { call.entry with
        traceId := entry.traceId
        bead := some (call.entry.bead.getD bead) }
  traceId : call.lacksTraceId = false → entry.traceId = call.entry.traceId

/-- A bare entry may always be asked for. -/
theorem Admissible.bare (now : Moment) (level : LogLevel) (event : String) :
    (LogCall.bare now level event).Admissible :=
  ⟨.new now "" level event, .inl rfl⟩

end LogCall

namespace LogSink

variable {sink after : LogSink}

/-- A write that fits is appended as a whole. -/
theorem write_ok
    {text : String}
    (keeps : sink.keeps = true)
    (written : sink.write text = (.ok (), after)) :
    after = { sink with written := sink.written ++ text } ∧ after.keeps = true := by
  simp only [write, keeps, ↓reduceIte] at written
  split at written
  · cases written
    exact ⟨by rw [keeps], rfl⟩
  · cases written

/-- Everything fits into an unlimited sink. -/
theorem exists_write_eq_ok (unlimited : sink.limit = none) (text : String) :
    ∃ after, sink.write text = (.ok (), after) ∧ after.limit = none := by
  rw [write, if_pos (by simp [fits, unlimited])]
  refine ⟨_, rfl, ?_⟩
  split <;> exact unlimited

end LogSink

namespace LogEmitter

/-- Answer a call. -/
def perform (emitter : LogEmitter) : LogCall → Except Failure LogEntry × LogEmitter
  | .bare now level event => emitter.emit now level event
  | .full entry => emitter.emitEntry entry

/-- Answer calls one after the other, whether or not some are refused. -/
def performAll (emitter : LogEmitter) :
    List LogCall → List (Except Failure LogEntry) × LogEmitter
  | [] => ([], emitter)
  | call :: rest =>
      let (answer, next) := emitter.perform call
      let (answers, last) := next.performAll rest
      (answer :: answers, last)

/-- An emitter at its start, whose sink keeps what it takes up to a limit if there is one. -/
def opening (bead run : String) (limit : Option Nat) : LogEmitter :=
  { bead, run, sink := { limit } }

/-- A generated trace id has three parts. -/
theorem hasThreeParts_traceId (bead run : String) (number : Nat) :
    Text.HasThreeParts (traceId bead run number) :=
  ⟨bead.toList, run.toList, Digits.paddedText 3 number, by simp [traceId]⟩

/-- A generated trace id is there. -/
theorem isEmpty_traceId (bead run : String) (number : Nat) :
    (traceId bead run number).isEmpty = false := by
  cases blank : (traceId bead run number).isEmpty with
  | false =>
      rfl
  | true =>
      have characters := congrArg String.toList (String.isEmpty_iff.mp blank)
      simp [traceId] at characters

/-- Numbers that are given out under the same trace id are the same. -/
theorem traceId_injective (bead run : String) : (traceId bead run).Injective := by
  intro first second same
  have characters := congrArg String.toList same
  simp only [traceId, String.toList_append, String.toList_ofList, List.append_cancel_left_eq]
    at characters
  exact Digits.paddedText_injective characters

/-- An entry without a trace id gets the next one. -/
theorem complete_of_isEmpty
    {entry : LogEntry}
    (blank : entry.traceId.isEmpty = true)
    (emitter : LogEmitter) :
    emitter.complete entry =
      ({ entry with
          traceId := traceId emitter.bead emitter.run (emitter.sequence + 1).toNat
          bead := some (entry.bead.getD emitter.bead) },
        { emitter with sequence := emitter.sequence + 1 }) := by
  simp only [complete, blank, ↓reduceIte, nextTraceId]

/-- An entry with a trace id keeps it. -/
theorem complete_of_not_isEmpty
    {entry : LogEntry}
    (there : entry.traceId.isEmpty = false)
    (emitter : LogEmitter) :
    emitter.complete entry =
      ({ entry with bead := some (entry.bead.getD emitter.bead) }, emitter) := by
  simp only [complete, there, Bool.false_eq_true, ↓reduceIte]

/-- A bare entry is one that comes without a trace id. -/
theorem perform_eq (emitter : LogEmitter) (call : LogCall) :
    emitter.perform call = emitter.emitEntry call.entry := by
  cases call with
  | full entry =>
      rfl
  | bare now level event =>
      let id := traceId emitter.bead emitter.run (emitter.sequence + 1).toNat
      have blank : (LogEntry.new now "" level event).traceId.isEmpty = true := rfl
      have numbered : (LogEntry.new now id level event).traceId.isEmpty = false :=
        isEmpty_traceId _ _ _
      have taken := complete_of_not_isEmpty numbered emitter.nextTraceId.2
      have filled := complete_of_isEmpty blank emitter
      change emitEntry emitter.nextTraceId.2 (LogEntry.new now id level event) = _
      simp only [emitEntry, taken, LogCall.entry, filled]
      rfl

/-- Completing an entry writes nothing. -/
@[simp] theorem sink_complete (emitter : LogEmitter) (entry : LogEntry) :
    (emitter.complete entry).2.sink = emitter.sink := by
  cases blank : entry.traceId.isEmpty <;> simp [complete, nextTraceId, blank]

/-- Completing an entry keeps what it came with. -/
theorem yields_complete (emitter : LogEmitter) (call : LogCall) :
    call.Yields emitter.bead (emitter.complete call.entry).1 := by
  cases blank : call.entry.traceId.isEmpty with
  | true =>
      rw [complete_of_isEmpty blank]
      exact ⟨rfl, fun there => absurd (blank.symm.trans there) (by decide)⟩
  | false =>
      rw [complete_of_not_isEmpty blank]
      exact ⟨rfl, fun _ => rfl⟩

/-- An emitter keeps its bead. -/
@[simp] theorem bead_complete (emitter : LogEmitter) (entry : LogEntry) :
    (emitter.complete entry).2.bead = emitter.bead := by
  cases blank : entry.traceId.isEmpty <;> simp [complete, nextTraceId, blank]

/-- An entry that may be asked for can be printed once it is complete. -/
theorem printable_complete
    {call : LogCall}
    (admissible : call.Admissible)
    (emitter : LogEmitter) :
    (emitter.complete call.entry).1.Printable ∧
      Text.HasThreeParts (emitter.complete call.entry).1.traceId := by
  obtain ⟨mode, mutexKind, supported, details⟩ := admissible.printable
  cases blank : call.entry.traceId.isEmpty with
  | true =>
      rw [complete_of_isEmpty blank]
      exact ⟨⟨mode, mutexKind, supported, details⟩, hasThreeParts_traceId _ _ _⟩
  | false =>
      rw [complete_of_not_isEmpty blank]
      refine ⟨⟨mode, mutexKind, supported, details⟩, ?_⟩
      obtain missing | parts := admissible.traceId
      · rw [missing] at blank
        contradiction
      · exact parts

variable {emitter next last : LogEmitter} {call : LogCall} {calls : List LogCall}
  {entry : LogEntry} {entries : List LogEntry}

/-- A call that is answered with an entry has appended the line of this entry to the text. -/
theorem perform_ok
    (keeps : emitter.sink.keeps = true)
    (answered : emitter.perform call = (.ok entry, next)) :
    entry = (emitter.complete call.entry).1 ∧
      next =
        { (emitter.complete call.entry).2 with
          sink :=
            { emitter.sink with
              written := emitter.sink.written ++ (entry.line ++ "\n") } } := by
  rw [perform_eq, emitEntry] at answered
  dsimp only at answered
  split at answered
  · cases answered
  next sink line =>
    split at answered
    · cases answered
    next ended feed =>
      cases answered
      obtain ⟨rfl, kept⟩ := LogSink.write_ok (by simpa using keeps) line
      obtain ⟨rfl, -⟩ := LogSink.write_ok kept feed
      simp [String.append_assoc]

/-- An unlimited sink takes everything. -/
theorem exists_perform_eq_ok (unlimited : emitter.sink.limit = none) (call : LogCall) :
    ∃ entry next, emitter.perform call = (.ok entry, next) ∧ next.sink.limit = none := by
  have still : (emitter.complete call.entry).2.sink.limit = none := by
    simpa using unlimited
  obtain ⟨sink, line, still⟩ :=
    LogSink.exists_write_eq_ok still (emitter.complete call.entry).1.line
  obtain ⟨ended, feed, still⟩ := LogSink.exists_write_eq_ok still "\n"
  rw [perform_eq, emitEntry]
  dsimp only
  rw [line]
  dsimp only
  rw [feed]
  exact ⟨_, _, rfl, still⟩

/-- Trace ids that were given out for the calls that came without one. -/
def generatedIds (calls : List LogCall) (entries : List LogEntry) : List String :=
  ((calls.zip entries).filter fun answered => answered.1.lacksTraceId).map fun answered =>
    answered.2.traceId

/-- Calls that are all answered with an entry. -/
inductive Emits : LogEmitter → List LogCall → List LogEntry → LogEmitter → Prop where
  | done {emitter : LogEmitter} : Emits emitter [] [] emitter
  | step
      {emitter next last : LogEmitter}
      {call : LogCall}
      {calls : List LogCall}
      {entry : LogEntry}
      {entries : List LogEntry}
      (answered : emitter.perform call = (.ok entry, next))
      (later : Emits next calls entries last) :
      Emits emitter (call :: calls) (entry :: entries) last

theorem emits_of_performAll
    (ran : emitter.performAll calls = (entries.map .ok, last)) :
    Emits emitter calls entries last := by
  induction calls generalizing emitter entries with
  | nil =>
      simp only [performAll, Prod.mk.injEq] at ran
      obtain ⟨none, rfl⟩ := ran
      rw [List.map_eq_nil_iff.mp none.symm]
      exact .done
  | cons call rest inductionHypothesis =>
      cases performed : emitter.perform call with
      | mk answer next =>
      cases continued : next.performAll rest with
      | mk answers final =>
      simp only [performAll, performed, continued, Prod.mk.injEq] at ran
      obtain ⟨same, rfl⟩ := ran
      obtain ⟨entry, entries, rfl, rfl, rfl⟩ := List.map_eq_cons_iff.mp same.symm
      exact .step performed (inductionHypothesis continued)

/-- Entries that are all written have been answered one by one. -/
theorem emits_of_emitAll (ran : emitter.emitAll entries = (.ok (), last)) :
    ∃ emitted, Emits emitter (entries.map .full) emitted last := by
  induction entries generalizing emitter with
  | nil =>
      cases ran
      exact ⟨[], .done⟩
  | cons entry rest inductionHypothesis =>
      rw [emitAll] at ran
      split at ran
      · cases ran
      next completed next answered =>
        obtain ⟨emitted, later⟩ := inductionHypothesis ran
        exact ⟨completed :: emitted, .step answered later⟩

theorem exists_performAll_eq_ok (unlimited : emitter.sink.limit = none) (calls : List LogCall) :
    ∃ entries : List LogEntry, (emitter.performAll calls).1 = entries.map .ok := by
  induction calls generalizing emitter with
  | nil =>
      exact ⟨[], rfl⟩
  | cons call rest inductionHypothesis =>
      obtain ⟨entry, next, performed, still⟩ := exists_perform_eq_ok unlimited call
      obtain ⟨entries, later⟩ := inductionHypothesis still
      exact ⟨entry :: entries, by simp [performAll, performed, later]⟩

namespace Emits

/-- Every call has its entry. -/
theorem yields
    (emits : Emits emitter calls entries last)
    (keeps : emitter.sink.keeps = true) :
    List.Forall₂ (LogCall.Yields emitter.bead) calls entries := by
  induction emits with
  | done =>
      exact .nil
  | @step emitter _ _ call _ _ _ answered _ inductionHypothesis =>
      obtain ⟨rfl, rfl⟩ := perform_ok keeps answered
      have later := inductionHypothesis keeps
      rw [bead_complete] at later
      exact .cons (yields_complete emitter call) later

/-- What is written are the lines of the entries, each with its line feed. -/
theorem written_eq
    (emits : Emits emitter calls entries last)
    (keeps : emitter.sink.keeps = true) :
    last.sink.written =
      emitter.sink.written ++ String.join (entries.map fun entry => entry.line ++ "\n") := by
  induction emits with
  | done =>
      simp [String.join]
  | step answered _ inductionHypothesis =>
      obtain ⟨rfl, rfl⟩ := perform_ok keeps answered
      rw [inductionHypothesis keeps, List.map_cons, String.join_cons, String.append_assoc]

/-- Every entry can be printed and has a trace id with three parts. -/
theorem printable
    (emits : Emits emitter calls entries last)
    (keeps : emitter.sink.keeps = true)
    (admissible : ∀ call ∈ calls, call.Admissible) :
    ∀ entry ∈ entries, entry.Printable ∧ Text.HasThreeParts entry.traceId := by
  induction emits with
  | done =>
      simp
  | step answered _ inductionHypothesis =>
      obtain ⟨rfl, rfl⟩ := perform_ok keeps answered
      obtain ⟨first, others⟩ := List.forall_mem_cons.mp admissible
      exact List.forall_mem_cons.mpr
        ⟨printable_complete first _, inductionHypothesis keeps others⟩

/-- A log of entries that may be asked for is read back without a violation. -/
theorem accepted
    {bead run : String}
    {limit : Option Nat}
    (emits : Emits (opening bead run limit) calls entries last)
    (admissible : ∀ call ∈ calls, call.Admissible) :
    LogSummary.ofText last.sink.written = { records := entries.length, violations := [] } ∧
      ((Text.lines last.sink.written).zipIdx 1).map
          (fun line => LogEntry.validate line.1 line.2) =
        entries.map .ok := by
  have keeps : (opening bead run limit).sink.keeps = true := rfl
  have written :
      last.sink.written = String.join (entries.map fun entry => entry.line ++ "\n") := by
    rw [emits.written_eq keeps]
    exact String.empty_append
  have accepted :
      ∀ entry ∈ entries, ∀ number, LogEntry.validate entry.line number = .ok entry := by
    intro entry there
    obtain ⟨printable, traceId⟩ := emits.printable keeps admissible entry there
    exact printable.validate_line traceId
  rw [written, LogSummary.lines_join]
  exact ⟨LogSummary.ofText_join accepted, LogSummary.map_validate_zipIdx accepted 1⟩

/-- As long as the counter is not used up, the generated trace ids are numbered in order. -/
theorem generatedIds_eq
    (emits : Emits emitter calls entries last)
    (keeps : emitter.sink.keeps = true)
    (room : emitter.sequence.toNat + calls.countP LogCall.lacksTraceId < UInt64.size) :
    generatedIds calls entries =
      (List.range' (emitter.sequence.toNat + 1) (calls.countP LogCall.lacksTraceId)).map
        (traceId emitter.bead emitter.run) := by
  induction emits with
  | done =>
      rfl
  | @step emitter _ _ call rest entry entries answered later inductionHypothesis =>
      obtain ⟨rfl, rfl⟩ := perform_ok keeps answered
      cases blank : call.entry.traceId.isEmpty with
      | true =>
          have lacks : call.lacksTraceId = true := blank
          rw [List.countP_cons_of_pos lacks] at room ⊢
          have number : (emitter.sequence + 1).toNat = emitter.sequence.toNat + 1 := by
            rw [UInt64.toNat_add]
            exact Nat.mod_eq_of_lt (by simp [UInt64.size] at room ⊢; omega)
          have others :
              generatedIds (call :: rest) ((emitter.complete call.entry).1 :: entries) =
                (emitter.complete call.entry).1.traceId :: generatedIds rest entries := by
            simp [generatedIds, lacks]
          rw [others]
          simp only [complete_of_isEmpty blank] at inductionHypothesis ⊢
          rw [inductionHypothesis keeps (by omega), number, List.range'_succ, List.map_cons]
      | false =>
          have kept : call.lacksTraceId = false := blank
          rw [List.countP_cons_of_neg (by simp [kept])] at room ⊢
          have others :
              generatedIds (call :: rest) ((emitter.complete call.entry).1 :: entries) =
                generatedIds rest entries := by
            simp [generatedIds, kept]
          rw [others]
          simp only [complete_of_not_isEmpty blank] at inductionHypothesis
          exact inductionHypothesis keeps room

/-- There is room in a text for its entries. -/
theorem length_le_utf8ByteSize
    (emits : Emits emitter calls entries last)
    (keeps : emitter.sink.keeps = true) :
    entries.length ≤ last.sink.written.utf8ByteSize := by
  have lines (entries : List LogEntry) :
      entries.length ≤
        (String.join (entries.map fun entry => entry.line ++ "\n")).utf8ByteSize := by
    induction entries with
    | nil =>
        simp
    | cons entry rest inductionHypothesis =>
        have feed : "\n".utf8ByteSize = 1 := by decide
        rw [List.map_cons, String.join_cons, String.utf8ByteSize_append,
          String.utf8ByteSize_append, feed, List.length_cons]
        omega
  have written := lines entries
  rw [emits.written_eq keeps, String.utf8ByteSize_append]
  omega

end Emits

/--
Whatever an emitter is asked to write, an unlimited sink takes it, and a text
that was taken as a whole is read back.  Every call yields its entry; the text has a
record for every call and no violation, its lines are those of the entries, and the
trace ids that were given out are numbered from one and distinct.  The counter of the
trace ids has as many values as a text can have bytes, so it outlasts every text that
can be read.
-/
theorem reads_back
    (bead run : String)
    (limit : Option Nat)
    (calls : List LogCall)
    (admissible : ∀ call ∈ calls, call.Admissible) :
    let (answers, last) := (opening bead run limit).performAll calls
    let text := last.sink.written
    (limit = none → ∃ entries : List LogEntry, answers = entries.map .ok) ∧
      ∀ entries : List LogEntry,
        answers = entries.map .ok →
        List.Forall₂ (LogCall.Yields bead) calls entries ∧
          LogSummary.ofText text = { records := calls.length, violations := [] } ∧
          ((Text.lines text).zipIdx 1).map (fun line => LogEntry.validate line.1 line.2) =
            entries.map .ok ∧
          (text.utf8ByteSize < UInt64.size →
            generatedIds calls entries =
                (List.range' 1 (calls.countP LogCall.lacksTraceId)).map (traceId bead run) ∧
              (generatedIds calls entries).Nodup) := by
  cases ran : (opening bead run limit).performAll calls with
  | mk answers last =>
  dsimp only
  refine ⟨?answered, ?readBack⟩
  case answered =>
    intro unlimited
    have start : (opening bead run limit).sink.limit = none := unlimited
    simpa [ran] using exists_performAll_eq_ok start calls
  case readBack =>
    rintro entries rfl
    have keeps : (opening bead run limit).sink.keeps = true := rfl
    have emits := emits_of_performAll ran
    have yields := emits.yields keeps
    obtain ⟨summary, lines⟩ := emits.accepted admissible
    rw [← yields.length_eq] at summary
    refine ⟨yields, summary, lines, ?identified⟩
    case identified =>
      intro readable
      have room :=
        calc (opening bead run limit).sequence.toNat + calls.countP LogCall.lacksTraceId
          _ = calls.countP LogCall.lacksTraceId := Nat.zero_add _
          _ ≤ calls.length := List.countP_le_length
          _ = entries.length := yields.length_eq
          _ ≤ last.sink.written.utf8ByteSize := emits.length_le_utf8ByteSize keeps
          _ < UInt64.size := readable
      have numbered := emits.generatedIds_eq keeps room
      refine ⟨numbered, ?_⟩
      rw [numbered]
      exact List.Nodup.map (traceId_injective bead run) (List.nodup_range' 1)

/-- A bare entry, a failure that quotes what it saw, and an entry with a trace id of its own. -/
def nightlyCalls : List LogCall :=
  [.bare { seconds := 86400, millis := 7 } .info "start",
    .full
      { timestamp := " ", traceId := "", level := .error, event := "said \"no\"\nand left"
        outcome := some .fail, errno := some (-22), artifacts := some ["trace.json"]
        details := some (.array [.string "\t", .object [("deep", .bool true)]]) },
    .full (.new { seconds := 90000 } "other::run::7" .warn "end")]

theorem admissible_nightlyCalls : ∀ call ∈ nightlyCalls, call.Admissible := by
  have plain : (Json.array [.string "\t", .object [("deep", .bool true)]]).Plain 126 := by
    refine .array fun item member => ?_
    obtain rfl | rfl : item = .string "\t" ∨ item = .object [("deep", .bool true)] := by
      simpa using member
    · exact .string _
    · refine .object (by simp) fun member here => ?_
      rw [List.mem_singleton.mp here]
      exact .bool true
  simp only [nightlyCalls, List.forall_mem_cons]
  refine ⟨.bare _ _ _, ⟨?failure, .inl rfl⟩, ⟨.new _ _ _ _, .inr ?parts⟩, by simp⟩
  case failure =>
    exact
      { mode := nofun
        mutexKind := nofun
        supported := fun _ => ⟨_, _, rfl⟩
        details := by
          rintro value ⟨⟩
          exact ⟨nofun, plain⟩ }
  case parts =>
    exact LogEntry.isTraceId_iff.mp (by decide)

/-- The hypothesis of `reads_back` holds of these calls, and what it says can be computed. -/
theorem nightly_log_reads_back :
    ∃ entries : List LogEntry,
      let (answers, last) := (opening "fm-1" "nightly" none).performAll nightlyCalls
      answers = entries.map .ok ∧
        LogSummary.ofText last.sink.written = { records := 3, violations := [] } ∧
        generatedIds nightlyCalls entries = ["fm-1::nightly::001", "fm-1::nightly::002"] := by
  obtain ⟨answered, readBack⟩ :=
    reads_back "fm-1" "nightly" none nightlyCalls admissible_nightlyCalls
  obtain ⟨entries, answers⟩ := answered rfl
  obtain ⟨-, summary, -, identified⟩ := readBack entries answers
  have readable :
      ((opening "fm-1" "nightly" none).performAll nightlyCalls).2.sink.written.utf8ByteSize <
        UInt64.size := by
    decide +kernel
  refine ⟨entries, answers, summary, ?_⟩
  rw [(identified readable).1]
  decide +kernel

end LogEmitter

end LatchMutex
