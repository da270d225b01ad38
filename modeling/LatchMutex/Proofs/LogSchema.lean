import LatchMutex.Log.Validation

namespace LatchMutex

/-!
# Accepted log lines

The schema is checked on the value of a line, and what is handed out is the entry
that is read from the same value.  The two look differently at nulls and at labels
that are spelled as objects.  `Labeled` and `Supported` say what the schema asks of
an entry, and each check is compared with the field that it is about.
-/

namespace Text

/-- Double colons cut the text into at least three parts. -/
def HasThreeParts (text : String) : Prop :=
  ∃ first second third,
    text.toList = first ++ ':' :: ':' :: (second ++ ':' :: ':' :: third)

/-- A character in front makes a double colon at most, and never spoils one. -/
theorem separators_cons (character : Char) (rest : List Char) :
    separators rest ≤ separators (character :: rest) ∧
      separators (character :: rest) ≤ separators rest + 1 := by
  induction rest generalizing character with
  | nil =>
      simp [separators]
  | cons next rest inductionHypothesis =>
      obtain ⟨low, high⟩ := inductionHypothesis next
      by_cases colons : character = ':' ∧ next = ':'
      · obtain ⟨rfl, rfl⟩ := colons
        rw [separators]
        omega
      · have same : separators (character :: next :: rest) = separators (next :: rest) := by
          rw [separators]
          intro _ first second
          grind
        omega

theorem separators_append (earlier later : List Char) :
    separators later ≤ separators (earlier ++ later) := by
  induction earlier with
  | nil =>
      exact Nat.le_refl _
  | cons character rest inductionHypothesis =>
      exact Nat.le_trans inductionHypothesis (separators_cons character _).1

/-- A list with double colons is cut by its first one, which leaves all the others. -/
theorem exists_cut_of_separators
    {characters : List Char}
    {count : Nat}
    (counted : separators characters = count + 1) :
    ∃ first rest, characters = first ++ ':' :: ':' :: rest ∧ separators rest = count := by
  fun_induction separators characters with
  | case1 rest inductionHypothesis =>
      exact ⟨[], rest, rfl, by omega⟩
  | case2 character rest plain inductionHypothesis =>
      obtain ⟨first, later, rfl, left⟩ := inductionHypothesis counted
      exact ⟨character :: first, later, rfl, left⟩
  | case3 =>
      contradiction

end Text

theorem LogEntry.isTraceId_iff {text : String} :
    isTraceId text = true ↔ Text.HasThreeParts text := by
  rw [isTraceId, decide_eq_true_iff]
  constructor
  · intro enough
    obtain ⟨count, counted⟩ := Nat.exists_eq_add_of_le' enough
    obtain ⟨first, behind, cut, left⟩ := Text.exists_cut_of_separators counted
    obtain ⟨second, third, again, -⟩ := Text.exists_cut_of_separators left
    exact ⟨first, second, third, by rw [cut, again]⟩
  · rintro ⟨first, second, third, cut⟩
    rw [cut]
    have outer := Text.separators_append first (':' :: ':' :: (second ++ ':' :: ':' :: third))
    have inner := Text.separators_append second (':' :: ':' :: third)
    simp only [Text.separators] at outer inner
    omega

/-- A value of a closed list that has a given label. -/
theorem find?_label
    {Value : Type}
    {values : List Value}
    {label : Value → String}
    {text : String}
    {found : Value}
    (finds : (values.find? fun value => label value = text) = some found) :
    text ∈ values.map label ∧ text = label found := by
  have same : label found = text := by
    simpa using List.find?_some finds
  exact ⟨List.mem_map.mpr ⟨found, List.mem_of_find?_eq_some finds, same⟩, same.symm⟩

namespace Read

variable {field : Option Json} {Value : Type} {ofLabel? : String → Option Value}

/-- An optional field is absent or null, or is read. -/
theorem optional_cases
    {read : Json → Option Value}
    {found : Option Value}
    (reads : optional read field = some found) :
    (found = none ∧ (field = none ∨ field = some .null)) ∨
      ∃ node value, field = some node ∧ read node = some value ∧ found = some value := by
  cases field with
  | none =>
      exact .inl ⟨(Option.some.inj reads).symm, .inl rfl⟩
  | some node =>
      cases node with
      | null =>
          exact .inl ⟨(Option.some.inj reads).symm, .inr rfl⟩
      | _ =>
          obtain ⟨value, same, rfl⟩ := Option.map_eq_some_iff.mp reads
          exact .inr ⟨_, value, rfl, same, rfl⟩

theorem isSome_of_required
    {read : Json → Option Value}
    {value : Value}
    (reads : required read field = some value) :
    field.isSome = true :=
  Option.isSome_of_isSome_bind (Option.isSome_of_eq_some reads)

/-- An optional text is there exactly if the field is a string. -/
theorem optional_text
    {found : Option String}
    (reads : optional text field = some found) :
    field.bind text = found := by
  rcases optional_cases reads with ⟨rfl, rfl | rfl⟩ | ⟨node, value, rfl, same, rfl⟩
  · rfl
  · rfl
  · exact same

/-- A label is a string, or the only key of an object that maps it to null. -/
theorem labeled_eq_some_iff {node : Json} {value : Value} :
    labeled ofLabel? node = some value ↔
      ∃ label,
        ofLabel? label = some value ∧
          (node = .string label ∨ node = .object [(label, .null)]) := by
  have spelled {label : String} :
      Json.label? node = some label ↔
        node = .string label ∨ node = .object [(label, .null)] := by
    unfold Json.label?
    split <;> grind
  change (Json.label? node).bind ofLabel? = some value ↔ _
  simp only [Option.bind_eq_some_iff, spelled, and_comm]

/-- An optional label that is spelled as a string is there, and known. -/
theorem optional_string
    {label : String}
    {found : Option Value}
    (reads : optional (labeled ofLabel?) (some (Json.string label)) = some found) :
    ∃ value, ofLabel? label = some value ∧ found = some value := by
  rcases optional_cases reads with ⟨-, absent⟩ | ⟨node, value, here, same, rfl⟩
  · simp at absent
  · cases here
    exact ⟨value, same, rfl⟩

/-- An optional list has an item exactly if the field is an array with one. -/
theorem optional_list
    {read : Json → Option Value}
    {found : Option (List Value)}
    (reads : optional (list read) field = some found) :
    (∃ item items, field = some (.array (item :: items))) ↔
      ∃ first rest, found = some (first :: rest) := by
  rcases optional_cases reads with ⟨rfl, rfl | rfl⟩ | ⟨node, values, rfl, same, rfl⟩
  · simp
  · simp
  · obtain ⟨items, listed, mapped⟩ := Option.bind_eq_some_iff.mp same
    have array : node = .array items := by
      cases node with
      | array =>
          rw [Option.some.inj listed]
      | _ =>
          contradiction
    subst array
    cases items with
    | nil =>
        obtain rfl : [] = values := Option.some.inj mapped
        simp
    | cons item rest =>
        simp only [List.mapM_cons, Option.bind_eq_bind, Option.bind_eq_some_iff] at mapped
        obtain ⟨first, -, others, -, listIs⟩ := mapped
        cases listIs
        simp

end Read

namespace LogEntry

/-- What the schema asks of the texts of an entry. -/
structure Labeled (entry : LogEntry) : Prop where
  mode : ∀ text, entry.mode = some text → text ∈ ["strict", "hardened", "off"]
  mutexKind :
    ∀ text,
      entry.mutexKind = some text →
      text ∈ ["normal", "recursive", "errorcheck", "default"]
  traceId : Text.HasThreeParts entry.traceId

/-- A failed case points at something. -/
def Supported (entry : LogEntry) : Prop :=
  entry.outcome = some .fail → ∃ first rest, entry.artifacts = some (first :: rest)

/-- Where an entry has the fields from that the schema looks at. -/
structure ReadFrom (entry : LogEntry) (value : Json) : Prop where
  timestamp : Read.required Read.text (value.member? "timestamp") = some entry.timestamp
  traceId : Read.required Read.text (value.member? "trace_id") = some entry.traceId
  level :
    Read.required (Read.labeled LogLevel.ofLabel?) (value.member? "level") = some entry.level
  event : Read.required Read.text (value.member? "event") = some entry.event
  stream :
    Read.optional (Read.labeled LogStream.ofLabel?) (value.member? "stream") =
      some entry.stream
  mode : Read.optional Read.text (value.member? "mode") = some entry.mode
  mutexKind : Read.optional Read.text (value.member? "mutex_kind") = some entry.mutexKind
  outcome :
    Read.optional (Read.labeled Verdict.ofLabel?) (value.member? "outcome") =
      some entry.outcome
  artifacts :
    Read.optional (Read.list Read.text) (value.member? "artifact_refs") =
      some entry.artifacts

variable
  {entry : LogEntry} {value : Json} {members : List (String × Json)} {line : Nat}
  {field text : String}

theorem readFrom_of_read?
    (reads : read? (.object members) = some entry) :
    entry.ReadFrom (.object members) := by
  -- One field after the other, in the order in which they are read.
  obtain ⟨timestamp, hasTimestamp, reads⟩ := Option.bind_eq_some_iff.mp reads
  obtain ⟨traceId, hasTraceId, reads⟩ := Option.bind_eq_some_iff.mp reads
  obtain ⟨level, hasLevel, reads⟩ := Option.bind_eq_some_iff.mp reads
  obtain ⟨event, hasEvent, reads⟩ := Option.bind_eq_some_iff.mp reads
  obtain ⟨bead, -, reads⟩ := Option.bind_eq_some_iff.mp reads
  obtain ⟨stream, hasStream, reads⟩ := Option.bind_eq_some_iff.mp reads
  obtain ⟨mode, hasMode, reads⟩ := Option.bind_eq_some_iff.mp reads
  obtain ⟨mutexKind, hasMutexKind, reads⟩ := Option.bind_eq_some_iff.mp reads
  obtain ⟨symbol, -, reads⟩ := Option.bind_eq_some_iff.mp reads
  obtain ⟨oldState, -, reads⟩ := Option.bind_eq_some_iff.mp reads
  obtain ⟨newState, -, reads⟩ := Option.bind_eq_some_iff.mp reads
  obtain ⟨outcome, hasOutcome, reads⟩ := Option.bind_eq_some_iff.mp reads
  obtain ⟨errno, -, reads⟩ := Option.bind_eq_some_iff.mp reads
  obtain ⟨latencyNanos, -, reads⟩ := Option.bind_eq_some_iff.mp reads
  obtain ⟨durationMillis, -, reads⟩ := Option.bind_eq_some_iff.mp reads
  obtain ⟨artifacts, hasArtifacts, reads⟩ := Option.bind_eq_some_iff.mp reads
  obtain ⟨details, -, reads⟩ := Option.bind_eq_some_iff.mp reads
  cases reads
  exact
    { timestamp := hasTimestamp
      traceId := hasTraceId
      level := hasLevel
      event := hasEvent
      stream := hasStream
      mode := hasMode
      mutexKind := hasMutexKind
      outcome := hasOutcome
      artifacts := hasArtifacts }

/-- A member is looked at as a text exactly if it reads as one. -/
theorem textMember?_eq (value : Json) (field : String) :
    textMember? value field = (value.member? field).bind Read.text := by
  unfold textMember?
  cases value.member? field with
  | none =>
      rfl
  | some node =>
      cases node <;> rfl

theorem member?_of_textMember?
    (spelled : textMember? value field = some text) :
    value.member? field = some (.string text) := by
  unfold textMember? at spelled
  grind

/-- Labels are checked only where they are texts. -/
theorem unknownLabels_eq_nil_iff :
    unknownLabels value line = [] ↔
      ∀ field labels text,
        (field, labels) ∈ closedFields →
        textMember? value field = some text →
        text ∈ labels := by
  simp only [unknownLabels, List.filterMap_eq_nil_iff, Prod.forall]
  constructor
  · intro known field labels text closed spelled
    have checked := known field labels closed
    simp only [spelled] at checked
    split at checked
    · assumption
    · contradiction
  · intro known field labels closed
    cases spelled : textMember? value field with
    | none =>
        rfl
    | some text =>
        simp [known field labels text closed spelled]

namespace ReadFrom

variable (readFrom : entry.ReadFrom value)

include readFrom

/-- Whatever reads as an entry has every required field. -/
theorem missingFields (line : Nat) : missingFields value line = [] := by
  have present : ∀ field ∈ requiredNames, (value.member? field).isSome = true := by
    simp only [requiredNames, fieldNames, List.take_succ_cons, List.take_zero,
      List.forall_mem_cons]
    exact
      ⟨Read.isSome_of_required readFrom.timestamp, Read.isSome_of_required readFrom.traceId,
        Read.isSome_of_required readFrom.level, Read.isSome_of_required readFrom.event,
        by simp⟩
  rw [LogEntry.missingFields, List.map_eq_nil_iff, List.filter_eq_nil_iff]
  intro field required
  simp [Option.isSome_iff_ne_none.mp (present field required)]

/-- The texts of a mode and a discipline are the ones that are checked. -/
theorem textMember?_mode : textMember? value "mode" = entry.mode := by
  rw [textMember?_eq, Read.optional_text readFrom.mode]

theorem textMember?_mutexKind : textMember? value "mutex_kind" = entry.mutexKind := by
  rw [textMember?_eq, Read.optional_text readFrom.mutexKind]

theorem textMember?_traceId : textMember? value "trace_id" = some entry.traceId := by
  rw [textMember?_eq]
  exact readFrom.traceId

/-- Labels of values that could be read are known. -/
theorem unknownLabels_eq_nil_iff (line : Nat) :
    unknownLabels value line = [] ↔
      (∀ text, entry.mode = some text → text ∈ SafetyLevel.all.map SafetyLevel.label) ∧
        ∀ text, entry.mutexKind = some text → text ∈ Kind.all.map Kind.label := by
  rw [LogEntry.unknownLabels_eq_nil_iff, ← readFrom.textMember?_mode,
    ← readFrom.textMember?_mutexKind]
  have level (text : String) (spelled : textMember? value "level" = some text) :
      text ∈ LogLevel.all.map LogLevel.label := by
    have reads := readFrom.level
    rw [member?_of_textMember? spelled] at reads
    exact (find?_label reads).1
  have outcome (text : String) (spelled : textMember? value "outcome" = some text) :
      text ∈ Verdict.all.map Verdict.label := by
    have reads := readFrom.outcome
    rw [member?_of_textMember? spelled] at reads
    obtain ⟨verdict, finds, -⟩ := Read.optional_string reads
    exact (find?_label finds).1
  have stream (text : String) (spelled : textMember? value "stream" = some text) :
      text ∈ LogStream.all.map LogStream.label := by
    have reads := readFrom.stream
    rw [member?_of_textMember? spelled] at reads
    obtain ⟨stream, finds, -⟩ := Read.optional_string reads
    exact (find?_label finds).1
  constructor
  · intro known
    exact
      ⟨fun text => known "mode" _ text (by simp [closedFields]),
        fun text => known "mutex_kind" _ text (by simp [closedFields])⟩
  · rintro ⟨mode, mutexKind⟩ field labels text closed
    simp only [closedFields, List.mem_cons, Prod.mk.injEq, List.not_mem_nil, or_false] at closed
    rcases closed with ⟨rfl, rfl⟩ | ⟨rfl, rfl⟩ | ⟨rfl, rfl⟩ | ⟨rfl, rfl⟩ | ⟨rfl, rfl⟩
    · exact level text
    · exact mode text
    · exact outcome text
    · exact stream text
    · exact mutexKind text

/-- A failed case is spelled in one of two ways. -/
theorem outcome_eq_fail_iff :
    entry.outcome = some .fail ↔
      textMember? value "outcome" = some "fail" ∨
        value.member? "outcome" = some (.object [("fail", .null)]) := by
  have reads := readFrom.outcome
  constructor
  · intro failed
    rw [failed] at reads
    rcases Read.optional_cases reads with ⟨absent, -⟩ | ⟨node, verdict, here, same, found⟩
    · contradiction
    · cases found
      obtain ⟨label, finds, spelled⟩ := Read.labeled_eq_some_iff.mp same
      have fail : label = "fail" := (find?_label finds).2
      rw [textMember?_eq, here]
      rcases spelled with rfl | rfl
      · exact .inl (congrArg some fail)
      · exact .inr (by rw [fail])
  · rintro (spelled | spelled)
    · rw [member?_of_textMember? spelled] at reads
      exact (Option.some.inj reads).symm
    · rw [spelled] at reads
      exact (Option.some.inj reads).symm

/-- A failed case has to list an artifact, unless it is spelled as an object. -/
theorem missingArtifacts_eq_nil_iff (line : Nat) :
    missingArtifacts value line = [] ↔
      entry.Supported ∨ value.member? "outcome" = some (.object [("fail", .null)]) := by
  have lists :
      listsArtifacts value = true ↔ ∃ first rest, entry.artifacts = some (first :: rest) := by
    rw [← Read.optional_list readFrom.artifacts]
    unfold listsArtifacts
    split <;> simp_all
  have failed := readFrom.outcome_eq_fail_iff
  rw [LogEntry.missingArtifacts, Supported, ← lists]
  split
  · rename_i unsupported
    obtain ⟨spelled, listless⟩ := unsupported
    have other : value.member? "outcome" ≠ some (.object [("fail", .null)]) := by
      rw [member?_of_textMember? spelled]
      simp
    change textMember? value "outcome" = some "fail" at spelled
    simp [failed, spelled, listless, other]
  · rename_i supported
    simp only [true_iff]
    by_cases object : value.member? "outcome" = some (.object [("fail", .null)])
    · exact .inr object
    · left
      intro fails
      have spelled := (failed.mp fails).resolve_right object
      cases listed : listsArtifacts value with
      | true =>
          rfl
      | false =>
          exact (supported ⟨spelled, listed⟩).elim

/-- What reads as an entry obeys the schema exactly if the entry does, objects apart. -/
theorem violations_eq_nil_iff (line : Nat) :
    violations value line = [] ↔
      entry.Labeled ∧
        (entry.Supported ∨ value.member? "outcome" = some (.object [("fail", .null)])) := by
  have trace : badTraceId value line = [] ↔ Text.HasThreeParts entry.traceId := by
    rw [badTraceId, readFrom.textMember?_traceId, ← isTraceId_iff]
    by_cases good : isTraceId entry.traceId = true <;> simp [good]
  simp only [violations, List.append_eq_nil_iff, readFrom.missingFields, true_and,
    readFrom.unknownLabels_eq_nil_iff, trace, readFrom.missingArtifacts_eq_nil_iff]
  constructor
  · rintro ⟨⟨⟨mode, mutexKind⟩, traceId⟩, supported⟩
    exact ⟨⟨mode, mutexKind, traceId⟩, supported⟩
  · rintro ⟨⟨mode, mutexKind, traceId⟩, supported⟩
    exact ⟨⟨⟨mode, mutexKind⟩, traceId⟩, supported⟩

end ReadFrom

/-- A value is accepted if it is an object without violations, and reads as an entry. -/
theorem validateValue_eq_ok_iff :
    validateValue value line = .ok entry ↔
      ∃ members,
        value = .object members ∧ violations value line = [] ∧ read? value = some entry := by
  cases value with
  | object members =>
      unfold validateValue
      cases found : violations (.object members) line with
      | nil =>
          cases read? (.object members) <;> simp
      | cons first rest =>
          simp
  | _ =>
      simp [validateValue]

/-- Every violation is one of the line. -/
theorem line_of_mem_violations
    {violation : Violation}
    (member : violation ∈ violations value line) :
    violation.line = line := by
  simp only [violations, List.mem_append] at member
  rcases member with ((missing | unknown) | trace) | artifacts
  · obtain ⟨field, -, rfl⟩ := List.mem_map.mp missing
    rfl
  · obtain ⟨⟨field, labels⟩, -, made⟩ := List.mem_filterMap.mp unknown
    grind
  · unfold badTraceId at trace
    grind
  · unfold missingArtifacts at artifacts
    grind

/-- A value that is not accepted has violations, all of them of the line. -/
theorem of_validateValue_eq_error
    {found : List Violation}
    (rejects : validateValue value line = .error found) :
    found ≠ [] ∧ ∀ violation ∈ found, violation.line = line := by
  unfold validateValue at rejects
  split at rejects
  · split at rejects
    · split at rejects
      · contradiction
      · cases rejects
        simp
    · rename_i violated
      cases rejects
      exact ⟨violated, fun violation => line_of_mem_violations⟩
  · cases rejects
    simp

/--
A line is accepted exactly if it is one JSON object that reads as an entry with
known labels, a trace id in three parts, and artifacts for a failed case, unless
the failure is spelled as an object.  Otherwise there are violations, all of them
of the line.
-/
theorem validates_exactly (text : String) (line : Nat) :
    (∀ entry,
        validate text line = .ok entry ↔
          ∃ members,
            Json.parse? text = some (.object members) ∧
              read? (.object members) = some entry ∧
              entry.Labeled ∧
              (entry.Supported ∨
                Json.member? "outcome" (.object members) =
                  some (.object [("fail", .null)]))) ∧
      ∀ found,
        validate text line = .error found →
        found ≠ [] ∧ ∀ violation ∈ found, violation.line = line := by
  unfold validate
  cases parsed : Json.parse? text with
  | none =>
      refine ⟨by simp, ?_⟩
      intro found rejects
      cases rejects
      simp
  | some value =>
      refine ⟨?_, fun found => of_validateValue_eq_error⟩
      intro entry
      rw [validateValue_eq_ok_iff]
      constructor
      · rintro ⟨members, rfl, unviolated, reads⟩
        have readFrom := readFrom_of_read? reads
        exact ⟨members, rfl, reads, (readFrom.violations_eq_nil_iff line).mp unviolated⟩
      · rintro ⟨members, same, reads, obeys⟩
        cases same
        have readFrom := readFrom_of_read? reads
        exact ⟨members, rfl, (readFrom.violations_eq_nil_iff line).mpr obeys, reads⟩

/-- A failed case that is spelled as an object and lists nothing. -/
def unsupportedFailure : String :=
  "\x7b\"timestamp\":\"t\",\"trace_id\":\"a::b::c\",\"level\":\"info\",\"event\":\"x\","
    ++ "\"outcome\":\x7b\"fail\":null\x7d\x7d"

/-- It is accepted, though nothing supports it. -/
theorem unsupportedFailure_accepted :
    ∃ entry, validate unsupportedFailure 1 = .ok entry ∧ ¬ entry.Supported := by
  have accepted :
      ((validate unsupportedFailure 1).toOption.any fun entry =>
        entry.outcome = some .fail ∧ entry.artifacts = none) = true := by
    decide +kernel
  cases answer : validate unsupportedFailure 1 with
  | error found =>
      rw [answer] at accepted
      contradiction
  | ok entry =>
      obtain ⟨fails, unlisted⟩ : entry.outcome = some .fail ∧ entry.artifacts = none := by
        simpa [answer, Except.toOption] using accepted
      refine ⟨entry, rfl, ?_⟩
      intro supported
      obtain ⟨first, rest, lists⟩ := supported fails
      simp [unlisted] at lists

end LogEntry

end LatchMutex
