import LatchMutex.Proofs.LogSchema
import LatchMutex.Proofs.PlainValues

namespace LatchMutex

/-!
# Lines of entries

The line of an entry holds the fields that are there, in the order of their
declaration, and no control character.  If the labels are known, the trace id
has its parts, a failure is supported and the details are plain, the validator
accepts the line and hands out the entry itself.
-/

namespace Read

variable {Value : Type}

/-- An optional field that is there is no null, and is read as its value is. -/
theorem optional_some
    {read : Json → Option Value}
    {node : Json}
    (visible : node ≠ .null) :
    optional read (some node) = (read node).map some := by
  have shown : Readable.isNull node = false := by
    cases node with
    | null =>
        exact (visible rfl).elim
    | _ =>
        rfl
  simp [optional, shown]

/-- An optional field is read back if its values are, and nulls are not. -/
theorem optional_map
    (read : Json → Option Value)
    (encode : Value → Json)
    (blind : read .null = none)
    (reads : ∀ value, read (encode value) = some value)
    (field : Option Value) :
    optional read (field.map encode) = some field := by
  cases field with
  | none =>
      rfl
  | some value =>
      have visible : encode value ≠ .null := by
        intro null
        have unread := reads value
        rw [null, blind] at unread
        contradiction
      rw [Option.map_some, optional_some visible, reads, Option.map_some]

/-- A list of texts is read back. -/
theorem list_text_map (texts : List String) :
    list text (Json.array (texts.map .string)) = some texts := by
  change (texts.map Json.string).mapM text = some texts
  induction texts with
  | nil =>
      rfl
  | cons first rest inductionHypothesis =>
      rw [List.map_cons, List.mapM_cons, inductionHypothesis]
      rfl

/-- What is read comes first, and then what is done with it. -/
theorem chain
    {Next : Type}
    {first : Option Value}
    {value : Value}
    {rest : Value → Option Next}
    {last : Option Next}
    (here : first = some value)
    (later : rest value = last) :
    (first >>= rest) = last := by
  rw [here]
  exact later

section Integers

variable {Node : Type} [Readable Node] {node : Node}

theorem int32_of_integer?
    {value : Int32}
    (integer : Readable.integer? node = some value.toInt) :
    int32 node = some value := by
  have inRange :
      Int32.minValue.toInt ≤ value.toInt ∧ value.toInt < Int32.maxValue.toInt + 1 :=
    ⟨value.minValue_le_toInt, Int.lt_add_one_iff.mpr value.toInt_le⟩
  rw [int32, integerIn, integer, Option.bind_eq_bind, Option.bind_some, if_pos inRange]
  exact congrArg some (Int32.ofInt_toInt value)

theorem uint64_of_integer?
    {value : UInt64}
    (integer : Readable.integer? node = some (value.toNat : Int)) :
    uint64 node = some value := by
  have upper := value.toNat_lt_size
  have inRange : 0 ≤ (value.toNat : Int) ∧ (value.toNat : Int) < UInt64.size := by
    omega
  rw [uint64, integerIn, integer, Option.bind_eq_bind, Option.bind_some, if_pos inRange]
  exact congrArg some UInt64.ofNat_toNat

end Integers

/-- A signed 32-bit integer fits 64 bits. -/
theorem wide_int32 (value : Int32) :
    Int64.minValue.toInt ≤ value.toInt ∧ value.toInt < UInt64.size := by
  have lower := value.minValue_le_toInt
  have upper := value.toInt_le
  change -9223372036854775808 ≤ value.toInt ∧ value.toInt < 18446744073709551616
  change -2147483648 ≤ value.toInt at lower
  change value.toInt ≤ 2147483647 at upper
  omega

/-- A natural number below the size of a word fits 64 bits. -/
theorem wide_natural {value : Nat} (fits : value < UInt64.size) :
    Int64.minValue.toInt ≤ (value : Int) ∧ (value : Int) < UInt64.size :=
  ⟨Int.le_trans (by decide) (Int.natCast_nonneg value), Int.ofNat_lt.mpr fits⟩

theorem int32_ofInt (value : Int32) : int32 (Json.ofInt value.toInt) = some value := by
  refine int32_of_integer? ?_
  rw [Json.ofInt, Number.ofInt?, dif_pos (wide_int32 value)]
  rfl

theorem uint64_ofInt (value : UInt64) : uint64 (Json.ofInt value.toNat) = some value := by
  refine uint64_of_integer? ?_
  rw [Json.ofInt, Number.ofInt?, dif_pos (wide_natural value.toNat_lt_size)]
  rfl

end Read

namespace Json

/-- An integer prints as a number or null, which is plain. -/
theorem plain_ofInt (depth : Nat) (value : Int) : (ofInt value).Plain depth := by
  unfold ofInt Number.ofInt?
  split
  · rename_i fitting found
    split at found
    · cases found
      exact .integer _
    · contradiction
  · exact .null

theorem toDocument_ofInt (value : Int) : (ofInt value).toDocument = Document.ofInt value := by
  unfold ofInt Document.ofInt
  cases Number.ofInt? value <;> rfl

theorem itemDocuments_eq (items : List Json) : itemDocuments items = items.map toDocument := by
  induction items with
  | nil =>
      rfl
  | cons item rest inductionHypothesis =>
      rw [itemDocuments, inductionHypothesis, List.map_cons]

/-- A field of a record prints as an optional member. -/
theorem memberDocuments_present_cons
    (key : String)
    (field : Option Json)
    (rest : List (String × Option Json)) :
    memberDocuments (present ((key, field) :: rest)) =
      Document.optional key (field.map toDocument) ++ memberDocuments (present rest) := by
  cases field <;> simp [present, memberDocuments, Document.optional]

theorem plain_strings (depth : Nat) (texts : List String) :
    (Json.array (texts.map .string)).Plain (depth + 1) := by
  refine .array fun item member => ?_
  obtain ⟨text, -, rfl⟩ := List.mem_map.mp member
  exact .string text

end Json

namespace Text

/-- No control character occurs. -/
def Printed (characters : List Char) : Prop :=
  ∀ character ∈ characters, 0x20 ≤ character.toNat

@[simp] theorem printed_nil : Printed [] :=
  fun _ => nofun

@[simp] theorem printed_cons {character : Char} {rest : List Char} :
    Printed (character :: rest) ↔ 0x20 ≤ character.toNat ∧ Printed rest :=
  List.forall_mem_cons

@[simp] theorem printed_append {first second : List Char} :
    Printed (first ++ second) ↔ Printed first ∧ Printed second :=
  List.forall_mem_append

theorem printed_replicate (count : Nat) : Printed (List.replicate count '0') :=
  fun _ member => List.eq_of_mem_replicate member ▸ by decide

/-- Whatever is cut from printed characters is printed. -/
theorem Printed.subset {first second : List Char} (printed : Printed second)
    (subset : first ⊆ second) : Printed first :=
  fun character member => printed character (subset member)

theorem printed_digits (number : Nat) : Printed (Digits.text number) := by
  intro character member
  obtain ⟨digit, here, rfl⟩ := List.mem_map.mp member
  have all : ∀ digit < 10, 0x20 ≤ (Digits.char digit).toNat := by decide
  exact all digit (Digits.lt_ten_of_mem_ofNat number digit here)

end Text

namespace DecimalLayout

theorem printed_positional
    {digits : List Char}
    (printed : Text.Printed digits)
    (position : Int) :
    Text.Printed (positional digits position) := by
  unfold positional
  have leading := printed.subset (List.take_subset position.toNat digits)
  have trailing := printed.subset (List.drop_subset position.toNat digits)
  split
  · simp [printed, Text.printed_replicate]
  · split
    · simp [printed, Text.printed_replicate]
    · simp [leading, trailing]

theorem printed_scientific
    {digits : List Char}
    (printed : Text.Printed digits)
    (exponent : Int) :
    Text.Printed (scientific digits exponent) := by
  unfold scientific
  have leading := printed.subset (List.take_subset 1 digits)
  have trailing := printed.subset digits.tail_sublist.subset
  have magnitude := Text.printed_digits exponent.natAbs
  split <;> split <;> simp [leading, trailing, magnitude]

theorem printed_text (layout : DecimalLayout) (number : Binary64) :
    Text.Printed (layout.text number) := by
  have digits := Text.printed_digits number.shortest.digits
  have sign : Text.Printed (if number.negative then ['-'] else []) := by
    split <;> simp
  simp only [text]
  generalize (if number.negative then ['-'] else []) = signText at sign ⊢
  split
  · exact Text.printed_append.mpr ⟨sign, by simp⟩
  · split
    · exact Text.printed_append.mpr ⟨sign, printed_positional digits _⟩
    · exact Text.printed_append.mpr ⟨sign, printed_scientific digits _⟩

end DecimalLayout

theorem Number.printed_text (number : Number) : Text.Printed number.text := by
  cases number with
  | integer value =>
      have magnitude := Text.printed_digits value.value.natAbs
      change Text.Printed (Digits.signedText value.value)
      unfold Digits.signedText
      split <;> simp [magnitude]
  | float value =>
      exact layout.printed_text value

namespace Document

theorem printed_escape (character : Char) : Text.Printed (escape character) := by
  unfold escape
  split
  case h_8 =>
    split
    · rename_i control
      have digits : ∀ digit < 16, 0x20 ≤ (Text.hexDigit digit).toNat := by decide
      have high := digits (character.toNat / 16) (by omega)
      have low := digits (character.toNat % 16) (by omega)
      simp [high, low]
    · rename_i printed
      simpa using printed
  all_goals simp

theorem printed_quote (text : String) : Text.Printed (quote text) := by
  have inside : Text.Printed (text.toList.flatMap escape) := by
    intro character member
    obtain ⟨source, -, here⟩ := List.mem_flatMap.mp member
    exact printed_escape source character here
  simp [quote, inside]

mutual

/-- What is printed without blanks has no control character. -/
theorem printed_compactText (document : Document) : Text.Printed document.compactText := by
  cases document with
  | null =>
      simp [compactText]
  | bool value =>
      cases value <;> simp [compactText, boolText]
  | number value =>
      exact value.printed_text
  | string text =>
      exact printed_quote text
  | array items =>
      cases items with
      | nil =>
          simp [compactText, compactItems]
      | cons item rest =>
          have first := printed_compactText item
          have later := printed_compactItemsAfter rest
          simp [compactText, compactItems, first, later]
  | object members =>
      cases members with
      | nil =>
          simp [compactText, compactMembers]
      | cons member rest =>
          obtain ⟨key, value⟩ := member
          have first := printed_compactText value
          have later := printed_compactMembersAfter rest
          simp [compactText, compactMembers, printed_quote, first, later]

theorem printed_compactItemsAfter (items : List Document) :
    Text.Printed (compactItemsAfter items) := by
  cases items with
  | nil =>
      simp [compactItemsAfter]
  | cons item rest =>
      have first := printed_compactText item
      have later := printed_compactItemsAfter rest
      simp [compactItemsAfter, first, later]

theorem printed_compactMembersAfter (members : List (String × Document)) :
    Text.Printed (compactMembersAfter members) := by
  cases members with
  | nil =>
      simp [compactMembersAfter]
  | cons member rest =>
      obtain ⟨key, value⟩ := member
      have first := printed_compactText value
      have later := printed_compactMembersAfter rest
      simp [compactMembersAfter, printed_quote, first, later]

end

/-- The members of an object are closed by a brace. -/
theorem exists_compactMembers_eq (members : List (String × Document)) :
    ∃ inside, compactMembers members = inside ++ ['\x7d'] := by
  have after (members : List (String × Document)) :
      ∃ inside, compactMembersAfter members = inside ++ ['\x7d'] := by
    induction members with
    | nil =>
        exact ⟨[], rfl⟩
    | cons member rest inductionHypothesis =>
        obtain ⟨key, value⟩ := member
        obtain ⟨inside, closed⟩ := inductionHypothesis
        exact ⟨_ ++ inside, by rw [compactMembersAfter, closed, ← List.append_assoc]⟩
  cases members with
  | nil =>
      exact ⟨[], rfl⟩
  | cons member rest =>
      obtain ⟨key, value⟩ := member
      obtain ⟨inside, closed⟩ := after rest
      exact ⟨_ ++ inside, by rw [compactMembers, closed, ← List.append_assoc]⟩

end Document

namespace LogEntry

/-- The fields of an entry by their names, in the order of writing. -/
def fields (entry : LogEntry) : List (String × Option Json) :=
  [("timestamp", some (.string entry.timestamp)),
    ("trace_id", some (.string entry.traceId)),
    ("level", some (.string entry.level.label)),
    ("event", some (.string entry.event)),
    ("bead_id", entry.bead.map .string),
    ("stream", entry.stream.map fun stream => .string stream.label),
    ("mode", entry.mode.map .string),
    ("mutex_kind", entry.mutexKind.map .string),
    ("symbol", entry.symbol.map .string),
    ("old_state", entry.oldState.map .string),
    ("new_state", entry.newState.map .string),
    ("outcome", entry.outcome.map fun verdict => .string verdict.label),
    ("errno", entry.errno.map fun errno => .ofInt errno.toInt),
    ("latency_ns", entry.latencyNanos.map fun count => .ofInt count.toNat),
    ("duration_ms", entry.durationMillis.map fun count => .ofInt count.toNat),
    ("artifact_refs", entry.artifacts.map fun texts => .array (texts.map .string)),
    ("details", entry.details)]

/-- An entry prints as the object with the fields that are there. -/
theorem document_eq (entry : LogEntry) :
    entry.document = (Json.object (Json.present entry.fields)).toDocument := by
  have texts (texts : List String) :
      Json.itemDocuments (texts.map .string) = texts.map Document.string := by
    simp [Json.itemDocuments_eq, Json.toDocument, Function.comp_def]
  simp only [Json.toDocument, fields, Json.memberDocuments_present_cons, Option.map_map,
    Option.map_some, Function.comp_def, Json.toDocument_ofInt, texts]
  have strings : Document.strings = fun texts => .array (texts.map .string) := rfl
  simp [document, Document.optional, strings, Json.present, Json.memberDocuments]

/--
What the fields of an entry have to be so that its line is accepted, apart from
the trace id: known labels, an artifact for a failure, and plain details.
-/
structure Printable (entry : LogEntry) : Prop where
  mode : ∀ text, entry.mode = some text → text ∈ ["strict", "hardened", "off"]
  mutexKind :
    ∀ text,
      entry.mutexKind = some text →
      text ∈ ["normal", "recursive", "errorcheck", "default"]
  supported : entry.Supported
  details : ∀ value, entry.details = some value → value ≠ .null ∧ value.Plain 126

/-- Every field of the entry is read back from its own member. -/
theorem read?_present
    {entry : LogEntry}
    (details : entry.details ≠ some .null) :
    read? (Json.ofMembers (Json.present entry.fields)) = some entry := by
  have distinct : (entry.fields.map Prod.fst).Nodup := by
    change fieldNames.Nodup
    decide
  have found := Json.fields?_present distinct
  have names : entry.fields.map Prod.fst = fieldNames := rfl
  rw [names] at found
  have level :
      Read.required (Read.labeled LogLevel.ofLabel?) (some (Json.string entry.level.label)) =
        some entry.level := by
    cases entry.level <;> rfl
  have stream :=
    Read.optional_map (Read.labeled LogStream.ofLabel?) (fun stream => .string stream.label)
      rfl (fun stream => by cases stream <;> rfl) entry.stream
  have outcome :=
    Read.optional_map (Read.labeled Verdict.ofLabel?) (fun verdict => .string verdict.label)
      rfl (fun verdict => by cases verdict <;> rfl) entry.outcome
  have text := Read.optional_map Read.text .string rfl fun _ => rfl
  have errno := Read.optional_map Read.int32 _ rfl Read.int32_ofInt entry.errno
  have count := Read.optional_map Read.uint64 _ rfl Read.uint64_ofInt
  have artifacts :=
    Read.optional_map (Read.list Read.text) _ rfl Read.list_text_map entry.artifacts
  have kept : Read.optional some entry.details = some entry.details := by
    cases there : entry.details with
    | none =>
        rfl
    | some value =>
        exact Read.optional_some fun null => details (by rw [there, null])
  have given (text : String) : Read.required Read.text (some (Json.string text)) = some text :=
    rfl
  rw [read?, found]
  -- One field after the other, in the order of their names.
  exact
    Read.chain rfl <| Read.chain (given _) <| Read.chain (given _) <| Read.chain level <|
      Read.chain (given _) <| Read.chain (text _) <| Read.chain stream <| Read.chain (text _) <|
      Read.chain (text _) <| Read.chain (text _) <| Read.chain (text _) <| Read.chain (text _) <|
      Read.chain outcome <| Read.chain errno <| Read.chain (count _) <| Read.chain (count _) <|
      Read.chain artifacts <| Read.chain kept rfl

/-- The fields of an entry with plain details are plain. -/
theorem plain_fields
    {entry : LogEntry}
    (details : ∀ value, entry.details = some value → value.Plain 126) :
    ∀ field ∈ entry.fields, ∀ value, field.2 = some value → value.Plain 126 := by
  have mapped {Value : Type} {field : Option Value} {encode : Value → Json}
      (plain : ∀ value, (encode value).Plain 126)
      (value : Json)
      (there : field.map encode = some value) :
      value.Plain 126 := by
    obtain ⟨inner, -, rfl⟩ := Option.map_eq_some_iff.mp there
    exact plain inner
  simp only [fields, List.forall_mem_cons]
  refine ⟨?_, ?_, ?_, ?_, mapped .string, mapped fun _ => .string _, mapped .string,
    mapped .string, mapped .string, mapped .string, mapped .string, mapped fun _ => .string _,
    mapped fun _ => Json.plain_ofInt 126 _, mapped fun _ => Json.plain_ofInt 126 _,
    mapped fun _ => Json.plain_ofInt 126 _, mapped (Json.plain_strings 125), details,
    by simp⟩
  all_goals
    rintro value ⟨⟩
    exact .string _

/-- The line of a printable entry with a trace id is accepted, and is the line of that entry. -/
theorem Printable.validate_line
    {entry : LogEntry}
    (printable : entry.Printable)
    (traceId : Text.HasThreeParts entry.traceId)
    (number : Nat) :
    validate entry.line number = .ok entry := by
  have plain : ∀ member ∈ Json.present entry.fields, member.2.Plain 126 := by
    intro member here
    obtain ⟨field, declared, there⟩ := List.mem_filterMap.mp here
    obtain ⟨value, same, rfl⟩ := Option.map_eq_some_iff.mp there
    exact plain_fields (fun value there => (printable.details value there).2) field declared
      value same
  have parsed : Json.parse? entry.line = some (Json.ofMembers (Json.present entry.fields)) := by
    rw [line, document_eq]
    exact Json.parse?_compact_object plain
  have reads := read?_present fun null => (printable.details .null null).1 rfl
  have labeled : entry.Labeled := ⟨printable.mode, printable.mutexKind, traceId⟩
  rw [validate, parsed]
  refine validateValue_eq_ok_iff.mpr ⟨_, rfl, ?_, reads⟩
  have readFrom := readFrom_of_read? reads
  exact (readFrom.violations_eq_nil_iff number).mpr ⟨labeled, .inl printable.supported⟩

/-- A line has braces at both ends and no control character between them. -/
theorem exists_line_eq (entry : LogEntry) :
    ∃ inside,
      entry.line.toList = '\x7b' :: (inside ++ ['\x7d']) ∧
        Text.Printed entry.line.toList := by
  obtain ⟨inside, closed⟩ :=
    Document.exists_compactMembers_eq (Json.memberDocuments (Json.present entry.fields))
  refine ⟨inside, ?_, ?_⟩
  · simp [line, document_eq, Json.toDocument, Document.compact, Document.compactText, closed]
  · rw [line, Document.compact, String.toList_ofList]
    exact Document.printed_compactText entry.document

end LogEntry

end LatchMutex
