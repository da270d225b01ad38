import LatchMutex.Proofs.MatrixLogs
import LatchMutex.Proofs.PrettyTexts

namespace LatchMutex

/-!
# Reports and indexes read back from their files

A reader undoes a printer if it gives the value back from the tree that is printed
for it.  This goes from the types of fields to lists of them and from fields to
records, since a record finds each field under its name and takes an absent one as
nothing.  So a report and an index are read back from their texts, whatever they
hold, and from the files that these texts are written to.
-/

/-- What is printed for a value has no floats, and the value is read back from its tree. -/
structure Undoes {Value : Type} (read : Raw → Option Value) (print : Value → Document) : Prop where
  integral : ∀ value, (print value).Integral
  reads : ∀ value, read (print value).tree = some value

namespace Document

/-- An integer that fits 64 bits is printed as one. -/
theorem integer?_ofInt
    {value : Int}
    (wide : Int64.minValue.toInt ≤ value ∧ value < UInt64.size) :
    Readable.integer? (ofInt value).tree = some value := by
  rw [ofInt, Number.ofInt?, dif_pos wide]
  exact WideInteger.integer?_literal ⟨value, wide⟩

theorem integral_ofInt (value : Int) : (ofInt value).Integral := by
  rw [ofInt, Number.ofInt?]
  split
  · rename_i fitting found
    split at found
    · cases found
      exact .integer _
    · contradiction
  · exact .null

end Document

namespace Undoes

variable {Value : Type} {read : Raw → Option Value} {print : Value → Document}

theorem text : Undoes Read.text .string where
  integral := .string
  reads _ := rfl

theorem bool : Undoes Read.bool .bool where
  integral := .bool
  reads _ := rfl

theorem labeled
    {ofLabel? : String → Option Value}
    {label : Value → String}
    (known : ∀ value, ofLabel? (label value) = some value) :
    Undoes (Read.labeled ofLabel?) fun value => .string (label value) where
  integral value := .string (label value)
  reads := known

theorem int32 : Undoes Read.int32 fun value => .ofInt value.toInt where
  integral value := Document.integral_ofInt value.toInt
  reads value := Read.int32_of_integer? (Document.integer?_ofInt (Read.wide_int32 value))

theorem uint64 : Undoes Read.uint64 fun value => .ofInt value.toNat where
  integral value := Document.integral_ofInt value.toNat
  reads value :=
    Read.uint64_of_integer? (Document.integer?_ofInt (Read.wide_natural value.toNat_lt_size))

theorem uint32 : Undoes Read.uint32 fun value => .ofInt value.toNat where
  integral value := Document.integral_ofInt value.toNat
  reads value := by
    have upper := value.toNat_lt_size
    have inRange : 0 ≤ (value.toNat : Int) ∧ (value.toNat : Int) < UInt32.size := by
      omega
    have wide := Read.wide_natural (Nat.lt_trans upper (by decide))
    rw [Read.uint32, Read.integerIn, Document.integer?_ofInt wide, Option.bind_eq_bind,
      Option.bind_some, if_pos inRange]
    exact congrArg some UInt32.ofNat_toNat

theorem list (undoes : Undoes read print) :
    Undoes (Read.list read) fun values => .array (values.map print) where
  integral values := by
    refine .array fun item member => ?_
    obtain ⟨value, -, rfl⟩ := List.mem_map.mp member
    exact undoes.integral value
  reads values := by
    have items :
        Document.itemTrees (values.map print) = values.map fun value => (print value).tree := by
      simp [Document.itemTrees_eq]
    change (Document.itemTrees (values.map print)).mapM read = some values
    rw [items, List.mapM_map]
    exact (mapM_some_of_forall fun value _ => undoes.reads value).trans
      (congrArg some (List.map_id values))

/-- A field has no floats, whether it is there or not. -/
theorem field
    (undoes : Undoes read print)
    (field : Option Value)
    (document : Document)
    (there : field.map print = some document) :
    document.Integral := by
  obtain ⟨value, -, rfl⟩ := Option.map_eq_some_iff.mp there
  exact undoes.integral value

theorem required (undoes : Undoes read print) (value : Value) :
    Read.required read (((some value).map print).map Document.tree) = some value :=
  undoes.reads value

/-- An optional field is read back, and as absent if it is, unless nulls are values. -/
theorem optional
    (undoes : Undoes read print)
    (blind : read .null = none)
    (field : Option Value) :
    Read.optional read ((field.map print).map Document.tree) = some field := by
  cases field with
  | none =>
      rfl
  | some value =>
      have shown : Readable.isNull (print value).tree = false := by
        have reads := undoes.reads value
        cases printed : (print value).tree with
        | null =>
            rw [printed, blind] at reads
            contradiction
        | _ =>
            rfl
      simp [Read.optional, shown, undoes.reads]

/-- A record is read back if its value is put together again from its fields. -/
theorem record
    {names : List String}
    (fields : Value → List (String × Option Document))
    {build : List (Option Raw) → Option Value}
    (distinct : names.Nodup)
    (named : ∀ value, (fields value).map Prod.fst = names)
    (integral :
      ∀ value, ∀ field ∈ fields value, ∀ document, field.2 = some document → document.Integral)
    (builds :
      ∀ value, build ((fields value).map fun field => field.2.map Document.tree) = some value) :
    Undoes (fun node => Readable.fields? names node >>= build)
      fun value => .object (Document.present (fields value)) where
  integral value := Document.integral_present (integral value)
  reads value := by
    have found := Document.fields?_present (named value ▸ distinct)
    rw [named] at found
    exact Read.chain found (builds value)

end Undoes

/-- The tree of an object whose members are named like this, in this order. -/
def Raw.Names (tree : Raw) (names : List String) : Prop :=
  ∃ members, tree = .object members ∧ members.map Prod.fst = names.map some

/-- Only the fields that are there are named in the tree of a record. -/
theorem Document.names_present (fields : List (String × Option Document)) :
    (object (present fields)).tree.Names
      ((fields.filter fun field => field.2.isSome).map Prod.fst) := by
  refine ⟨_, by rw [tree], ?_⟩
  rw [memberTrees_eq, List.map_map]
  induction fields with
  | nil =>
      rfl
  | cons first rest inductionHypothesis =>
      obtain ⟨name, field⟩ := first
      cases field <;> simp_all [optional]

theorem CaseStatus.undoes :
    Undoes (Read.labeled ofLabel?) fun status => .string status.label :=
  .labeled fun status => by cases status <;> rfl

namespace MatrixCase

/-- The fields of a row by their names, in the order of writing. -/
def fields (row : MatrixCase) : List (String × Option Document) :=
  [("case_id", some (.string row.name)),
    ("mutex_kind", some (.string row.mutexKind)),
    ("old_state", some (.string row.oldState)),
    ("operation", some (.string row.operation)),
    ("expected_next", some (.string row.expectedNext)),
    ("expected_errno", some (.ofInt row.expectedErrno.toInt)),
    ("expected_blocks", some (.bool row.expectedBlocks)),
    ("observed_next", row.observedNext.map .string),
    ("observed_errno", row.observedErrno.map fun errno => .ofInt errno.toInt),
    ("observed_blocks", row.observedBlocks.map .bool),
    ("timing_ns", row.timing.map fun nanos => .ofInt nanos.toNat),
    ("status", some (.string row.status.label))]

/-- The optional fields of a row, and whether they are there. -/
def optionalFields (row : MatrixCase) : List (String × Bool) :=
  [("observed_next", row.observedNext.isSome), ("observed_errno", row.observedErrno.isSome),
    ("observed_blocks", row.observedBlocks.isSome), ("timing_ns", row.timing.isSome)]

theorem document_eq (row : MatrixCase) : row.document = .object (Document.present row.fields) := by
  simp [document, fields, Document.optional]

/-- Every row is read back from its tree. -/
theorem undoes : Undoes read? document := by
  have printed : document = fun row => .object (Document.present row.fields) :=
    funext document_eq
  rw [printed]
  refine .record fields (by decide : fieldNames.Nodup) (fun _ => rfl) (fun row => ?_) fun row => ?_
  · simp only [fields, List.forall_mem_cons]
    exact ⟨Undoes.text.field (some _), Undoes.text.field (some _), Undoes.text.field (some _),
      Undoes.text.field (some _), Undoes.text.field (some _), Undoes.int32.field (some _),
      Undoes.bool.field (some _), Undoes.text.field _, Undoes.int32.field _, Undoes.bool.field _,
      Undoes.uint64.field _, Undoes.text.field (some _), by simp⟩
  · have text := Undoes.text.required
    exact
      Read.chain (text _) <| Read.chain (text _) <| Read.chain (text _) <|
        Read.chain (text _) <| Read.chain (text _) <| Read.chain (Undoes.int32.required _) <|
        Read.chain (Undoes.bool.required _) <| Read.chain (Undoes.text.optional rfl _) <|
        Read.chain (Undoes.int32.optional rfl _) <| Read.chain (Undoes.bool.optional rfl _) <|
        Read.chain (Undoes.uint64.optional rfl _) <|
        Read.chain (CaseStatus.undoes.required _) rfl

/-- The fields of a row that are absent are not named in its tree. -/
theorem names_tree (row : MatrixCase) :
    row.document.tree.Names
      (fieldNames.filter fun name => (name, false) ∉ row.optionalFields) := by
  have named := Document.names_present row.fields
  rw [← document_eq] at named
  suffices same :
      (row.fields.filter fun field => field.2.isSome).map Prod.fst =
        fieldNames.filter fun name => (name, false) ∉ row.optionalFields by
    rwa [← same]
  unfold fields fieldNames optionalFields
  cases row.observedNext <;> cases row.observedErrno <;> cases row.observedBlocks <;>
    cases row.timing <;> simp

end MatrixCase

namespace KindTotals

/-- The fields of totals by their names, in the order of writing. -/
def fields (totals : KindTotals) : List (String × Option Document) :=
  [("mutex_kind", some (.string totals.mutexKind)),
    ("total", some (.ofInt totals.total.toNat)),
    ("passed", some (.ofInt totals.passed.toNat)),
    ("mismatched", some (.ofInt totals.mismatched.toNat)),
    ("model_only", some (.ofInt totals.modelOnly.toNat))]

/-- Totals of a discipline are read back from their tree. -/
theorem undoes : Undoes read? document := by
  have count := Undoes.uint64
  refine .record fields (by simp) (fun _ => rfl) (fun totals => ?_) fun totals => ?_
  · simp only [fields, List.forall_mem_cons]
    exact ⟨Undoes.text.field (some _), count.field (some _), count.field (some _),
      count.field (some _), count.field (some _), by simp⟩
  · exact
      Read.chain (Undoes.text.required _) <| Read.chain (count.required _) <|
        Read.chain (count.required _) <| Read.chain (count.required _) <|
        Read.chain (count.required _) rfl

end KindTotals

namespace MatrixSummary

/-- The fields of totals by their names, in the order of writing. -/
def fields (summary : MatrixSummary) : List (String × Option Document) :=
  [("total_cases", some (.ofInt summary.total.toNat)),
    ("passed", some (.ofInt summary.passed.toNat)),
    ("mismatched", some (.ofInt summary.mismatched.toNat)),
    ("model_only", some (.ofInt summary.modelOnly.toNat))]

/-- Totals of all cells are read back from their tree. -/
theorem undoes : Undoes read? document := by
  have count := Undoes.uint64
  refine .record fields (by simp) (fun _ => rfl) (fun summary => ?_) fun summary => ?_
  · simp only [fields, List.forall_mem_cons]
    exact ⟨count.field (some _), count.field (some _), count.field (some _),
      count.field (some _), by simp⟩
  · exact
      Read.chain (count.required _) <| Read.chain (count.required _) <|
        Read.chain (count.required _) <| Read.chain (count.required _) rfl

end MatrixSummary

namespace MatrixReport

/-- The fields of a report by their names, in the order of writing. -/
def fields (report : MatrixReport) : List (String × Option Document) :=
  [("schema_version", some (.string report.schema)),
    ("bead", some (.string report.bead)),
    ("mode", some (.string report.mode)),
    ("summary", some report.summary.document),
    ("kind_matrix", some (.array (report.kinds.map KindTotals.document))),
    ("cases", some (.array (report.cases.map MatrixCase.document)))]

/-- A report is read back from its tree. -/
theorem undoes : Undoes read? document := by
  have text := Undoes.text
  refine .record fields (by simp) (fun _ => rfl) (fun report => ?_) fun report => ?_
  · simp only [fields, List.forall_mem_cons]
    exact ⟨text.field (some _), text.field (some _), text.field (some _),
      MatrixSummary.undoes.field (some _), KindTotals.undoes.list.field (some _),
      MatrixCase.undoes.list.field (some _), by simp⟩
  · exact
      Read.chain (text.required _) <| Read.chain (text.required _) <|
        Read.chain (text.required _) <| Read.chain (MatrixSummary.undoes.required _) <|
        Read.chain (KindTotals.undoes.list.required _) <|
        Read.chain (MatrixCase.undoes.list.required _) rfl

/-- A text that a report is read back from, in which no row names an absent field. -/
structure KeptBy (report : MatrixReport) (text : String) : Prop where
  reads : parse? text = some report
  rows :
    ∃ tree rows,
      Raw.parse? text = some tree ∧
        Readable.fields? ["cases"] tree = some [some (Raw.array rows)] ∧
        List.Forall₂
          (fun (row : MatrixCase) (printed : Raw) =>
            printed.Names
              (MatrixCase.fieldNames.filter fun name => (name, false) ∉ row.optionalFields))
          report.cases rows

/-- A report is kept by its text. -/
theorem keptBy_text (report : MatrixReport) : report.KeptBy report.text := by
  have parsed : Raw.parse? report.text = some report.document.tree :=
    (undoes.integral report).parse?_pretty
  constructor
  case reads =>
    rw [parse?]
    exact Read.chain parsed (undoes.reads report)
  case rows =>
    refine ⟨_, Document.itemTrees (report.cases.map MatrixCase.document), parsed, rfl, ?_⟩
    rw [Document.itemTrees_eq, List.map_map, List.forall₂_map_right_iff, List.forall₂_same]
    exact fun row _ => row.names_tree

end MatrixReport

namespace Artifact

/-- The fields of an entry by their names, in the order of writing. -/
def fields (artifact : Artifact) : List (String × Option Document) :=
  [("path", some (.string artifact.path)),
    ("kind", some (.string artifact.kind)),
    ("sha256", some (.string artifact.sha256)),
    ("size_bytes", artifact.size.map fun size => .ofInt size.toNat)]

theorem document_eq (artifact : Artifact) :
    artifact.document = .object (Document.present artifact.fields) := by
  simp [document, fields, Document.optional]

/-- An entry is read back from its tree. -/
theorem undoes : Undoes read? document := by
  have printed : document = fun artifact => .object (Document.present artifact.fields) :=
    funext document_eq
  have text := Undoes.text
  rw [printed]
  refine .record fields (by simp) (fun _ => rfl) (fun artifact => ?_) fun artifact => ?_
  · simp only [fields, List.forall_mem_cons]
    exact ⟨text.field (some _), text.field (some _), text.field (some _),
      Undoes.uint64.field _, by simp⟩
  · exact
      Read.chain (text.required _) <| Read.chain (text.required _) <|
        Read.chain (text.required _) <| Read.chain (Undoes.uint64.optional rfl _) rfl

/-- A size that is absent is not named in the tree of an entry. -/
theorem names_tree (artifact : Artifact) :
    artifact.document.tree.Names
      (["path", "kind", "sha256"] ++ if artifact.size.isSome then ["size_bytes"] else []) := by
  have named := Document.names_present artifact.fields
  rw [← document_eq] at named
  suffices same :
      (artifact.fields.filter fun field => field.2.isSome).map Prod.fst =
        ["path", "kind", "sha256"] ++ if artifact.size.isSome then ["size_bytes"] else [] by
    rwa [← same]
  unfold fields
  cases artifact.size <;> simp

end Artifact

namespace ArtifactIndex

/-- The fields of an index by their names, in the order of writing. -/
def fields (index : ArtifactIndex) : List (String × Option Document) :=
  [("index_version", some (.ofInt index.version.toNat)),
    ("run_id", some (.string index.run)),
    ("bead_id", some (.string index.bead)),
    ("generated_utc", some (.string index.generated)),
    ("artifacts", some (.array (index.artifacts.map Artifact.document)))]

/-- An index is read back from its tree. -/
theorem undoes : Undoes read? document := by
  have text := Undoes.text
  refine .record fields (by simp) (fun _ => rfl) (fun index => ?_) fun index => ?_
  · simp only [fields, List.forall_mem_cons]
    exact ⟨Undoes.uint32.field (some _), text.field (some _), text.field (some _),
      text.field (some _), Artifact.undoes.list.field (some _), by simp⟩
  · exact
      Read.chain (Undoes.uint32.required _) <| Read.chain (text.required _) <|
        Read.chain (text.required _) <| Read.chain (text.required _) <|
        Read.chain (Artifact.undoes.list.required _) rfl

/-- A text that an index is read back from, in which no entry names an absent size. -/
structure KeptBy (index : ArtifactIndex) (text : String) : Prop where
  reads : parse? text = some index
  artifacts :
    ∃ tree artifacts,
      Raw.parse? text = some tree ∧
        Readable.fields? ["artifacts"] tree = some [some (Raw.array artifacts)] ∧
        List.Forall₂
          (fun (artifact : Artifact) (printed : Raw) =>
            printed.Names
              (["path", "kind", "sha256"] ++
                if artifact.size.isSome then ["size_bytes"] else []))
          index.artifacts artifacts

/-- An index is kept by its text. -/
theorem keptBy_text (index : ArtifactIndex) : index.KeptBy index.text := by
  have parsed : Raw.parse? index.text = some index.document.tree :=
    (undoes.integral index).parse?_pretty
  constructor
  case reads =>
    rw [parse?]
    exact Read.chain parsed (undoes.reads index)
  case artifacts =>
    refine ⟨_, Document.itemTrees (index.artifacts.map Artifact.document), parsed, rfl, ?_⟩
    rw [Document.itemTrees_eq, List.map_map, List.forall₂_map_right_iff, List.forall₂_same]
    exact fun artifact _ => artifact.names_tree

end ArtifactIndex

namespace MatrixReport

/--
Every report and every index is read back from its text, whatever strings, lists and
numbers it holds, and a field that is absent is not printed.  The same goes for the
files that a run leaves: they hold these texts.
-/
theorem survives_files :
    (∀ report : MatrixReport, report.KeptBy report.text) ∧
      (∀ index : ArtifactIndex, index.KeptBy index.text) ∧
      ∀ (report : MatrixReport) now root output stem run tree index saved,
        (report.save now root output stem run).run.run tree = (.ok index, saved) →
          ∃ reportText indexText,
            saved.readText (reportPath output stem) = .ok reportText ∧
              report.KeptBy reportText ∧
              saved.readText (indexPath output stem) = .ok indexText ∧
              index.KeptBy indexText := by
  refine ⟨keptBy_text, ArtifactIndex.keptBy_text, ?_⟩
  intro report now root output stem run tree index saved saves
  obtain ⟨-, -, -, reported, -⟩ := reads_of_save saves
  obtain ⟨_, _, _, _, _, _, -, -, -, -, -, -, indexed⟩ := save_of_ok saves
  exact ⟨_, _, FileTree.readText_of_read reported, report.keptBy_text,
    FileTree.readText_of_read (FileTree.read_of_write indexed), index.keptBy_text⟩

/-- A report with a bead of awkward characters, and a row that was observed in part. -/
def partlyObserved : MatrixReport :=
  { ofCases .strict [] with
    bead := "\"\\/\x00\x1f\n é 🔒"
    cases :=
      [{ MatrixCase.expecting ⟨.normal, .uninitialized, .init⟩ with
          observedErrno := some Int32.minValue
          timing := some (UInt64.ofNat (UInt64.size - 1)) }] }

/-- The row has a field for its code and one for its time, and none for the rest of what was to be
observed. -/
theorem survives_files_partlyObserved :
    ∃ index saved reportText,
      (partlyObserved.save default "/r" "/r/o" "s" "x").run.run {} = (.ok index, saved) ∧
        saved.readText (reportPath "/r/o" "s") = .ok reportText ∧
        parse? reportText = some partlyObserved ∧
        ∃ tree row,
          Raw.parse? reportText = some tree ∧
            Readable.fields? ["cases"] tree = some [some (Raw.array [row])] ∧
            row.Names
              ["case_id", "mutex_kind", "old_state", "operation", "expected_next",
                "expected_errno", "expected_blocks", "observed_errno", "timing_ns", "status"] := by
  have succeeds :
      ((partlyObserved.save default "/r" "/r/o" "s" "x").run.run {}).1.isOk = true := by
    decide +kernel
  rcases saves : (partlyObserved.save default "/r" "/r/o" "s" "x").run.run {} with
    ⟨failure | index, saved⟩
  · rw [saves] at succeeds
    contradiction
  obtain ⟨reportText, indexText, reported, kept, -, -⟩ :=
    survives_files.2.2 _ _ _ _ _ _ _ _ _ saves
  obtain ⟨tree, rows, parsed, found, named⟩ := kept.rows
  obtain ⟨row, none, names, nothing, rfl⟩ := List.forall₂_cons_left_iff.mp named
  obtain rfl := List.forall₂_nil_left_iff.mp nothing
  exact ⟨index, saved, reportText, rfl, reported, kept.reads, tree, row, parsed, found, names⟩

end MatrixReport

end LatchMutex
