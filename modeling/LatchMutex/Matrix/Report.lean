import LatchMutex.Json.Printer
import LatchMutex.Json.Typed
import LatchMutex.Matrix.Observation
import LatchMutex.Mode
import LatchMutex.OrderedMap

namespace LatchMutex

/-!
# Matrix reports

A report has a row for each cell, with what the contract expects and what was
observed, and totals for each discipline and for all.  Rows keep their labels as
text, so that a report read from a file is kept as it is.
-/

/-- How a cell came out. -/
inductive CaseStatus where
  | ok
  | mismatch
  /-- The cell was checked against the contract only. -/
  | modelOnly
  deriving Repr, DecidableEq, Inhabited

namespace CaseStatus

/-- Every status. -/
def all : List CaseStatus :=
  [.ok, .mismatch, .modelOnly]

/-- Label of the status. -/
def label : CaseStatus → String
  | .ok => "ok"
  | .mismatch => "mismatch"
  | .modelOnly => "model_only"

/-- The status with a given label, if there is one. -/
def ofLabel? (label : String) : Option CaseStatus :=
  all.find? fun status => status.label = label

end CaseStatus

/-- Row of one cell. -/
structure MatrixCase where
  name : String
  mutexKind : String
  oldState : String
  operation : String
  expectedNext : String
  expectedErrno : Int32
  expectedBlocks : Bool
  observedNext : Option String := none
  observedErrno : Option Int32 := none
  observedBlocks : Option Bool := none
  /-- Duration of the call in nanoseconds. -/
  timing : Option UInt64 := none
  status : CaseStatus := .modelOnly
  deriving Repr, DecidableEq, Inhabited

/-- Totals of one discipline. -/
structure KindTotals where
  mutexKind : String
  total : UInt64
  passed : UInt64
  mismatched : UInt64
  modelOnly : UInt64
  deriving Repr, DecidableEq, Inhabited

/-- Totals of all cells. -/
structure MatrixSummary where
  total : UInt64
  passed : UInt64
  mismatched : UInt64
  modelOnly : UInt64
  deriving Repr, DecidableEq, Inhabited

/-- A whole report. -/
structure MatrixReport where
  schema : String
  bead : String
  mode : String
  summary : MatrixSummary
  kinds : List KindTotals
  cases : List MatrixCase
  deriving Repr, DecidableEq, Inhabited

namespace MatrixCase

/-- Row of a cell before it is observed. -/
def expecting (cell : MatrixCell) : MatrixCase :=
  let expected := cell.expected
  { name := cell.name
    mutexKind := cell.kind.label
    oldState := cell.state.label
    operation := cell.operation.label
    expectedNext := expected.next.label
    expectedErrno := expected.status
    expectedBlocks := expected.blocks }

/-- Whether an observation is what the contract expects; after a wait the state has moved on. -/
def agrees (expected : Transition) (observed : Observation) : Bool :=
  (expected.blocks || observed.next = expected.next)
    && observed.status = expected.status && observed.blocks = expected.blocks

/-- Row of a cell with what was observed. -/
def observing (cell : MatrixCell) (observed : Observation) : MatrixCase :=
  { expecting cell with
    observedNext := some observed.next.label
    observedErrno := some observed.status
    observedBlocks := some observed.blocks
    timing := some (min observed.elapsed (UInt64.size - 1)).toUInt64
    status := if agrees cell.expected observed then .ok else .mismatch }

/-- Row of a cell. -/
def ofCell (timing : Timing) (cell : MatrixCell) : Except Failure MatrixCase := do
  if cell.isModelOnly then
    pure (expecting cell)
  else
    let observed ← cell.observe timing
    pure (observing cell observed)

/-- One line on a row that does not agree with the contract. -/
def mismatchLine (row : MatrixCase) : String :=
  let next := row.observedNext.getD "?"
  let errno := row.observedErrno.getD (-1)
  let blocks := row.observedBlocks.getD false
  s!"{row.name} expected(next={row.expectedNext}, errno={row.expectedErrno}, "
    ++ s!"blocks={row.expectedBlocks}) got(next={next}, errno={errno}, blocks={blocks})"

/-- The row as it is printed. -/
def document (row : MatrixCase) : Document :=
  .object
    ([("case_id", Document.string row.name), ("mutex_kind", .string row.mutexKind),
      ("old_state", .string row.oldState), ("operation", .string row.operation),
      ("expected_next", .string row.expectedNext),
      ("expected_errno", .ofInt row.expectedErrno.toInt),
      ("expected_blocks", .bool row.expectedBlocks)]
      ++ Document.optional "observed_next" (row.observedNext.map .string)
      ++ Document.optional "observed_errno"
          (row.observedErrno.map fun errno => .ofInt errno.toInt)
      ++ Document.optional "observed_blocks" (row.observedBlocks.map .bool)
      ++ Document.optional "timing_ns" (row.timing.map fun nanos => .ofInt nanos.toNat)
      ++ [("status", .string row.status.label)])

/-- Names of the fields of a row, in the order of writing. -/
def fieldNames : List String :=
  ["case_id", "mutex_kind", "old_state", "operation", "expected_next", "expected_errno",
    "expected_blocks", "observed_next", "observed_errno", "observed_blocks", "timing_ns",
    "status"]

/-- Read a row. -/
def read? {Node : Type} [Readable Node] (node : Node) : Option MatrixCase := do
  match ← Readable.fields? fieldNames node with
  | [name, mutexKind, oldState, operation, expectedNext, expectedErrno, expectedBlocks,
      observedNext, observedErrno, observedBlocks, timing, status] =>
      let name ← Read.required Read.text name
      let mutexKind ← Read.required Read.text mutexKind
      let oldState ← Read.required Read.text oldState
      let operation ← Read.required Read.text operation
      let expectedNext ← Read.required Read.text expectedNext
      let expectedErrno ← Read.required Read.int32 expectedErrno
      let expectedBlocks ← Read.required Read.bool expectedBlocks
      let observedNext ← Read.optional Read.text observedNext
      let observedErrno ← Read.optional Read.int32 observedErrno
      let observedBlocks ← Read.optional Read.bool observedBlocks
      let timing ← Read.optional Read.uint64 timing
      let status ← Read.required (Read.labeled CaseStatus.ofLabel?) status
      pure
        { name, mutexKind, oldState, operation, expectedNext, expectedErrno, expectedBlocks,
          observedNext, observedErrno, observedBlocks, timing, status }
  | _ => none

end MatrixCase

namespace KindTotals

/-- Totals of a discipline before its first row. -/
def starting (mutexKind : String) : KindTotals :=
  { mutexKind, total := 0, passed := 0, mismatched := 0, modelOnly := 0 }

/-- Count one more row; a row checked against the contract only has passed. -/
def count (totals : KindTotals) (row : MatrixCase) : KindTotals :=
  let totals := { totals with total := totals.total + 1 }
  match row.status with
  | .ok => { totals with passed := totals.passed + 1 }
  | .mismatch => { totals with mismatched := totals.mismatched + 1 }
  | .modelOnly =>
      { totals with passed := totals.passed + 1, modelOnly := totals.modelOnly + 1 }

/-- The totals as they are printed. -/
def document (totals : KindTotals) : Document :=
  .object
    [("mutex_kind", .string totals.mutexKind), ("total", .ofInt totals.total.toNat),
      ("passed", .ofInt totals.passed.toNat), ("mismatched", .ofInt totals.mismatched.toNat),
      ("model_only", .ofInt totals.modelOnly.toNat)]

/-- Read totals. -/
def read? {Node : Type} [Readable Node] (node : Node) : Option KindTotals := do
  match ← Readable.fields? ["mutex_kind", "total", "passed", "mismatched", "model_only"] node with
  | [mutexKind, total, passed, mismatched, modelOnly] =>
      let mutexKind ← Read.required Read.text mutexKind
      let total ← Read.required Read.uint64 total
      let passed ← Read.required Read.uint64 passed
      let mismatched ← Read.required Read.uint64 mismatched
      let modelOnly ← Read.required Read.uint64 modelOnly
      pure { mutexKind, total, passed, mismatched, modelOnly }
  | _ => none

end KindTotals

namespace MatrixSummary

/-- Sum of one field over all disciplines. -/
def sumOf (field : KindTotals → UInt64) (kinds : List KindTotals) : UInt64 :=
  (kinds.map field).foldr (· + ·) 0

/-- Totals over all disciplines. -/
def ofKinds (kinds : List KindTotals) : MatrixSummary where
  total := sumOf KindTotals.total kinds
  passed := sumOf KindTotals.passed kinds
  mismatched := sumOf KindTotals.mismatched kinds
  modelOnly := sumOf KindTotals.modelOnly kinds

/-- Members of the totals, in the order of writing. -/
def members (summary : MatrixSummary) : List (String × Int) :=
  [("total_cases", summary.total.toNat), ("passed", summary.passed.toNat),
    ("mismatched", summary.mismatched.toNat), ("model_only", summary.modelOnly.toNat)]

/-- The totals as they are printed. -/
def document (summary : MatrixSummary) : Document :=
  .object (summary.members.map fun (name, count) => (name, .ofInt count))

/-- The totals as a value. -/
def toJson (summary : MatrixSummary) : Json :=
  Json.ofMembers (summary.members.map fun (name, count) => (name, Json.ofInt count))

/-- Read totals. -/
def read? {Node : Type} [Readable Node] (node : Node) : Option MatrixSummary := do
  match ← Readable.fields? ["total_cases", "passed", "mismatched", "model_only"] node with
  | [total, passed, mismatched, modelOnly] =>
      let total ← Read.required Read.uint64 total
      let passed ← Read.required Read.uint64 passed
      let mismatched ← Read.required Read.uint64 mismatched
      let modelOnly ← Read.required Read.uint64 modelOnly
      pure { total, passed, mismatched, modelOnly }
  | _ => none

end MatrixSummary

namespace MatrixReport

/-- Bead of the matrix. -/
def contractBead : String := "fm-contract"

/-- Count a row under the label of its discipline. -/
def tally (buckets : OrderedMap KindTotals) (row : MatrixCase) : OrderedMap KindTotals :=
  buckets.alter row.mutexKind (.starting row.mutexKind) fun totals => totals.count row

/-- Totals of the rows, each counted in its turn. -/
def bucketsOf (cases : List MatrixCase) : OrderedMap KindTotals :=
  cases.foldl tally .empty

/-- Report on given rows. -/
def ofCases (mode : SafetyLevel) (cases : List MatrixCase) : MatrixReport :=
  let kinds := (bucketsOf cases).values
  { schema := "v1"
    bead := contractBead
    mode := mode.label
    summary := MatrixSummary.ofKinds kinds
    kinds
    cases }

/-- Observe every cell of the given disciplines, in order. -/
def build (mode : SafetyLevel) (timing : Timing) (kinds : List Kind) :
    Except Failure MatrixReport := do
  let cases ← (kinds.flatMap MatrixCell.ofKind).mapM (MatrixCase.ofCell timing)
  pure (ofCases mode cases)

/-- Whether no cell is counted as a mismatch. -/
def allPassed (report : MatrixReport) : Bool :=
  report.summary.mismatched = 0

/-- One line on each row that does not agree with the contract. -/
def mismatches (report : MatrixReport) : List String :=
  (report.cases.filter fun row => row.status = .mismatch).map MatrixCase.mismatchLine

/-- The report as it is printed. -/
def document (report : MatrixReport) : Document :=
  .object
    [("schema_version", .string report.schema), ("bead", .string report.bead),
      ("mode", .string report.mode), ("summary", report.summary.document),
      ("kind_matrix", .array (report.kinds.map KindTotals.document)),
      ("cases", .array (report.cases.map MatrixCase.document))]

/-- Text of the report. -/
def text (report : MatrixReport) : String :=
  report.document.pretty

/-- Read a report. -/
def read? {Node : Type} [Readable Node] (node : Node) : Option MatrixReport := do
  match ← Readable.fields?
      ["schema_version", "bead", "mode", "summary", "kind_matrix", "cases"] node with
  | [schema, bead, mode, summary, kinds, cases] =>
      let schema ← Read.required Read.text schema
      let bead ← Read.required Read.text bead
      let mode ← Read.required Read.text mode
      let summary ← Read.required MatrixSummary.read? summary
      let kinds ← Read.required (Read.list KindTotals.read?) kinds
      let cases ← Read.required (Read.list MatrixCase.read?) cases
      pure { schema, bead, mode, summary, kinds, cases }
  | _ => none

/-- Read a report from its text. -/
def parse? (text : String) : Option MatrixReport := do
  let tree ← Raw.parse? text
  read? tree

end MatrixReport

end LatchMutex
