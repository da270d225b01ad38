import LatchMutex.Calendar
import LatchMutex.Json.Printer
import LatchMutex.Json.Typed

namespace LatchMutex

/-!
# Log entries

A log entry is one JSON object on one line: four fields that are always there,
and optional ones that are left out when absent.  `LogEntry.line` writes it and
`LogEntry.read?` reads it from a value.
-/

/-- Severity of a log entry. -/
inductive LogLevel where
  | trace
  | debug
  | info
  | warn
  | error
  deriving Repr, DecidableEq, Inhabited

namespace LogLevel

/-- Every severity. -/
def all : List LogLevel :=
  [.trace, .debug, .info, .warn, .error]

/-- Label of the severity. -/
def label : LogLevel → String
  | .trace => "trace"
  | .debug => "debug"
  | .info => "info"
  | .warn => "warn"
  | .error => "error"

/-- The severity with a given label, if there is one. -/
def ofLabel? (label : String) : Option LogLevel :=
  all.find? fun level => level.label = label

end LogLevel

/-- Result of one checked case. -/
inductive Verdict where
  | pass
  | fail
  | skip
  /-- The case was checked against the contract only. -/
  | modelOnly
  deriving Repr, DecidableEq, Inhabited

namespace Verdict

/-- Every result. -/
def all : List Verdict :=
  [.pass, .fail, .skip, .modelOnly]

/-- Label of the result. -/
def label : Verdict → String
  | .pass => "pass"
  | .fail => "fail"
  | .skip => "skip"
  | .modelOnly => "model_only"

/-- The result with a given label, if there is one. -/
def ofLabel? (label : String) : Option Verdict :=
  all.find? fun verdict => verdict.label = label

end Verdict

/-- Workflow that produced an entry. -/
inductive LogStream where
  | unit
  | conformance
  | probe
  deriving Repr, DecidableEq, Inhabited

namespace LogStream

/-- Every workflow. -/
def all : List LogStream :=
  [.unit, .conformance, .probe]

/-- Label of the workflow. -/
def label : LogStream → String
  | .unit => "unit"
  | .conformance => "conformance"
  | .probe => "probe"

/-- The workflow with a given label, if there is one. -/
def ofLabel? (label : String) : Option LogStream :=
  all.find? fun stream => stream.label = label

end LogStream

/-- One structured log record. -/
structure LogEntry where
  timestamp : String
  traceId : String
  level : LogLevel
  event : String
  bead : Option String := none
  stream : Option LogStream := none
  /-- Label of the safety level. -/
  mode : Option String := none
  /-- Label of the discipline. -/
  mutexKind : Option String := none
  /-- Operation under test. -/
  symbol : Option String := none
  oldState : Option String := none
  newState : Option String := none
  outcome : Option Verdict := none
  errno : Option Int32 := none
  latencyNanos : Option UInt64 := none
  durationMillis : Option UInt64 := none
  artifacts : Option (List String) := none
  details : Option Json := none
  deriving Repr, Inhabited

namespace LogEntry

/-- Names of the fields, in the order of writing. -/
def fieldNames : List String :=
  ["timestamp", "trace_id", "level", "event", "bead_id", "stream", "mode", "mutex_kind",
    "symbol", "old_state", "new_state", "outcome", "errno", "latency_ns", "duration_ms",
    "artifact_refs", "details"]

/-- Names of the fields that are always there. -/
def requiredNames : List String :=
  fieldNames.take 4

/-- Entry with only the required fields, stamped with a moment. -/
def new (now : Moment) (traceId : String) (level : LogLevel) (event : String) : LogEntry :=
  { timestamp := now.text, traceId, level, event }

/-- The entry as it is printed. -/
def document (entry : LogEntry) : Document :=
  .object
    ([("timestamp", Document.string entry.timestamp),
      ("trace_id", .string entry.traceId),
      ("level", .string entry.level.label),
      ("event", .string entry.event)]
      ++ Document.optional "bead_id" (entry.bead.map .string)
      ++ Document.optional "stream" (entry.stream.map fun stream => .string stream.label)
      ++ Document.optional "mode" (entry.mode.map .string)
      ++ Document.optional "mutex_kind" (entry.mutexKind.map .string)
      ++ Document.optional "symbol" (entry.symbol.map .string)
      ++ Document.optional "old_state" (entry.oldState.map .string)
      ++ Document.optional "new_state" (entry.newState.map .string)
      ++ Document.optional "outcome" (entry.outcome.map fun verdict => .string verdict.label)
      ++ Document.optional "errno" (entry.errno.map fun errno => .ofInt errno.toInt)
      ++ Document.optional "latency_ns" (entry.latencyNanos.map fun count => .ofInt count.toNat)
      ++ Document.optional "duration_ms"
          (entry.durationMillis.map fun count => .ofInt count.toNat)
      ++ Document.optional "artifact_refs" (entry.artifacts.map Document.strings)
      ++ Document.optional "details" (entry.details.map Json.toDocument))

/-- The entry as one line, without the line feed. -/
def line (entry : LogEntry) : String :=
  entry.document.compact

/-- Read an entry from a value. -/
def read? (value : Json) : Option LogEntry := do
  match ← Json.fields? fieldNames value with
  | [timestamp, traceId, level, event, bead, stream, mode, mutexKind, symbol, oldState,
      newState, outcome, errno, latencyNanos, durationMillis, artifacts, details] =>
      let timestamp ← Read.required Read.text timestamp
      let traceId ← Read.required Read.text traceId
      let level ← Read.required (Read.labeled LogLevel.ofLabel?) level
      let event ← Read.required Read.text event
      let bead ← Read.optional Read.text bead
      let stream ← Read.optional (Read.labeled LogStream.ofLabel?) stream
      let mode ← Read.optional Read.text mode
      let mutexKind ← Read.optional Read.text mutexKind
      let symbol ← Read.optional Read.text symbol
      let oldState ← Read.optional Read.text oldState
      let newState ← Read.optional Read.text newState
      let outcome ← Read.optional (Read.labeled Verdict.ofLabel?) outcome
      let errno ← Read.optional Read.int32 errno
      let latencyNanos ← Read.optional Read.uint64 latencyNanos
      let durationMillis ← Read.optional Read.uint64 durationMillis
      let artifacts ← Read.optional (Read.list Read.text) artifacts
      let details ← Read.optional some details
      pure
        { timestamp, traceId, level, event, bead, stream, mode, mutexKind, symbol,
          oldState, newState, outcome, errno, latencyNanos, durationMillis, artifacts,
          details }
  | _ => none

end LogEntry

end LatchMutex
