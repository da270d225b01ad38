import LatchMutex.Kind
import LatchMutex.Log.Entry
import LatchMutex.Mode
import LatchMutex.Text

namespace LatchMutex

/-!
# Validation of log lines

A line is accepted if it is one JSON object that obeys the schema and reads as
an entry; otherwise every violation is listed.  The checks of the schema look at
the value itself, in a fixed order: required fields, fields with a closed list
of labels, the shape of the trace id, and the artifacts of a failed case.
-/

/-- One violation of the schema. -/
structure Violation where
  line : Nat
  field : String
  message : String
  deriving Repr, DecidableEq, Inhabited

namespace Violation

/-- Violation in one line of text. -/
def display (violation : Violation) : String :=
  s!"line {violation.line}: field '{violation.field}': {violation.message}"

end Violation

namespace LogEntry

/-- Fields with a closed list of labels, in the order of checking. -/
def closedFields : List (String × List String) :=
  [("level", LogLevel.all.map LogLevel.label),
    ("mode", SafetyLevel.all.map SafetyLevel.label),
    ("outcome", Verdict.all.map Verdict.label),
    ("stream", LogStream.all.map LogStream.label),
    ("mutex_kind", Kind.all.map Kind.label)]

/-- Text in a member of an object, if there is one. -/
def textMember? (value : Json) (field : String) : Option String :=
  match value.member? field with
  | some (.string text) => some text
  | _ => none

/-- Violations of the fields that have to be there. -/
def missingFields (value : Json) (line : Nat) : List Violation :=
  (requiredNames.filter fun field => (value.member? field).isNone).map fun field =>
    { line, field, message := "required field missing" }

/-- Violations of the fields with a closed list of labels. -/
def unknownLabels (value : Json) (line : Nat) : List Violation :=
  closedFields.filterMap fun (field, labels) =>
    match textMember? value field with
    | none => none
    | some text =>
        if text ∈ labels then
          none
        else
          some { line, field, message := s!"invalid {field}: '{text}'" }

/-- Whether a trace id has its three parts. -/
def isTraceId (text : String) : Bool :=
  2 ≤ Text.separators text.toList

/-- Violation of the shape of the trace id. -/
def badTraceId (value : Json) (line : Nat) : List Violation :=
  match textMember? value "trace_id" with
  | none => []
  | some text =>
      if isTraceId text then
        []
      else
        [{ line, field := "trace_id",
           message := "expected <bead>::<run>::<seq>, got '" ++ text ++ "'" }]

/-- Whether a value lists at least one artifact. -/
def listsArtifacts (value : Json) : Bool :=
  match value.member? "artifact_refs" with
  | some (.array (_ :: _)) => true
  | _ => false

/-- Violation of the rule that a failed case points at something a reader can open. -/
def missingArtifacts (value : Json) (line : Nat) : List Violation :=
  if textMember? value "outcome" = some Verdict.fail.label ∧ listsArtifacts value = false then
    [{ line, field := "artifact_refs",
       message := "failed cases must reference at least one artifact" }]
  else
    []

/-- Every violation of the schema, in the order of checking. -/
def violations (value : Json) (line : Nat) : List Violation :=
  missingFields value line ++ unknownLabels value line ++ badTraceId value line
    ++ missingArtifacts value line

/--
Read an entry from an object that obeys the schema.  The message about an object that does
not read as an entry stops before the colon: the detail behind it is the reader's own text.
-/
def validateValue (value : Json) (line : Nat) : Except (List Violation) LogEntry :=
  match value with
  | .object _ =>
      match violations value line with
      | [] =>
          match read? value with
          | some entry => .ok entry
          | none =>
              .error [{ line, field := "<deserialization>", message := "failed to deserialize" }]
      | found => .error found
  | _ => .error [{ line, field := "<root>", message := "expected JSON object" }]

/--
Read an entry from a line of a log.  Here, too, the message stops before the colon and the
detail that the reader of JSON has to tell.
-/
def validate (text : String) (line : Nat) : Except (List Violation) LogEntry :=
  match Json.parse? text with
  | none => .error [{ line, field := "<json>", message := "invalid JSON" }]
  | some value => validateValue value line

end LogEntry

end LatchMutex
