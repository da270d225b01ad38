import LatchMutex.Digits

namespace LatchMutex

/-!
# Command line arguments

A command is named first and followed by long options, each with one value in
the next argument or behind an equals sign.  A value in the next argument may
not start with a dash, unless it is a dash alone.  An option may be repeated
only if it collects values.
-/

/-- What the value of an option has to be. -/
inductive OptionKind where
  | text
  /-- A path, which may not be empty. -/
  | path
  | uint64
  | uint32
  /-- A text that may be given any number of times. -/
  | texts
  deriving Repr, DecidableEq, Inhabited

/-- What the command line asks for. -/
inductive Command where
  /-- Replay the contract against the real mutex. -/
  | contractMatrix
      (output stem run : String)
      (kinds : List String)
      (mode : String)
      (holdMillis thresholdMillis : Nat)
  /-- Measure how evenly contending threads acquire one mutex. -/
  | fairnessProbe
      (kind : String)
      (threads durationMillis criticalSpins : Nat)
      (output log : Option String)
  /-- Validate a structured log. -/
  | validateLog (log : String)
  /-- Hash the files of an artifact index again. -/
  | verifyArtifacts (index root : String)
  deriving Repr, DecidableEq, Inhabited

/-- Why a command line names no command. -/
inductive UsageError where
  | help
  | missingCommand
  | unknownCommand (name : String)
  | unknownArgument (argument : String)
  | missingValue (name : String)
  | badValue (name value : String)
  | repeated (name : String)
  | missingOption (name : String)
  deriving Repr, DecidableEq, Inhabited

namespace UsageError

/-- Names of the commands that can be explained. -/
def commandNames : List String :=
  ["contract-matrix", "fairness-probe", "validate-log", "verify-artifacts", "help"]

/-- Exit status of a command line that names no command. -/
def status : UsageError → UInt32
  | .help => 0
  | _ => 2

/-- What a user is told; a request for help is answered by the list of commands. -/
def message : UsageError → String
  | .help => "commands: " ++ ", ".intercalate commandNames
  | .missingCommand => "a command is required"
  | .unknownCommand name => s!"unknown command '{name}'"
  | .unknownArgument argument => s!"unexpected argument '{argument}'"
  | .missingValue name => s!"a value is required for '{name}'"
  | .badValue name value => s!"invalid value '{value}' for '{name}'"
  | .repeated name => s!"'{name}' cannot be given twice"
  | .missingOption name => s!"'{name}' is required"

end UsageError

namespace OptionKind

/-- Number that a text spells with an optional plus sign. -/
def unsigned? (value : String) : Option Nat :=
  match value.toList with
  | '+' :: digits => Digits.parse? digits
  | digits => Digits.parse? digits

/-- Number that a text spells with an optional sign, if it is not negative. -/
def signed? (value : String) : Option Nat :=
  match value.toList with
  | '-' :: digits =>
      match Digits.parse? digits with
      | some 0 => some 0
      | _ => none
  | _ => unsigned? value

/-- Number of a value, if it fits the kind of its option. -/
def number? (kind : OptionKind) (value : String) : Option Nat :=
  match kind with
  | .uint64 => (unsigned? value).filter fun number => number < UInt64.size
  | .uint32 => (signed? value).filter fun number => number < UInt32.size
  | _ => none

/-- Whether an option takes a value. -/
def accepts (kind : OptionKind) (value : String) : Bool :=
  match kind with
  | .text | .texts => true
  | .path => !value.isEmpty
  | .uint64 | .uint32 => (kind.number? value).isSome

end OptionKind

/-- The options of a command by name. -/
abbrev OptionTable := List (String × OptionKind)

/-- Options given on a command line, in order. -/
abbrev GivenOptions := List (String × String)

namespace Command

/-- Whether an argument can be a value. -/
def isValue (argument : String) : Bool :=
  argument = "-" || argument.toList.head? ≠ some '-'

/-- Whether an argument asks for help; letters behind the short form are not read. -/
def asksForHelp (argument : String) : Bool :=
  argument = "--help" || argument.toList.take 2 = ['-', 'h']

/-- Name and value of an argument of the form of a name, an equals sign and a value. -/
def cutEquals (argument : String) : String × Option String :=
  let (name, rest) := argument.toList.span fun character => character ≠ '='
  match rest with
  | [] => (argument, none)
  | _ :: value => (String.ofList name, some (String.ofList value))

/-- Take one option with its value. -/
def take (table : OptionTable) (given : GivenOptions) (name value : String) :
    Except UsageError GivenOptions :=
  match table.lookup name with
  | none => .error (.unknownArgument name)
  | some kind =>
      if kind.accepts value = false then
        .error (.badValue name value)
      else if kind ≠ .texts ∧ (given.lookup name).isSome then
        .error (.repeated name)
      else
        .ok (given ++ [(name, value)])

/-- Read the options behind a command. -/
def readOptions (table : OptionTable) (given : GivenOptions) :
    List String → Except UsageError GivenOptions
  | [] => .ok given
  | ["--"] => .ok given
  | "--" :: argument :: _ => .error (.unknownArgument argument)
  | argument :: rest =>
      if asksForHelp argument then
        .error .help
      else
        match cutEquals argument with
        | (name, some value) =>
            match take table given name value with
            | .ok longer => readOptions table longer rest
            | .error problem => .error problem
        | (name, none) =>
            if (table.lookup name).isNone then
              .error (.unknownArgument name)
            else
              match rest with
              | [] => .error (.missingValue name)
              | value :: others =>
                  if isValue value then
                    match take table given name value with
                    | .ok longer => readOptions table longer others
                    | .error problem => .error problem
                  else
                    .error (.missingValue name)

/-- Value of an option that has to be given. -/
def required (given : GivenOptions) (name : String) : Except UsageError String :=
  match given.lookup name with
  | some value => .ok value
  | none => .error (.missingOption name)

/-- Value of an option, or the one it has when it is not given. -/
def textOr (given : GivenOptions) (name fallback : String) : String :=
  (given.lookup name).getD fallback

/-- Number of an option, or the one it has when it is not given. -/
def numberOr (given : GivenOptions) (name : String) (kind : OptionKind) (fallback : Nat) :
    Nat :=
  ((given.lookup name).bind kind.number?).getD fallback

/-- All values of an option. -/
def allOf (given : GivenOptions) (name : String) : List String :=
  (given.filter fun option => option.1 = name).map Prod.snd

/-- Options of the matrix. -/
def matrixOptions : OptionTable :=
  [("--output-dir", .path), ("--stem", .text), ("--run-id", .text), ("--kind", .texts),
    ("--mode", .text), ("--hold-ms", .uint64), ("--block-threshold-ms", .uint64)]

/-- Options of the probe. -/
def probeOptions : OptionTable :=
  [("--kind", .text), ("--threads", .uint64), ("--duration-ms", .uint64),
    ("--critical-spins", .uint32), ("--output", .path), ("--log", .path)]

/-- Options of the log validation. -/
def validateOptions : OptionTable :=
  [("--log", .path)]

/-- Options of the verification of an index. -/
def verifyOptions : OptionTable :=
  [("--index", .path), ("--workspace-root", .path)]

/-- The command that a command line names. -/
def ofArguments (arguments : List String) : Except UsageError Command :=
  match arguments with
  | [] => .error .missingCommand
  | "contract-matrix" :: rest => do
      let given ← readOptions matrixOptions [] rest
      pure (.contractMatrix (textOr given "--output-dir" "target/conformance")
        (textOr given "--stem" "pthread_mutex_contract_matrix")
        (textOr given "--run-id" "local") (allOf given "--kind")
        (textOr given "--mode" "strict") (numberOr given "--hold-ms" .uint64 100)
        (numberOr given "--block-threshold-ms" .uint64 25))
  | "fairness-probe" :: rest => do
      let given ← readOptions probeOptions [] rest
      pure (.fairnessProbe (textOr given "--kind" "normal")
        (numberOr given "--threads" .uint64 4) (numberOr given "--duration-ms" .uint64 200)
        (numberOr given "--critical-spins" .uint32 64) (given.lookup "--output")
        (given.lookup "--log"))
  | "validate-log" :: rest => do
      let given ← readOptions validateOptions [] rest
      let log ← required given "--log"
      pure (.validateLog log)
  | "verify-artifacts" :: rest => do
      let given ← readOptions verifyOptions [] rest
      let index ← required given "--index"
      pure (.verifyArtifacts index (textOr given "--workspace-root" "."))
  | ["help"] => .error .help
  | "help" :: name :: rest =>
      .error (if name ∈ UsageError.commandNames ∧ rest.isEmpty then .help
        else .unknownCommand name)
  | argument :: _ =>
      .error (if asksForHelp argument then .help else .unknownCommand argument)

end Command

end LatchMutex
