import LatchMutex.Failure
import LatchMutex.Log.Entry

namespace LatchMutex

/-!
# Writing logs

An emitter numbers the entries that come without a trace id, names its own bead
in those that name none, and writes each one as a line and a line feed of its
own.  A sink may take only so many bytes: a write that does not fit is refused
as a whole, and what was written before it stays.
-/

/-- Where a log goes. -/
structure LogSink where
  /-- Most bytes that the sink takes, if there is a bound. -/
  limit : Option Nat := none
  /-- Whether the sink keeps what it takes. -/
  keeps : Bool := true
  written : String := ""
  deriving Repr, DecidableEq, Inhabited

namespace LogSink

/-- A sink that keeps nothing. -/
def discard : LogSink := { keeps := false }

/-- Whether a text still fits. -/
def fits (sink : LogSink) (text : String) : Bool :=
  match sink.limit with
  | none => true
  | some limit => sink.written.utf8ByteSize + text.utf8ByteSize ≤ limit

/-- Write a text as a whole. -/
def write (sink : LogSink) (text : String) : Except Failure Unit × LogSink :=
  if sink.fits text then
    (.ok (), if sink.keeps then { sink with written := sink.written ++ text } else sink)
  else
    (.error (.write "sink full"), sink)

/-- Flush what was written; a sink that takes nothing is closed. -/
def flush (sink : LogSink) : Except Failure Unit :=
  if sink.limit = some 0 then .error (.write "sink closed") else .ok ()

end LogSink

/-- A writer of log entries. -/
structure LogEmitter where
  bead : String
  run : String
  /-- Number of trace ids given out. -/
  sequence : UInt64 := 0
  sink : LogSink := {}
  deriving Repr, DecidableEq, Inhabited

namespace LogEmitter

/-- Trace id with a given number. -/
def traceId (bead run : String) (number : Nat) : String :=
  bead ++ "::" ++ run ++ "::" ++ String.ofList (Digits.paddedText 3 number)

/-- Give out the next trace id. -/
def nextTraceId (emitter : LogEmitter) : String × LogEmitter :=
  let sequence := emitter.sequence + 1
  (traceId emitter.bead emitter.run sequence.toNat, { emitter with sequence })

/-- Fill in the trace id and the bead of an entry that has none. -/
def complete (emitter : LogEmitter) (entry : LogEntry) : LogEntry × LogEmitter :=
  let bead := some (entry.bead.getD emitter.bead)
  if entry.traceId.isEmpty then
    let (traceId, numbered) := emitter.nextTraceId
    ({ entry with traceId, bead }, numbered)
  else
    ({ entry with bead }, emitter)

/-- Write an entry; the answer is the entry as it was written. -/
def emitEntry (emitter : LogEmitter) (entry : LogEntry) :
    Except Failure LogEntry × LogEmitter :=
  let (completed, numbered) := emitter.complete entry
  match numbered.sink.write completed.line with
  | (.error failure, sink) => (.error failure, { numbered with sink })
  | (.ok (), sink) =>
      match sink.write "\n" with
      | (.error failure, sink) => (.error failure, { numbered with sink })
      | (.ok (), sink) => (.ok completed, { numbered with sink })

/-- Write a bare entry under the next trace id. -/
def emit (emitter : LogEmitter) (now : Moment) (level : LogLevel) (event : String) :
    Except Failure LogEntry × LogEmitter :=
  let (traceId, numbered) := emitter.nextTraceId
  numbered.emitEntry (LogEntry.new now traceId level event)

/-- Write entries one after the other, up to the first that is refused. -/
def emitAll (emitter : LogEmitter) : List LogEntry → Except Failure Unit × LogEmitter
  | [] => (.ok (), emitter)
  | entry :: rest =>
      match emitter.emitEntry entry with
      | (.error failure, next) => (.error failure, next)
      | (.ok _, next) => next.emitAll rest

/-- Flush what was written. -/
def flush (emitter : LogEmitter) : Except Failure Unit :=
  emitter.sink.flush

end LogEmitter

end LatchMutex
