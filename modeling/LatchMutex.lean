import LatchMutex.Allocation
import LatchMutex.Artifacts
import LatchMutex.Attributes
import LatchMutex.Binary64
import LatchMutex.Boundary
import LatchMutex.Calendar
import LatchMutex.Cancel
import LatchMutex.CancelFacade
import LatchMutex.Command.Arguments
import LatchMutex.Command.Run
import LatchMutex.Contract
import LatchMutex.Counters
import LatchMutex.Digits
import LatchMutex.Failure
import LatchMutex.Fairness
import LatchMutex.Fault
import LatchMutex.Files.FileAction
import LatchMutex.Files.FileTree
import LatchMutex.Files.Path
import LatchMutex.Json.Number
import LatchMutex.Json.Printer
import LatchMutex.Json.Raw
import LatchMutex.Json.Token
import LatchMutex.Json.Typed
import LatchMutex.Json.Value
import LatchMutex.Kind
import LatchMutex.Latch
import LatchMutex.LatchScenario
import LatchMutex.Log.Emitter
import LatchMutex.Log.Entry
import LatchMutex.Log.Files
import LatchMutex.Log.Validation
import LatchMutex.Matrix.Files
import LatchMutex.Matrix.Observation
import LatchMutex.Matrix.Report
import LatchMutex.Mode
import LatchMutex.OrderedMap
import LatchMutex.Platform
import LatchMutex.Record
import LatchMutex.Scenario.Run
import LatchMutex.Scenario.State
import LatchMutex.Scenario.Step
import LatchMutex.Schedule
import LatchMutex.Sha256
import LatchMutex.Shortest
import LatchMutex.Slot
import LatchMutex.Table
import LatchMutex.Text
import LatchMutex.Text.Extending
import LatchMutex.Text.PointTable
import LatchMutex.Text.Quoted
import LatchMutex.Text.Unassigned
import LatchMutex.World
import LatchMutex.Main
import LatchMutex.Proofs.Histories
import LatchMutex.Proofs.RecordSoundness
import LatchMutex.Proofs.Ownership
import LatchMutex.Proofs.LoneCalls
import LatchMutex.Proofs.ContractRefinement
import LatchMutex.Proofs.ContractWalks
import LatchMutex.Proofs.ContestedTenures
import LatchMutex.Proofs.Deferrals
import LatchMutex.Proofs.DeferralCredit
import LatchMutex.Proofs.WaiterCounts
import LatchMutex.Proofs.WaiterShortfall
import LatchMutex.Proofs.Agreement
import LatchMutex.Proofs.Withdrawals
import LatchMutex.Proofs.Cancellations
import LatchMutex.Proofs.SettledRecords
import LatchMutex.Proofs.Registrations
import LatchMutex.Proofs.CallsUnderway
import LatchMutex.Proofs.Deliveries
import LatchMutex.Proofs.Refusals
import LatchMutex.Proofs.ResumedLocks
import LatchMutex.Proofs.NestedLocks
import LatchMutex.Proofs.SelfRelocks
import LatchMutex.Proofs.LogSchema
import LatchMutex.Proofs.NestedScopes
import LatchMutex.Proofs.GuardedCalls
import LatchMutex.Proofs.GuardLeaks
import LatchMutex.Proofs.TokenTrees
import LatchMutex.Proofs.ScannedText
import LatchMutex.Proofs.PlainValues
import LatchMutex.Proofs.EntryLines
import LatchMutex.Proofs.EmittedLogs
import LatchMutex.Proofs.AttributeCalls
import LatchMutex.Proofs.AttributeLiveness
import LatchMutex.Proofs.AttributeRefinement
import LatchMutex.Proofs.CancelRequests
import LatchMutex.Proofs.FreeMutexes
import LatchMutex.Proofs.ReportTallies
import LatchMutex.Proofs.MatrixRuns
import LatchMutex.Proofs.Sections
import LatchMutex.Proofs.StaleResets
import LatchMutex.Proofs.BranchCounts
import LatchMutex.Proofs.PathNames
import LatchMutex.Proofs.FileWrites
import LatchMutex.Proofs.ArtifactChecks
import LatchMutex.Proofs.IdleRetries
import LatchMutex.Proofs.MutexInitialization
import LatchMutex.Proofs.CalendarDates
import LatchMutex.Proofs.Timestamps
import LatchMutex.Proofs.MatrixLogs
import LatchMutex.Proofs.MatrixTotals
import LatchMutex.Proofs.ModeOverrides
import LatchMutex.Proofs.PrettyTexts
import LatchMutex.Proofs.SavedReports
import LatchMutex.Proofs.Allocations
import LatchMutex.Proofs.Processes
import LatchMutex.Proofs.ProcessTurns
import LatchMutex.Proofs.AllocationFailures
import LatchMutex.Proofs.LatchSections
import LatchMutex.Proofs.LatchGuards
import LatchMutex.Proofs.TryGuards
