import Sysgaze.Rounds
import Sysgaze.Restart
import Sysgaze.Calls
import Sysgaze.TraceLoop
import Sysgaze.SyscallStop
import Sysgaze.Context
import Sysgaze.TraceeTable
import Sysgaze.Lib.OpenAddressing
import Sysgaze.Lib.Fallible
import Sysgaze.Lib.Stepping
import Sysgaze.Seccomp
import Sysgaze.Event
import Sysgaze.Filter
import Sysgaze.Registry
import Sysgaze.Descendants
import Sysgaze.Signals
import Sysgaze.Reporting
import Sysgaze.Pairing
import Sysgaze.Catalog
import Sysgaze.Aggregation
import Sysgaze.ExitStatus
import Sysgaze.RestartErrors
import Sysgaze.Killing
import Sysgaze.Vanished
import Sysgaze.Alternation
import Sysgaze.Lib.Coupling
import Sysgaze.Summary
import Sysgaze.Buffer
import Sysgaze.Decoder
import Sysgaze.Printable
import Sysgaze.Strings
import Sysgaze.Arguments
import Sysgaze.Flags
import Sysgaze.Recording
import Sysgaze.FilterParse
import Sysgaze.FilterTerms
import Sysgaze.Detaching
import Sysgaze.Attaching
import Sysgaze.GroupStops
import Sysgaze.JsonOutput
import Sysgaze.JsonLines
import Sysgaze.StructuredLines
import Sysgaze.TextOutput
import Sysgaze.RunValues
import Sysgaze.AcceptedValues
import Sysgaze.Handlers
import Sysgaze.Texts
import Sysgaze.Snapshots
import Sysgaze.UnfinishedLines
import Sysgaze.LocalCopies
import Sysgaze.Escaping
import Sysgaze.ExecMigration
import Sysgaze.CommandLine
import Sysgaze.Configurations
import Sysgaze.CommandBoundary
import Sysgaze.SeizedTasks
import Sysgaze.TableGrowth
import Sysgaze.BufferRuns
import Sysgaze.Probing
import Sysgaze.Lib.JsonCuts
import Sysgaze.NdjsonValidator
import Sysgaze.Ownership
import Sysgaze.SlotDiscipline
import Sysgaze.Parity
import Sysgaze.Lib.Keeping
import Sysgaze.WholeRuns
import Sysgaze.Timeline
import Sysgaze.AbstractTracer
import Sysgaze.TraceRefinement
import Sysgaze.Metrics
import Sysgaze.StopProtocol
import Sysgaze.LaunchHandshake
import Sysgaze.TraceFiles
import Sysgaze.ProcFiles
import Sysgaze.AttachProtocol
import Sysgaze.SummaryFiles
