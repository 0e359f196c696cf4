import Tricord.Library.BoundedNat
import Tricord.Library.KeyedAccumulation
import Tricord.Library.KeyedMaxima
import Tricord.Library.SumOfMaxima
import Tricord.Library.Lifetimes
import Tricord.Library.Increments
import Tricord.Library.Worklist
import Tricord.Library.Delimited
import Tricord.Library.Decimal
import Tricord.Library.TextTable
import Tricord.Library.FileTree
import Tricord.Library.BufferedWriter
import Tricord.Library.Transition
import Tricord.Library.Ranking
import Tricord.Record.Schema
import Tricord.Record.Format
import Tricord.Record.Agreement
import Tricord.Record.Decoding
import Tricord.Record.Json
import Tricord.Record.Clock
import Tricord.Record.Markdown
import Tricord.Record.Summary
import Tricord.Sampler.State
import Tricord.Sampler.Metrics
import Tricord.Sampler.Aggregate
import Tricord.Sampler.Trace
import Tricord.Sampler.Calls
import Tricord.Sampler.Subsampling
import Tricord.Sampler.Enumeration
import Tricord.Sampler.Inequalities
import Tricord.Sampler.Instances
import Tricord.Sampler.Threads
import Tricord.Sampler.WallClock
import Tricord.Sampler.Loop
import Tricord.Sampler.Consistency
import Tricord.Platform.Descendants
import Tricord.Platform.SampleTree
import Tricord.Platform.Columns
import Tricord.Platform.Linux
import Tricord.Platform.Macos
import Tricord.Run.Signals
import Tricord.Run.Cleanup
import Tricord.Run.Outputs
import Tricord.Run.Written
import Tricord.Run.TraceFile
import Tricord.Run.ExitStatus
import Tricord.Run.Program
import Tricord.Run.ProgramOutputs
import Tricord.Run.Progress
