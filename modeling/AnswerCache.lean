import AnswerCache.Binary64.Basic
import AnswerCache.Binary64.Notation
import AnswerCache.Binary64.Reader
import AnswerCache.Binary64.Shortest
import AnswerCache.CacheKey
import AnswerCache.Canonical
import AnswerCache.Command.Arguments
import AnswerCache.Command.Files
import AnswerCache.Command.Output
import AnswerCache.Command.Run
import AnswerCache.Config
import AnswerCache.Dictionary
import AnswerCache.Execution.Executor
import AnswerCache.Execution.Response
import AnswerCache.Execution.Segments
import AnswerCache.Execution.Stage
import AnswerCache.Gateway
import AnswerCache.Interval.Basic
import AnswerCache.Interval.Cover
import AnswerCache.Interval.Text
import AnswerCache.Json.Basic
import AnswerCache.Json.Decode
import AnswerCache.Json.Fault
import AnswerCache.Json.Numeral
import AnswerCache.Json.Printer
import AnswerCache.Json.Reader
import AnswerCache.Json.Source
import AnswerCache.Main
import AnswerCache.Metrics
import AnswerCache.Policy.Basic
import AnswerCache.Policy.Notice
import AnswerCache.Policy.Policy
import AnswerCache.Proofs.Binary64.Notation
import AnswerCache.Proofs.Binary64.Shortest
import AnswerCache.Proofs.Binary64.Whole
import AnswerCache.Proofs.Canonical
import AnswerCache.Proofs.Canonical.Equivalence
import AnswerCache.Proofs.Dictionary
import AnswerCache.Proofs.Execution.Current
import AnswerCache.Proofs.Execution.Executor
import AnswerCache.Proofs.Execution.Interleaving
import AnswerCache.Proofs.Execution.Payload
import AnswerCache.Proofs.Execution.Stages
import AnswerCache.Proofs.Execution.Staleness
import AnswerCache.Proofs.Json.Compact
import AnswerCache.Proofs.Json.Numeral
import AnswerCache.Proofs.Json.Quoted
import AnswerCache.Proofs.Json.RoundTrip
import AnswerCache.Proofs.Json.Tree
import AnswerCache.Proofs.Policy.Calls
import AnswerCache.Proofs.Policy.History
import AnswerCache.Proofs.Policy.Memory
import AnswerCache.Proofs.Policy.Provenance
import AnswerCache.Proofs.Policy.ReadAfterWrite
import AnswerCache.Proofs.Query.Identity
import AnswerCache.Proofs.Replay.Faithful
import AnswerCache.Proofs.Replay.Transparency
import AnswerCache.Proofs.Segment.Identification
import AnswerCache.Proofs.Segment.Identifier
import AnswerCache.Proofs.Segment.Reads
import AnswerCache.Proofs.Segment.Registry
import AnswerCache.Proofs.Segment.Signature
import AnswerCache.Proofs.Store.Memory
import AnswerCache.Proofs.Text.Delimited
import AnswerCache.Proofs.Time.Calendar
import AnswerCache.Proofs.Time.Written
import AnswerCache.Query.Basic
import AnswerCache.Query.Decode
import AnswerCache.Query.Encode
import AnswerCache.Query.Names
import AnswerCache.Query.Validate
import AnswerCache.Replay.Run
import AnswerCache.Replay.Scenario
import AnswerCache.Segment.Basic
import AnswerCache.Segment.Json
import AnswerCache.Segment.Registry
import AnswerCache.Segment.Signature
import AnswerCache.Sha256
import AnswerCache.Store.Basic
import AnswerCache.Store.Faults
import AnswerCache.Store.Memory
import AnswerCache.Text.Decimal
import AnswerCache.Text.Emoji
import AnswerCache.Text.Hidden
import AnswerCache.Text.Ligature
import AnswerCache.Text.Marks
import AnswerCache.Text.Scan
import AnswerCache.Text.Table
import AnswerCache.Text.Wide
import AnswerCache.Text.Width
import AnswerCache.Time.Calendar
import AnswerCache.Time.Instant
import AnswerCache.Time.Printer
import AnswerCache.Time.Reader
import AnswerCache.Proofs.Store.Runs
import AnswerCache.Proofs.Store.Account
import AnswerCache.Proofs.Store.LastSet
import AnswerCache.Proofs.Store.PlainMap
import AnswerCache.Proofs.Execution.Gating
import AnswerCache.Proofs.Execution.FailOpen
import AnswerCache.Proofs.Policy.Counts
import AnswerCache.Proofs.Execution.Counts
import AnswerCache.Proofs.Replay.Steps
import AnswerCache.Proofs.Replay.Conservation
import AnswerCache.Proofs.Store.Undated
import AnswerCache.Proofs.Policy.Alike
import AnswerCache.Proofs.Execution.Alike
import AnswerCache.Proofs.Replay.Contexts
import AnswerCache.Proofs.Segment.LastEvent
import AnswerCache.Proofs.Text.Scan
import AnswerCache.Proofs.Time.ReadBack
import AnswerCache.Proofs.Json.Decode
import AnswerCache.Proofs.Query.ReadBack
import AnswerCache.Proofs.Interval.ReadBack
import AnswerCache.Proofs.Store.Eviction
import AnswerCache.Proofs.Store.Recency
import AnswerCache.Proofs.Text.Bytes
import AnswerCache.Proofs.Json.Layout
import AnswerCache.Proofs.Json.Unquoted
import AnswerCache.Proofs.Canonical.ReadBack
import AnswerCache.Proofs.Command.Config
import AnswerCache.Proofs.Command.Files
import AnswerCache.Proofs.Command.Runs
import AnswerCache.Proofs.Interval.Cover
import AnswerCache.Proofs.Interval.NormalForm
import AnswerCache.Proofs.Interval.Difference
import AnswerCache.Proofs.Segment.Coverage
import AnswerCache.Proofs.Execution.Completeness
import AnswerCache.Proofs.Segment.Selection
import AnswerCache.Proofs.Execution.InStep
import AnswerCache.Proofs.Query.Constants
import AnswerCache.Proofs.Canonical.Refusal
import AnswerCache.Proofs.Time.Reading
import AnswerCache.Proofs.Time.Spelling
import AnswerCache.Proofs.Interval.Spelling
import AnswerCache.Proofs.Store.Expiry
import AnswerCache.Proofs.Store.Ledger
import AnswerCache.Proofs.Policy.Outcomes
