import RunWatch.Binary64.Basic
import RunWatch.Binary64.Decimal
import RunWatch.Binary64.Shortest
import RunWatch.Calendar
import RunWatch.Client
import RunWatch.CommandLine
import RunWatch.Console
import RunWatch.Controller.Basic
import RunWatch.Controller.Step
import RunWatch.Countdown
import RunWatch.Envelope
import RunWatch.Event
import RunWatch.Executor
import RunWatch.Failure
import RunWatch.Fault
import RunWatch.Http.Answer
import RunWatch.Http.Message
import RunWatch.Json.Basic
import RunWatch.Json.Number
import RunWatch.Json.Printer
import RunWatch.Json.Reader
import RunWatch.Json.Shape
import RunWatch.Json.Token
import RunWatch.Live
import RunWatch.Log
import RunWatch.Main
import RunWatch.Outcome
import RunWatch.Program
import RunWatch.Proofs.Bookkeeping
import RunWatch.Proofs.Cadence
import RunWatch.Proofs.Calls
import RunWatch.Proofs.Chronicle
import RunWatch.Proofs.Classification
import RunWatch.Proofs.Conflict
import RunWatch.Proofs.Counts
import RunWatch.Proofs.Display
import RunWatch.Proofs.Document
import RunWatch.Proofs.Enactment
import RunWatch.Proofs.Exactness
import RunWatch.Proofs.Executor
import RunWatch.Proofs.Farewell
import RunWatch.Proofs.Fetching
import RunWatch.Proofs.Freshness
import RunWatch.Proofs.History
import RunWatch.Proofs.Holding
import RunWatch.Proofs.Honesty
import RunWatch.Proofs.Isolation
import RunWatch.Proofs.Ledger
import RunWatch.Proofs.Narration
import RunWatch.Proofs.Newest
import RunWatch.Proofs.Normalization
import RunWatch.Proofs.Orderly
import RunWatch.Proofs.Pace
import RunWatch.Proofs.Phase
import RunWatch.Proofs.Polling
import RunWatch.Proofs.Printing
import RunWatch.Proofs.Quiet
import RunWatch.Proofs.Reopening
import RunWatch.Proofs.Replies
import RunWatch.Proofs.Report
import RunWatch.Proofs.Results
import RunWatch.Proofs.Rounding
import RunWatch.Proofs.Serving
import RunWatch.Proofs.Session
import RunWatch.Proofs.Setback
import RunWatch.Proofs.Shift
import RunWatch.Proofs.Showing
import RunWatch.Proofs.Step
import RunWatch.Proofs.System
import RunWatch.Proofs.Telling
import RunWatch.Proofs.Turn
import RunWatch.Proofs.Verdict
import RunWatch.Proofs.Vigil
import RunWatch.Proofs.Waiting
import RunWatch.Proofs.Wire
import RunWatch.Run
import RunWatch.Safety
import RunWatch.Session
import RunWatch.Settings
import RunWatch.Simulation.Flow
import RunWatch.Simulation.World
import RunWatch.Span
import RunWatch.Summary
import RunWatch.Text.Base64
import RunWatch.Text.Blank
import RunWatch.Text.CombiningClass
import RunWatch.Text.Composite
import RunWatch.Text.Digits
import RunWatch.Text.Hex
import RunWatch.Text.Mark
import RunWatch.Text.Normal
import RunWatch.Text.Parts
import RunWatch.Text.Quoted
import RunWatch.Text.Replacement
import RunWatch.Text.Table
import RunWatch.Text.Visible
import RunWatch.Timer
import RunWatch.Timestamp
import RunWatch.Timing
import RunWatch.Url.Basic
import RunWatch.Url.Domain
import RunWatch.Url.Domain.Direction
import RunWatch.Url.Domain.Joiner
import RunWatch.Url.Domain.Mapping
import RunWatch.Url.Host
import RunWatch.Url.Path
import RunWatch.Url.Percent
import RunWatch.Url.Punycode
import RunWatch.Url.Reader
import RunWatch.Usage
import RunWatch.Proofs.Counts
import RunWatch.Proofs.Gate
import RunWatch.Proofs.Minutes
import RunWatch.Proofs.Countdown
import RunWatch.Proofs.Horizon
