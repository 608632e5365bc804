import Taskweave.Json.Printer
import Taskweave.Json.Reader
import Taskweave.Unicode.Lowercase
import Taskweave.Unicode.Folding
import Taskweave.Unicode.Script
import Taskweave.Text.Blank
import Taskweave.Text.Utf8
import Taskweave.Text.Quoted
import Taskweave.Time.Duration
import Taskweave.Time.Instant
import Taskweave.Task.Status
import Taskweave.Error
import Taskweave.Task.Record
import Taskweave.Schedule.ReadyQueue
import Taskweave.Schedule.DependencyIndex
import Taskweave.Schedule.Scheduler
import Taskweave.Execution.ExecutorError
import Taskweave.Execution.Registry
import Taskweave.Run.Options
import Taskweave.Run.Dispatch
import Taskweave.Run.Snapshot
import Taskweave.Run.Orchestrator
import Taskweave.Pattern.Basic
import Taskweave.Pattern.Reader
import Taskweave.Pattern.Match
import Taskweave.Workflow.Draft
import Taskweave.Workflow.Order
import Taskweave.Workflow.Basic
import Taskweave.Toml.Basic
import Taskweave.Toml.Moment
import Taskweave.Toml.Scalar
import Taskweave.Toml.Text
import Taskweave.Toml.Tree
import Taskweave.Toml.Reader
import Taskweave.Workflow.File
import Taskweave.Run.Coordinator
import Taskweave.Rehearsal.Script
import Taskweave.Rehearsal.Stage
import Taskweave.Rehearsal.Play
import Taskweave.CommandLine.Level
import Taskweave.CommandLine.Options
import Taskweave.CommandLine.Program
import Taskweave.CommandLine.Report
import Taskweave.Dict
import Taskweave.Digest.Blake3
import Taskweave.Disk.Basic
import Taskweave.Disk.Path
import Taskweave.Execution.Command
import Taskweave.Execution.Process
import Taskweave.Glob.Basic
import Taskweave.Glob.Reader
import Taskweave.Json.Basic
import Taskweave.Json.Numeral
import Taskweave.Number.Binary64
import Taskweave.Number.Shortest
import Taskweave.Pattern.Size
import Taskweave.Run.Session
import Taskweave.Shell.Code
import Taskweave.Shell.Run
import Taskweave.Shell.Token
import Taskweave.Shell.Tool
import Taskweave.Store.Basic
import Taskweave.Store.Key
import Taskweave.Store.Local
import Taskweave.Store.Memory
import Taskweave.Store.RoleMemory
import Taskweave.Unicode.Category
import Taskweave.Unicode.Property
import Taskweave.Unicode.Ranges
import Taskweave.Main
import Taskweave.Shell.Arithmetic
import Taskweave.Proofs.Dict
import Taskweave.Proofs.Schedule.Parts
import Taskweave.Proofs.Schedule.Records
import Taskweave.Proofs.Schedule.Sweep
import Taskweave.Proofs.Schedule.Effects
import Taskweave.Proofs.Schedule.Coherence
import Taskweave.Proofs.Schedule.Lifecycle
import Taskweave.Proofs.Schedule.History
import Taskweave.Proofs.Schedule.Failures
import Taskweave.Proofs.Schedule.Consistency
import Taskweave.Proofs.Schedule.Plan
import Taskweave.Proofs.Schedule.Starvation
import Taskweave.Proofs.Schedule.Settling
import Taskweave.Proofs.Schedule.Completion
import Taskweave.Proofs.Run.Saturation
import Taskweave.Proofs.Run.Turn
import Taskweave.Proofs.Run.Protocol
import Taskweave.Proofs.Run.Accounts
import Taskweave.Proofs.Run.Requests
import Taskweave.Proofs.Run.Steps
import Taskweave.Proofs.Run.Operations
import Taskweave.Proofs.Run.Summaries
import Taskweave.Proofs.Run.Preparation
import Taskweave.Proofs.Run.Progress
import Taskweave.Proofs.Run.Transparency
import Taskweave.Proofs.Schedule.QueueOrder
import Taskweave.Proofs.Workflow.Order
import Taskweave.Proofs.Workflow.Acceptance
import Taskweave.Proofs.Schedule.Submissions
import Taskweave.Proofs.Run.Success
import Taskweave.Proofs.Run.Sessions
import Taskweave.Proofs.Workflow.Search
import Taskweave.Proofs.CommandLine.Startup
import Taskweave.Proofs.Json.Strings
import Taskweave.Proofs.Json.Numerals
import Taskweave.Proofs.Json.Rereading
import Taskweave.Proofs.Text.Padded
import Taskweave.Proofs.Text.Utf8
import Taskweave.Proofs.Time.Calendar
import Taskweave.Proofs.Time.Stamp
import Taskweave.Proofs.Glob.Matching
import Taskweave.Proofs.Glob.Reading
import Taskweave.Proofs.Store.Keys
import Taskweave.Proofs.Store.Memory
import Taskweave.Proofs.Store.Listing
import Taskweave.Proofs.Store.Versioning
import Taskweave.Proofs.Store.Channels
import Taskweave.Proofs.Json.Stable
import Taskweave.Proofs.Store.States
import Taskweave.Proofs.Store.Updates
import Taskweave.Proofs.Disk.Path
import Taskweave.Proofs.Disk.Walk
import Taskweave.Proofs.Disk.Beneath
import Taskweave.Proofs.Store.Confinement
import Taskweave.Proofs.Disk.Descent
import Taskweave.Proofs.Store.Plain
import Taskweave.Proofs.Store.Agreement
import Taskweave.Proofs.Schedule.Downstream
import Taskweave.Proofs.Schedule.Release
import Taskweave.Proofs.Schedule.Admission
import Taskweave.Proofs.Schedule.Undated
import Taskweave.Proofs.Run.Independence
import Taskweave.Proofs.Run.OneByOne
import Taskweave.Proofs.Run.Filling
import Taskweave.Proofs.Workflow.Blame
import Taskweave.Proofs.Text.Blank
import Taskweave.Proofs.Unicode.Lowercase
import Taskweave.Proofs.Time.Duration
import Taskweave.Proofs.Store.Saving
import Taskweave.Proofs.Run.Reports
import Taskweave.Proofs.Schedule.Resolution
import Taskweave.Proofs.Text.Lines
import Taskweave.Proofs.Text.Decoding
import Taskweave.Proofs.Execution.Outcome
