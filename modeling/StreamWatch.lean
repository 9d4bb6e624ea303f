import StreamWatch.CommandLine.Arguments
import StreamWatch.CommandLine.Help
import StreamWatch.CommandLine.Run
import StreamWatch.CommandLine.Session
import StreamWatch.Cron.Expression
import StreamWatch.Cron.Schedule
import StreamWatch.Cron.Text
import StreamWatch.Engine.Ask
import StreamWatch.Engine.Cell
import StreamWatch.Engine.Run
import StreamWatch.Engine.Summary
import StreamWatch.Failure
import StreamWatch.Json.Basic
import StreamWatch.Json.Decode
import StreamWatch.Json.Loose
import StreamWatch.Json.Reader
import StreamWatch.Json.Writer
import StreamWatch.Main
import StreamWatch.Number.Binary64
import StreamWatch.Number.Decimal
import StreamWatch.Number.Real
import StreamWatch.Number.Width
import StreamWatch.Probe.BlackTime
import StreamWatch.Probe.Error
import StreamWatch.Probe.Report
import StreamWatch.Probe.Tool
import StreamWatch.Program
import StreamWatch.Proofs.Cleanup.Removal
import StreamWatch.Proofs.Cleanup.Run
import StreamWatch.Proofs.Cleanup.Site
import StreamWatch.Proofs.Program.Frame
import StreamWatch.Proofs.Program.Run
import StreamWatch.Proofs.Ranking.Limit
import StreamWatch.Proofs.Ranking.Lineup
import StreamWatch.Proofs.Ranking.Mixing
import StreamWatch.Proofs.Ranking.Order
import StreamWatch.Proofs.Ranking.Share
import StreamWatch.Proofs.Remote.Pages
import StreamWatch.Proofs.Scheduler.Lifecycle
import StreamWatch.Proofs.Scheduler.Requests
import StreamWatch.Proofs.Store.Memory
import StreamWatch.Ranking.Candidate
import StreamWatch.Ranking.Limit
import StreamWatch.Ranking.Lineup
import StreamWatch.Ranking.Mixing
import StreamWatch.Ranking.Quality
import StreamWatch.Ranking.Settings
import StreamWatch.Rehearsal.Machine
import StreamWatch.Rehearsal.Reading
import StreamWatch.Rehearsal.Scenario
import StreamWatch.Rehearsal.Script
import StreamWatch.Rehearsal.Strand
import StreamWatch.Rehearsal.Thread
import StreamWatch.Rehearsal.World
import StreamWatch.Remote.Call
import StreamWatch.Remote.Error
import StreamWatch.Remote.Http
import StreamWatch.Remote.Pages
import StreamWatch.Remote.Resource
import StreamWatch.Remote.Url
import StreamWatch.Scheduler.Error
import StreamWatch.Scheduler.Mailbox
import StreamWatch.Scheduler.Table
import StreamWatch.Service.Control
import StreamWatch.Service.Execution
import StreamWatch.Service.State
import StreamWatch.Settings.Environment
import StreamWatch.Settings.File
import StreamWatch.Settings.Service
import StreamWatch.Settings.Task
import StreamWatch.SortedMap
import StreamWatch.Stats.Metrics
import StreamWatch.Stats.Record
import StreamWatch.Store.Address
import StreamWatch.Store.Call
import StreamWatch.Store.Error
import StreamWatch.Store.Memory
import StreamWatch.Store.Records
import StreamWatch.Store.Row
import StreamWatch.Store.Statement
import StreamWatch.Store.Table
import StreamWatch.Task.Batch
import StreamWatch.Task.Cleanup
import StreamWatch.Task.Duty
import StreamWatch.Task.GuideRefresh
import StreamWatch.Task.Merge
import StreamWatch.Task.ProbeRun
import StreamWatch.Task.Progress
import StreamWatch.Task.Result
import StreamWatch.Task.Timing
import StreamWatch.Text.Blank
import StreamWatch.Text.Digit
import StreamWatch.Text.Search
import StreamWatch.Text.Utf8
import StreamWatch.Time.Calendar
import StreamWatch.Time.Duration
import StreamWatch.Time.Duration.Text
import StreamWatch.Time.Instant
import StreamWatch.Time.Instant.Text
import StreamWatch.Toml.Document
import StreamWatch.Toml.Reader
import StreamWatch.Toml.Scalar
import StreamWatch.Toml.Table
import StreamWatch.Proofs.Store.History
import StreamWatch.Proofs.Store.Row
import StreamWatch.Proofs.Store.Times
import StreamWatch.Proofs.Store.Reset
import StreamWatch.Proofs.Store.Table
import StreamWatch.Proofs.Ranking.Demotion
import StreamWatch.Proofs.Program.Company
import StreamWatch.Proofs.Engine.Site
import StreamWatch.Proofs.Engine.Summary
import StreamWatch.Proofs.Engine.Stream
import StreamWatch.Proofs.Engine.Crew
import StreamWatch.Proofs.Engine.Run
import StreamWatch.Proofs.Engine.Accounts
import StreamWatch.Proofs.Steps
import StreamWatch.Proofs.Time.Instant
import StreamWatch.Proofs.Cron.Schedule
import StreamWatch.Proofs.Task.Timing
import StreamWatch.Proofs.Scheduler.Diary
import StreamWatch.Proofs.Store.Halves
import StreamWatch.Proofs.Store.Overlap
import StreamWatch.Proofs.Program.Thread
import StreamWatch.Proofs.Program.Turns
import StreamWatch.Proofs.Engine.Stage
import StreamWatch.Proofs.Engine.Passage
import StreamWatch.Proofs.Task.Errand
import StreamWatch.Proofs.Task.Desk
import StreamWatch.Proofs.Task.Underway
import StreamWatch.Proofs.Task.Cancellation
import StreamWatch.Proofs.Task.Bench
import StreamWatch.Proofs.Task.Crowd
import StreamWatch.Proofs.Ranking.Spread
import StreamWatch.Proofs.Program.Phases
import StreamWatch.Proofs.Engine.Hall
import StreamWatch.Proofs.Engine.Calls
import StreamWatch.Proofs.Task.Report
import StreamWatch.Proofs.Task.Sheet
import StreamWatch.Proofs.Task.Rounds
import StreamWatch.Proofs.Program.Mirror
import StreamWatch.Proofs.Task.Post
import StreamWatch.Proofs.Task.Account
import StreamWatch.Proofs.Scheduler.Executions
import StreamWatch.Proofs.Store.Kept
import StreamWatch.Proofs.Task.Polling
import StreamWatch.Proofs.Cleanup.Repeat
import StreamWatch.Proofs.Engine.Isolation
import StreamWatch.Proofs.Task.NextStart
import StreamWatch.Proofs.Task.Fates
import StreamWatch.Proofs.Task.Tour
import StreamWatch.Proofs.Task.Vigil
import StreamWatch.Proofs.Ranking.Health
import StreamWatch.Proofs.Ranking.Turns
import StreamWatch.Proofs.Number.Decimal
import StreamWatch.Proofs.Time.Duration
import StreamWatch.Proofs.Json.Members
import StreamWatch.Proofs.Settings.Change
import StreamWatch.Proofs.Settings.Rejection
import StreamWatch.Proofs.Remote.Walk
import StreamWatch.Proofs.Remote.Listing
import StreamWatch.Proofs.Task.Telling
import StreamWatch.Proofs.Task.Snapshots
import StreamWatch.Proofs.Engine.Snapshots
import StreamWatch.Proofs.Text.Blank
import StreamWatch.Proofs.Stats.Resolution
import StreamWatch.Proofs.Probe.BlackTime
import StreamWatch.Proofs.Probe.Report
import StreamWatch.Proofs.Probe.Resolution
import StreamWatch.Proofs.Cron.Expression
import StreamWatch.Proofs.Cron.Text
import StreamWatch.Proofs.Program.Returns
import StreamWatch.Proofs.Task.Faults
import StreamWatch.Proofs.Settings.Runnable
