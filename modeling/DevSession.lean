import DevSession.Command.Arguments
import DevSession.Command.Basic
import DevSession.Command.Report
import DevSession.Command.Run
import DevSession.Commit
import DevSession.Critic
import DevSession.Disk
import DevSession.Double
import DevSession.Event
import DevSession.Fault
import DevSession.Handle
import DevSession.Id
import DevSession.Instant.Basic
import DevSession.Instant.Format
import DevSession.Instant.Reader
import DevSession.Journal
import DevSession.Json.Basic
import DevSession.Json.Form
import DevSession.Json.Reader
import DevSession.Json.Writer
import DevSession.Main
import DevSession.Mutation
import DevSession.Panel
import DevSession.Plan
import DevSession.Proofs.AuditLog
import DevSession.Proofs.Chronology
import DevSession.Proofs.Commit
import DevSession.Proofs.Delivery
import DevSession.Proofs.Disk
import DevSession.Proofs.Fault
import DevSession.Proofs.Handle
import DevSession.Proofs.History
import DevSession.Proofs.Instant
import DevSession.Proofs.Isolation
import DevSession.Proofs.Journal
import DevSession.Proofs.Json.Continuation
import DevSession.Proofs.Json.Forms
import DevSession.Proofs.Json.RoundTrip
import DevSession.Proofs.Life
import DevSession.Proofs.Lifecycle
import DevSession.Proofs.Numbering
import DevSession.Proofs.Proposal
import DevSession.Proofs.Readings
import DevSession.Proofs.Replay
import DevSession.Proofs.Reports
import DevSession.Proofs.Retention
import DevSession.Proofs.Roster
import DevSession.Proofs.Shared
import DevSession.Proofs.Store
import DevSession.Proofs.TaskGraph.Commits
import DevSession.Proofs.TaskGraph.Paths
import DevSession.Proofs.TaskGraph.Safety
import DevSession.Proofs.TaskGraph.Steps
import DevSession.Proofs.Text.Decimal
import DevSession.Proofs.Text.Lines
import DevSession.Proofs.TornJournal
import DevSession.Proofs.Transparency
import DevSession.Proofs.Verdicts
import DevSession.Proofs.Workers
import DevSession.Review
import DevSession.Roster
import DevSession.Session
import DevSession.SessionState
import DevSession.Settings
import DevSession.Sha256
import DevSession.Store
import DevSession.Subscription
import DevSession.Task
import DevSession.TaskGraph
import DevSession.Text.Blank
import DevSession.Text.Casing
import DevSession.Text.Decimal
import DevSession.Text.Lines
import DevSession.Text.Quoted
import DevSession.Timeline
import DevSession.Toml.Document
import DevSession.Toml.Scalar
import DevSession.Toml.Text
import DevSession.Worker
import DevSession.Workspace
import DevSession.Proofs.Acceptance
import DevSession.Proofs.Admission
import DevSession.Proofs.Discipline
import DevSession.Proofs.Completion
import DevSession.Proofs.Aftermath
import DevSession.Proofs.Headroom
import DevSession.Proofs.TaskGraph.Independence
import DevSession.Proofs.Filing
import DevSession.Proofs.ReportOrder
import DevSession.Proofs.DiskContents
import DevSession.Proofs.Command.Actions
import DevSession.Proofs.Command.Journaling
import DevSession.Proofs.TaskGraph.Readiness
import DevSession.Proofs.Reopening
import DevSession.Proofs.LatestVerdict
import DevSession.Proofs.Summary
import DevSession.Proofs.Syntheses
import DevSession.Proofs.Text.Pieces
import DevSession.Proofs.Timeline.Items
import DevSession.Proofs.Path
import DevSession.Proofs.Timeline.Growth
import DevSession.Proofs.Text.Blank
import DevSession.Proofs.Text.Casing
import DevSession.Proofs.TextForms
import DevSession.Proofs.TaskGraph.Walk
import DevSession.Proofs.Text.Places
import DevSession.Proofs.WrittenNumbers
import DevSession.Proofs.Calendar
import DevSession.Proofs.Naming
import DevSession.Proofs.Timestamps
