import Walkthrough.Action
import Walkthrough.Assertion
import Walkthrough.Channel
import Walkthrough.CommandLine.Attendance
import Walkthrough.CommandLine.Invocation
import Walkthrough.CommandLine.Target
import Walkthrough.Console
import Walkthrough.Criterion
import Walkthrough.Document
import Walkthrough.Duration
import Walkthrough.Flow.Basic
import Walkthrough.Flow.Batch
import Walkthrough.Flow.Dialogue
import Walkthrough.Flow.Frames
import Walkthrough.Flow.Logging
import Walkthrough.Flow.Program
import Walkthrough.Flow.Resource
import Walkthrough.Flow.Retry
import Walkthrough.Flow.Steps
import Walkthrough.Form.DurationText
import Walkthrough.Form.Field
import Walkthrough.Form.Model
import Walkthrough.Form.Problem
import Walkthrough.Host
import Walkthrough.Log
import Walkthrough.Main
import Walkthrough.Number.Decimal
import Walkthrough.Rehearsal.Audience
import Walkthrough.Rehearsal.Build
import Walkthrough.Rehearsal.Catalogue
import Walkthrough.Rehearsal.Command
import Walkthrough.Rehearsal.Engine
import Walkthrough.Rehearsal.Expression
import Walkthrough.Rehearsal.Named
import Walkthrough.Rehearsal.Page
import Walkthrough.Rehearsal.Performance
import Walkthrough.Rehearsal.Reading.Basic
import Walkthrough.Rehearsal.Reading.Catalogue
import Walkthrough.Rehearsal.Reading.Expression
import Walkthrough.Rehearsal.Reading.Page
import Walkthrough.Rehearsal.Reading.Performance
import Walkthrough.Rehearsal.Reading.Session
import Walkthrough.Rehearsal.Report.Basic
import Walkthrough.Rehearsal.Report.Session
import Walkthrough.Rehearsal.Script
import Walkthrough.Rehearsal.Value
import Walkthrough.Rehearsal.World
import Walkthrough.Run
import Walkthrough.Session.Answer
import Walkthrough.Session.Basic
import Walkthrough.Session.Browsing
import Walkthrough.Session.Dialogs
import Walkthrough.Session.Elements
import Walkthrough.Session.Lifecycle
import Walkthrough.Session.Locator
import Walkthrough.Session.Perform
import Walkthrough.Session.Tabs
import Walkthrough.Session.Turn
import Walkthrough.Settings.EnvFile
import Walkthrough.Settings.Environment
import Walkthrough.Settings.JsonText
import Walkthrough.Settings.Load
import Walkthrough.Settings.Reading
import Walkthrough.Text.Digit
import Walkthrough.Yaml.Cursor
import Walkthrough.Yaml.Node
import Walkthrough.Yaml.Read
import Walkthrough.Yaml.Text
import Walkthrough.Yaml.Token
import Walkthrough.Proofs.Behaviour.Basic
import Walkthrough.Proofs.Behaviour.Bind
import Walkthrough.Proofs.Behaviour.Raising
import Walkthrough.Proofs.Composed.Derived
import Walkthrough.Proofs.Faults.Breadcrumb
import Walkthrough.Proofs.Faults.Disclosure
import Walkthrough.Proofs.Faults.FailFast
import Walkthrough.Proofs.Log.Growth
import Walkthrough.Proofs.Log.Shape
import Walkthrough.Proofs.Resources.Release
import Walkthrough.Proofs.Run.Trace
import Walkthrough.Proofs.Run.Leads
import Walkthrough.Proofs.Waiting.Attempts
import Walkthrough.Proofs.State.Restored
import Walkthrough.Proofs.Twin.Drivers
import Walkthrough.Proofs.Selection.Unqueried
import Walkthrough.Proofs.Selection.Stages
import Walkthrough.Proofs.Selection.Levels
import Walkthrough.Proofs.Twin.Exchange
import Walkthrough.Proofs.Twin.Refusal
import Walkthrough.Proofs.Muting.Basic
import Walkthrough.Proofs.Muting.Resembles
import Walkthrough.Proofs.Muting.Invisible
import Walkthrough.Proofs.Settings.Precedence
import Walkthrough.Proofs.Session.Tabs
import Walkthrough.Proofs.Session.Twins
import Walkthrough.Proofs.Waiting.Restart
import Walkthrough.Proofs.Waiting.Success
import Walkthrough.Proofs.Waiting.Deadline
import Walkthrough.Proofs.Selection.Fresh
import Walkthrough.Proofs.Behaviour.Alternation
import Walkthrough.Proofs.Waiting.Repeats
import Walkthrough.Proofs.Run.Takes
import Walkthrough.Proofs.Waiting.Nested
import Walkthrough.Proofs.Selection.Duration
import Walkthrough.Proofs.Behaviour.Steps
import Walkthrough.Proofs.Batches.Sequence
import Walkthrough.Proofs.Batches.Collect
import Walkthrough.Proofs.Resources.Closing
import Walkthrough.Proofs.Session.Focus
import Walkthrough.Proofs.Channel.Registrations
import Walkthrough.Proofs.Faults.Sinks
import Walkthrough.Proofs.Session.Stopping
import Walkthrough.Proofs.CommandLine.Attendance
import Walkthrough.Proofs.Locator.XPath
import Walkthrough.Proofs.Locator.Css
import Walkthrough.Proofs.Locator.Classes
import Walkthrough.Proofs.Text.Numerals
import Walkthrough.Proofs.Run.Ends
import Walkthrough.Proofs.Elements.StackingOrder
import Walkthrough.Proofs.Number.Nearest
import Walkthrough.Proofs.Number.Clock
import Walkthrough.Proofs.Elements.Unread
import Walkthrough.Proofs.Elements.Snapshots
import Walkthrough.Proofs.Elements.Asking
import Walkthrough.Proofs.Elements.Uniqueness
import Walkthrough.Proofs.Elements.Clickable
import Walkthrough.Proofs.Faults.Nesting
import Walkthrough.Proofs.Session.Alerts
import Walkthrough.Proofs.Log.Merging
import Walkthrough.Proofs.Settings.Paths
