import ArmControl.Duration.Basic
import ArmControl.Duration.Text
import ArmControl.Decimal.Shortest
import ArmControl.Decimal.Notation
import ArmControl.Decimal.Nearest
import ArmControl.Text.Digits
import ArmControl.Text.Glyphless
import ArmControl.Text.Quoted
import ArmControl.Text.Structured
import ArmControl.Error.Value
import ArmControl.Error.Link
import ArmControl.Error.Driver
import ArmControl.Error.Robot
import ArmControl.Check
import ArmControl.Frame
import ArmControl.Mode
import ArmControl.ArmState
import ArmControl.Command
import ArmControl.Target
import ArmControl.Request
import ArmControl.Injection
import ArmControl.Session.Kind
import ArmControl.Event
import ArmControl.Logging
import ArmControl.Link.Basic
import ArmControl.Link.Prepared
import ArmControl.Simulator.Basic
import ArmControl.Timing
import ArmControl.Metrics
import ArmControl.Station
import ArmControl.Driver
import ArmControl.CycleClock
import ArmControl.Supervisor
import ArmControl.Control.Callback
import ArmControl.Control.Loop
import ArmControl.Control.Reading
import ArmControl.Session.Basic
import ArmControl.Settings
import ArmControl.Robot.Basic
import ArmControl.Robot.Program
import ArmControl.Data.Tree
import ArmControl.Data.Json
import ArmControl.Data.Codec
import ArmControl.Data.Wire
import ArmControl.Toml.Value
import ArmControl.Toml.Scalar
import ArmControl.Toml.Quoted
import ArmControl.Toml.Document
import ArmControl.Toml.Settings
import ArmControl.Proofs.Comparison
import ArmControl.Proofs.Validation
import ArmControl.Proofs.Conditions
import ArmControl.Proofs.Verdicts
import ArmControl.Proofs.Symmetry
import ArmControl.Proofs.Merging
import ArmControl.Proofs.Timing
import ArmControl.Proofs.Data.Edits
import ArmControl.Proofs.Data.Model
import ArmControl.Proofs.Trace
import ArmControl.Proofs.Busy
import ArmControl.Proofs.Coupling.Basic
import ArmControl.Proofs.Coupling.Session
import ArmControl.Proofs.Tracing
import ArmControl.Proofs.Upkeep
import ArmControl.Proofs.History
import ArmControl.Proofs.Journal
import ArmControl.Proofs.Commands
import ArmControl.Proofs.Accounts
import ArmControl.Proofs.Control.Course
import ArmControl.Proofs.Control.Follows
import ArmControl.Proofs.Control.Adherence
import ArmControl.Proofs.Control.Standing
import ArmControl.Proofs.Control.Exchanges
import ArmControl.Proofs.Control.Outputs
import ArmControl.Proofs.Control.Faults
import ArmControl.Proofs.Control.Departure
import ArmControl.Proofs.Control.Supervision
import ArmControl.Proofs.Control.Timekeeping
import ArmControl.Proofs.Control.Plan
import ArmControl.Proofs.Control.Termination
import ArmControl.Proofs.Session.Exclusion
import ArmControl.Proofs.Session.Interjection
import ArmControl.Proofs.Session.Alongside
import ArmControl.Proofs.Session.Renewal
import ArmControl.Proofs.Robot.Use
import ArmControl.Proofs.Robot.Trace
import ArmControl.Proofs.Robot.Conduct
import ArmControl.Proofs.Robot.Anew
import ArmControl.Proofs.Robot.Protocol
import ArmControl.Proofs.Robot.Limit
import ArmControl.Proofs.Robot.Reading
import ArmControl.Proofs.Robot.Curtailment
import ArmControl.Proofs.Robot.Observer
import ArmControl.Proofs.Robot.Lasting
import ArmControl.Proofs.Robot.Schedule
import ArmControl.Proofs.Robot.Quiet
import ArmControl.Proofs.Robot.Volume
import ArmControl.Proofs.Robot.Replies
import ArmControl.Proofs.Simulator.Injections
import ArmControl.Proofs.Simulator.Deeds
import ArmControl.Proofs.Simulator.Configuration
import ArmControl.Proofs.Simulator.Records
import ArmControl.Proofs.Simulator.Recovery
import ArmControl.Proofs.Simulator.Calm
import ArmControl.Proofs.Simulator.Completion
import ArmControl.Proofs.Simulator.Requests
import ArmControl.Proofs.Simulator.Sanity
import ArmControl.Proofs.Simulator.Rest
import ArmControl.Proofs.Simulator.Unread
