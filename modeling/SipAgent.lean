import SipAgent.Error
import SipAgent.Group.Action
import SipAgent.Group.Basic
import SipAgent.Group.Operations
import SipAgent.Group.Supervisor
import SipAgent.Grammar.Basic
import SipAgent.Grammar.Param
import SipAgent.Identity
import SipAgent.Message.Basic
import SipAgent.Message.Header
import SipAgent.Message.Signal
import SipAgent.Method
import SipAgent.Net.Address
import SipAgent.Net.IPv4
import SipAgent.Net.IPv6
import SipAgent.Profile
import SipAgent.Proofs.Group.Course
import SipAgent.Proofs.Group.Dispatch
import SipAgent.Proofs.Group.Keeps
import SipAgent.Proofs.Group.Overtaking
import SipAgent.Proofs.Group.Ownership
import SipAgent.Proofs.Group.Representation
import SipAgent.Proofs.Group.Scene
import SipAgent.Proofs.Group.Step
import SipAgent.Proofs.Session.Answer
import SipAgent.Proofs.Session.Asking
import SipAgent.Proofs.Session.Challenge
import SipAgent.Proofs.Session.Enacting
import SipAgent.Proofs.Session.Failure
import SipAgent.Proofs.Session.Handling
import SipAgent.Proofs.Session.Keys
import SipAgent.Proofs.Session.Listener
import SipAgent.Proofs.Session.Plan
import SipAgent.Proofs.Session.Process
import SipAgent.Proofs.Session.Reaction
import SipAgent.Proofs.Session.Refusal
import SipAgent.Proofs.Session.Script
import SipAgent.Proofs.Session.Shape
import SipAgent.Proofs.Timer.Queue
import SipAgent.Proofs.Transport.Journal
import SipAgent.Proofs.Transport.Recorder
import SipAgent.Registration.Backoff
import SipAgent.Registry
import SipAgent.Session.Basic
import SipAgent.Session.Event
import SipAgent.Session.Handling
import SipAgent.Session.Script
import SipAgent.Session.State
import SipAgent.Session.Step
import SipAgent.Session.Workspace
import SipAgent.Settings.Basic
import SipAgent.Settings.Load
import SipAgent.Settings.Path
import SipAgent.Settings.Setting
import SipAgent.Text.Alphanumeric
import SipAgent.Text.Blank
import SipAgent.Text.Cut
import SipAgent.Text.Numeral
import SipAgent.Text.Octets
import SipAgent.Timer
import SipAgent.Timer.Clock
import SipAgent.Tokenizer.Address
import SipAgent.Tokenizer.Fault
import SipAgent.Tokenizer.Fields
import SipAgent.Tokenizer.Message
import SipAgent.Tokenizer.Status
import SipAgent.Tokenizer.Version
import SipAgent.Toml.Binary64
import SipAgent.Toml.Document
import SipAgent.Toml.Moment
import SipAgent.Toml.Quoted
import SipAgent.Toml.Scalar
import SipAgent.Toml.Value
import SipAgent.Transport.Command
import SipAgent.Transport.Recorder
import SipAgent.Transport.Signal
import SipAgent.Uri.Basic
import SipAgent.Uri.Parse
import SipAgent.Uri.Reference
import SipAgent.Proofs.Supervisor.Bookkeeping
import SipAgent.Proofs.Supervisor.InOrder
import SipAgent.Proofs.Supervisor.Offline
import SipAgent.Proofs.Session.Registration
import SipAgent.Proofs.Supervisor.Engaged
import SipAgent.Proofs.Supervisor.Progress
import SipAgent.Proofs.Supervisor.KeyedOnline
import SipAgent.Proofs.Supervisor.Consistency
import SipAgent.Proofs.Group.Debts
import SipAgent.Proofs.Group.Answering
import SipAgent.Proofs.Group.Settling
import SipAgent.Proofs.Supervisor.Filing
import SipAgent.Proofs.Group.Confinement
import SipAgent.Proofs.Group.Isolation
import SipAgent.Proofs.Group.Replay
import SipAgent.Proofs.Group.Commuting
import SipAgent.Proofs.Session.Run
import SipAgent.Proofs.Session.Cancelling
import SipAgent.Proofs.Session.Changing
import SipAgent.Proofs.Group.Closing
import SipAgent.Proofs.Supervisor.Quiet
import SipAgent.Proofs.Timer.Alarm
import SipAgent.Proofs.Supervisor.Losing
import SipAgent.Proofs.Message.Decoding
import SipAgent.Proofs.Net.Canonical
import SipAgent.Proofs.Uri.Printed
import SipAgent.Proofs.Group.Commands
import SipAgent.Proofs.Message.Agreement
import SipAgent.Proofs.Message.Responding
import SipAgent.Proofs.Session.Expiry
import SipAgent.Proofs.Session.Ringing
import SipAgent.Proofs.Session.Media
import SipAgent.Proofs.Uri.Stable
import SipAgent.Proofs.Uri.Bracketed
import SipAgent.Proofs.Group.Account
import SipAgent.Proofs.Registration.Backoff
import SipAgent.Proofs.Supervisor.Granting
import SipAgent.Proofs.Supervisor.Schedule
import SipAgent.Proofs.Supervisor.Lease
import SipAgent.Proofs.Supervisor.Leasing
import SipAgent.Proofs.Supervisor.Lapsing
import SipAgent.Proofs.Supervisor.Belief
import SipAgent.Proofs.Supervisor.Echo
import SipAgent.Proofs.Supervisor.Status
import SipAgent.Proofs.Supervisor.Pinging
import SipAgent.Proofs.Supervisor.Keepalive
