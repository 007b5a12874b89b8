import Shipyard.Archive
import Shipyard.Builder.Decision
import Shipyard.Builder.Image
import Shipyard.Builder.Registration
import Shipyard.CommandLine.Arguments
import Shipyard.CommandLine.Commands
import Shipyard.CommandLine.Program
import Shipyard.Completion
import Shipyard.Conformance.Case
import Shipyard.Conformance.Expectation
import Shipyard.Conformance.Login
import Shipyard.Conformance.Runner
import Shipyard.Conformance.Suite
import Shipyard.Conformance.Tally
import Shipyard.Context
import Shipyard.Decimal.Binary64
import Shipyard.Decimal.OnePlace
import Shipyard.Decimal.Power
import Shipyard.Decimal.Shortest
import Shipyard.Deploy.Plan
import Shipyard.Deploy.Run
import Shipyard.Failure
import Shipyard.Health
import Shipyard.Host
import Shipyard.Http.Address
import Shipyard.Http.HostName
import Shipyard.Http.Sending
import Shipyard.Http.Service
import Shipyard.Http.Url
import Shipyard.Json.Basic
import Shipyard.Json.Decode
import Shipyard.Json.Draft
import Shipyard.Json.Fault
import Shipyard.Json.Numeral
import Shipyard.Json.Printer
import Shipyard.JsonPath.Evaluation
import Shipyard.JsonPath.Parser
import Shipyard.JsonPath.Query
import Shipyard.Main
import Shipyard.Pattern.Basic
import Shipyard.Pattern.Bracket
import Shipyard.Pattern.Escape
import Shipyard.Pattern.Match
import Shipyard.Pattern.Meaning
import Shipyard.Pattern.Reader
import Shipyard.Pattern.Size
import Shipyard.Pattern.Written
import Shipyard.Proofs.Alike.Basic
import Shipyard.Proofs.Alike.Release
import Shipyard.Proofs.Archive.Handoff
import Shipyard.Proofs.CommandLine.ExitCode
import Shipyard.Proofs.Conformance.Account
import Shipyard.Proofs.Conformance.Bearer
import Shipyard.Proofs.Conformance.Count
import Shipyard.Proofs.Conformance.Course
import Shipyard.Proofs.Conformance.Discovery
import Shipyard.Proofs.Conformance.Isolation
import Shipyard.Proofs.Conformance.Order
import Shipyard.Proofs.Context.Accepted
import Shipyard.Proofs.Deploy.Course
import Shipyard.Proofs.Json.Number
import Shipyard.Proofs.Release.Course
import Shipyard.Proofs.Release.Gate
import Shipyard.Proofs.Release.Issue
import Shipyard.Proofs.Release.Verdict
import Shipyard.Proofs.Remote.Attempts
import Shipyard.Proofs.Shell.Words
import Shipyard.Proofs.Template.Filling
import Shipyard.Proofs.Text.Blank
import Shipyard.Proofs.Text.Dictionary
import Shipyard.Proofs.Trace.Basic
import Shipyard.Proofs.Trace.Event
import Shipyard.Proofs.Trace.Faithful
import Shipyard.Proofs.Trace.Machine
import Shipyard.Redaction
import Shipyard.Rehearsal.Interpreter
import Shipyard.Rehearsal.Machine
import Shipyard.Rehearsal.Programs
import Shipyard.Rehearsal.World
import Shipyard.Release.Pipeline
import Shipyard.Release.Report
import Shipyard.Release.Stage
import Shipyard.ReleaseFile.Basic
import Shipyard.ReleaseFile.Decode
import Shipyard.ReleaseFile.Encode
import Shipyard.ReleaseFile.Load
import Shipyard.Remote.Session
import Shipyard.Remote.Ssh
import Shipyard.Retry
import Shipyard.Secret
import Shipyard.Shell.Quote
import Shipyard.Shell.Token
import Shipyard.Template
import Shipyard.Text.Blank
import Shipyard.Text.Dictionary
import Shipyard.Text.Digits
import Shipyard.Text.Lines
import Shipyard.Text.LowerCase
import Shipyard.Text.Moment
import Shipyard.Text.Punycode
import Shipyard.Text.Quoted
import Shipyard.Text.Utf8
import Shipyard.Unicode.Age
import Shipyard.Unicode.Category
import Shipyard.Unicode.CodeRun
import Shipyard.Unicode.CodeSet
import Shipyard.Unicode.Composition
import Shipyard.Unicode.Direction
import Shipyard.Unicode.Entry
import Shipyard.Unicode.Folding
import Shipyard.Unicode.Joining
import Shipyard.Unicode.Mark
import Shipyard.Unicode.Named
import Shipyard.Unicode.Printable
import Shipyard.Unicode.Property
import Shipyard.Unicode.Script
import Shipyard.Unicode.Segmentation
import Shipyard.Unicode.Tables.Age
import Shipyard.Unicode.Tables.Category
import Shipyard.Unicode.Tables.Composition
import Shipyard.Unicode.Tables.Direction
import Shipyard.Unicode.Tables.Folding
import Shipyard.Unicode.Tables.HostName
import Shipyard.Unicode.Tables.Joining
import Shipyard.Unicode.Tables.Mark
import Shipyard.Unicode.Tables.Printable
import Shipyard.Unicode.Tables.Property
import Shipyard.Unicode.Tables.Script
import Shipyard.Unicode.Tables.Segmentation
import Shipyard.Unicode.Word
import Shipyard.Proofs.Deploy.Commands
import Shipyard.Proofs.Deploy.Sent
import Shipyard.Proofs.Remote.Budget
import Shipyard.Proofs.Builder.Redacted
import Shipyard.Proofs.Deploy.Local
import Shipyard.Proofs.Conformance.Confidential
import Shipyard.Proofs.Json.Escape
import Shipyard.Proofs.Json.RoundTrip
import Shipyard.Proofs.Json.Members
import Shipyard.Proofs.Json.Restore
import Shipyard.Proofs.ReleaseFile.RoundTrip
import Shipyard.Proofs.ReleaseFile.Sections
import Shipyard.Proofs.Archive.Lifecycle
import Shipyard.Proofs.Conformance.Braces
import Shipyard.Proofs.Conformance.Label
import Shipyard.Proofs.Health.Attempts
import Shipyard.Proofs.Conformance.Readiness
import Shipyard.Proofs.Secret.Disclosure
import Shipyard.Proofs.Secret.Lookup
import Shipyard.Proofs.Unicode.Apart
import Shipyard.Proofs.Conformance.Path
import Shipyard.Proofs.Conformance.Plausible
import Shipyard.Proofs.Context.Required
import Shipyard.Proofs.Health.Gate
import Shipyard.Proofs.Builder.Selection
import Shipyard.Proofs.Builder.Registration
import Shipyard.Proofs.Secret.Stripped
import Shipyard.Proofs.Text.Lines
import Shipyard.Proofs.Json.Taken
import Shipyard.Proofs.Conformance.RoundTrip
import Shipyard.Proofs.Conformance.Status
import Shipyard.Proofs.Context.Cleared
import Shipyard.Proofs.Retry.Calls
