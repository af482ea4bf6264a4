import Launcher.Cli.Options
import Launcher.Cli.Report
import Launcher.Cli.Tool
import Launcher.CommandLine.Join
import Launcher.CommandLine.Split
import Launcher.Config.Basic
import Launcher.Config.Choice
import Launcher.Config.Draft
import Launcher.Decimal.Binary64
import Launcher.Decimal.Literal
import Launcher.Decimal.Shortest
import Launcher.Failure
import Launcher.Fault
import Launcher.Handle
import Launcher.Host.Call
import Launcher.Host.Errno
import Launcher.Host.Fault
import Launcher.Host.Image
import Launcher.Host.Machine.Base
import Launcher.Host.Machine.Basic
import Launcher.Host.Machine.Call
import Launcher.Host.Machine.Clock
import Launcher.Host.Machine.Program
import Launcher.Host.Machine.Shell
import Launcher.Host.OpenFile
import Launcher.Host.Table
import Launcher.Host.Volume
import Launcher.Host.WaitStatus
import Launcher.Launch.Basic
import Launcher.Launch.Start
import Launcher.Main
import Launcher.Path
import Launcher.Proofs.Children.Care
import Launcher.Proofs.Children.Places
import Launcher.Proofs.Children.Records
import Launcher.Proofs.Children.World
import Launcher.Proofs.Cli.Command
import Launcher.Proofs.Cli.Outlast
import Launcher.Proofs.Cli.Supervision
import Launcher.Proofs.Cli.Verbatim
import Launcher.Proofs.CommandLine.Append
import Launcher.Proofs.CommandLine.Grammar
import Launcher.Proofs.CommandLine.Letters
import Launcher.Proofs.CommandLine.RoundTrip
import Launcher.Proofs.CommandLine.Turns
import Launcher.Proofs.Config.Settings
import Launcher.Proofs.Host.Protocol
import Launcher.Proofs.Host.Refusal
import Launcher.Proofs.Host.Service
import Launcher.Proofs.Host.Volume
import Launcher.Proofs.Jobs.Abandon
import Launcher.Proofs.Jobs.Cleanup
import Launcher.Proofs.Jobs.Control
import Launcher.Proofs.Jobs.Leading
import Launcher.Proofs.Jobs.Population
import Launcher.Proofs.Jobs.World
import Launcher.Proofs.Launch.Descriptors
import Launcher.Proofs.Launch.FirstFault
import Launcher.Proofs.Launch.Outcome
import Launcher.Proofs.Launch.Runs
import Launcher.Proofs.Launch.Streams
import Launcher.Proofs.Launch.Words
import Launcher.Proofs.Reaper.Loop
import Launcher.Proofs.Reaper.Rounds
import Launcher.Proofs.Spec.FileEntries
import Launcher.Proofs.Spec.Files
import Launcher.Proofs.Spec.KnownEntries
import Launcher.Proofs.Spec.RoundTrip
import Launcher.Proofs.Spec.StreamForms
import Launcher.Proofs.Tracked.History
import Launcher.Proofs.Tracked.World
import Launcher.Proofs.Yaml.Alike
import Launcher.Proofs.Yaml.Denotes
import Launcher.Proofs.Yaml.Entries
import Launcher.Proofs.Yaml.Tells
import Launcher.Reaper
import Launcher.Session.Action
import Launcher.Session.Basic
import Launcher.Session.Tool
import Launcher.Shell.Arithmetic
import Launcher.Shell.Builtin
import Launcher.Shell.Parse
import Launcher.Shell.Script
import Launcher.Shell.Task
import Launcher.Spec.Basic
import Launcher.Spec.Open
import Launcher.Spec.Read
import Launcher.Spec.Write
import Launcher.Status
import Launcher.Text.Hidden
import Launcher.Text.Quoted
import Launcher.Text.Utf8
import Launcher.Text.WhiteSpace
import Launcher.Yaml.Content
import Launcher.Yaml.Cursor
import Launcher.Yaml.Document
import Launcher.Yaml.Event
import Launcher.Yaml.Fault
import Launcher.Yaml.Reader
import Launcher.Yaml.Scalar
import Launcher.Yaml.Tag
import Launcher.Yaml.Token
import Launcher.Yaml.TokenStream
import Launcher.Yaml.Writer
