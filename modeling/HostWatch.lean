import HostWatch.Address.Fault
import HostWatch.Address.Host
import HostWatch.Address.Ipv4
import HostWatch.Address.Ipv6
import HostWatch.Address.Name
import HostWatch.Address.Name.Mapping
import HostWatch.Address.Path
import HostWatch.Address.Percent
import HostWatch.Address.Punycode
import HostWatch.Address.Target
import HostWatch.Address.Url
import HostWatch.Console.Arguments
import HostWatch.Console.Command
import HostWatch.Console.Complaint
import HostWatch.Console.Monitor
import HostWatch.Console.MonitorRun
import HostWatch.Console.ProcessTable
import HostWatch.Console.Screen
import HostWatch.Console.Summary
import HostWatch.Console.Terminal
import HostWatch.Console.TerminalRun
import HostWatch.Error
import HostWatch.Exchange.Network
import HostWatch.Exchange.Phrase
import HostWatch.Exchange.Reply
import HostWatch.Exchange.Request
import HostWatch.Hosts.Basic
import HostWatch.Hosts.File
import HostWatch.Json.Cursor
import HostWatch.Json.Fault
import HostWatch.Json.Printer
import HostWatch.Json.Record
import HostWatch.Json.Scalar
import HostWatch.Json.Skip
import HostWatch.Launch
import HostWatch.Main
import HostWatch.Number.Binary
import HostWatch.Number.Decimal
import HostWatch.Number.Hex
import HostWatch.Program
import HostWatch.Proofs.Address.Authority
import HostWatch.Proofs.Address.Derived
import HostWatch.Proofs.Address.Hosts
import HostWatch.Proofs.Address.Literals
import HostWatch.Proofs.Address.Names
import HostWatch.Proofs.Address.Ports
import HostWatch.Proofs.Address.Punycode
import HostWatch.Proofs.Address.Written
import HostWatch.Proofs.Console.CommandLine
import HostWatch.Proofs.Console.Lines
import HostWatch.Proofs.Console.Printing
import HostWatch.Proofs.Console.Typed
import HostWatch.Proofs.History
import HostWatch.Proofs.Hosts.Additions
import HostWatch.Proofs.Hosts.Choosing
import HostWatch.Proofs.Hosts.Indices
import HostWatch.Proofs.Hosts.Plain
import HostWatch.Proofs.Hosts.Rerun
import HostWatch.Proofs.Hosts.Saved
import HostWatch.Proofs.Hosts.Selection
import HostWatch.Proofs.Hosts.Switching
import HostWatch.Proofs.Json.Complaints
import HostWatch.Proofs.Json.Extension
import HostWatch.Proofs.Json.Fields
import HostWatch.Proofs.Json.Literal
import HostWatch.Proofs.Json.Numerals
import HostWatch.Proofs.Json.Passing
import HostWatch.Proofs.Json.Reading
import HostWatch.Proofs.Json.Records
import HostWatch.Proofs.Json.Refusal
import HostWatch.Proofs.Json.Spelling
import HostWatch.Proofs.Json.Truncation
import HostWatch.Proofs.Number.Naturals
import HostWatch.Proofs.Number.Rounding
import HostWatch.Proofs.Number.Words
import HostWatch.Proofs.Report.Complaints
import HostWatch.Proofs.Report.Cores
import HostWatch.Proofs.Report.Drafts
import HostWatch.Proofs.Report.Figures
import HostWatch.Proofs.Report.Shares
import HostWatch.Proofs.Report.Sizes
import HostWatch.Proofs.Report.Spelled
import HostWatch.Proofs.Report.Truncation
import HostWatch.Proofs.Shell.Agreement
import HostWatch.Proofs.Shell.Closing
import HostWatch.Proofs.Shell.Cuts
import HostWatch.Proofs.Shell.Deeds
import HostWatch.Proofs.Shell.Delivery
import HostWatch.Proofs.Shell.Dormant
import HostWatch.Proofs.Shell.Ending
import HostWatch.Proofs.Shell.Framing
import HostWatch.Proofs.Shell.Invariant
import HostWatch.Proofs.Shell.Messages
import HostWatch.Proofs.Shell.Received
import HostWatch.Proofs.Shell.Reports
import HostWatch.Proofs.Shell.Run
import HostWatch.Proofs.Shell.Stale
import HostWatch.Proofs.Shell.Statuses
import HostWatch.Proofs.Shell.Submission
import HostWatch.Proofs.Shell.Tenure
import HostWatch.Proofs.Shell.Transcript
import HostWatch.Proofs.Shell.Writing
import HostWatch.Proofs.Text.Held
import HostWatch.Proofs.Text.Leftovers
import HostWatch.Proofs.Text.LineEnds
import HostWatch.Proofs.Text.OneLine
import HostWatch.Proofs.Text.Pieces
import HostWatch.Proofs.Text.Sequences
import HostWatch.Proofs.Text.Utf8
import HostWatch.Proofs.Text.Words
import HostWatch.Proofs.Watch.Agenda
import HostWatch.Proofs.Watch.Facets
import HostWatch.Proofs.Watch.Isolation
import HostWatch.Proofs.Watch.Killing
import HostWatch.Proofs.Watch.Kills
import HostWatch.Proofs.Watch.Ledger
import HostWatch.Proofs.Watch.Lockstep
import HostWatch.Proofs.Watch.Loops
import HostWatch.Proofs.Watch.MadeUp
import HostWatch.Proofs.Watch.Plans
import HostWatch.Proofs.Watch.Replies
import HostWatch.Proofs.Watch.Resting
import HostWatch.Proofs.Watch.Rounds
import HostWatch.Proofs.Watch.Schedule
import HostWatch.Proofs.Watch.Scripted
import HostWatch.Proofs.Watch.Shedding
import HostWatch.Proofs.Watch.Step
import HostWatch.Proofs.Watch.System
import HostWatch.Proofs.Watch.Timetable
import HostWatch.Proofs.Watch.Twins
import HostWatch.Report.Basic
import HostWatch.Report.Decode
import HostWatch.Report.Share
import HostWatch.Report.Size
import HostWatch.Settings
import HostWatch.Shell.Event
import HostWatch.Shell.Feed
import HostWatch.Shell.Link
import HostWatch.Shell.Session
import HostWatch.Shell.Stage
import HostWatch.Shell.Trial
import HostWatch.Shell.Wire
import HostWatch.Text.Blank
import HostWatch.Text.Plain
import HostWatch.Text.Quoted
import HostWatch.Text.Search
import HostWatch.Text.Unicode.CombiningClass
import HostWatch.Text.Unicode.Composition
import HostWatch.Text.Unicode.Decomposition
import HostWatch.Text.Unicode.Direction
import HostWatch.Text.Unicode.Hidden
import HostWatch.Text.Unicode.Joining
import HostWatch.Text.Unicode.Mark
import HostWatch.Text.Unicode.Normal
import HostWatch.Text.Unicode.Table
import HostWatch.Text.Utf8
import HostWatch.Watch.Demo
import HostWatch.Watch.Engine
import HostWatch.Watch.Facet
import HostWatch.Watch.Network
import HostWatch.Watch.Script
import HostWatch.Watch.Source
import HostWatch.Watch.Telemetry
import HostWatch.Watch.Timeline
import HostWatch.Watch.Topic
