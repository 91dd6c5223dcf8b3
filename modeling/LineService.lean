import LineService.Client.Basic
import LineService.Client.Dialogue
import LineService.Client.Link
import LineService.Client.Options
import LineService.Crew.Basic
import LineService.Crew.Job
import LineService.Crew.Settle
import LineService.Crew.Workshop
import LineService.Files.Directory
import LineService.Files.Fault
import LineService.Files.Path
import LineService.Journal.Record
import LineService.Journal.Start
import LineService.Line.Basic
import LineService.Line.Inbox
import LineService.Machine
import LineService.Main
import LineService.Moment
import LineService.Net.Address
import LineService.Net.Endpoint
import LineService.Net.Fault
import LineService.Net.Host
import LineService.Program.Basic
import LineService.Program.Client
import LineService.Program.Server
import LineService.Program.Serving
import LineService.Program.Trial
import LineService.Proofs.Client.Arguments
import LineService.Proofs.Client.Conversation
import LineService.Proofs.Client.Delivery
import LineService.Proofs.Client.Dialogues
import LineService.Proofs.Client.Exchange
import LineService.Proofs.Client.Playing
import LineService.Proofs.Crew.Accounting
import LineService.Proofs.Crew.Admission
import LineService.Proofs.Crew.Founding
import LineService.Proofs.Crew.Griefs
import LineService.Proofs.Crew.Places
import LineService.Proofs.Crew.Shutdown
import LineService.Proofs.Crew.Standing
import LineService.Proofs.Crew.Turns
import LineService.Proofs.Crew.Winding
import LineService.Proofs.Crew.Workshop
import LineService.Proofs.Journal.Lines
import LineService.Proofs.Line.Arrival
import LineService.Proofs.Line.Calls
import LineService.Proofs.Line.Framing
import LineService.Proofs.Line.RoundTrip
import LineService.Proofs.Line.Texts
import LineService.Proofs.Line.Trimming
import LineService.Proofs.Machine.Latch
import LineService.Proofs.Machine.Runs
import LineService.Proofs.Machine.Watching
import LineService.Proofs.Moment.Writing
import LineService.Proofs.Queue.Order
import LineService.Proofs.Queue.Replies
import LineService.Proofs.Queue.Turns
import LineService.Proofs.Queue.Wakeups
import LineService.Proofs.Reception.Offers
import LineService.Proofs.Reception.Stopping
import LineService.Proofs.Reception.Turns
import LineService.Proofs.Request.Wire
import LineService.Proofs.Service.Count
import LineService.Proofs.Service.Dispatch
import LineService.Proofs.Service.Fates
import LineService.Proofs.Service.Isolation
import LineService.Proofs.Service.Launch
import LineService.Proofs.Service.Record
import LineService.Proofs.Service.Roll
import LineService.Proofs.Service.Sessions
import LineService.Proofs.Service.Shared
import LineService.Proofs.Service.Start
import LineService.Proofs.Service.Startup
import LineService.Proofs.Service.Turns
import LineService.Proofs.Session.Agenda
import LineService.Proofs.Session.Answers
import LineService.Proofs.Session.Forgery
import LineService.Proofs.Session.Likeness
import LineService.Proofs.Session.Readable
import LineService.Proofs.Session.Turns
import LineService.Proofs.Settings.Acceptance
import LineService.Proofs.Settings.Laws
import LineService.Proofs.Settings.Loading
import LineService.Proofs.Settings.Names
import LineService.Proofs.Settings.Plain
import LineService.Proofs.StandIn.Documented
import LineService.Proofs.StandIn.Rows
import LineService.Proofs.Tally.Balance
import LineService.Proofs.Text.Decoding
import LineService.Proofs.Text.Ends
import LineService.Proofs.Text.Numerals
import LineService.Proofs.Trial.Crowd
import LineService.Proofs.Trial.Echoes
import LineService.Proofs.Trial.Failures
import LineService.Proofs.Trial.Members
import LineService.Proofs.Trial.Outcome
import LineService.Proofs.Trial.Sites
import LineService.Queue
import LineService.Reception
import LineService.Request
import LineService.Service.Basic
import LineService.Service.Bind
import LineService.Service.Settle
import LineService.Session
import LineService.Settings.Basic
import LineService.Settings.Load
import LineService.Shell.Client
import LineService.Shell.Server
import LineService.Shell.Sockets
import LineService.StandIn.Collector
import LineService.StandIn.Cursor
import LineService.StandIn.Document
import LineService.StandIn.Path
import LineService.StandIn.Tree
import LineService.Tally.Basic
import LineService.Tally.Turnstile
import LineService.Text.Blank
import LineService.Text.Case
import LineService.Text.CaseTable
import LineService.Text.Numeral
import LineService.Text.Plain
import LineService.Text.Quoted
import LineService.Text.Utf8
import LineService.Text.VeilTable
import LineService.Trial.Basic
import LineService.Trial.Conformance
import LineService.Trial.Crowd
import LineService.Trial.Load
