import QuerySwarm.Binary64.Decimal
import QuerySwarm.Duration
import QuerySwarm.Text.Base64
import QuerySwarm.Text.Quoted
import QuerySwarm.Text.Utf8
import QuerySwarm.Text.Whitespace
import QuerySwarm.Json.Value
import QuerySwarm.Json.Printer
import QuerySwarm.Json.Token
import QuerySwarm.Json.Reader
import QuerySwarm.Files
import QuerySwarm.Request.Reader
import QuerySwarm.Response
import QuerySwarm.Unicode.Mapping
import QuerySwarm.Unicode.Composition
import QuerySwarm.Unicode.Joining
import QuerySwarm.Unicode.Direction
import QuerySwarm.Unicode.Mark
import QuerySwarm.Url.Address
import QuerySwarm.Url.DomainName
import QuerySwarm.Url.Parser
import QuerySwarm.Url.Resolve
import QuerySwarm.Http.Message
import QuerySwarm.Http.Exchange
import QuerySwarm.Http.Wire
import QuerySwarm.Log
import QuerySwarm.WordSource
import QuerySwarm.Scenario
import QuerySwarm.Setup.Error
import QuerySwarm.ThinkTime
import QuerySwarm.Environment
import QuerySwarm.Token
import QuerySwarm.LoadProfile
import QuerySwarm.Settings
import QuerySwarm.Task.Basic
import QuerySwarm.Task.Set
import QuerySwarm.Task.Catalog
import QuerySwarm.CommandLine.Value
import QuerySwarm.CommandLine.Options
import QuerySwarm.CommandLine.Similarity
import QuerySwarm.CommandLine.Form
import QuerySwarm.CommandLine.Help
import QuerySwarm.CommandLine.Error
import QuerySwarm.CommandLine.Reader
import QuerySwarm.CommandLine.Commands
import QuerySwarm.Endpoint
import QuerySwarm.Setup.Resolve
import QuerySwarm.SortedMap
import QuerySwarm.Latency.Histogram
import QuerySwarm.Latency.Statistics
import QuerySwarm.Tally
import QuerySwarm.Report.Console
import QuerySwarm.Report.Summary
import QuerySwarm.Sample
import QuerySwarm.Client
import QuerySwarm.User
import QuerySwarm.LoadTest
import QuerySwarm.Swarm.Basic
import QuerySwarm.Swarm.Timeline
import QuerySwarm.Run
import QuerySwarm.Calendar
import QuerySwarm.Program
import QuerySwarm.Transport
import QuerySwarm.Main
import QuerySwarm.Proofs.Binary64.Range
import QuerySwarm.Proofs.ThinkTime.Draw
import QuerySwarm.Proofs.Url.Form
import QuerySwarm.Proofs.Sums
import QuerySwarm.Proofs.Swarm.Actions
import QuerySwarm.Proofs.Swarm.Accounting
import QuerySwarm.Proofs.Tally.Threads
import QuerySwarm.Proofs.Tally.Orders
import QuerySwarm.Proofs.Tally.Calls
import QuerySwarm.Proofs.Tally.Interleaving
import QuerySwarm.Proofs.Client.Samples
import QuerySwarm.Proofs.Client.Secrecy
import QuerySwarm.Proofs.Endpoint
import QuerySwarm.Proofs.Client.Redirects
import QuerySwarm.Proofs.Client.Credentials
import QuerySwarm.Proofs.Swarm.Timeline
import QuerySwarm.Proofs.Swarm.Worlds
import QuerySwarm.Proofs.Swarm.Moves
import QuerySwarm.Proofs.Swarm.Schedule
import QuerySwarm.Proofs.Swarm.OnTime
import QuerySwarm.Proofs.Swarm.Progress
import QuerySwarm.Proofs.Run.Runnable
import QuerySwarm.Proofs.Run.Timetable
import QuerySwarm.Proofs.Run.Secrecy
import QuerySwarm.Proofs.Binary64.Order
import QuerySwarm.Proofs.Latency.Bins
import QuerySwarm.Proofs.Latency.Rank
import QuerySwarm.Proofs.Latency.Parts
import QuerySwarm.Proofs.Latency.Percentiles
import QuerySwarm.Proofs.Tally.Latencies
import QuerySwarm.Proofs.Json.Layout
import QuerySwarm.Proofs.Json.Scalars
import QuerySwarm.Proofs.Json.Readers
import QuerySwarm.Proofs.Json.RoundTrip
import QuerySwarm.Proofs.Request.RoundTrip
import QuerySwarm.Proofs.Tally.Load
import QuerySwarm.Proofs.Swarm.Diary
import QuerySwarm.Proofs.Swarm.Rota
import QuerySwarm.Proofs.Run.Load
import QuerySwarm.Proofs.Task.Choice
import QuerySwarm.Proofs.Tally.Readers
import QuerySwarm.Proofs.Setup.Rules
import QuerySwarm.Proofs.Setup.Preparation
import QuerySwarm.Proofs.Text.Order
import QuerySwarm.Proofs.Text.Utf8
import QuerySwarm.Proofs.Binary64.Shortest
import QuerySwarm.Proofs.Json.Lexemes
import QuerySwarm.Proofs.Json.Strings
import QuerySwarm.Proofs.Json.Grammar
import QuerySwarm.Proofs.Json.Rules
import QuerySwarm.Proofs.Json.Documents
import QuerySwarm.Proofs.Json.Members
import QuerySwarm.Proofs.Json.Skipping
import QuerySwarm.Proofs.Json.Numbers
import QuerySwarm.Proofs.Json.Spelling
import QuerySwarm.Proofs.Json.Texts
import QuerySwarm.Proofs.Json.Reorders
import QuerySwarm.Proofs.Json.Restates
import QuerySwarm.Proofs.Json.RisingKeys
import QuerySwarm.Proofs.Json.Range
import QuerySwarm.Proofs.Json.Reprints
import QuerySwarm.Proofs.Response
import QuerySwarm.Proofs.Request.Canonical
import QuerySwarm.Proofs.Request.Format
import QuerySwarm.Proofs.Files
import QuerySwarm.Proofs.Client.Legality
import QuerySwarm.Proofs.Client.Urls
import QuerySwarm.Proofs.Client.Verbatim
import QuerySwarm.Proofs.Task.Template
import QuerySwarm.Proofs.Program.Payload
import QuerySwarm.Proofs.Task.Selection
import QuerySwarm.Proofs.Report.Agreement
import QuerySwarm.Proofs.ThinkTime.Bounds
import QuerySwarm.Proofs.Binary64.ReadBack
import QuerySwarm.Proofs.CommandLine.Words
import QuerySwarm.Proofs.CommandLine.RunOptions
