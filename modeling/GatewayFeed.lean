import GatewayFeed.Admin.Answer
import GatewayFeed.Admin.Listener
import GatewayFeed.Admin.Request
import GatewayFeed.Agent
import GatewayFeed.Agent.Arguments
import GatewayFeed.Agent.Event
import GatewayFeed.Agent.Life
import GatewayFeed.Barrier
import GatewayFeed.Collection
import GatewayFeed.CommandLine
import GatewayFeed.Credential
import GatewayFeed.Cycle
import GatewayFeed.Decimal.Layout
import GatewayFeed.Decimal.Nearest
import GatewayFeed.Decimal.Shortest
import GatewayFeed.Duration
import GatewayFeed.Fetch.Client
import GatewayFeed.Fetch.Error
import GatewayFeed.Fetch.Exchange
import GatewayFeed.Fetch.Fetcher
import GatewayFeed.Fetch.Script
import GatewayFeed.Fetch.StatusText
import GatewayFeed.Inspect.Arguments
import GatewayFeed.Inspect.Command
import GatewayFeed.Inspect.Printed
import GatewayFeed.Item
import GatewayFeed.Item.Wire
import GatewayFeed.Json.Basic
import GatewayFeed.Json.Fault
import GatewayFeed.Json.Lexical
import GatewayFeed.Json.Number
import GatewayFeed.Json.Printer
import GatewayFeed.Json.Record
import GatewayFeed.Json.Skip
import GatewayFeed.Json.Value
import GatewayFeed.Kind
import GatewayFeed.Log.Filter
import GatewayFeed.Log.Level
import GatewayFeed.Main
import GatewayFeed.Metrics
import GatewayFeed.Mismatch
import GatewayFeed.Net.RequestTarget
import GatewayFeed.Net.SocketAddress
import GatewayFeed.Proofs.Barrier.Accounting
import GatewayFeed.Proofs.Cycle.Race
import GatewayFeed.Proofs.Snapshot.Slots
import GatewayFeed.Retry
import GatewayFeed.Settings.Basic
import GatewayFeed.Settings.Document
import GatewayFeed.Settings.Validation
import GatewayFeed.Signals
import GatewayFeed.Snapshot
import GatewayFeed.Store
import GatewayFeed.Text.Base64
import GatewayFeed.Text.Blank
import GatewayFeed.Text.Charset
import GatewayFeed.Text.MediaType
import GatewayFeed.Text.Printable
import GatewayFeed.Text.Quoted
import GatewayFeed.Text.Utf16
import GatewayFeed.Text.Utf8
import GatewayFeed.Toml.Lexical
import GatewayFeed.Toml.Number
import GatewayFeed.Toml.Parser
import GatewayFeed.Toml.Place
import GatewayFeed.Toml.Text
import GatewayFeed.Toml.Tree
import GatewayFeed.Toml.Value
import GatewayFeed.Trust
import GatewayFeed.Trust.Certificate
import GatewayFeed.Trust.Pem
import GatewayFeed.Url.Address
import GatewayFeed.Url.Basic
import GatewayFeed.Url.Domain
import GatewayFeed.Url.Domain.Direction
import GatewayFeed.Url.Domain.Joiner
import GatewayFeed.Url.Domain.Mapping
import GatewayFeed.Url.Domain.Normal
import GatewayFeed.Url.Domain.Punycode
import GatewayFeed.Url.Domain.Runs
import GatewayFeed.Url.Form
import GatewayFeed.Url.Parser
import GatewayFeed.Url.Percent
import GatewayFeed.Watcher
import GatewayFeed.Proofs.Cycle.Delivery
import GatewayFeed.Proofs.Cycle.Ending
import GatewayFeed.Proofs.Cycle.Slots
import GatewayFeed.Proofs.Cycle.Report
import GatewayFeed.Proofs.Json.Written
import GatewayFeed.Proofs.Json.Spelling
import GatewayFeed.Proofs.Json.Numeral
import GatewayFeed.Proofs.Json.Skipped
import GatewayFeed.Proofs.Json.Meaning
import GatewayFeed.Proofs.Json.Containers
import GatewayFeed.Proofs.Item.Reading
import GatewayFeed.Proofs.Json.Members
import GatewayFeed.Proofs.Item.Fields
import GatewayFeed.Proofs.Item.FieldReading
import GatewayFeed.Proofs.Json.PrintedNumber
import GatewayFeed.Proofs.Json.PrintedText
import GatewayFeed.Proofs.Json.Printed
import GatewayFeed.Proofs.Item.Objects
import GatewayFeed.Proofs.Item.RoundTrip
import GatewayFeed.Proofs.Barrier.Cancelling
import GatewayFeed.Proofs.Cycle.Moves
import GatewayFeed.Proofs.Cycle.Schedule
import GatewayFeed.Proofs.Cycle.Progress
import GatewayFeed.Proofs.Cycle.Decision
import GatewayFeed.Proofs.Cycle.Completeness
import GatewayFeed.Proofs.Cycle.Order
import GatewayFeed.Proofs.Admin.Secrecy
import GatewayFeed.Proofs.Store.Objects
import GatewayFeed.Proofs.Store.Contention
import GatewayFeed.Proofs.Store.History
import GatewayFeed.Proofs.Cycle.Lock
import GatewayFeed.Proofs.Cycle.Serial
import GatewayFeed.Proofs.Url.Segments
import GatewayFeed.Proofs.Url.Authority
import GatewayFeed.Proofs.Url.Front
import GatewayFeed.Proofs.Url.Slashes
import GatewayFeed.Proofs.Url.Below
import GatewayFeed.Proofs.Fetch.Target
import GatewayFeed.Proofs.Cycle.Alone
import GatewayFeed.Proofs.Settings.Reading
import GatewayFeed.Proofs.Watcher.Sending
import GatewayFeed.Proofs.Cycle.Cancellation
import GatewayFeed.Proofs.Agent.Changes
import GatewayFeed.Proofs.Agent.Life
import GatewayFeed.Proofs.Text.Base64
import GatewayFeed.Proofs.Store.Feed
import GatewayFeed.Proofs.Admin.Views
import GatewayFeed.Proofs.Admin.Keys
import GatewayFeed.Proofs.Toml.Same
import GatewayFeed.Proofs.Settings.Messages
import GatewayFeed.Proofs.Settings.Password
import GatewayFeed.Proofs.Credential.Reading
import GatewayFeed.Proofs.Barrier.Interruption
import GatewayFeed.Proofs.Barrier.Rendezvous
import GatewayFeed.Proofs.Barrier.Deadline
import GatewayFeed.Proofs.Fetch.Task
import GatewayFeed.Proofs.Fetch.Crew
import GatewayFeed.Proofs.Cycle.Tasks
import GatewayFeed.Proofs.Json.Delimiting
import GatewayFeed.Proofs.Json.Enclosed
import GatewayFeed.Proofs.Cycle.Truncation
import GatewayFeed.Proofs.Duration.Words
import GatewayFeed.Proofs.Fetch.Backoff
import GatewayFeed.Proofs.Item.Positional
import GatewayFeed.Proofs.Settings.Partial
import GatewayFeed.Proofs.Signals.Routing
import GatewayFeed.Proofs.Credential.Header
import GatewayFeed.Proofs.Fetch.Query
import GatewayFeed.Proofs.Cycle.Measured
import GatewayFeed.Proofs.Json.Pretty
import GatewayFeed.Proofs.Inspect.Shown
import GatewayFeed.Proofs.Settings.Rules
import GatewayFeed.Proofs.Store.Lookups
