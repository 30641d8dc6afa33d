import ChatClient.Client
import ChatClient.Completion.Delta
import ChatClient.Completion.Reply
import ChatClient.Completion.Request
import ChatClient.Completion.Response
import ChatClient.Conversation.History
import ChatClient.Conversation.Message
import ChatClient.Embedding
import ChatClient.Failure
import ChatClient.Http.Address
import ChatClient.Http.Exchange
import ChatClient.Http.Header
import ChatClient.Http.Request
import ChatClient.Http.Status
import ChatClient.Json.Cursor
import ChatClient.Json.Decoder
import ChatClient.Json.Document
import ChatClient.Json.Fault
import ChatClient.Json.Node
import ChatClient.Json.NumberLiteral
import ChatClient.Json.Printer
import ChatClient.Json.Record
import ChatClient.Json.StringLiteral
import ChatClient.Json.Value
import ChatClient.Model
import ChatClient.Number.Binary
import ChatClient.Number.Numeral
import ChatClient.Number.Shortest
import ChatClient.Proofs.Service.ReplyAgreement
import ChatClient.Proofs.Service.ReplyHistory
import ChatClient.Proofs.Service.Sending
import ChatClient.Proofs.Stream.Calls
import ChatClient.Proofs.Stream.Cancellation
import ChatClient.Proofs.Stream.DeltaReading
import ChatClient.Proofs.Stream.Drawing
import ChatClient.Proofs.Stream.Laziness
import ChatClient.Proofs.Stream.LineReading
import ChatClient.Proofs.Stream.Lines
import ChatClient.Proofs.Stream.Need
import ChatClient.Proofs.Stream.Operations
import ChatClient.Proofs.Stream.Release
import ChatClient.Proofs.Text.Encoding
import ChatClient.Service.Chat
import ChatClient.Service.CompletionStream
import ChatClient.Service.Embedding
import ChatClient.Settings
import ChatClient.Settings.Bounds
import ChatClient.Settings.Scalar
import ChatClient.Stream.DeltaStream
import ChatClient.Stream.Event
import ChatClient.Stream.LineReader
import ChatClient.Stream.Source
import ChatClient.Text.Base64
import ChatClient.Text.Blank
import ChatClient.Text.Hex
import ChatClient.Text.Quoted
import ChatClient.Text.Segment
import ChatClient.Text.Utf8
import ChatClient.Tool
import ChatClient.Unicode.Combining
import ChatClient.Unicode.Composed
import ChatClient.Unicode.Direction
import ChatClient.Unicode.DomainMapping
import ChatClient.Unicode.Hidden
import ChatClient.Unicode.Joining
import ChatClient.Unicode.Table
import ChatClient.Url
import ChatClient.Url.Domain
import ChatClient.Url.Host
import ChatClient.Url.Ipv4
import ChatClient.Url.Ipv6
import ChatClient.Url.Path
import ChatClient.Url.Percent
import ChatClient.Url.Punycode
import ChatClient.Proofs.Service.EmbeddingOrder
import ChatClient.Proofs.Service.FailureAgreement
import ChatClient.Proofs.Service.Session
import ChatClient.Proofs.Json.Records
import ChatClient.Proofs.Settings.Bag
import ChatClient.Proofs.Number.Numerals
import ChatClient.Proofs.Number.ExactValue
import ChatClient.Proofs.Settings.Seed
import ChatClient.Proofs.Service.ReplyReading
import ChatClient.Proofs.Service.Refusals
import ChatClient.Proofs.Service.ShapeFailures
import ChatClient.Proofs.Service.PrimaryChoice
import ChatClient.Proofs.Service.PromptStreams
import ChatClient.Proofs.Number.Order
import ChatClient.Proofs.Settings.Clamping
import ChatClient.Proofs.Completion.Building
import ChatClient.Proofs.Service.SentRequests
import ChatClient.Proofs.Service.RequestForms
import ChatClient.Proofs.Stream.Failures
import ChatClient.Proofs.Service.Reports
import ChatClient.Proofs.Json.Writing
import ChatClient.Proofs.Completion.RoundTrip
import ChatClient.Proofs.Json.Storing
import ChatClient.Proofs.Json.PassingOver
import ChatClient.Proofs.Json.Layouts
import ChatClient.Proofs.Number.Literals
import ChatClient.Proofs.Settings.Conversion
import ChatClient.Proofs.Settings.Keys
import ChatClient.Proofs.Settings.Offers
import ChatClient.Proofs.Settings.Trip
import ChatClient.Proofs.Completion.ToolSchemas
import ChatClient.Proofs.Stream.Framing
import ChatClient.Proofs.Stream.Silence
import ChatClient.Proofs.Http.HeaderMerging
import ChatClient.Proofs.Service.PrimarySum
import ChatClient.Proofs.Stream.Draining
import ChatClient.Proofs.Http.AddressJoining
import ChatClient.Proofs.Stream.Payloads
