import DialogStub.Api.Chat
import DialogStub.Api.ChatBodies
import DialogStub.Api.Content
import DialogStub.Api.Document
import DialogStub.Api.Error
import DialogStub.Api.External
import DialogStub.Api.ExternalBodies
import DialogStub.Api.Route
import DialogStub.Api.Schema
import DialogStub.Api.Server
import DialogStub.Api.Service
import DialogStub.Api.ServiceBodies
import DialogStub.Api.Services
import DialogStub.Chat.Message
import DialogStub.Chat.Scenario
import DialogStub.Chat.Session
import DialogStub.Chat.Store
import DialogStub.Config
import DialogStub.Fixtures.Basic
import DialogStub.Fixtures.Default
import DialogStub.Http.Cors
import DialogStub.Http.Header
import DialogStub.Http.MediaType
import DialogStub.Http.Message
import DialogStub.Http.Status
import DialogStub.Http.Target
import DialogStub.Http.Trace
import DialogStub.Json.Basic
import DialogStub.Json.Failure
import DialogStub.Json.Printer
import DialogStub.Json.Reader
import DialogStub.Json.Shape
import DialogStub.Json.Shape.Reader
import DialogStub.Json.Shape.Value
import DialogStub.Json.Skip
import DialogStub.Json.Token
import DialogStub.Log
import DialogStub.Nlu.Intent
import DialogStub.Number.Binary64
import DialogStub.Number.Shortest
import DialogStub.Platform.Client
import DialogStub.Text.Blank
import DialogStub.Text.CaseTable
import DialogStub.Text.HiddenTable
import DialogStub.Text.LowerCase
import DialogStub.Text.Percent
import DialogStub.Text.Quoted
import DialogStub.Text.Search
import DialogStub.Text.Utf8
import DialogStub.Time.Calendar
import DialogStub.Time.Rfc3339
import DialogStub.Time.Timestamp
import DialogStub.Url.Basic
import DialogStub.Url.Host
import DialogStub.Url.Punycode
import DialogStub.World
import DialogStub.Proofs.Api.Conservation
import DialogStub.Proofs.Api.Handlers
import DialogStub.Proofs.Api.Routes
import DialogStub.Proofs.Api.Run
import DialogStub.Proofs.Api.Step
import DialogStub.Proofs.Api.StoreFrame
import DialogStub.Proofs.Chat.Index
import DialogStub.Proofs.Chat.Ledger
import DialogStub.Proofs.Http.Cors
import DialogStub.Proofs.Http.Trace
import DialogStub.Proofs.Json.Record
import DialogStub.Proofs.Json.Token
import DialogStub.Proofs.Platform.Client
import DialogStub.Proofs.Platform.Demo
import DialogStub.Proofs.Platform.Peer
import DialogStub.Proofs.Platform.Wire
import DialogStub.Proofs.Text.Utf8
import DialogStub.Proofs.Url.Origin
import DialogStub.Proofs.World
import DialogStub.Proofs.Http.Transparency
import DialogStub.Proofs.Platform.Script
import DialogStub.Proofs.Api.Routing
import DialogStub.Proofs.Api.Errors
import DialogStub.Proofs.Api.Counts
import DialogStub.Proofs.Api.Restart
import DialogStub.Proofs.Chat.Clients
import DialogStub.Proofs.Text.LowerCase
import DialogStub.Proofs.Nlu.Keywords
import DialogStub.Proofs.Json.Range
import DialogStub.Proofs.Chat.Records
import DialogStub.Proofs.Api.Origins
import DialogStub.Proofs.Json.Given
import DialogStub.Proofs.Api.Endpoint
import DialogStub.Proofs.Api.Validation
import DialogStub.Proofs.Chat.Seeds
import DialogStub.Proofs.Api.Startup
import DialogStub.Proofs.Text.Percent
import DialogStub.Proofs.Api.Addressing
import DialogStub.Proofs.Platform.Single
import DialogStub.Proofs.Api.Reports
import DialogStub.Proofs.Http.TraceId
import DialogStub.Proofs.Api.Tracing
import DialogStub.Proofs.Text.Decode
import DialogStub.Proofs.Http.TraceLog
import DialogStub.Proofs.Json.Items
import DialogStub.Proofs.Json.Words
import DialogStub.Proofs.Json.Object
import DialogStub.Proofs.Json.Form
import DialogStub.Proofs.Json.Canonical
import DialogStub.Proofs.Text.Order
import DialogStub.Proofs.Api.Echo
import DialogStub.Proofs.Json.Brackets
import DialogStub.Proofs.Json.Respaced
import DialogStub.Proofs.Json.Grammar
import DialogStub.Proofs.Json.Fieldwise
import DialogStub.Proofs.Json.ByName
import DialogStub.Proofs.Api.ByName
import DialogStub.Proofs.Text.Blank
import DialogStub.Proofs.Config.Numeral
import DialogStub.Proofs.Config.Environment
import DialogStub.Proofs.Api.Agreement
import DialogStub.Proofs.Platform.Address
import DialogStub.Proofs.Api.Payload
