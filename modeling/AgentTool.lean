import AgentTool.Call
import AgentTool.CommandLine.Arguments
import AgentTool.CommandLine.Commands
import AgentTool.CommandLine.Report
import AgentTool.Config
import AgentTool.Decimal.Binary64
import AgentTool.Decimal.Scaling
import AgentTool.Decimal.Shortest
import AgentTool.Document.Basic
import AgentTool.Document.Datum
import AgentTool.Document.Decode
import AgentTool.Document.Encode
import AgentTool.Document.Error
import AgentTool.Document.Schema
import AgentTool.Document.Source
import AgentTool.Draft
import AgentTool.Duration
import AgentTool.Engine
import AgentTool.Entries
import AgentTool.Event
import AgentTool.Failure
import AgentTool.Files.Path
import AgentTool.Files.Tree
import AgentTool.Invocation
import AgentTool.Json.Basic
import AgentTool.Json.Printer
import AgentTool.Json.Reader
import AgentTool.Json.Token
import AgentTool.Loader
import AgentTool.Main
import AgentTool.Matcher
import AgentTool.Network
import AgentTool.Outcome
import AgentTool.Path.Basic
import AgentTool.Path.Walk
import AgentTool.Pattern
import AgentTool.Projection
import AgentTool.Regex.Match
import AgentTool.Regex.Meaning
import AgentTool.Regex.Parser
import AgentTool.Regex.Size
import AgentTool.Regex.Syntax
import AgentTool.Registry
import AgentTool.Request
import AgentTool.Retry
import AgentTool.Schema.Basic
import AgentTool.Scopes
import AgentTool.Sent
import AgentTool.SetupError
import AgentTool.Sink
import AgentTool.Template.Basic
import AgentTool.Template.Expand
import AgentTool.Template.Token
import AgentTool.Text.Base64
import AgentTool.Text.Blank
import AgentTool.Text.Number
import AgentTool.Text.Percent
import AgentTool.Text.Split
import AgentTool.Text.Token
import AgentTool.Text.Utf8
import AgentTool.Tool.Basic
import AgentTool.Tool.Check
import AgentTool.Tool.Compile
import AgentTool.Tool.Lint
import AgentTool.Unicode.Age
import AgentTool.Unicode.Break
import AgentTool.Unicode.Canonical
import AgentTool.Unicode.CaseFold
import AgentTool.Unicode.Category
import AgentTool.Unicode.CharSet
import AgentTool.Unicode.Direction
import AgentTool.Unicode.DomainMapping
import AgentTool.Unicode.Lookup
import AgentTool.Unicode.Normal
import AgentTool.Unicode.Property
import AgentTool.Unicode.Script
import AgentTool.Unicode.ScriptExtension
import AgentTool.Url.Address
import AgentTool.Url.Basic
import AgentTool.Url.Domain
import AgentTool.Url.Proxy
import AgentTool.Url.Punycode
import AgentTool.Url.Reader
import AgentTool.Yaml.Block
import AgentTool.Yaml.Cursor
import AgentTool.Yaml.Flow
import AgentTool.Yaml.Lexer
import AgentTool.Yaml.Node
import AgentTool.Yaml.Reader
import AgentTool.Yaml.Scalar
import AgentTool.Yaml.Tag
import AgentTool.Yaml.Token
import AgentTool.Proofs.Attempts
import AgentTool.Proofs.Orchestration
import AgentTool.Proofs.PercentLaws
import AgentTool.Proofs.StrictTemplates
import AgentTool.Proofs.TemplateText
import AgentTool.Proofs.TemplateReads
import AgentTool.Proofs.Traces
import AgentTool.Proofs.Invocations
import AgentTool.Proofs.MapTraces
import AgentTool.Proofs.WebhookTraces
import AgentTool.Proofs.InvocationTraces
import AgentTool.Proofs.Presentable
import AgentTool.Proofs.AddressStructure
import AgentTool.Proofs.TextLaws
import AgentTool.Proofs.WellFormed
import AgentTool.Proofs.Acceptance
import AgentTool.Proofs.Readings
import AgentTool.Proofs.CompiledMaps
import AgentTool.Proofs.InvalidRequests
import AgentTool.Proofs.CheckedAhead
import AgentTool.Proofs.Calls
import AgentTool.Proofs.BaseDirectory
import AgentTool.Proofs.MergedValues
import AgentTool.Proofs.RecordLaws
import AgentTool.Proofs.SchemaLaws
import AgentTool.Proofs.LoadedDocuments
import AgentTool.Proofs.Layouts
import AgentTool.Proofs.Published
import AgentTool.Proofs.Descriptors
import AgentTool.Proofs.PathReadings
import AgentTool.Proofs.PathGrammar
import AgentTool.Proofs.PathPrinting
import AgentTool.Proofs.ResponseKeys
import AgentTool.Proofs.MarkerReadings
import AgentTool.Proofs.ParameterReferences
import AgentTool.Proofs.Coverage
import AgentTool.Proofs.DotSegments
import AgentTool.Proofs.ScanLaws
import AgentTool.Proofs.WrittenDefaults
import AgentTool.Proofs.VerbatimMarkers
import AgentTool.Proofs.OuterBlanks
import AgentTool.Proofs.Expansions
import AgentTool.Proofs.SiteScopes
import AgentTool.Proofs.FailedWebhooks
import AgentTool.Proofs.Registrations
import AgentTool.Proofs.Cancellations
import AgentTool.Proofs.Projections
import AgentTool.Proofs.SentParameters
import AgentTool.Proofs.KeptEvents
import AgentTool.Proofs.CheckMessages
import AgentTool.Proofs.Drafts
import AgentTool.Proofs.TakenValues
import AgentTool.Proofs.ValidatedDocuments
import AgentTool.Proofs.NumberText
import AgentTool.Proofs.FloatText
import AgentTool.Proofs.JsonText
import AgentTool.Proofs.RepeatedKeys
import AgentTool.Proofs.QuotedSections
import AgentTool.Proofs.ScannedText
import AgentTool.Proofs.PathWalks
import AgentTool.Proofs.Backoff
import AgentTool.Proofs.WordRoles
