import SchemaProbe.Api.Basic
import SchemaProbe.Api.Fault
import SchemaProbe.Api.Load
import SchemaProbe.Api.Media
import SchemaProbe.Api.Normal
import SchemaProbe.Api.OfDocument
import SchemaProbe.Api.Reference
import SchemaProbe.Api.Status
import SchemaProbe.Binary64.Basic
import SchemaProbe.Binary64.Decimal
import SchemaProbe.Case.Plan
import SchemaProbe.Case.Seed
import SchemaProbe.Check.Basic
import SchemaProbe.Check.Judge
import SchemaProbe.CommandLine.Execute
import SchemaProbe.CommandLine.Invocation
import SchemaProbe.CommandLine.Options
import SchemaProbe.Config.Advice
import SchemaProbe.Config.Basic
import SchemaProbe.Config.Example
import SchemaProbe.Config.Read
import SchemaProbe.Draw
import SchemaProbe.Exchange.Headers
import SchemaProbe.Exchange.Record
import SchemaProbe.Exchange.Reply
import SchemaProbe.Exchange.Request
import SchemaProbe.FileTree
import SchemaProbe.Json.Basic
import SchemaProbe.Json.Decode
import SchemaProbe.Json.Pointer
import SchemaProbe.Json.Printer
import SchemaProbe.Json.Reader
import SchemaProbe.JsonSchema.Basic
import SchemaProbe.JsonSchema.Check
import SchemaProbe.JsonSchema.Violation
import SchemaProbe.JsonSchema.WellFormed
import SchemaProbe.Main
import SchemaProbe.NameMap
import SchemaProbe.Pattern.Basic
import SchemaProbe.Pattern.Reader
import SchemaProbe.Report.Basic
import SchemaProbe.Report.Schema
import SchemaProbe.Report.Summary
import SchemaProbe.Report.Terminal
import SchemaProbe.Report.Verdict
import SchemaProbe.Report.Written
import SchemaProbe.Run.Basic
import SchemaProbe.Run.Plan
import SchemaProbe.Run.Prepare
import SchemaProbe.Run.Settings
import SchemaProbe.Target
import SchemaProbe.Text.Category
import SchemaProbe.Text.Digit
import SchemaProbe.Text.LetterCase
import SchemaProbe.Text.Trim
import SchemaProbe.TextFormat
import SchemaProbe.Toml.Reader
import SchemaProbe.Toml.Scalar
import SchemaProbe.Toml.Table
import SchemaProbe.Url.Basic
import SchemaProbe.Url.Host
import SchemaProbe.Url.Percent
import SchemaProbe.Url.Punycode
import SchemaProbe.Url.Reader
import SchemaProbe.ValueType.Basic
import SchemaProbe.ValueType.Fill
import SchemaProbe.ValueType.Keyword
import SchemaProbe.ValueType.Merge
import SchemaProbe.ValueType.OfSchema
import SchemaProbe.ValueType.Sample
import SchemaProbe.ValueType.Written
import SchemaProbe.Yaml.Document
import SchemaProbe.Yaml.Node
import SchemaProbe.Yaml.Token
import SchemaProbe.Proofs.Case.Batch
import SchemaProbe.Proofs.Case.Values
import SchemaProbe.Proofs.Check.Schema
import SchemaProbe.Proofs.CommandLine.Headers
import SchemaProbe.Proofs.Document.Definitions
import SchemaProbe.Proofs.Document.Keys
import SchemaProbe.Proofs.Document.Labels
import SchemaProbe.Proofs.Document.Load
import SchemaProbe.Proofs.Document.Meaning
import SchemaProbe.Proofs.Document.Nullable
import SchemaProbe.Proofs.Document.Ordered
import SchemaProbe.Proofs.Document.Read
import SchemaProbe.Proofs.Document.Responses
import SchemaProbe.Proofs.Document.Steps
import SchemaProbe.Proofs.Document.Types
import SchemaProbe.Proofs.Document.WellFormed
import SchemaProbe.Proofs.Draw
import SchemaProbe.Proofs.Except
import SchemaProbe.Proofs.Exchange.Carries
import SchemaProbe.Proofs.Exchange.Headers
import SchemaProbe.Proofs.Json.Decode
import SchemaProbe.Proofs.Json.Ordered
import SchemaProbe.Proofs.JsonSchema.Fold
import SchemaProbe.Proofs.JsonSchema.Keywords
import SchemaProbe.Proofs.JsonSchema.Null
import SchemaProbe.Proofs.JsonSchema.Subschemas
import SchemaProbe.Proofs.NameMap
import SchemaProbe.Proofs.Reference.Lookup
import SchemaProbe.Proofs.Reference.Place
import SchemaProbe.Proofs.Reference.Substitution
import SchemaProbe.Proofs.Reference.Walk
import SchemaProbe.Proofs.Report.RoundTrip
import SchemaProbe.Proofs.Report.Verdict
import SchemaProbe.Proofs.Run.Plan
import SchemaProbe.Proofs.Run.Pool
import SchemaProbe.Proofs.Run.Prepare
import SchemaProbe.Proofs.Url.Query
import SchemaProbe.Proofs.ValueType.AllOf
import SchemaProbe.Proofs.ValueType.Basic
import SchemaProbe.Proofs.ValueType.Build
import SchemaProbe.Proofs.ValueType.Choices
import SchemaProbe.Proofs.ValueType.Combined
import SchemaProbe.Proofs.ValueType.Merge
import SchemaProbe.Proofs.ValueType.Joins
import SchemaProbe.Proofs.ValueType.Nesting
import SchemaProbe.Proofs.ValueType.OfSchema
import SchemaProbe.Proofs.ValueType.Resolve
import SchemaProbe.Proofs.ValueType.Sample
import SchemaProbe.Proofs.ValueType.Variants
import SchemaProbe.Proofs.ValueType.Required
import SchemaProbe.Proofs.Case.Slots
import SchemaProbe.Proofs.ValueType.Fill
import SchemaProbe.Proofs.Case.Statuses
import SchemaProbe.Proofs.Case.Coverage
import SchemaProbe.Proofs.Report.Tallies
import SchemaProbe.Proofs.Run.Records
import SchemaProbe.Proofs.Report.Conservation
import SchemaProbe.Proofs.Report.Accounts
import SchemaProbe.Proofs.Run.Counts
import SchemaProbe.Proofs.Check.Status
import SchemaProbe.Proofs.Run.Deadline
import SchemaProbe.Proofs.Binary64.Value
import SchemaProbe.Proofs.Binary64.Integer
import SchemaProbe.Proofs.ValueType.Integers
import SchemaProbe.Proofs.ValueType.Bounds
import SchemaProbe.Proofs.Checked.Draw
import SchemaProbe.Proofs.Checked.Sample
import SchemaProbe.Proofs.Checked.Fill
import SchemaProbe.Proofs.Run.Settings
import SchemaProbe.Proofs.Text.Digit
import SchemaProbe.Proofs.Text.Split
import SchemaProbe.Proofs.Text.Replace
import SchemaProbe.Proofs.ValueType.Written
import SchemaProbe.Proofs.TextFormat
import SchemaProbe.Proofs.Url.Segments
import SchemaProbe.Proofs.Exchange.Paths
import SchemaProbe.Proofs.Exchange.Template
import SchemaProbe.Proofs.Exchange.Placeholders
import SchemaProbe.Proofs.Binary64.OddPart
import SchemaProbe.Proofs.Case.Seed
import SchemaProbe.Proofs.ValueType.Steps
import SchemaProbe.Proofs.Calls
import SchemaProbe.Proofs.ValueType.Termination
import SchemaProbe.Proofs.Document.Inline
import SchemaProbe.Proofs.Report.Diagnostics
import SchemaProbe.Proofs.Exchange.Excerpt
