import PageAudit.Audit
import PageAudit.Batch.Report
import PageAudit.Batch.Scan
import PageAudit.Bundle.Dependency
import PageAudit.Bundle.Import
import PageAudit.Command.Run
import PageAudit.Command.Settings
import PageAudit.Decimal.Binary64
import PageAudit.Files.Path
import PageAudit.Files.Tree
import PageAudit.Files.Walk
import PageAudit.Finding.Basic
import PageAudit.Finding.Record
import PageAudit.Finding.Severity
import PageAudit.Json.Document
import PageAudit.Json.Numeral
import PageAudit.Json.Printer
import PageAudit.Json.Reader
import PageAudit.Json.Record
import PageAudit.Json.Value
import PageAudit.Main
import PageAudit.Markup.Attributes
import PageAudit.Markup.Element
import PageAudit.Markup.Expression
import PageAudit.Markup.Head
import PageAudit.Markup.Lexeme
import PageAudit.Markup.Stream
import PageAudit.Markup.Tag
import PageAudit.Policy.Basic
import PageAudit.Policy.File
import PageAudit.Policy.Overlay
import PageAudit.Policy.Record
import PageAudit.Report.Machine
import PageAudit.Report.Plain
import PageAudit.Report.Style
import PageAudit.Rule.Basic
import PageAudit.Rule.Budget
import PageAudit.Rule.Bundle
import PageAudit.Rule.Connection
import PageAudit.Rule.Fonts
import PageAudit.Rule.Loading
import PageAudit.Rule.Metadata
import PageAudit.Rule.Registry
import PageAudit.Source.Offset
import PageAudit.Source.Ruler
import PageAudit.Source.Span
import PageAudit.Text.Basic
import PageAudit.Text.Blank
import PageAudit.Text.Numeral
import PageAudit.Text.Order
import PageAudit.Text.Search
import PageAudit.Text.Set
import PageAudit.Text.Word
import PageAudit.Text.WordTable
import PageAudit.Web.Address
import PageAudit.Web.CombiningTable
import PageAudit.Web.Composition
import PageAudit.Web.CompositionTable
import PageAudit.Web.DomainName
import PageAudit.Web.FoldingTable
import PageAudit.Web.Host
import PageAudit.Web.Origin
import PageAudit.Web.Punycode
import PageAudit.Yaml.Cursor
import PageAudit.Yaml.Node
import PageAudit.Yaml.Scalar
import PageAudit.Yaml.Token
import PageAudit.Yaml.Value
import PageAudit.Proofs.Audit
import PageAudit.Proofs.Audit.Budget
import PageAudit.Proofs.Audit.Codes
import PageAudit.Proofs.Bundle.Import
import PageAudit.Proofs.Markup.AttributeList
import PageAudit.Proofs.Markup.Document
import PageAudit.Proofs.Markup.Forest
import PageAudit.Proofs.Markup.Head
import PageAudit.Proofs.Markup.Lexeme
import PageAudit.Proofs.Markup.Place
import PageAudit.Proofs.Markup.Scan
import PageAudit.Proofs.Markup.TagStream
import PageAudit.Proofs.Markup.Tokenize
import PageAudit.Proofs.Policy.Reading
import PageAudit.Proofs.Policy.Relaxation
import PageAudit.Proofs.Policy.Setting
import PageAudit.Proofs.Rule.Catalogue
import PageAudit.Proofs.Rule.Page
import PageAudit.Proofs.Rule.Spans
import PageAudit.Proofs.Rule.TagSearch
import PageAudit.Proofs.Source.Ruler
import PageAudit.Proofs.Text.Boundary
import PageAudit.Proofs.Text.Occurrence
import PageAudit.Proofs.Text.Run
import PageAudit.Proofs.Rule.Occurrence
import PageAudit.Proofs.Audit.Occurrence
import PageAudit.Proofs.Json.Numeral
import PageAudit.Proofs.Json.Quoted
import PageAudit.Proofs.Json.Layout
import PageAudit.Proofs.Json.Member
import PageAudit.Proofs.Policy.Record
import PageAudit.Proofs.Batch.Totals
import PageAudit.Proofs.Batch.Accounting
import PageAudit.Proofs.Batch.Turns
import PageAudit.Proofs.Batch.Merging
import PageAudit.Proofs.Batch.Schedule
import PageAudit.Proofs.Batch.Narrowing
import PageAudit.Proofs.Text.Order
import PageAudit.Proofs.Files.Path
import PageAudit.Proofs.Files.Tree
import PageAudit.Proofs.Batch.Collecting
import PageAudit.Proofs.Report.Machine
import PageAudit.Proofs.Batch.Storing
import PageAudit.Proofs.Command.Discovery
import PageAudit.Proofs.Command.Run
import PageAudit.Proofs.Markup.Braces
import PageAudit.Proofs.Markup.BracedTag
import PageAudit.Proofs.Markup.RawText
import PageAudit.Proofs.Markup.Literal
import PageAudit.Proofs.Text.Decimal
import PageAudit.Proofs.Text.Line
import PageAudit.Proofs.Web.Punycode
import PageAudit.Proofs.Web.Origin
import PageAudit.Proofs.Rule.Messages
import PageAudit.Proofs.Report.Plain
import PageAudit.Proofs.Markup.DocumentHead
import PageAudit.Proofs.Markup.Nesting
import PageAudit.Proofs.Audit.HeadOrder
import PageAudit.Proofs.Markup.Slash
import PageAudit.Proofs.Text.Trim
import PageAudit.Proofs.Markup.Interpolation
import PageAudit.Proofs.Markup.Threshold
import PageAudit.Proofs.Audit.Title
import PageAudit.Proofs.Audit.Anchors
import PageAudit.Proofs.Rule.Connection
import PageAudit.Proofs.Rule.Reporting
import PageAudit.Proofs.Rule.InlineImages
import PageAudit.Proofs.Json.Setting
import PageAudit.Proofs.Policy.Overlay
import PageAudit.Proofs.Bundle.Package
import PageAudit.Proofs.Bundle.Reference
import PageAudit.Proofs.Bundle.Dependency
import PageAudit.Proofs.Rule.HeavyImports
import PageAudit.Proofs.Audit.Overflow
import PageAudit.Proofs.Text.Encoding
import PageAudit.Proofs.Rule.DataSize
import PageAudit.Proofs.Text.Snap
import PageAudit.Proofs.Text.Keyword
import PageAudit.Proofs.Source.Clamp
import PageAudit.Proofs.Source.Position
import PageAudit.Proofs.Rule.Fonts
import PageAudit.Proofs.Finding.Record
import PageAudit.Proofs.Markup.Preamble
import PageAudit.Proofs.Report.Style
