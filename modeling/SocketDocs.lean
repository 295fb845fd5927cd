import SocketDocs.Document.OfJson
import SocketDocs.Main
import SocketDocs.Proofs.Json.LineLayout
import SocketDocs.Proofs.DocBlock.Literals
import SocketDocs.Proofs.Directive.Literals
import SocketDocs.Proofs.Endpoint.Building
import SocketDocs.Proofs.Directive.Stated
import SocketDocs.Proofs.Extraction.WellFormed
import SocketDocs.Proofs.Document.Values
import SocketDocs.Proofs.Document.Lawful
import SocketDocs.Proofs.Yaml.Spelling
import SocketDocs.Proofs.Document.Places
import SocketDocs.Proofs.Yaml.Places
import SocketDocs.Proofs.Catalog.Samples
import SocketDocs.Proofs.Text.ByteOrder
import SocketDocs.Proofs.Catalog.Lookup
import SocketDocs.Proofs.Extraction.Values
import SocketDocs.Proofs.Document.RoundTrip
import SocketDocs.Proofs.Comment.Order
import SocketDocs.Proofs.DocBlock.Attachment
import SocketDocs.Proofs.Extraction.FileOrder
import SocketDocs.Proofs.Declaration.TestCode
import SocketDocs.Proofs.Decimal.Rounding
import SocketDocs.Proofs.Decimal.Shortest
import SocketDocs.Proofs.Decimal.Text
import SocketDocs.Proofs.Yaml.Numbers
import SocketDocs.Proofs.Yaml.Folding
import SocketDocs.Proofs.Yaml.Quoted
import SocketDocs.Proofs.Yaml.FlowScan
import SocketDocs.Proofs.Yaml.JsonTokens
import SocketDocs.Proofs.Yaml.JsonNodes
import SocketDocs.Proofs.Yaml.Legible
import SocketDocs.Proofs.Document.Faithful
import SocketDocs.Proofs.Document.JsonText
import SocketDocs.Proofs.FileTree.Changes
import SocketDocs.Proofs.Command.Effects
import SocketDocs.Proofs.FileTree.SavedAgain
import SocketDocs.Proofs.FileTree.SourcesKept
import SocketDocs.Proofs.Command.Rerun
import SocketDocs.Proofs.Directive.Readings
import SocketDocs.Proofs.Endpoint.Causes
import SocketDocs.Proofs.DocBlock.Trimmed
import SocketDocs.Proofs.Extraction.Named
import SocketDocs.Proofs.Catalog.Contents
import SocketDocs.Proofs.Endpoint.Payloads
import SocketDocs.Proofs.Text.WireNames
import SocketDocs.Proofs.Directive.Merging
import SocketDocs.Proofs.Directive.Accepted
import SocketDocs.Proofs.Directive.Samples
import SocketDocs.Proofs.FilePath.Components
import SocketDocs.Proofs.FileTree.SourcesFound
import SocketDocs.Proofs.Comment.Runs
import SocketDocs.Proofs.Document.InfoLines
import SocketDocs.Proofs.Source.Running
import SocketDocs.Proofs.Source.Lines
import SocketDocs.Proofs.Source.FieldLines
import SocketDocs.Proofs.Source.Items
import SocketDocs.Proofs.Source.Nested.Parsers
import SocketDocs.Proofs.Source.Nested.Types
import SocketDocs.Proofs.Source.Nested.Expressions
import SocketDocs.Proofs.Source.Nested.Items
import SocketDocs.Proofs.Catalog.FieldComments
import SocketDocs.Proofs.Catalog.Options
import SocketDocs.Proofs.Catalog.Fields
import SocketDocs.Proofs.Document.ProblemTexts
import SocketDocs.Proofs.Document.Problems
import SocketDocs.Proofs.Catalog.Positions
import SocketDocs.Proofs.Directive.Accesses
import SocketDocs.Proofs.Endpoint.Accesses
import SocketDocs.Proofs.DocBlock.Filter
import SocketDocs.Proofs.Comment.Groups
