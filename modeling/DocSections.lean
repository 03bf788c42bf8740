import DocSections.Catalog.Basic
import DocSections.Catalog.Builtin
import DocSections.Catalog.Codec
import DocSections.Catalog.Directory
import DocSections.Catalog.Family
import DocSections.Catalog.FileName
import DocSections.Catalog.Outline
import DocSections.Command.Arguments
import DocSections.Command.Run
import DocSections.Compose.Basic
import DocSections.Compose.Coverage
import DocSections.Compose.FamilySchema
import DocSections.Compose.Fault
import DocSections.Compose.Lookup
import DocSections.Config.Basic
import DocSections.Config.Load
import DocSections.Config.Source
import DocSections.Decimal.Basic
import DocSections.Decimal.Binary64
import DocSections.Decimal.Floating
import DocSections.Diagram
import DocSections.Digest.Sha256
import DocSections.Factory.Basic
import DocSections.Factory.Builtin
import DocSections.FileTree
import DocSections.Ini.Reader
import DocSections.Issue
import DocSections.Json.Basic
import DocSections.Json.Content
import DocSections.Json.Numeral
import DocSections.Json.Printer
import DocSections.Json.Reader
import DocSections.Json.Source
import DocSections.Json5.Lexeme
import DocSections.Json5.Reader
import DocSections.Json5.Source
import DocSections.Main
import DocSections.Naming
import DocSections.OrderedMap
import DocSections.OutputFormat
import DocSections.Proofs.Addressing
import DocSections.Proofs.Assembly
import DocSections.Proofs.Blame
import DocSections.Proofs.CompactText
import DocSections.Proofs.Composition
import DocSections.Proofs.Conformance
import DocSections.Proofs.Coverage
import DocSections.Proofs.DataKey
import DocSections.Proofs.DistinctIssues
import DocSections.Proofs.Export
import DocSections.Proofs.FamilyFiles
import DocSections.Proofs.Faults
import DocSections.Proofs.FileNames
import DocSections.Proofs.FileWriting
import DocSections.Proofs.Fingerprint
import DocSections.Proofs.FlowGraph
import DocSections.Proofs.Forest
import DocSections.Proofs.Header
import DocSections.Proofs.IssuePaths
import DocSections.Proofs.Issues
import DocSections.Proofs.JsonText
import DocSections.Proofs.JsonTokens
import DocSections.Proofs.KeyCollision
import DocSections.Proofs.Location
import DocSections.Proofs.Lookup
import DocSections.Proofs.NestedCalls
import DocSections.Proofs.Nesting
import DocSections.Proofs.Noninterference
import DocSections.Proofs.OmittedSections
import DocSections.Proofs.OnePass
import DocSections.Proofs.PathDisplay
import DocSections.Proofs.Pattern
import DocSections.Proofs.PatternDialect
import DocSections.Proofs.Presence
import DocSections.Proofs.Pruning
import DocSections.Proofs.ReadBack
import DocSections.Proofs.Registration
import DocSections.Proofs.Relaxation
import DocSections.Proofs.Reordering
import DocSections.Proofs.Rereading
import DocSections.Proofs.Revalidation
import DocSections.Proofs.SavedConfig
import DocSections.Proofs.SchemaMeaning
import DocSections.Proofs.Sectionwise
import DocSections.Proofs.Success
import DocSections.Proofs.TomlText
import DocSections.Proofs.Utf8
import DocSections.Proofs.Verification
import DocSections.Proofs.WireForms
import DocSections.Proofs.Words
import DocSections.Ron.Lexeme
import DocSections.Ron.Reader
import DocSections.Ron.Source
import DocSections.Setting.Basic
import DocSections.Setting.Environment
import DocSections.Setting.Layer
import DocSections.Shape.Basic
import DocSections.Shape.Check
import DocSections.Shape.JsonSchema
import DocSections.Text.Alphanumeric
import DocSections.Text.Blank
import DocSections.Text.Digits
import DocSections.Text.Identifier
import DocSections.Text.LetterCase
import DocSections.Text.Printable
import DocSections.Text.Quoted
import DocSections.Text.Runs
import DocSections.Toml.DateTime
import DocSections.Toml.Document
import DocSections.Toml.Reader
import DocSections.Toml.Scalar
import DocSections.Toml.Token
import DocSections.Toml.Writer
import DocSections.Vocabulary
import DocSections.Yaml.Node
import DocSections.Yaml.Reader
import DocSections.Yaml.Source
import DocSections.Yaml.Text
import DocSections.Yaml.Token
