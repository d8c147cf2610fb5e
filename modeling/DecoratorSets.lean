import DecoratorSets.Calendar.Date
import DecoratorSets.Calendar.Moment
import DecoratorSets.Calendar.Timestamp
import DecoratorSets.Command.Basic
import DecoratorSets.Command.Check
import DecoratorSets.Command.Schema
import DecoratorSets.Command.Wire
import DecoratorSets.CommandLine.Arguments
import DecoratorSets.CommandLine.Emoji
import DecoratorSets.CommandLine.EmojiNames
import DecoratorSets.CommandLine.Files
import DecoratorSets.CommandLine.Markup
import DecoratorSets.CommandLine.Page
import DecoratorSets.CommandLine.Run
import DecoratorSets.CommandLine.Suggestion
import DecoratorSets.CommandLine.TagParameters
import DecoratorSets.CommandLine.TextStyle
import DecoratorSets.Decoration.Apply
import DecoratorSets.Decoration.Registry
import DecoratorSets.Decoration.Selector
import DecoratorSets.Extraction.Compile
import DecoratorSets.Extraction.Index
import DecoratorSets.Extraction.Registry
import DecoratorSets.Extraction.Vocabulary
import DecoratorSets.Extraction.Walk
import DecoratorSets.Failure
import DecoratorSets.Json.Reader
import DecoratorSets.Json.Writer
import DecoratorSets.Main
import DecoratorSets.Metamodel.Basic
import DecoratorSets.Metamodel.Kind
import DecoratorSets.Metamodel.Labels
import DecoratorSets.Metamodel.Wire
import DecoratorSets.Namespace
import DecoratorSets.Number.Binary64
import DecoratorSets.Number.Notation
import DecoratorSets.Number.Numeral
import DecoratorSets.Number.Shortest
import DecoratorSets.Proofs.Checked
import DecoratorSets.Proofs.Command.Acceptance
import DecoratorSets.Proofs.Command.Conforming
import DecoratorSets.Proofs.Command.Decision
import DecoratorSets.Proofs.Command.Gaps
import DecoratorSets.Proofs.Command.Kinds
import DecoratorSets.Proofs.Command.Rereading
import DecoratorSets.Proofs.Command.SchemaRegistry
import DecoratorSets.Proofs.Command.Straying
import DecoratorSets.Proofs.Command.Targets
import DecoratorSets.Proofs.Command.Validation
import DecoratorSets.Proofs.Command.Versions
import DecoratorSets.Proofs.Command.WellTyped
import DecoratorSets.Proofs.CommandLine.Extracting
import DecoratorSets.Proofs.CommandLine.Messages
import DecoratorSets.Proofs.CommandLine.Steps
import DecoratorSets.Proofs.CommandLine.Writing
import DecoratorSets.Proofs.Decoration.Failing
import DecoratorSets.Proofs.Decoration.Nodewise
import DecoratorSets.Proofs.Decoration.Positions
import DecoratorSets.Proofs.Decoration.Reach
import DecoratorSets.Proofs.Decoration.Refusals
import DecoratorSets.Proofs.Decoration.Succession
import DecoratorSets.Proofs.Decoration.Upserts
import DecoratorSets.Proofs.Documents
import DecoratorSets.Proofs.Extraction.Buckets
import DecoratorSets.Proofs.Extraction.Compiling
import DecoratorSets.Proofs.Extraction.Complete
import DecoratorSets.Proofs.Extraction.Confined
import DecoratorSets.Proofs.Extraction.Consistent
import DecoratorSets.Proofs.Extraction.Naming
import DecoratorSets.Proofs.Extraction.Places
import DecoratorSets.Proofs.Extraction.RoundTrip
import DecoratorSets.Proofs.Extraction.Stripping
import DecoratorSets.Proofs.Extraction.Targets
import DecoratorSets.Proofs.Extraction.Vocabularies
import DecoratorSets.Proofs.Extraction.VocabularyText
import DecoratorSets.Proofs.Extraction.Walk
import DecoratorSets.Proofs.Metamodel.Canonical
import DecoratorSets.Proofs.Metamodel.Reading
import DecoratorSets.Proofs.Metamodel.Rereading
import DecoratorSets.Proofs.Names
import DecoratorSets.Proofs.NamespaceText
import DecoratorSets.Proofs.Registry.Additions
import DecoratorSets.Proofs.Registry.Ancestors
import DecoratorSets.Proofs.Registry.Ascent
import DecoratorSets.Proofs.Registry.Conforms
import DecoratorSets.Proofs.Registry.Fields
import DecoratorSets.Proofs.Registry.FullNames
import DecoratorSets.Proofs.Registry.Growth
import DecoratorSets.Proofs.Registry.Imports
import DecoratorSets.Proofs.Registry.Inheritance
import DecoratorSets.Proofs.Registry.Instances
import DecoratorSets.Proofs.Registry.KeyOrder
import DecoratorSets.Proofs.Registry.Lineage
import DecoratorSets.Proofs.Registry.Loading
import DecoratorSets.Proofs.Registry.Overriding
import DecoratorSets.Proofs.Registry.References
import DecoratorSets.Proofs.Registry.Resolution
import DecoratorSets.Proofs.Registry.Runs
import DecoratorSets.Proofs.Registry.Search
import DecoratorSets.Proofs.Registry.Snapshots
import DecoratorSets.Proofs.Registry.Verdicts
import DecoratorSets.Proofs.Undecorated
import DecoratorSets.Registry.Basic
import DecoratorSets.Registry.Conformance
import DecoratorSets.Registry.Lineage
import DecoratorSets.Registry.Lookup
import DecoratorSets.Registry.Snapshot
import DecoratorSets.Text.Base64
import DecoratorSets.Text.Blank
import DecoratorSets.Text.Cells
import DecoratorSets.Text.Digit
import DecoratorSets.Text.Hexadecimal
import DecoratorSets.Text.LowerCase
import DecoratorSets.Text.Parts
import DecoratorSets.Text.Printable
import DecoratorSets.Text.Quoted
import DecoratorSets.Value.Access
import DecoratorSets.Value.Basic
import DecoratorSets.Value.Inspect
import DecoratorSets.Value.Labels
import DecoratorSets.Value.Members
import DecoratorSets.Value.Sameness
import DecoratorSets.Value.Table
import DecoratorSets.Value.Writing
import DecoratorSets.Yaml.Cursor
import DecoratorSets.Yaml.Graph
import DecoratorSets.Yaml.Literal
import DecoratorSets.Yaml.Part
import DecoratorSets.Yaml.Pen
import DecoratorSets.Yaml.Phrase
import DecoratorSets.Yaml.Reader
import DecoratorSets.Yaml.Scalar
import DecoratorSets.Yaml.Style
import DecoratorSets.Yaml.Tag
import DecoratorSets.Yaml.Token
import DecoratorSets.Yaml.Writer
