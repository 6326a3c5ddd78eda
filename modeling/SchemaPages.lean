import SchemaPages.CommandLine.Basic
import SchemaPages.CommandLine.Help
import SchemaPages.CommandLine.Options
import SchemaPages.Files.Path
import SchemaPages.Files.Tree
import SchemaPages.FrontMatter.Basic
import SchemaPages.FrontMatter.Block
import SchemaPages.Generation.Request
import SchemaPages.Generation.Run
import SchemaPages.Generation.Writer
import SchemaPages.Host.Action
import SchemaPages.Host.Failure
import SchemaPages.Host.State
import SchemaPages.Introspection.Fetch
import SchemaPages.Introspection.Header
import SchemaPages.Introspection.Query
import SchemaPages.Introspection.Source
import SchemaPages.Json.Basic
import SchemaPages.Json.Reader
import SchemaPages.Main
import SchemaPages.Markdown.Basic
import SchemaPages.Markdown.Table
import SchemaPages.Number.Literal
import SchemaPages.Pages.Document
import SchemaPages.Pages.Kind
import SchemaPages.Pages.Link
import SchemaPages.Pages.NameOrder
import SchemaPages.Pages.Row
import SchemaPages.Pages.Section
import SchemaPages.Pairs
import SchemaPages.Proofs.CommandLine.Configuration
import SchemaPages.Proofs.CommandLine.Dispatch
import SchemaPages.Proofs.CommandLine.ExitCode
import SchemaPages.Proofs.CommandLine.Options
import SchemaPages.Proofs.CommandLine.Render
import SchemaPages.Proofs.CommandLine.Verbose
import SchemaPages.Proofs.Files.Directories
import SchemaPages.Proofs.Files.Resolution
import SchemaPages.Proofs.Files.Shape
import SchemaPages.Proofs.Files.Tree
import SchemaPages.Proofs.FrontMatter.Definition
import SchemaPages.Proofs.FrontMatter.Substitution
import SchemaPages.Proofs.FrontMatter.Written
import SchemaPages.Proofs.Generation.Choices
import SchemaPages.Proofs.Generation.Consulted
import SchemaPages.Proofs.Generation.Dialogue
import SchemaPages.Proofs.Generation.Frame
import SchemaPages.Proofs.Generation.FrontMatter
import SchemaPages.Proofs.Generation.Headers
import SchemaPages.Proofs.Generation.Limits
import SchemaPages.Proofs.Generation.Link
import SchemaPages.Proofs.Generation.Notations
import SchemaPages.Proofs.Generation.Pause
import SchemaPages.Proofs.Generation.Presence
import SchemaPages.Proofs.Generation.Printed
import SchemaPages.Proofs.Generation.Repeated
import SchemaPages.Proofs.Generation.Source
import SchemaPages.Proofs.Generation.Stages
import SchemaPages.Proofs.Generation.Writer
import SchemaPages.Proofs.Host.Alike
import SchemaPages.Proofs.Host.Trace
import SchemaPages.Proofs.Introspection.Protocol
import SchemaPages.Proofs.Introspection.Source
import SchemaPages.Proofs.Introspection.Transient
import SchemaPages.Proofs.Json.Numeral
import SchemaPages.Proofs.Json.Spelling
import SchemaPages.Proofs.Markdown.Headings
import SchemaPages.Proofs.Markdown.Shape
import SchemaPages.Proofs.Number.Literal
import SchemaPages.Proofs.Number.Multiple
import SchemaPages.Proofs.Number.Overflow
import SchemaPages.Proofs.Number.Rounding
import SchemaPages.Proofs.Pages.Address
import SchemaPages.Proofs.Pages.Anchor
import SchemaPages.Proofs.Pages.Documented
import SchemaPages.Proofs.Pages.Implementations
import SchemaPages.Proofs.Pages.Insertion
import SchemaPages.Proofs.Pages.Listing
import SchemaPages.Proofs.Pages.NameOrder
import SchemaPages.Proofs.Pages.Outline
import SchemaPages.Proofs.Pages.Rearranged
import SchemaPages.Proofs.Pages.Tables
import SchemaPages.Proofs.Pairs
import SchemaPages.Proofs.Schema.Acceptance
import SchemaPages.Proofs.Schema.Encoding
import SchemaPages.Proofs.Schema.Normal
import SchemaPages.Proofs.Schema.Resolution
import SchemaPages.Proofs.Schema.Unwrapping
import SchemaPages.Proofs.Schema.Visits
import SchemaPages.Proofs.Schema.Wrappers
import SchemaPages.Proofs.Settings.Address
import SchemaPages.Proofs.Settings.Breakdown
import SchemaPages.Proofs.Settings.Choices
import SchemaPages.Proofs.Settings.Json
import SchemaPages.Proofs.Settings.Loaded
import SchemaPages.Proofs.Settings.Notations
import SchemaPages.Proofs.Settings.Refusal
import SchemaPages.Proofs.Settings.Source
import SchemaPages.Proofs.Settings.Template
import SchemaPages.Proofs.Shared.Nodes
import SchemaPages.Proofs.Shared.Numbers
import SchemaPages.Proofs.Shared.Plain
import SchemaPages.Proofs.Shared.Quoted
import SchemaPages.Proofs.Shared.Scalars
import SchemaPages.Proofs.Shared.Steps
import SchemaPages.Proofs.Shared.Tokens
import SchemaPages.Proofs.Shared.Values
import SchemaPages.Proofs.Text.ControlSequence
import SchemaPages.Proofs.Text.Lines
import SchemaPages.Proofs.Text.Replace
import SchemaPages.Proofs.Text.Trim
import SchemaPages.Proofs.Yaml.Evaluation
import SchemaPages.Proofs.Yaml.Fault
import SchemaPages.Proofs.Yaml.Limits
import SchemaPages.Proofs.Yaml.Nodes
import SchemaPages.Proofs.Yaml.Tokens
import SchemaPages.Proofs.Yaml.Values
import SchemaPages.Schema.Basic
import SchemaPages.Schema.Place
import SchemaPages.Schema.Reader
import SchemaPages.Schema.Response
import SchemaPages.Schema.TypeRef
import SchemaPages.Settings.Basic
import SchemaPages.Settings.Reader
import SchemaPages.Settings.Template
import SchemaPages.Text.Blank
import SchemaPages.Text.CaseTable
import SchemaPages.Text.CodeRange
import SchemaPages.Text.ControlSequence
import SchemaPages.Text.LetterCase
import SchemaPages.Text.Lines
import SchemaPages.Text.PrintableTable
import SchemaPages.Text.Quoted
import SchemaPages.Text.Split
import SchemaPages.Text.Utf8
import SchemaPages.Yaml.BlockMapping
import SchemaPages.Yaml.Cursor
import SchemaPages.Yaml.Merge
import SchemaPages.Yaml.Node.Basic
import SchemaPages.Yaml.Node.Reader
import SchemaPages.Yaml.Scalar
import SchemaPages.Yaml.Tag
import SchemaPages.Yaml.Timestamp
import SchemaPages.Yaml.Token.Basic
import SchemaPages.Yaml.Token.Block
import SchemaPages.Yaml.Token.Lexer
import SchemaPages.Yaml.Token.Plain
import SchemaPages.Yaml.Token.Property
import SchemaPages.Yaml.Token.Quoted
import SchemaPages.Yaml.Value
