import SnippetMarkup.Decimal.Binary64
import SnippetMarkup.Encoding.Basic
import SnippetMarkup.Encoding.Error
import SnippetMarkup.Encoding.Utf8
import SnippetMarkup.Encoding.Wide
import SnippetMarkup.Files.Glob
import SnippetMarkup.Files.Path
import SnippetMarkup.Files.Tree
import SnippetMarkup.Html.Escape
import SnippetMarkup.Markup.Attributes
import SnippetMarkup.Markup.Comment
import SnippetMarkup.Markup.Tag
import SnippetMarkup.Operation.Basic
import SnippetMarkup.Operation.Build
import SnippetMarkup.Operation.Replacement
import SnippetMarkup.Operation.Scope
import SnippetMarkup.Preview.Lexer
import SnippetMarkup.Preview.Token
import SnippetMarkup.Reference.Store
import SnippetMarkup.Reference.Targets
import SnippetMarkup.Reference.TargetsFault
import SnippetMarkup.Reference.TargetsFile
import SnippetMarkup.Regex.Error
import SnippetMarkup.Regex.Matcher
import SnippetMarkup.Regex.Parser
import SnippetMarkup.Regex.Syntax
import SnippetMarkup.Region.Stack
import SnippetMarkup.Report.Journal
import SnippetMarkup.Report.Problem
import SnippetMarkup.Report.Reported
import SnippetMarkup.Run.Command
import SnippetMarkup.Run.CommandLine
import SnippetMarkup.Run.Help
import SnippetMarkup.Run.Pipeline
import SnippetMarkup.Run.Stage
import SnippetMarkup.Run.State
import SnippetMarkup.Run.Toolkit
import SnippetMarkup.Settings.Basic
import SnippetMarkup.Snippet.Converter
import SnippetMarkup.Snippet.Progress
import SnippetMarkup.Source.Failure
import SnippetMarkup.Source.Library
import SnippetMarkup.Source.Snippet
import SnippetMarkup.Text.Basic
import SnippetMarkup.Text.Indent
import SnippetMarkup.Text.Quoted
import SnippetMarkup.Text.Table
import SnippetMarkup.Unicode.Casing
import SnippetMarkup.Unicode.Digit
import SnippetMarkup.Unicode.Identifier
import SnippetMarkup.Unicode.Printable
import SnippetMarkup.Unicode.Ranges
import SnippetMarkup.Unicode.Space
import SnippetMarkup.Unicode.Word
import SnippetMarkup.Yaml.Loader
import SnippetMarkup.Yaml.Moment
import SnippetMarkup.Yaml.Value
import SnippetMarkup.Proofs.Encoding.Utf8
import SnippetMarkup.Proofs.Files.Tree
import SnippetMarkup.Proofs.Html.Embedding
import SnippetMarkup.Proofs.Html.Escape
import SnippetMarkup.Proofs.Html.Nesting
import SnippetMarkup.Proofs.Html.Unescape
import SnippetMarkup.Proofs.Lookup
import SnippetMarkup.Proofs.Markup.Appending
import SnippetMarkup.Proofs.Markup.Attributes
import SnippetMarkup.Proofs.Markup.Grammar
import SnippetMarkup.Proofs.Markup.Padding
import SnippetMarkup.Proofs.Markup.Scan
import SnippetMarkup.Proofs.Markup.Writing
import SnippetMarkup.Proofs.Operation.Build
import SnippetMarkup.Proofs.Operation.Failure
import SnippetMarkup.Proofs.Operation.Indentation
import SnippetMarkup.Proofs.Operation.Marking
import SnippetMarkup.Proofs.Operation.Refusal
import SnippetMarkup.Proofs.Operation.Replacement
import SnippetMarkup.Proofs.Operation.Visibility
import SnippetMarkup.Proofs.Preview.LineEnd
import SnippetMarkup.Proofs.Preview.Lines
import SnippetMarkup.Proofs.Preview.Rules
import SnippetMarkup.Proofs.Preview.Step
import SnippetMarkup.Proofs.Reference.Calls
import SnippetMarkup.Proofs.Reference.Store
import SnippetMarkup.Proofs.Reference.Tables
import SnippetMarkup.Proofs.Reference.TargetsFile
import SnippetMarkup.Proofs.Regex.Matches
import SnippetMarkup.Proofs.Region.History
import SnippetMarkup.Proofs.Region.Matching
import SnippetMarkup.Proofs.Region.Stack
import SnippetMarkup.Proofs.Report.Journal
import SnippetMarkup.Proofs.Run.Conversion
import SnippetMarkup.Proofs.Run.Pipeline
import SnippetMarkup.Proofs.Run.Stage
import SnippetMarkup.Proofs.Run.Targets
import SnippetMarkup.Proofs.Snippet.Balance
import SnippetMarkup.Proofs.Snippet.Block
import SnippetMarkup.Proofs.Snippet.Comparison
import SnippetMarkup.Proofs.Snippet.Completion
import SnippetMarkup.Proofs.Snippet.Composition
import SnippetMarkup.Proofs.Snippet.Continuation
import SnippetMarkup.Proofs.Snippet.Contribution
import SnippetMarkup.Proofs.Snippet.Extraction
import SnippetMarkup.Proofs.Snippet.Hybrid
import SnippetMarkup.Proofs.Snippet.Indentation
import SnippetMarkup.Proofs.Snippet.Linking
import SnippetMarkup.Proofs.Snippet.Refusal
import SnippetMarkup.Proofs.Snippet.Regional
import SnippetMarkup.Proofs.Snippet.Rendering
import SnippetMarkup.Proofs.Snippet.Reports
import SnippetMarkup.Proofs.Snippet.Run
import SnippetMarkup.Proofs.Snippet.Series
import SnippetMarkup.Proofs.Snippet.Step
import SnippetMarkup.Proofs.Snippet.Unmarked
import SnippetMarkup.Proofs.Snippet.Verdict
import SnippetMarkup.Proofs.Snippet.Visit
import SnippetMarkup.Proofs.Source.Library
import SnippetMarkup.Proofs.Source.Search
import SnippetMarkup.Proofs.Text.Cut
import SnippetMarkup.Proofs.Text.Indent
import SnippetMarkup.Proofs.Text.Outdent
import SnippetMarkup.Proofs.Text.Trim
import SnippetMarkup.Proofs.Yaml.Value
import SnippetMarkup.Program.CharacterName
import SnippetMarkup.Program.Dotenv
import SnippetMarkup.Program.Environment
import SnippetMarkup.Program.NameTable
import SnippetMarkup.Program.Terminal
import SnippetMarkup.Program.Toolkit
import SnippetMarkup.Program.Yaml.Base64
import SnippetMarkup.Program.Yaml.Character
import SnippetMarkup.Program.Yaml.Defect
import SnippetMarkup.Program.Yaml.Document
import SnippetMarkup.Program.Yaml.Key
import SnippetMarkup.Program.Yaml.Lexer
import SnippetMarkup.Program.Yaml.Number
import SnippetMarkup.Program.Yaml.Property
import SnippetMarkup.Program.Yaml.Reading
import SnippetMarkup.Program.Yaml.Scalar.Block
import SnippetMarkup.Program.Yaml.Scalar.Plain
import SnippetMarkup.Program.Yaml.Scalar.Quoted
import SnippetMarkup.Program.Yaml.Tag
import SnippetMarkup.Program.Yaml.Timestamp
import SnippetMarkup.Program.Yaml.Token
import SnippetMarkup.Main
