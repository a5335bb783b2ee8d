import DesignTokens.CommandLine.Arguments
import DesignTokens.CommandLine.Command
import DesignTokens.CommandLine.Run
import DesignTokens.Css.Number
import DesignTokens.Decimal.Binary
import DesignTokens.Decimal.Layout
import DesignTokens.Decimal.Reading
import DesignTokens.Decimal.Shortest
import DesignTokens.Design.Arrangement
import DesignTokens.Design.Build
import DesignTokens.Design.Color
import DesignTokens.Design.Document
import DesignTokens.Design.Effect
import DesignTokens.Design.Node
import DesignTokens.Design.Paint
import DesignTokens.Design.TextStyle
import DesignTokens.Export.Format
import DesignTokens.Export.Literal
import DesignTokens.Export.Request
import DesignTokens.Export.Variables
import DesignTokens.Extraction.Options
import DesignTokens.Extraction.Outline
import DesignTokens.Extraction.Segment
import DesignTokens.Extraction.Walk
import DesignTokens.Files.Access
import DesignTokens.Files.Path
import DesignTokens.Files.Tree
import DesignTokens.Generation.Angular
import DesignTokens.Generation.File
import DesignTokens.Generation.Generator
import DesignTokens.Generation.Options
import DesignTokens.Generation.React
import DesignTokens.Generation.Registry
import DesignTokens.Generation.Session
import DesignTokens.Generation.StyleFiles
import DesignTokens.Generation.UtilityClasses
import DesignTokens.Generation.Vue
import DesignTokens.History.Change
import DesignTokens.History.Log
import DesignTokens.History.Patch
import DesignTokens.History.Store
import DesignTokens.History.Version
import DesignTokens.Json.Basic
import DesignTokens.Json.Lexeme
import DesignTokens.Json.Reader
import DesignTokens.Json.Record
import DesignTokens.Json.Writer
import DesignTokens.Main
import DesignTokens.Naming.Identifier
import DesignTokens.Naming.Slug
import DesignTokens.OrderedMap
import DesignTokens.Stylesheet.ComponentRule
import DesignTokens.Stylesheet.Css
import DesignTokens.Stylesheet.Scss
import DesignTokens.Stylesheet.Sheet
import DesignTokens.Stylesheet.Tailwind
import DesignTokens.Template.Basic
import DesignTokens.Template.Reader
import DesignTokens.Template.Word
import DesignTokens.Text.Casing
import DesignTokens.Text.Cluster
import DesignTokens.Text.Letter
import DesignTokens.Text.Lines
import DesignTokens.Text.Mark
import DesignTokens.Text.Run
import DesignTokens.Token.Basic
import DesignTokens.Token.Payload
import DesignTokens.TokenSet.Basic
import DesignTokens.Proofs.Extraction.Visit
import DesignTokens.Proofs.Extraction.Outline
import DesignTokens.Proofs.Decimal.Digits
import DesignTokens.Proofs.Extraction.Identity
import DesignTokens.Proofs.Decimal.Bits
import DesignTokens.Proofs.Decimal.Exact
import DesignTokens.Proofs.Decimal.Nearest
import DesignTokens.Proofs.Decimal.Shortest
import DesignTokens.Proofs.History.Patch
import DesignTokens.Proofs.History.Run
import DesignTokens.Proofs.Export.Names
import DesignTokens.Proofs.Extraction.Reduction
import DesignTokens.Proofs.Generation.Files
import DesignTokens.Proofs.Token.Json
import DesignTokens.Proofs.Extraction.Components
import DesignTokens.Proofs.Generation.Calls
import DesignTokens.Proofs.Design.Document
import DesignTokens.Proofs.Stylesheet.Agreement
import DesignTokens.Proofs.History.Undo
import DesignTokens.Proofs.Files.Parents
import DesignTokens.Proofs.Files.Frame
import DesignTokens.Proofs.CommandLine.Writing
import DesignTokens.Proofs.Naming.Alphabet
import DesignTokens.Proofs.Generation.Structure
import DesignTokens.Proofs.Design.Finite
import DesignTokens.Proofs.Extraction.Finite
import DesignTokens.Proofs.Files.Parallel
import DesignTokens.Proofs.CommandLine.Pipeline
import DesignTokens.Proofs.Css.Number
import DesignTokens.Proofs.Stylesheet.Statements
import DesignTokens.Proofs.Stylesheet.Utilities
import DesignTokens.Proofs.Stylesheet.Reading
import DesignTokens.Proofs.Stylesheet.Nesting
import DesignTokens.Proofs.Stylesheet.Syntaxes
import DesignTokens.Proofs.Generation.Apart
import DesignTokens.Proofs.CommandLine.Placement
import DesignTokens.Proofs.Generation.References
import DesignTokens.Proofs.Generation.Resolution
import DesignTokens.Proofs.Design.RoundTrip
import DesignTokens.Proofs.Extraction.Options
import DesignTokens.Proofs.Extraction.Insertion
import DesignTokens.Proofs.CommandLine.Failure
import DesignTokens.Proofs.History.Differences
import DesignTokens.Proofs.Export.Reading
import DesignTokens.Proofs.TokenSet.Update
import DesignTokens.Proofs.Text.Tidy
import DesignTokens.Proofs.History.Failure
import DesignTokens.Proofs.History.Entries
import DesignTokens.Proofs.Naming.Form
import DesignTokens.Proofs.Naming.Hyphens
import DesignTokens.Proofs.Extraction.Reading
import DesignTokens.Proofs.Extraction.Origin
import DesignTokens.Proofs.Extraction.Usage
import DesignTokens.Proofs.Stylesheet.ComponentRule
import DesignTokens.Proofs.Stylesheet.Closure
import DesignTokens.Proofs.Export.Declarations
import DesignTokens.Proofs.Export.Quotes
import DesignTokens.Proofs.Naming.Capitals
import DesignTokens.Proofs.Design.NullChildren
import DesignTokens.Proofs.Export.Objects
import DesignTokens.Proofs.Stylesheet.Applied
import DesignTokens.Proofs.Extraction.Steps
import DesignTokens.Proofs.Generation.Index
