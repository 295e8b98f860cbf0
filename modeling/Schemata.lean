import Schemata.Access.Artifact
import Schemata.Access.Code
import Schemata.Access.Method
import Schemata.Access.Methods
import Schemata.Access.Naming
import Schemata.Access.Prelude
import Schemata.Access.Printer
import Schemata.Access.Signature
import Schemata.Analysis
import Schemata.Analysis.Checked
import Schemata.Analysis.JoinPath
import Schemata.Analysis.Models
import Schemata.Analysis.Names
import Schemata.Analysis.Problem
import Schemata.Analysis.Queries
import Schemata.Analysis.Relations
import Schemata.Catalog
import Schemata.Command.Arguments
import Schemata.Command.Listing
import Schemata.Command.Request
import Schemata.Command.Run
import Schemata.Comparison
import Schemata.Compile
import Schemata.Declaration
import Schemata.Declaration.Reader
import Schemata.Files.Access
import Schemata.Files.Path
import Schemata.Files.Store
import Schemata.Json.Printer
import Schemata.Json.Reader
import Schemata.Json.Value
import Schemata.Lookups
import Schemata.Main
import Schemata.Node
import Schemata.Node.Reader
import Schemata.Plan
import Schemata.Plan.Json
import Schemata.Proofs.Access.Alignment
import Schemata.Proofs.Access.Capture
import Schemata.Proofs.Access.Consistency
import Schemata.Proofs.Access.Embedding
import Schemata.Proofs.Access.GeneratedNames
import Schemata.Proofs.Access.Identifiers
import Schemata.Proofs.Access.Literals
import Schemata.Proofs.Access.Locality
import Schemata.Proofs.Access.Lookups
import Schemata.Proofs.Access.Manifest
import Schemata.Proofs.Access.Naming
import Schemata.Proofs.Access.Receivers
import Schemata.Proofs.Access.Records
import Schemata.Proofs.Access.Rendering
import Schemata.Proofs.Access.RowTypes
import Schemata.Proofs.Access.Scopes
import Schemata.Proofs.Access.Signatures
import Schemata.Proofs.Access.StructNames
import Schemata.Proofs.Access.Tasks
import Schemata.Proofs.Analysis.Declared
import Schemata.Proofs.Analysis.Ensures
import Schemata.Proofs.Analysis.Exploration
import Schemata.Proofs.Analysis.Extension
import Schemata.Proofs.Analysis.Flags
import Schemata.Proofs.Analysis.Independence
import Schemata.Proofs.Analysis.Integers
import Schemata.Proofs.Analysis.JoinInference
import Schemata.Proofs.Analysis.JoinTree
import Schemata.Proofs.Analysis.Numbers
import Schemata.Proofs.Analysis.Placement
import Schemata.Proofs.Analysis.QueryScoping
import Schemata.Proofs.Analysis.Resolution
import Schemata.Proofs.Analysis.Routes
import Schemata.Proofs.Analysis.ScopeGrowth
import Schemata.Proofs.Analysis.SearchTables
import Schemata.Proofs.Analysis.Surveys
import Schemata.Proofs.Analysis.WellFormed
import Schemata.Proofs.Command.Listing
import Schemata.Proofs.Declaration.Legible
import Schemata.Proofs.Declaration.Reading
import Schemata.Proofs.Declaration.Words
import Schemata.Proofs.Grammar
import Schemata.Proofs.Grammar.Completeness
import Schemata.Proofs.Grammar.Soundness
import Schemata.Proofs.Layout
import Schemata.Proofs.Layout.Catalogs
import Schemata.Proofs.Layout.Declarations
import Schemata.Proofs.Layout.Mirror
import Schemata.Proofs.Layout.Queries
import Schemata.Proofs.Layout.Trees
import Schemata.Proofs.Layout.Unplaced
import Schemata.Proofs.Outcome
import Schemata.Proofs.Printing
import Schemata.Proofs.Range
import Schemata.Proofs.Rows.Certainty
import Schemata.Proofs.Rows.Decoding
import Schemata.Proofs.Rows.Paging
import Schemata.Proofs.Rows.Semantics
import Schemata.Proofs.Rows.SingleRow
import Schemata.Proofs.Scanning
import Schemata.Proofs.Source.Declarations
import Schemata.Proofs.Source.Diagnostics
import Schemata.Proofs.Source.Lexing
import Schemata.Proofs.Source.LineCounting
import Schemata.Proofs.Source.Names
import Schemata.Proofs.Source.Places
import Schemata.Proofs.Source.Printable
import Schemata.Proofs.Source.Spans
import Schemata.Proofs.Source.Tiling
import Schemata.Proofs.Source.Trees
import Schemata.Proofs.Source.Underlines
import Schemata.Proofs.Sql.Building
import Schemata.Proofs.Sql.Fragments
import Schemata.Proofs.Sql.JoinedDeletes
import Schemata.Proofs.Sql.Nesting
import Schemata.Proofs.Sql.Placeholders
import Schemata.Proofs.Sql.Quoting
import Schemata.Proofs.Sql.Reading
import Schemata.Proofs.Sql.Scripts
import Schemata.Proofs.Sql.Spacing
import Schemata.Proofs.Text.ByteOrder
import Schemata.Proofs.Text.Cases
import Schemata.Proofs.Text.Indenting
import Schemata.Proofs.Text.Pieces
import Schemata.ReadError
import Schemata.Settings
import Schemata.Settings.Load
import Schemata.Settings.Reader
import Schemata.Source.Diagnostic
import Schemata.Source.File
import Schemata.Source.Position
import Schemata.Source.Snippet
import Schemata.Sql.Builder
import Schemata.Sql.Dialect
import Schemata.Sql.Identifier
import Schemata.Sql.Query
import Schemata.Sql.Registry
import Schemata.Sql.Schema
import Schemata.Sql.Statement
import Schemata.Text.Alphanumeric
import Schemata.Text.CharSet
import Schemata.Text.Hidden
import Schemata.Text.LetterCase
import Schemata.Text.Lines
import Schemata.Text.Quoted
import Schemata.Text.Split
import Schemata.Text.Words
import Schemata.Token
import Schemata.Token.Scanner
import Schemata.Toml.Reader
import Schemata.Toml.Scalar
import Schemata.Toml.Value
import Schemata.Value
