import LivePreview.Code.Binary64
import LivePreview.Code.Expr
import LivePreview.Code.FormatLiteral
import LivePreview.Code.Grammar
import LivePreview.Code.Layout
import LivePreview.Code.Literal
import LivePreview.Code.Numeral
import LivePreview.Code.Outline
import LivePreview.Code.Placement
import LivePreview.Code.Printer
import LivePreview.Code.Quoted
import LivePreview.Code.Reader
import LivePreview.Code.Refusal
import LivePreview.Code.Scope
import LivePreview.Code.Statement
import LivePreview.Code.Token
import LivePreview.Component.Aggregate
import LivePreview.Component.Body
import LivePreview.Component.Context
import LivePreview.Component.Diagnostic
import LivePreview.Component.Document
import LivePreview.Component.Host
import LivePreview.Component.Name
import LivePreview.Component.Shape
import LivePreview.Component.Stub
import LivePreview.Exception
import LivePreview.Failure
import LivePreview.Location
import LivePreview.Log
import LivePreview.Module.Closure
import LivePreview.Module.Handlers
import LivePreview.Module.Imports
import LivePreview.Module.Moment
import LivePreview.Module.Record
import LivePreview.Module.Resolver
import LivePreview.Module.Rule
import LivePreview.Module.Stage
import LivePreview.Module.Tree
import LivePreview.Proofs.Aggregate
import LivePreview.Proofs.Attributes
import LivePreview.Proofs.Blame
import LivePreview.Proofs.Blocks
import LivePreview.Proofs.BodyText
import LivePreview.Proofs.Braces
import LivePreview.Proofs.BreadthFirst
import LivePreview.Proofs.Closings
import LivePreview.Proofs.Commute
import LivePreview.Proofs.Containment
import LivePreview.Proofs.ContentScope
import LivePreview.Proofs.Contents
import LivePreview.Proofs.Cutting
import LivePreview.Proofs.Declarable
import LivePreview.Proofs.Delimiting
import LivePreview.Proofs.Denotation
import LivePreview.Proofs.Dependence
import LivePreview.Proofs.Diagnostics
import LivePreview.Proofs.Displays
import LivePreview.Proofs.Division
import LivePreview.Proofs.Document
import LivePreview.Proofs.Dotted
import LivePreview.Proofs.Edit
import LivePreview.Proofs.Emission
import LivePreview.Proofs.Exactness
import LivePreview.Proofs.Failures
import LivePreview.Proofs.Files
import LivePreview.Proofs.Fragments
import LivePreview.Proofs.Handled
import LivePreview.Proofs.Header
import LivePreview.Proofs.Heading
import LivePreview.Proofs.History
import LivePreview.Proofs.Host
import LivePreview.Proofs.Hosted
import LivePreview.Proofs.Hygiene
import LivePreview.Proofs.ImportScan
import LivePreview.Proofs.Imports
import LivePreview.Proofs.Isolation
import LivePreview.Proofs.Legible
import LivePreview.Proofs.Levels
import LivePreview.Proofs.Lexemes
import LivePreview.Proofs.Lines
import LivePreview.Proofs.Listing
import LivePreview.Proofs.Literal
import LivePreview.Proofs.Loading
import LivePreview.Proofs.Lookup
import LivePreview.Proofs.Markup
import LivePreview.Proofs.Modules
import LivePreview.Proofs.Name
import LivePreview.Proofs.Nesting
import LivePreview.Proofs.NormalForm
import LivePreview.Proofs.Numerals
import LivePreview.Proofs.Objections
import LivePreview.Proofs.Outcome
import LivePreview.Proofs.Outline
import LivePreview.Proofs.ParamLines
import LivePreview.Proofs.ParamNames
import LivePreview.Proofs.Parsable
import LivePreview.Proofs.Pieces
import LivePreview.Proofs.Places
import LivePreview.Proofs.Quiet
import LivePreview.Proofs.QuietStatements
import LivePreview.Proofs.ReadBack
import LivePreview.Proofs.Reading
import LivePreview.Proofs.Refresh
import LivePreview.Proofs.Refusals
import LivePreview.Proofs.Registry
import LivePreview.Proofs.Repair
import LivePreview.Proofs.Replacement
import LivePreview.Proofs.Replay
import LivePreview.Proofs.Reports
import LivePreview.Proofs.Request
import LivePreview.Proofs.Resolution
import LivePreview.Proofs.Respelling
import LivePreview.Proofs.RoundTrip
import LivePreview.Proofs.Rounds
import LivePreview.Proofs.SeedGrowth
import LivePreview.Proofs.SeedOrder
import LivePreview.Proofs.Shape
import LivePreview.Proofs.Signature
import LivePreview.Proofs.Signatures
import LivePreview.Proofs.Snippet
import LivePreview.Proofs.Spelling
import LivePreview.Proofs.Stage
import LivePreview.Proofs.Statements
import LivePreview.Proofs.Steps
import LivePreview.Proofs.Stub
import LivePreview.Proofs.Table
import LivePreview.Proofs.Tags
import LivePreview.Proofs.Trailers
import LivePreview.Proofs.Traversal
import LivePreview.Proofs.Uses
import LivePreview.Proofs.Version
import LivePreview.Proofs.Walk
import LivePreview.Rendering.Component
import LivePreview.Rendering.Library
import LivePreview.Rendering.Output
import LivePreview.Rendering.Value
import LivePreview.Session.Declarations
import LivePreview.Session.History
import LivePreview.Session.Hosted
import LivePreview.Session.Preview
import LivePreview.Table
import LivePreview.Template.Attribute
import LivePreview.Template.Directive
import LivePreview.Template.Lexeme
import LivePreview.Template.Node
import LivePreview.Template.Position
import LivePreview.Template.Problem
import LivePreview.Template.Reading
import LivePreview.Text.Blank
import LivePreview.Text.Boundaries
import LivePreview.Text.Case
import LivePreview.Text.CharacterName
import LivePreview.Text.CharacterNameTable
import LivePreview.Text.Encoding
import LivePreview.Text.Identifier
import LivePreview.Text.Mark
import LivePreview.Text.Normal
import LivePreview.Text.NormalTable
import LivePreview.Text.Points
import LivePreview.Text.Printable
import LivePreview.Text.Similar
import LivePreview.Text.Word
