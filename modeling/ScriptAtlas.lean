import ScriptAtlas.Config
import ScriptAtlas.Digest.Blake3
import ScriptAtlas.Digest.Md5
import ScriptAtlas.Digest.Word
import ScriptAtlas.Extract.Aliases
import ScriptAtlas.Extract.Calls
import ScriptAtlas.Extract.Chain
import ScriptAtlas.Extract.Class
import ScriptAtlas.Extract.Completion
import ScriptAtlas.Extract.Contribution
import ScriptAtlas.Extract.Function
import ScriptAtlas.Extract.Idiom
import ScriptAtlas.Extract.Inheritance
import ScriptAtlas.Extract.Method
import ScriptAtlas.Extract.Modifiers
import ScriptAtlas.Extract.Module
import ScriptAtlas.Extract.Outcome
import ScriptAtlas.Extract.Pattern
import ScriptAtlas.Extract.Require
import ScriptAtlas.Extract.Scope
import ScriptAtlas.Extract.Signature
import ScriptAtlas.Extract.Traversal
import ScriptAtlas.Extract.Variable
import ScriptAtlas.Instant.Basic
import ScriptAtlas.Instant.Reader
import ScriptAtlas.Instant.Writer
import ScriptAtlas.Json.Basic
import ScriptAtlas.Json.Writer
import ScriptAtlas.Language
import ScriptAtlas.Notice
import ScriptAtlas.Path
import ScriptAtlas.Proofs.Admission
import ScriptAtlas.Proofs.Bindings
import ScriptAtlas.Proofs.Comments
import ScriptAtlas.Proofs.Constructors
import ScriptAtlas.Proofs.Containment
import ScriptAtlas.Proofs.Declarations
import ScriptAtlas.Proofs.Destructuring
import ScriptAtlas.Proofs.Diagnostics
import ScriptAtlas.Proofs.Effects
import ScriptAtlas.Proofs.Exports
import ScriptAtlas.Proofs.FanOut
import ScriptAtlas.Proofs.Identity
import ScriptAtlas.Proofs.Invocation
import ScriptAtlas.Proofs.LastPass
import ScriptAtlas.Proofs.Limits
import ScriptAtlas.Proofs.Lineage
import ScriptAtlas.Proofs.Members
import ScriptAtlas.Proofs.Moments
import ScriptAtlas.Proofs.Order
import ScriptAtlas.Proofs.Ownership
import ScriptAtlas.Proofs.Preorder
import ScriptAtlas.Proofs.Quotation
import ScriptAtlas.Proofs.Reach
import ScriptAtlas.Proofs.RoundTrip
import ScriptAtlas.Proofs.Scan
import ScriptAtlas.Proofs.ScanExtent
import ScriptAtlas.Proofs.Schema
import ScriptAtlas.Proofs.Sessions
import ScriptAtlas.Proofs.Shape
import ScriptAtlas.Proofs.Summaries
import ScriptAtlas.Proofs.Tables
import ScriptAtlas.Proofs.TypeNames
import ScriptAtlas.Proofs.Unambiguity
import ScriptAtlas.Proofs.Walks
import ScriptAtlas.Record.CallSite
import ScriptAtlas.Record.Codec
import ScriptAtlas.Record.Import
import ScriptAtlas.Record.Location
import ScriptAtlas.Record.Report
import ScriptAtlas.Record.Symbol
import ScriptAtlas.Service
import ScriptAtlas.Session
import ScriptAtlas.Source
import ScriptAtlas.SyntaxTree.Cursor
import ScriptAtlas.SyntaxTree.Field
import ScriptAtlas.SyntaxTree.Kind
import ScriptAtlas.SyntaxTree.Node
import ScriptAtlas.SyntaxTree.Rows
import ScriptAtlas.Text.Excerpt
import ScriptAtlas.Text.Hex
import ScriptAtlas.Text.Split
import ScriptAtlas.Text.Trim
import ScriptAtlas.Text.Uppercase
import ScriptAtlas.Text.Utf8
import ScriptAtlas.Validation
