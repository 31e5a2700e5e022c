import Enclose.Bundle.BoundNames
import Enclose.Bundle.Getter
import Enclose.Bundle.Lowered
import Enclose.Bundle.Marker
import Enclose.Bundle.Prologue
import Enclose.Bundle.Template
import Enclose.Bundle.TopLevelAwait
import Enclose.Bundle.Wrapper
import Enclose.CommandLine.Arguments
import Enclose.CommandLine.Similarity
import Enclose.CommandLine.Start
import Enclose.Config.Basic
import Enclose.Config.Problem
import Enclose.Config.Reader
import Enclose.Config.SocketAddress
import Enclose.Diagnostic
import Enclose.Failure
import Enclose.Http.Header
import Enclose.Http.Outcome
import Enclose.Http.Request
import Enclose.Http.Response
import Enclose.Http.Server
import Enclose.Http.Target
import Enclose.Http.Uuid
import Enclose.Http.Wire
import Enclose.Identifier
import Enclose.LogFilter
import Enclose.Main
import Enclose.Nesting
import Enclose.Numeral.Binary64
import Enclose.Numeral.Digits
import Enclose.Numeral.Shortest
import Enclose.Options
import Enclose.Proofs.Bundle.Awaiting
import Enclose.Proofs.Bundle.BoundNames
import Enclose.Proofs.Bundle.Destination
import Enclose.Proofs.Bundle.ExportHelper
import Enclose.Proofs.Bundle.Exports
import Enclose.Proofs.Bundle.HelperUse
import Enclose.Proofs.Bundle.Helpers
import Enclose.Proofs.Bundle.Hygiene
import Enclose.Proofs.Bundle.Imports
import Enclose.Proofs.Bundle.Interference
import Enclose.Proofs.Bundle.Items
import Enclose.Proofs.Bundle.ModuleOnly
import Enclose.Proofs.Bundle.Namespace
import Enclose.Proofs.Bundle.Pasting
import Enclose.Proofs.Bundle.Path
import Enclose.Proofs.Bundle.Prologue
import Enclose.Proofs.Bundle.Quoting
import Enclose.Proofs.Bundle.References
import Enclose.Proofs.Bundle.Requires
import Enclose.Proofs.Bundle.Scope
import Enclose.Proofs.Bundle.Statements
import Enclose.Proofs.Bundle.TopLevelAwait
import Enclose.Proofs.Bundle.Wrapping
import Enclose.Proofs.Config.Loading
import Enclose.Proofs.Config.Overlay
import Enclose.Proofs.Diagnostic.Arrangement
import Enclose.Proofs.Diagnostic.Columns
import Enclose.Proofs.Diagnostic.Report
import Enclose.Proofs.Http.Contract
import Enclose.Proofs.Http.Identifier
import Enclose.Proofs.Http.Independence
import Enclose.Proofs.Http.Source
import Enclose.Proofs.Nesting.Agreement
import Enclose.Proofs.Nesting.Bracket
import Enclose.Proofs.Nesting.Depth
import Enclose.Proofs.Nesting.Document
import Enclose.Proofs.Nesting.Element
import Enclose.Proofs.Nesting.Passage
import Enclose.Proofs.Nesting.Prefix
import Enclose.Proofs.Nesting.Shape
import Enclose.Proofs.Nesting.Soundness
import Enclose.Proofs.Query.Parts
import Enclose.Proofs.Query.Spelling
import Enclose.Proofs.Runtime.Evaluation
import Enclose.Proofs.Runtime.Object
import Enclose.Proofs.Runtime.Path
import Enclose.Proofs.Runtime.Rules
import Enclose.Proofs.Runtime.Store
import Enclose.Proofs.Script.Blocks
import Enclose.Proofs.Script.Lexed
import Enclose.Proofs.Script.Part
import Enclose.Proofs.Script.Reading
import Enclose.Proofs.Script.Restricted
import Enclose.Proofs.Script.Run
import Enclose.Proofs.Script.Tokens
import Enclose.Proofs.Shutdown.Conservation
import Enclose.Proofs.Shutdown.StartUp
import Enclose.Proofs.Text.Replacement
import Enclose.Query
import Enclose.Script.Build
import Enclose.Script.Character
import Enclose.Script.Layout
import Enclose.Script.Lexer
import Enclose.Script.Lexer.Escape
import Enclose.Script.Lexer.Literal
import Enclose.Script.Number
import Enclose.Script.Operator
import Enclose.Script.Parser
import Enclose.Script.Parser.Basic
import Enclose.Script.Parser.Binding
import Enclose.Script.Parser.Class
import Enclose.Script.Parser.Cover
import Enclose.Script.Parser.Expression
import Enclose.Script.Parser.Function
import Enclose.Script.Parser.Grammar
import Enclose.Script.Parser.ModuleItem
import Enclose.Script.Parser.Object
import Enclose.Script.Parser.Operand
import Enclose.Script.Parser.State
import Enclose.Script.Parser.Statement
import Enclose.Script.Printer
import Enclose.Script.Printer.Literal
import Enclose.Script.Printer.Spacing
import Enclose.Script.Problem
import Enclose.Script.Token
import Enclose.Script.Token.Text
import Enclose.Script.Tree
import Enclose.Shutdown
import Enclose.Text.Json
import Enclose.Text.Quoted
import Enclose.Text.Utf8
import Enclose.Toml.Decode
import Enclose.Toml.Document
import Enclose.Toml.Fault
import Enclose.Toml.Insert
import Enclose.Toml.KeyText
import Enclose.Toml.Reader.Basic
import Enclose.Toml.Reader.Moment
import Enclose.Toml.Reader.Number
import Enclose.Toml.Reader.Text
import Enclose.Toml.Reader.Value
import Enclose.Toml.Tree
import Enclose.Transform
import Enclose.Unicode.Alphabetic
import Enclose.Unicode.IdentifierProfile
import Enclose.Unicode.Printable
import Enclose.Unicode.Range
import Enclose.Unicode.Width
