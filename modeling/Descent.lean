import Descent.Config.Document
import Descent.Config.Environment
import Descent.Config.Limits
import Descent.Config.Preferences
import Descent.Decimal.Double
import Descent.Decimal.Shortest
import Descent.Grammar.Basic
import Descent.Grammar.Calculator
import Descent.Grammar.Script
import Descent.Grammar.Statements
import Descent.Grammar.Words
import Descent.Host
import Descent.Json.Fields
import Descent.Json.Forms
import Descent.Json.Reader
import Descent.Json.Text
import Descent.Json.Value
import Descent.Lexical.Error
import Descent.Lexical.Metrics
import Descent.Lexical.Payload
import Descent.Lexical.Rule
import Descent.Lexical.Selection
import Descent.Lexical.Token
import Descent.Lexical.Tokenizer
import Descent.Log.Code
import Descent.Log.Event
import Descent.Log.Installation
import Descent.Log.Level
import Descent.Log.Memory
import Descent.Log.Service
import Descent.Log.Timestamp
import Descent.Parsing.Cursor
import Descent.Parsing.Error
import Descent.Parsing.Production
import Descent.Parsing.Recovery
import Descent.Pattern.Basic
import Descent.Pattern.Budget
import Descent.Pattern.Class
import Descent.Pattern.Escape
import Descent.Pattern.Expr
import Descent.Pattern.Flags
import Descent.Pattern.Match
import Descent.Pattern.Program
import Descent.Pattern.Reader
import Descent.Proofs.Config.Layers
import Descent.Proofs.Config.Section
import Descent.Proofs.Config.Value
import Descent.Proofs.Grammar.Arithmetic
import Descent.Proofs.Grammar.Built
import Descent.Proofs.Grammar.Calculator
import Descent.Proofs.Grammar.Recursion
import Descent.Proofs.Grammar.Statements
import Descent.Proofs.Json.Forms
import Descent.Proofs.Json.Reader
import Descent.Proofs.Json.RoundTrip
import Descent.Proofs.Json.Text
import Descent.Proofs.Lexical.Accepted
import Descent.Proofs.Lexical.Counts
import Descent.Proofs.Lexical.Coverage
import Descent.Proofs.Lexical.Diagram
import Descent.Proofs.Lexical.Extension
import Descent.Proofs.Lexical.Extent
import Descent.Proofs.Lexical.Greedy
import Descent.Proofs.Lexical.History
import Descent.Proofs.Lexical.Independence
import Descent.Proofs.Lexical.Place
import Descent.Proofs.Lexical.Preference
import Descent.Proofs.Lexical.Provenance
import Descent.Proofs.Lexical.Registration
import Descent.Proofs.Lexical.Reordering
import Descent.Proofs.Lexical.Run
import Descent.Proofs.Lexical.Safety
import Descent.Proofs.Lexical.Selection
import Descent.Proofs.Lexical.Trace
import Descent.Proofs.Log.Event
import Descent.Proofs.Log.Installation
import Descent.Proofs.Log.Memory
import Descent.Proofs.Log.Message
import Descent.Proofs.Log.OneLine
import Descent.Proofs.Log.Service
import Descent.Proofs.Log.Structured
import Descent.Proofs.Parsing.Cursor
import Descent.Proofs.Parsing.Diagram
import Descent.Proofs.Parsing.Execution
import Descent.Proofs.Parsing.OneLine
import Descent.Proofs.Parsing.Pipeline
import Descent.Proofs.Parsing.Recovery
import Descent.Proofs.Parsing.Report
import Descent.Proofs.Parsing.Speculation
import Descent.Proofs.Parsing.Trace
import Descent.Proofs.Parsing.Zipper
import Descent.Proofs.Text.Coordinate
import Descent.Proofs.Text.Digits
import Descent.Proofs.Text.Line
import Descent.Proofs.Text.Offset
import Descent.Proofs.Text.OneLine
import Descent.Proofs.Text.Position
import Descent.Proofs.Text.SortedMap
import Descent.Proofs.Text.Span
import Descent.Proofs.Text.Split
import Descent.Proofs.Toml.Unique
import Descent.Text.CharSet
import Descent.Text.Digits
import Descent.Text.Escape
import Descent.Text.Position
import Descent.Text.SortedMap
import Descent.Text.SourceMap
import Descent.Text.Utf8
import Descent.Text.Word
import Descent.Toml.Diagnostic
import Descent.Toml.Draft
import Descent.Toml.Node
import Descent.Toml.Reader
import Descent.Toml.Scalar
import Descent.Toml.Text
import Descent.Unicode.Age
import Descent.Unicode.CaseOrbit
import Descent.Unicode.Category
import Descent.Unicode.Lookup
import Descent.Unicode.Property
import Descent.Unicode.Run
import Descent.Unicode.Script
import Descent.Unicode.ScriptExtension
import Descent.Unicode.Segmentation
