import Wdl.Assoc
import Wdl.Binary64
import Wdl.Builder.Basic
import Wdl.Builder.Events
import Wdl.Builder.Expressions
import Wdl.Builder.Sections
import Wdl.Command.Arguments
import Wdl.Command.Run
import Wdl.Config
import Wdl.Config.Expansion
import Wdl.Config.OptionFile
import Wdl.Decimal.Layout
import Wdl.Decimal.Reader
import Wdl.Decimal.Shortest
import Wdl.Document.Ast
import Wdl.Document.Attach
import Wdl.Document.Dump
import Wdl.Document.Forest
import Wdl.Document.Kind
import Wdl.Document.Load
import Wdl.Document.Node
import Wdl.Document.Outline
import Wdl.Document.Parse
import Wdl.Document.Spans
import Wdl.Expr.Basic
import Wdl.Expr.Eval
import Wdl.Expr.Operator
import Wdl.Fault
import Wdl.Files
import Wdl.Grammar.Automaton
import Wdl.Grammar.Production
import Wdl.Grammar.Rules
import Wdl.Grammar.Terminal
import Wdl.Json.Basic
import Wdl.Json.Reader
import Wdl.Language
import Wdl.Lexer.Run
import Wdl.Lexer.Scanner
import Wdl.Library.Functions
import Wdl.Library.Operators
import Wdl.Log
import Wdl.Main
import Wdl.Parse.Recovery
import Wdl.Parse.Stack
import Wdl.Parse.Tree
import Wdl.Pattern.Anchored
import Wdl.Pattern.Basic
import Wdl.Pattern.CharClass
import Wdl.Pattern.ClassReader
import Wdl.Pattern.Flag
import Wdl.Pattern.Folding
import Wdl.Pattern.Match
import Wdl.Pattern.Reader
import Wdl.Pattern.Replace
import Wdl.Pattern.Source
import Wdl.Pattern.Template
import Wdl.Pattern.ToleranceReader
import Wdl.Position
import Wdl.Proofs.Builder.Account
import Wdl.Proofs.Builder.Additions
import Wdl.Proofs.Builder.Agreement
import Wdl.Proofs.Builder.Commands
import Wdl.Proofs.Builder.Correspondence
import Wdl.Proofs.Builder.Elements
import Wdl.Proofs.Builder.Entries
import Wdl.Proofs.Builder.Errors
import Wdl.Proofs.Builder.EventOrder
import Wdl.Proofs.Builder.Growth
import Wdl.Proofs.Builder.Holdings
import Wdl.Proofs.Builder.Housing
import Wdl.Proofs.Builder.Names
import Wdl.Proofs.Builder.Orderly
import Wdl.Proofs.Builder.Quiet
import Wdl.Proofs.Builder.Ready
import Wdl.Proofs.Builder.Redefinitions
import Wdl.Proofs.Builder.Rooted
import Wdl.Proofs.Builder.Sections
import Wdl.Proofs.Builder.Steps
import Wdl.Proofs.Builder.Tasks
import Wdl.Proofs.Builder.Texts
import Wdl.Proofs.Builder.Tidy
import Wdl.Proofs.Builder.Types
import Wdl.Proofs.Builder.Visits
import Wdl.Proofs.Builder.Walk
import Wdl.Proofs.Compile.Alterations
import Wdl.Proofs.Compile.Correct
import Wdl.Proofs.Compile.Documents
import Wdl.Proofs.Compile.Dumped
import Wdl.Proofs.Compile.Emission
import Wdl.Proofs.Compile.Independent
import Wdl.Proofs.Compile.Interpolation
import Wdl.Proofs.Compile.Job
import Wdl.Proofs.Compile.Kept
import Wdl.Proofs.Compile.Leaves
import Wdl.Proofs.Compile.Literals
import Wdl.Proofs.Compile.Options
import Wdl.Proofs.Compile.Phrases
import Wdl.Proofs.Compile.Placeholders
import Wdl.Proofs.Compile.Residue
import Wdl.Proofs.Compile.Restores
import Wdl.Proofs.Compile.Simulation
import Wdl.Proofs.Compile.Subexpressions
import Wdl.Proofs.Config.Cost
import Wdl.Proofs.Config.Expansion
import Wdl.Proofs.Decimal.Text
import Wdl.Proofs.Document.Atomic
import Wdl.Proofs.Document.Dump
import Wdl.Proofs.Document.Entries
import Wdl.Proofs.Document.Forest
import Wdl.Proofs.Document.Holdings
import Wdl.Proofs.Document.InPlace
import Wdl.Proofs.Document.Ledger
import Wdl.Proofs.Document.Links
import Wdl.Proofs.Document.Mirrored
import Wdl.Proofs.Document.Placed
import Wdl.Proofs.Document.Regular
import Wdl.Proofs.Document.Scopes
import Wdl.Proofs.Document.Sound
import Wdl.Proofs.Document.Traversal
import Wdl.Proofs.Expr.Balance
import Wdl.Proofs.Expr.Direct
import Wdl.Proofs.Expr.Parts
import Wdl.Proofs.Expr.Running
import Wdl.Proofs.Expr.Wrapping
import Wdl.Proofs.Grammar.Automaton
import Wdl.Proofs.Grammar.Derivation
import Wdl.Proofs.Grammar.Ends
import Wdl.Proofs.Grammar.Exploration
import Wdl.Proofs.Grammar.Followers
import Wdl.Proofs.Grammar.Fragments
import Wdl.Proofs.Grammar.ItemSets
import Wdl.Proofs.Grammar.Items
import Wdl.Proofs.Grammar.Legible
import Wdl.Proofs.Grammar.Lookahead
import Wdl.Proofs.Grammar.Outline
import Wdl.Proofs.Grammar.Phrase
import Wdl.Proofs.Grammar.Productions
import Wdl.Proofs.Grammar.Sole
import Wdl.Proofs.Grammar.Titles
import Wdl.Proofs.Lexer.Gaps
import Wdl.Proofs.Lexer.Tokens
import Wdl.Proofs.Library.Basename
import Wdl.Proofs.Library.Failures
import Wdl.Proofs.Library.Promotion
import Wdl.Proofs.Library.Range
import Wdl.Proofs.Occurrences
import Wdl.Proofs.Parse.Accepted
import Wdl.Proofs.Parse.Accounting
import Wdl.Proofs.Parse.Commands
import Wdl.Proofs.Parse.Cover
import Wdl.Proofs.Parse.Direct
import Wdl.Proofs.Parse.Layout
import Wdl.Proofs.Parse.Positions
import Wdl.Proofs.Parse.Rounds
import Wdl.Proofs.Parse.Traced
import Wdl.Proofs.Scope.Declared
import Wdl.Proofs.Scope.Depth
import Wdl.Proofs.Scope.Nearest
import Wdl.Proofs.Scope.Process
import Wdl.Proofs.Scope.Referent
import Wdl.Proofs.Scope.Resolution
import Wdl.Proofs.Text.Escape
import Wdl.Raised
import Wdl.Scope.Eval
import Wdl.Scope.Resolve
import Wdl.Text.Blank
import Wdl.Text.Block
import Wdl.Text.Case
import Wdl.Text.Category
import Wdl.Text.CharName
import Wdl.Text.CharName.Alphabets
import Wdl.Text.CharName.Ancient
import Wdl.Text.CharName.EastAsia
import Wdl.Text.CharName.Further
import Wdl.Text.CharName.Pictograms
import Wdl.Text.CharName.Pictures
import Wdl.Text.CharName.Signs
import Wdl.Text.CharName.Syllabaries
import Wdl.Text.CharName.Technical
import Wdl.Text.CharSet
import Wdl.Text.Digits
import Wdl.Text.Escape
import Wdl.Text.Fold
import Wdl.Text.Grapheme
import Wdl.Text.Printable
import Wdl.Text.Property
import Wdl.Text.PropertyName
import Wdl.Text.Quoted
import Wdl.Text.Script
import Wdl.Text.Valued
import Wdl.Text.Valued.Breaks
import Wdl.Text.Valued.Composition
import Wdl.Text.Valued.Numeric
import Wdl.Text.Valued.Setting
import Wdl.Text.Valued.Shaping
import Wdl.Text.WordBreak
import Wdl.Ty
import Wdl.Value
import Wdl.Value.Datum
