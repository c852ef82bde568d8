import Ecmascript.Command
import Ecmascript.Error.Basic
import Ecmascript.Error.Frame
import Ecmascript.Estree.Node
import Ecmascript.Estree.Tree
import Ecmascript.Host
import Ecmascript.Json.Basic
import Ecmascript.Json.Printer
import Ecmascript.Json.Reader
import Ecmascript.Lexer.Basic
import Ecmascript.Lexer.Error
import Ecmascript.Lexer.Literal
import Ecmascript.Lexer.Trivia
import Ecmascript.Lowering
import Ecmascript.Main
import Ecmascript.Options.Basic
import Ecmascript.Options.Json
import Ecmascript.Parser.Basic
import Ecmascript.Parser.Expression
import Ecmascript.Parser.Function
import Ecmascript.Parser.Goal
import Ecmascript.Parser.Pattern
import Ecmascript.Parser.Program
import Ecmascript.Parser.Statement
import Ecmascript.Printer.Level
import Ecmascript.Printer.Tree
import Ecmascript.Printer.Writer
import Ecmascript.Proofs.Coupling.Basic
import Ecmascript.Proofs.Coupling.Expression
import Ecmascript.Proofs.Coupling.Function
import Ecmascript.Proofs.Coupling.Guess
import Ecmascript.Proofs.Coupling.Operand
import Ecmascript.Proofs.Coupling.Pattern
import Ecmascript.Proofs.Coupling.Statement
import Ecmascript.Proofs.Coupling.Token
import Ecmascript.Proofs.Cover.Basic
import Ecmascript.Proofs.Cover.Expression
import Ecmascript.Proofs.Cover.Function
import Ecmascript.Proofs.Cover.Grammatical
import Ecmascript.Proofs.Cover.Literal
import Ecmascript.Proofs.Cover.Operand
import Ecmascript.Proofs.Cover.Order
import Ecmascript.Proofs.Cover.Pattern
import Ecmascript.Proofs.Cover.Position
import Ecmascript.Proofs.Cover.Quoted
import Ecmascript.Proofs.Cover.Reads
import Ecmascript.Proofs.Cover.Rules
import Ecmascript.Proofs.Cover.Run
import Ecmascript.Proofs.Cover.Statement
import Ecmascript.Proofs.Error.Contract
import Ecmascript.Proofs.Error.Frame
import Ecmascript.Proofs.Estree.Document
import Ecmascript.Proofs.Estree.Faithful
import Ecmascript.Proofs.Estree.Form
import Ecmascript.Proofs.Estree.Frame
import Ecmascript.Proofs.Estree.Legacy
import Ecmascript.Proofs.Estree.Outline
import Ecmascript.Proofs.Level.Basic
import Ecmascript.Proofs.Level.Expression
import Ecmascript.Proofs.Level.Operand
import Ecmascript.Proofs.Level.Statement
import Ecmascript.Proofs.Lexer.Behind
import Ecmascript.Proofs.Lexer.Fault
import Ecmascript.Proofs.Lexer.Guess
import Ecmascript.Proofs.Lexer.Lexeme
import Ecmascript.Proofs.Lexer.Local
import Ecmascript.Proofs.Lexer.Lossless
import Ecmascript.Proofs.Lexer.Nesting
import Ecmascript.Proofs.Lexer.Place
import Ecmascript.Proofs.Lexer.Scan
import Ecmascript.Proofs.Lexer.Written
import Ecmascript.Proofs.Lowering.Composition
import Ecmascript.Proofs.Lowering.NormalForm
import Ecmascript.Proofs.Lowering.Position
import Ecmascript.Proofs.Lowering.Rules
import Ecmascript.Proofs.Lowering.Suspension
import Ecmascript.Proofs.Offset.Basic
import Ecmascript.Proofs.Offset.Cursor
import Ecmascript.Proofs.Offset.Literal
import Ecmascript.Proofs.Offset.Number
import Ecmascript.Proofs.Offset.Punctuator
import Ecmascript.Proofs.Offset.Session
import Ecmascript.Proofs.Offset.Token
import Ecmascript.Proofs.Operators.Adjacent
import Ecmascript.Proofs.Operators.Arrow
import Ecmascript.Proofs.Operators.Basic
import Ecmascript.Proofs.Operators.Climbing
import Ecmascript.Proofs.Operators.Facing
import Ecmascript.Proofs.Operators.Grouping
import Ecmascript.Proofs.Operators.Layout
import Ecmascript.Proofs.Operators.Parsing
import Ecmascript.Proofs.Operators.Reading
import Ecmascript.Proofs.Operators.RoundTrip
import Ecmascript.Proofs.Operators.Sequence
import Ecmascript.Proofs.Operators.Spacing
import Ecmascript.Proofs.Parallel.Balance
import Ecmascript.Proofs.Parallel.Basic
import Ecmascript.Proofs.Parallel.Expression
import Ecmascript.Proofs.Parallel.Statement
import Ecmascript.Proofs.Parallel.Steps
import Ecmascript.Proofs.Printer.LoopHead
import Ecmascript.Proofs.Progress.Basic
import Ecmascript.Proofs.Progress.Calls
import Ecmascript.Proofs.Progress.Expression
import Ecmascript.Proofs.Progress.Operand
import Ecmascript.Proofs.Progress.Pattern
import Ecmascript.Proofs.Progress.Run
import Ecmascript.Proofs.Progress.Statement
import Ecmascript.Proofs.Record.Digits
import Ecmascript.Proofs.Record.Dump
import Ecmascript.Proofs.Record.Readable
import Ecmascript.Proofs.Sound
import Ecmascript.Proofs.Source.Bytes
import Ecmascript.Proofs.Source.Cut
import Ecmascript.Proofs.Translation.Basic
import Ecmascript.Proofs.Translation.Expression
import Ecmascript.Proofs.Translation.Function
import Ecmascript.Proofs.Translation.Operand
import Ecmascript.Proofs.Translation.Pattern
import Ecmascript.Proofs.Translation.Run
import Ecmascript.Proofs.Translation.Statement
import Ecmascript.Proofs.Translation.Token
import Ecmascript.Proofs.Tree.Discipline
import Ecmascript.Proofs.Tree.Grammatical
import Ecmascript.Proofs.Tree.Leaf
import Ecmascript.Proofs.Tree.Operator
import Ecmascript.Proofs.Tree.Order
import Ecmascript.Proofs.Tree.Parts
import Ecmascript.Record.Basic
import Ecmascript.Record.Printer
import Ecmascript.Script
import Ecmascript.Source
import Ecmascript.Token.Basic
import Ecmascript.Token.Character
import Ecmascript.Token.Keyword
import Ecmascript.Token.Punctuator
import Ecmascript.Tree.Basic
import Ecmascript.Tree.Describe
import Ecmascript.Tree.Operator
import Ecmascript.Tree.Rebuild
import Ecmascript.Unicode.Alphabetic
import Ecmascript.Unicode.Character
import Ecmascript.Unicode.DefaultIgnorable
import Ecmascript.Unicode.GraphemeExtend
import Ecmascript.Unicode.Numeric
import Ecmascript.Unicode.Ranges
import Ecmascript.Unicode.Unprintable
import Ecmascript.Proofs.Cover.Nesting
import Ecmascript.Proofs.Cover.Regex
import Ecmascript.Proofs.Estree.Regex
import Ecmascript.Proofs.Lexer.Delimited
import Ecmascript.Proofs.Lexer.LongestMatch
import Ecmascript.Proofs.Lexer.Numeral
import Ecmascript.Proofs.Printer.Balance
