import Sexpr.Binary64.Basic
import Sexpr.Binary64.Rounding
import Sexpr.Binary64.Shortest
import Sexpr.Command.Interface
import Sexpr.Command.Run
import Sexpr.Command.Settings
import Sexpr.Command.Usage
import Sexpr.Command.Words
import Sexpr.Decimal
import Sexpr.Form.Basic
import Sexpr.Form.Printer
import Sexpr.Form.Symbol
import Sexpr.Main
import Sexpr.Proofs.Binary64.Nearest
import Sexpr.Proofs.Binary64.Shortest
import Sexpr.Proofs.Binary64.Text
import Sexpr.Proofs.Binary64.Value
import Sexpr.Proofs.Command.Session
import Sexpr.Proofs.Decimal.Digits
import Sexpr.Proofs.Decimal.Positional
import Sexpr.Proofs.Form.Basic
import Sexpr.Proofs.Form.Calls
import Sexpr.Proofs.Form.Equality
import Sexpr.Proofs.Form.Flavour
import Sexpr.Proofs.Form.Hashing
import Sexpr.Proofs.Form.Notation
import Sexpr.Proofs.Form.Symbol
import Sexpr.Proofs.Numeral.Decimal
import Sexpr.Proofs.Numeral.Value
import Sexpr.Proofs.Reader.Adjacency
import Sexpr.Proofs.Reader.Blame
import Sexpr.Proofs.Reader.Completeness
import Sexpr.Proofs.Reader.Concatenation
import Sexpr.Proofs.Reader.Descent
import Sexpr.Proofs.Reader.Enclosure
import Sexpr.Proofs.Reader.Failure
import Sexpr.Proofs.Reader.Lexeme
import Sexpr.Proofs.Reader.Lookahead
import Sexpr.Proofs.Reader.Nesting
import Sexpr.Proofs.Reader.Origin
import Sexpr.Proofs.Reader.Output
import Sexpr.Proofs.Reader.Passage
import Sexpr.Proofs.Reader.Position
import Sexpr.Proofs.Reader.Printed
import Sexpr.Proofs.Reader.Progress
import Sexpr.Proofs.Reader.Recovery
import Sexpr.Proofs.Reader.Refusal
import Sexpr.Proofs.Reader.RoundTrip
import Sexpr.Proofs.Reader.Session
import Sexpr.Proofs.Reader.Shift
import Sexpr.Proofs.Reader.Soundness
import Sexpr.Proofs.Reader.Unambiguity
import Sexpr.Proofs.Script.Equality
import Sexpr.Proofs.Script.Primitives
import Sexpr.Proofs.Text.Location
import Sexpr.Proofs.Text.Quoted
import Sexpr.Proofs.Tree.Depth
import Sexpr.Proofs.Tree.Primitives
import Sexpr.Reader.Basic
import Sexpr.Reader.Descent
import Sexpr.Reader.Failure
import Sexpr.Reader.Grammar
import Sexpr.Reader.Numeral
import Sexpr.Reader.RoundTrip
import Sexpr.Reader.Run
import Sexpr.Reader.Session
import Sexpr.Reader.State
import Sexpr.Script.Equality
import Sexpr.Script.Expression
import Sexpr.Script.Fault
import Sexpr.Script.Member
import Sexpr.Script.Request
import Sexpr.Script.Step
import Sexpr.Script.Value
import Sexpr.Text.Integer
import Sexpr.Text.Lines
import Sexpr.Text.Location
import Sexpr.Text.Printable
import Sexpr.Text.Quoted
import Sexpr.Tree
import Sexpr.Version
