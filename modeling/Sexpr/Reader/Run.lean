import Sexpr.Form.Symbol
import Sexpr.Reader.Numeral

/-!
Runs: the longest stretches of characters of one class.

Numbers, names, keywords and specials are read as runs.  What a run denotes is decided when
it is complete.
-/

namespace Sexpr

inductive RunKind where
  | number
  | name
  | keyword
  | special
  deriving DecidableEq

namespace RunKind

def accepts : RunKind → Char → Bool
  | .number, c => c.isDigit || c == '-' || c == '.'
  | .name, c => isNameChar c
  | .keyword, c => isNameChar c || c == ':'
  | .special, c => isNameChar c || c == '*'

/-- The atom that a complete run denotes. -/
def denoted (start : Nat) (run : List Char) : RunKind → Except Failure Atom
  | .number => Numeral.read start run
  | .name => .ok (atomNamed run)
  | .keyword =>
      if isKeywordName run then .ok (.symbol (String.ofList run))
      else .error (.located start (.malformedKeyword run))
  | .special =>
      if isSpecialName run then .ok (.symbol (String.ofList run))
      else .error (.located start (.malformedSpecial run))

end RunKind

end Sexpr
