import Sexpr.Decimal
import Sexpr.Text.Location
import Sexpr.Text.Quoted

/-!
Why reading fails, and what a lenient reader reports instead.

A complaint is made at an offset of the text, and its message ends with that place.  Reading
also fails when the calls of the reader nest too deeply for its stack, which a reader of a whole
text reports at the place that it has come to, and on an integer written with too many digits to
be converted.
-/

namespace Sexpr

inductive ErrorKind where
  | general
  | malformed
  | depth
  | missing
  | number
  | conversion
  deriving DecidableEq

namespace ErrorKind

def description : ErrorKind → String
  | .general => "ReaderError"
  | .malformed | .depth => "SyntaxError"
  | .missing => "ReadError"
  | .number => "ReadNumError"
  | .conversion => "ConversionError: Not support its type."

/-- A family and the families that contain it, from the narrowest on. -/
def families : ErrorKind → List ErrorKind
  | .general => [.general]
  | .depth => [.depth, .malformed, .general]
  | kind => [kind, .general]

end ErrorKind

inductive Complaint where
  | unexpectedEnd
  | unexpectedCharacter (found : Char)
  | strayClose
  | unterminatedList
  | unterminatedString
  | danglingQuote
  | malformedKeyword (run : List Char)
  | malformedSpecial (run : List Char)
  | malformedNumber (run : List Char)
  /-- An integer has more significant digits than any in range. -/
  | integerTooLong (run : List Char)
  | integerOutOfRange (run : List Char)
  | floatOutOfRange
  | tooDeep (limit : Nat)
  | noForm
  deriving DecidableEq

namespace Complaint

def kind : Complaint → ErrorKind
  | .malformedNumber _ | .integerTooLong _ | .integerOutOfRange _ | .floatOutOfRange => .number
  | .tooDeep _ => .depth
  | .noForm => .missing
  | _ => .malformed

def shownLength : Nat := 32

def wording : Complaint → List Char
  | .unexpectedEnd => "unexpected end of input".toList
  | .unexpectedCharacter found => "unexpected character ".toList ++ Text.Quoted.encode [found]
  | .strayClose => "unexpected ".toList ++ Text.Quoted.encode [')']
  | .unterminatedList => "unterminated list".toList
  | .unterminatedString => "unterminated string".toList
  | .danglingQuote => "quote is not followed by a form".toList
  | .malformedKeyword run => "invalid keyword symbol: ".toList ++ Text.Quoted.encode run
  | .malformedSpecial run => "invalid special symbol: ".toList ++ Text.Quoted.encode run
  | .malformedNumber run => "invalid number: ".toList ++ Text.Quoted.encode run
  | .integerTooLong run =>
      "integer out of 64-bit range: ".toList ++ run.take shownLength ++ ['.', '.', '.']
  | .integerOutOfRange run => "integer out of 64-bit range: ".toList ++ run
  | .floatOutOfRange => "float out of 64-bit range".toList
  | .tooDeep limit => "nesting deeper than ".toList ++ decimalDigits limit
  | .noForm => "no form found".toList

end Complaint

inductive Failure where
  | located (offset : Nat) (complaint : Complaint)
  /-- Nesting within the limit, but deeper than the stack has room for. -/
  | stackExhausted
  /-- The same, as a reader of a whole text reports it. -/
  | nestingExhausted (offset : Nat)
  /-- An integer in range that is written with too many digits. -/
  | tooManyDigits (count : Nat)
  deriving DecidableEq

namespace Failure

def kind? : Failure → Option ErrorKind
  | .located _ complaint => some complaint.kind
  | .nestingExhausted _ => some .depth
  | .stackExhausted | .tooManyDigits _ => none

def offset? : Failure → Option Nat
  | .located offset _ | .nestingExhausted offset => some offset
  | .stackExhausted | .tooManyDigits _ => none

/-- A failure as it is reported by a reader of a whole text that has come to an offset. -/
def caught (offset : Nat) : Failure → Failure
  | .stackExhausted => .nestingExhausted offset
  | failure => failure

def placeText (text : List Char) (offset : Nat) : List Char :=
  let place := Text.Location.ofOffset text offset
  " at position ".toList ++ decimalDigits offset ++ " (row: ".toList ++
    decimalDigits place.row ++ ", col: ".toList ++ decimalDigits place.column ++ [')']

def message (text : List Char) : Failure → List Char
  | .located offset complaint => complaint.wording ++ placeText text offset
  | .stackExhausted => "maximum recursion depth exceeded".toList
  | .nestingExhausted offset =>
      "nesting exceeds the interpreter recursion limit".toList ++ placeText text offset
  | .tooManyDigits count =>
      "Exceeds the limit (4300 digits) for integer string conversion: value has ".toList ++
        decimalDigits count ++
        " digits; use sys.set_int_max_str_digits() to increase the limit".toList

end Failure

inductive Level where
  | debug
  | info
  | warning
  | error
  deriving DecidableEq

namespace Level

def rank : Level → Nat
  | .debug => 0
  | .info => 1
  | .warning => 2
  | .error => 3

def name : Level → String
  | .debug => "DEBUG"
  | .info => "INFO"
  | .warning => "WARNING"
  | .error => "ERROR"

end Level

/-- What a reader reports without failing: that the end of the text closed a string or list, given
by its start, or that further forms were not used. -/
inductive Notice where
  | closedString (start : Nat)
  | closedList (start : Nat)
  | discarded (count : Nat)
  deriving DecidableEq

namespace Notice

/-- Recovery is worth a warning; unused forms are not. -/
def level : Notice → Level
  | .closedString _ | .closedList _ => .warning
  | .discarded _ => .debug

def message : Notice → List Char
  | .closedString start =>
      "unterminated string starting at position ".toList ++ decimalDigits start ++
        " is accepted".toList
  | .closedList start =>
      "unterminated list starting at position ".toList ++ decimalDigits start ++
        " is accepted".toList
  | .discarded count => decimalDigits count ++ " trailing top-level form(s) discarded".toList

def isShown (threshold : Level) (notice : Notice) : Bool :=
  decide (threshold.rank ≤ notice.level.rank)

end Notice

end Sexpr
