import Sexpr.Binary64.Rounding
import Sexpr.Form.Basic
import Sexpr.Reader.Failure
import Sexpr.Text.Integer

/-!
Numbers in source text: an optional minus sign, digits, and perhaps a point and digits.

An integer is rejected by its number of significant digits before its value is computed.
A decimal is rounded correctly, however many digits it has.
-/

namespace Sexpr

structure Numeral where
  negative : Bool
  whole : List Char
  /-- The digits after the point, if there is a point. -/
  fraction : Option (List Char)

namespace Numeral

def ofUnsigned? (negative : Bool) (run : List Char) : Option Numeral :=
  match run.takeWhile Char.isDigit, run.dropWhile Char.isDigit with
  | [], _ => none
  | whole, [] => some ⟨negative, whole, none⟩
  | whole, '.' :: fraction =>
      if !fraction.isEmpty && fraction.all Char.isDigit then
        some ⟨negative, whole, some fraction⟩
      else
        none
  | _, _ => none

def ofRun? : List Char → Option Numeral
  | '-' :: run => ofUnsigned? true run
  | run => ofUnsigned? false run

/-- The greatest number of significant digits of an integer in range. -/
def significantDigits : Nat := 19

def signedValue (negative : Bool) (digits : List Char) : Int :=
  if negative then -(digitsValue digits : Int) else digitsValue digits

def readInteger (start : Nat) (run : List Char) (negative : Bool) (digits : List Char) :
    Except Failure Atom :=
  let significant := digits.dropWhile (· == '0')
  if significantDigits < significant.length then .error (.located start (.integerTooLong run))
  -- Leading zeros count here, unlike above.
  else if Text.digitLimit < digits.length then .error (.tooManyDigits digits.length)
  else
    let value := signedValue negative significant
    if fitsInt value then .ok (.int value) else .error (.located start (.integerOutOfRange run))

def ofRounded (start : Nat) : Option Binary64 → Except Failure Atom
  | some value => .ok (.float value)
  | none => .error (.located start .floatOutOfRange)

def readDecimal (start : Nat) (negative : Bool) (whole fraction : List Char) :
    Except Failure Atom :=
  ofRounded start
    (Binary64.ofRatio? negative (digitsValue (whole ++ fraction)) (Nat.pow 10 fraction.length))

def read (start : Nat) (run : List Char) : Except Failure Atom :=
  match ofRun? run with
  | some ⟨negative, digits, none⟩ => readInteger start run negative digits
  | some ⟨negative, whole, some fraction⟩ => readDecimal start negative whole fraction
  | none => .error (.located start (.malformedNumber run))

end Numeral

end Sexpr
