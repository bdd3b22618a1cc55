/-!
Integers as they are typed on a command line: white space around them, one sign, and
decimal digits of any script, with single underscores between digits.
-/

namespace Sexpr.Text

/-- The code points of the decimal zeros; each starts a block of ten digits. -/
def decimalZeros : List Nat := [
    0x30, 0x660, 0x6F0, 0x7C0, 0x966, 0x9E6, 0xA66, 0xAE6, 0xB66, 0xBE6, 0xC66, 0xCE6, 0xD66,
    0xDE6, 0xE50, 0xED0, 0xF20, 0x1040, 0x1090, 0x17E0, 0x1810, 0x1946, 0x19D0, 0x1A80, 0x1A90,
    0x1B50, 0x1BB0, 0x1C40, 0x1C50, 0xA620, 0xA8D0, 0xA900, 0xA9D0, 0xA9F0, 0xAA50, 0xABF0,
    0xFF10, 0x104A0, 0x10D30, 0x11066, 0x110F0, 0x11136, 0x111D0, 0x112F0, 0x11450, 0x114D0,
    0x11650, 0x116C0, 0x11730, 0x118E0, 0x11950, 0x11C50, 0x11D50, 0x11DA0, 0x16A60, 0x16AC0,
    0x16B50, 0x1D7CE, 0x1D7D8, 0x1D7E2, 0x1D7EC, 0x1D7F6, 0x1E140, 0x1E2F0, 0x1E950, 0x1FBF0  ]

def decimalDigit? (c : Char) : Option Nat :=
  (decimalZeros.find? fun first => first ≤ c.toNat && c.toNat < first + 10).map (c.toNat - ·)

def wideBlanks : List Nat :=
  [0x85, 0xA0, 0x1680, 0x2000, 0x2001, 0x2002, 0x2003, 0x2004, 0x2005, 0x2006, 0x2007, 0x2008,
    0x2009, 0x200A, 0x2028, 0x2029, 0x202F, 0x205F, 0x3000]

def isBlank (c : Char) : Bool :=
  c == ' ' || (0x09 ≤ c.toNat && c.toNat ≤ 0x0D) || wideBlanks.contains c.toNat

def trimBlanks (text : List Char) : List Char :=
  ((text.dropWhile isBlank).reverse.dropWhile isBlank).reverse

/-- Digits separated by nothing or by single underscores: their values, first digit first. -/
def groupedDigits? : List Char → Option (List Nat)
  | [] => none
  | [c] => (decimalDigit? c).map ([·])
  | c :: '_' :: rest => do
      let digit ← decimalDigit? c
      let digits ← groupedDigits? rest
      return digit :: digits
  | c :: rest => do
      let digit ← decimalDigit? c
      let digits ← groupedDigits? rest
      return digit :: digits

def digitLimit : Nat := 4300

inductive IntegerError where
  | malformed
  | tooLong (count : Nat)

def readNat (text : List Char) : Except IntegerError Nat :=
  match groupedDigits? text with
  | none => .error .malformed
  | some digits =>
      if digits.length ≤ digitLimit then
        .ok (digits.foldl (fun value digit => 10 * value + digit) 0)
      else .error (.tooLong digits.length)

/-- An integer with white space around it and at most one sign. -/
def readInt (text : List Char) : Except IntegerError Int :=
  match trimBlanks text with
  | '-' :: rest => (readNat rest).map fun n => -(n : Int)
  | '+' :: rest => (readNat rest).map Int.ofNat
  | rest => (readNat rest).map Int.ofNat

/-- Whether a word looks like a negative number: a minus sign and digits, with at most one
point, which digits follow.  A line feed at the end does not count. -/
def looksNegative (word : List Char) : Bool :=
  let isDigit c := (decimalDigit? c).isSome
  match word with
  | '-' :: rest =>
      let body := if rest.getLast? == some '\n' then rest.dropLast else rest
      match body.dropWhile isDigit with
      | [] => !body.isEmpty
      | '.' :: fraction => !fraction.isEmpty && fraction.all isDigit
      | _ => false
  | _ => false

end Sexpr.Text
