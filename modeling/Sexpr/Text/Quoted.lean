import Sexpr.Text.Printable

/-!
Text between quotation marks, on one line and in printable characters only.

The mark is an apostrophe, unless the text has an apostrophe and no double quote.
Backslashes and the mark itself follow a backslash; line feed, carriage return and tab
have letters; every other character that is not printable is written by its code point.
-/

namespace Sexpr.Text.Quoted

def apostrophe : Char := '\x27'

def doubleQuote : Char := '\x22'

def mark (text : List Char) : Char :=
  if text.contains apostrophe && !text.contains doubleQuote then doubleQuote else apostrophe

def hexDigits (length n : Nat) : List Char :=
  let digits := Nat.toDigits 16 n
  List.replicate (length - digits.length) '0' ++ digits

/-- A character by its code point, in two, four or eight hexadecimal digits. -/
def codePoint (c : Char) : List Char :=
  if c.toNat < 0x100 then '\\' :: 'x' :: hexDigits 2 c.toNat
  else if c.toNat < 0x10000 then '\\' :: 'u' :: hexDigits 4 c.toNat
  else '\\' :: 'U' :: hexDigits 8 c.toNat

def escape (mark c : Char) : List Char :=
  if c = '\\' ∨ c = mark then ['\\', c]
  else if c = '\n' then ['\\', 'n']
  else if c = '\r' then ['\\', 'r']
  else if c = '\t' then ['\\', 't']
  else if isPrintable c then [c]
  else codePoint c

def encode (text : List Char) : List Char :=
  mark text :: text.flatMap (escape (mark text)) ++ [mark text]

end Sexpr.Text.Quoted
