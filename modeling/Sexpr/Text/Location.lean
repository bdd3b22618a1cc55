/-!
Rows and columns of a text.

Rows are separated by line feeds; both counts start at one.
-/

namespace Sexpr.Text

/-- A row and a column, counted from one. -/
structure Location where
  row : Nat
  column : Nat
  deriving DecidableEq

namespace Location

def start : Location := ⟨1, 1⟩

def step (place : Location) (c : Char) : Location :=
  if c = '\n' then ⟨place.row + 1, 1⟩ else ⟨place.row, place.column + 1⟩

/-- The place at an offset; offsets past the end count as the end. -/
def ofOffset (text : List Char) (offset : Nat) : Location :=
  (text.take offset).foldl step start

/-- The place at a signed offset; a negative one counts from the end of the text. -/
def ofSigned (text : List Char) : Int → Location
  | .ofNat offset => ofOffset text offset
  | .negSucc before => ofOffset text (text.length - (before + 1))

end Location

end Sexpr.Text
