import Sexpr.Reader.Basic

/-!
Sessions: a text, a place in it, and calls that look, move or read.

The place is all that one call leaves to the next.
-/

namespace Sexpr.Reader

structure Session where
  text : List Char
  options : Options
  /-- The number of characters before the place, which may lie past the end. -/
  offset : Nat

inductive Call where
  | peek
  | advance
  /-- Row and column of an offset, or of the place. -/
  | location (offset : Option Int)
  | describe
  | seek (offset : Nat)
  | read (method : Method)

inductive Answer where
  | character (found : Option Char)
  | location (place : Text.Location)
  | text (description : List Char)
  | done
  | form (outcome : Except Failure Form)

namespace Session

def start (options : Options) (text : String) : Session := ⟨text.toList, options, 0⟩

def cursor (session : Session) : Cursor := .ofOffset session.text session.offset

def peek (session : Session) : Option Char := session.cursor.rest.head?

def description (session : Session) : List Char :=
  let next := match session.peek with
    | some c => Text.Quoted.encode [c]
    | none => "None".toList
  "Cursor(pos: ".toList ++ decimalDigits session.offset ++ ", next: ".toList ++ next ++ [')']

def step (session : Session) : Call → Answer × List Notice × Session
  | .peek => (.character session.peek, [], session)
  | .advance =>
      (.character session.peek, [], { session with offset := session.cursor.next.offset })
  | .location none => (.location (.ofOffset session.text session.offset), [], session)
  | .location (some offset) => (.location (.ofSigned session.text offset), [], session)
  | .describe => (.text session.description, [], session)
  | .seek offset => (.done, [], { session with offset := offset })
  | .read method =>
      let reading := method.read session.options session.cursor
      (.form reading.outcome, reading.notices,
        { session with offset := reading.cursor.offset })

def run (session : Session) : List Call → List (Answer × List Notice) × Session
  | [] => ([], session)
  | call :: calls =>
      let (answer, notices, stepped) := session.step call
      let (answers, last) := stepped.run calls
      ((answer, notices) :: answers, last)

end Session

end Sexpr.Reader
