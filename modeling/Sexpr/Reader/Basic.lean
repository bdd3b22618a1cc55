import Sexpr.Reader.State

/-!
Reading, from a place in a text.

`advance` takes characters until the goal is reached, the text ends or reading fails.  Each
method is a state to advance from and a choice among the forms read.  `readAll` and
`readFirst` read a whole text.
-/

namespace Sexpr.Reader

/-- A place in a text: how far it is from the start, and what follows. -/
structure Cursor where
  offset : Nat
  rest : List Char
  deriving DecidableEq

namespace Cursor

def ofOffset (text : List Char) (offset : Nat) : Cursor := ⟨offset, text.drop offset⟩

def next (cursor : Cursor) : Cursor :=
  match cursor.rest with
  | [] => cursor
  | _ :: rest => ⟨cursor.offset + 1, rest⟩

end Cursor

/-- What reading comes to, and the place it leaves the reader at. -/
structure Reading (α : Type) where
  outcome : Except Failure α
  notices : List Notice
  cursor : Cursor

/-- A reading that says, if it ran out of stack, where in the text it did. -/
def Reading.catching {α : Type} (reading : Reading α) : Reading α :=
  { reading with outcome := reading.outcome.mapError (Failure.caught reading.cursor.offset) }

open State (Goal)

def atEnd (offset : Nat) : Except Failure (List Notice × List Form) → Reading (List Form)
  | .error failure => ⟨.error failure, [], ⟨offset, []⟩⟩
  | .ok (notices, forms) => ⟨.ok forms, notices, ⟨offset, []⟩⟩

/-- Read on from a state, to the forms that are complete in the end, the last one first. -/
def advance (options : Options) (goal : Goal) :
    State → Nat → List Char → Reading (List Form)
  | state, offset, [] => atEnd offset (state.conclude options)
  | state, offset, c :: rest =>
      match state.move options goal offset c with
      | .stop outcome => ⟨outcome, [], ⟨offset, c :: rest⟩⟩
      | .go taken => advance options goal taken (offset + 1) rest

/-- What can be read at a place.  A string, list or quote is taken to start with the next character,
whichever it is, and a run may be empty. -/
inductive Method where
  | form
  | run (kind : RunKind)
  | string
  | list
  | quote
  | all
  | first
  deriving DecidableEq

namespace Method

def goal : Method → Goal
  | .all | .first => .all
  | _ => .one

def scan (offset : Nat) : Method → Scan
  | .form | .all | .first => .gap
  | .run kind => .run kind offset []
  | .string => .string offset []
  | .list => .opened offset
  | .quote => .quoted offset

def place (cursor : Cursor) : Method → Cursor
  | .string | .list | .quote => cursor.next
  | _ => cursor

/-- The form that a method returns, of those read, and a notice of those left over. -/
def choose (forms : List Form) (offset : Nat) : Method → Except Failure Form × List Notice
  | .all => (.ok (.list forms), [])
  | .first =>
      match forms with
      | [] => (.error (.located offset .noForm), [])
      | [only] => (.ok only, [])
      | head :: others => (.ok head, [.discarded others.length])
  | _ =>
      match forms with
      | [] => (.error (.located offset .unexpectedEnd), [])
      | head :: _ => (.ok head, [])

/-- A reading as a method reports it: those of a whole text say where the stack ran out. -/
def report (reading : Reading (List Form)) : Method → Reading (List Form)
  | .all | .first => reading.catching
  | _ => reading

def read (options : Options) (method : Method) (cursor : Cursor) : Reading Form :=
  let place := method.place cursor
  let reading := method.report
    (advance options method.goal ⟨method.scan cursor.offset, [], []⟩ place.offset place.rest)
  match reading.outcome with
  | .error failure => ⟨.error failure, reading.notices, reading.cursor⟩
  | .ok forms =>
      let chosen := method.choose forms.reverse reading.cursor.offset
      ⟨chosen.1, reading.notices ++ chosen.2, reading.cursor⟩

end Method

def readAll (options : Options) (text : String) : Reading Form :=
  Method.all.read options ⟨0, text.toList⟩

def readFirst (options : Options) (text : String) : Reading Form :=
  Method.first.read options ⟨0, text.toList⟩

end Sexpr.Reader
