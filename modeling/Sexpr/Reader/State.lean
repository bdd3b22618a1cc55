import Sexpr.Reader.Run

/-!
The state of a reader between two characters.

A reader keeps the lists and quotes that are open, innermost first, and what the characters
since the last complete form belong to.  `settle` makes the decisions that the next
character brings about without taking it: a run ends, a list or quote is entered.  `take`
then takes the character.  No failure takes one.
-/

namespace Sexpr.Reader

/-- How many forms inside one another a reader has room for.  Its calls nest as the forms do,
and the stack is bounded; the defaults are those of a stack of a thousand calls. -/
structure Room where
  /-- While it enters lists and quotes. -/
  reading : Nat := 497
  /-- While it reports that the end of the text closes a string or list. -/
  closing : Nat := 493
  deriving DecidableEq

structure Options where
  maxDepth : Nat := 256
  strict : Bool := true
  room : Room := {}
  deriving DecidableEq

/-- A list or quote that has been entered and is not complete.  The last item of a list comes
first. -/
inductive Frame where
  | list (start : Nat) (items : List Form)
  | quote (start : Nat)
  deriving DecidableEq

/-- What the characters since the last complete form belong to.  A list or quote is entered only
with the character after its first one, and what was taken of a run or string stands backwards. -/
inductive Scan where
  | gap
  | opened (start : Nat)
  | quoted (start : Nat)
  | run (kind : RunKind) (start : Nat) (taken : List Char)
  | string (start : Nat) (taken : List Char)
  deriving DecidableEq

/-- A reader between two characters: the open lists and quotes, innermost first, and the complete
forms outside of them, the last one first. -/
structure State where
  scan : Scan
  frames : List Frame
  forms : List Form
  deriving DecidableEq

namespace State

def initial : State := ⟨.gap, [], []⟩

/-- A complete form completes the quotes around it and becomes an item of the list around
those. -/
def deliver (form : Form) : List Frame → List Form → State
  | [], forms => ⟨.gap, [], form :: forms⟩
  | .quote _ :: frames, forms => deliver (.quote form) frames forms
  | .list start items :: frames, forms => ⟨.gap, .list start (form :: items) :: frames, forms⟩

def enter (options : Options) (start : Nat) (frame : Frame) (state : State) :
    Except Failure State :=
  let depth := state.frames.length + 1
  if options.maxDepth < depth then .error (.located start (.tooDeep options.maxDepth))
  else if options.room.reading < depth then .error .stackExhausted
  else .ok ⟨.gap, frame :: state.frames, state.forms⟩

/-- Whether a form can follow a quote sign before the given character, or the end. -/
def followsQuote : Option Char → Bool
  | none => false
  | some c => c != ' ' && c != ')'

/-- Decide what the next character, or the end of the text, brings about. -/
def settle (options : Options) (next : Option Char) (state : State) : Except Failure State :=
  match state.scan with
  | .gap | .string _ _ => .ok state
  | .opened start => state.enter options start (.list start [])
  | .quoted start =>
      if followsQuote next then state.enter options start (.quote start)
      else .error (.located start .danglingQuote)
  | .run kind start taken =>
      if next.any kind.accepts then .ok state
      else
        match kind.denoted start taken.reverse with
        | .error failure => .error failure
        | .ok atom => .ok (deliver (.leaf atom) state.frames state.forms)

def opening? (offset : Nat) (c : Char) : Option Scan :=
  if c = '(' then some (.opened offset)
  else if c.isDigit || c = '-' then some (.run .number offset [c])
  else if c.isAlpha then some (.run .name offset [c])
  else if c = '*' then some (.run .special offset [c])
  else if c = ':' then some (.run .keyword offset [c])
  else if c = Text.Quoted.doubleQuote then some (.string offset [])
  else if c = Text.Quoted.apostrophe then some (.quoted offset)
  else none

def startForm (offset : Nat) (c : Char) (state : State) : Except Failure State :=
  match opening? offset c with
  | some scan => .ok { state with scan := scan }
  | none => .error (.located offset (.unexpectedCharacter c))

inductive Goal where
  | one
  | all
  deriving DecidableEq

def takeInGap (goal : Goal) (offset : Nat) (c : Char) (state : State) : Except Failure State :=
  match state.frames, goal with
  | .list _ items :: frames, _ =>
      if c = ' ' then .ok state
      else if c = ')' then .ok (deliver (.list items.reverse) frames state.forms)
      else state.startForm offset c
  | .quote _ :: _, _ => state.startForm offset c
  -- A reader of one form skips no spaces before it.
  | [], .one => state.startForm offset c
  | [], .all =>
      if c = ' ' then .ok state
      else if c = ')' then .error (.located offset .strayClose)
      else state.startForm offset c

def take (goal : Goal) (offset : Nat) (c : Char) (state : State) : Except Failure State :=
  match state.scan with
  | .run kind start taken => .ok { state with scan := .run kind start (c :: taken) }
  | .string start taken =>
      if c = Text.Quoted.doubleQuote then
        .ok (deliver (.leaf (.string (String.ofList taken.reverse))) state.frames state.forms)
      else
        .ok { state with scan := .string start (c :: taken) }
  | .gap | .opened _ | .quoted _ => state.takeInGap goal offset c

def isComplete : State → Bool
  | ⟨.gap, [], _ :: _⟩ => true
  | _ => false

end State

/-- A form that the end of the text completes also completes the frames around it, each open
list with a notice. -/
def sealFrames (form : Form) : List Frame → List Notice × Form
  | [] => ([], form)
  | .quote _ :: frames => sealFrames (.quote form) frames
  | .list start items :: frames =>
      let sealed := sealFrames (.list (form :: items).reverse) frames
      (.closedList start :: sealed.1, sealed.2)

/-- Close the innermost string or list at the end of the text, unless that is refused.  Its
notice is the first, and is made where the stack has the least room left. -/
def closeAtEnd (options : Options) (refusal : Failure) (notice : Notice) (form : Form)
    (frames : List Frame) (forms : List Form) : Except Failure (List Notice × List Form) :=
  if options.strict then .error refusal
  else if options.room.closing < frames.length + 1 then .error .stackExhausted
  else
    let sealed := sealFrames form frames
    .ok (notice :: sealed.1, sealed.2 :: forms)

namespace State

/-- The forms at the end of the text, after `settle`: the last one first, with the notices of
a lenient reader. -/
def finish (options : Options) (state : State) : Except Failure (List Notice × List Form) :=
  match state.scan, state.frames with
  | .string start taken, frames =>
      closeAtEnd options (.located start .unterminatedString) (.closedString start)
        (.leaf (.string (String.ofList taken.reverse))) frames state.forms
  | _, .list start items :: frames =>
      closeAtEnd options (.located start .unterminatedList) (.closedList start)
        (.list items.reverse) frames state.forms
  | _, .quote start :: _ => .error (.located start .danglingQuote)
  | _, [] => .ok ([], state.forms)

def conclude (options : Options) (state : State) : Except Failure (List Notice × List Form) :=
  match state.settle options none with
  | .error failure => .error failure
  | .ok settled => settled.finish options

/-- What a reader does before a character. -/
inductive Move where
  | stop (outcome : Except Failure (List Form))
  | go (state : State)

def move (options : Options) (goal : Goal) (offset : Nat) (c : Char) (state : State) : Move :=
  match state.settle options (some c) with
  | .error failure => .stop (.error failure)
  | .ok settled =>
      if goal = .one ∧ settled.isComplete = true then .stop (.ok settled.forms)
      else
        match settled.take goal offset c with
        | .error failure => .stop (.error failure)
        | .ok taken => .go taken

end State

end Sexpr.Reader
