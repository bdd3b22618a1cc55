import Sexpr.Reader.Session

/-!
Reading by recursive descent.

Here a reader calls itself for the forms inside a list or a quote, and counts how deeply it is
nested.  It counts down again however reading the inner forms ends.  The count is kept between
calls, so whether it is right before a call depends on all calls before.
-/

namespace Sexpr

theorem RunKind.accepts_number {c : Char} (starts : (c.isDigit || c = '-') = true) :
    RunKind.number.accepts c = true := by
  rw [accepts, Bool.beq_eq_decide_eq, starts, Bool.true_or]

end Sexpr

namespace Sexpr.Reader

namespace Cursor

theorem length_rest_next_le (place : Cursor) : place.next.rest.length ≤ place.rest.length := by
  rcases place with ⟨offset, _ | ⟨c, more⟩⟩
  · exact Nat.le_refl _
  · exact Nat.le_succ _

theorem length_rest_next_lt {place : Cursor} {c : Char} {more : List Char}
    (starts : place.rest = c :: more) : place.next.rest.length < place.rest.length := by
  simp only [next, starts, List.length_cons, Nat.lt_succ_self]

theorem length_dropWhile_le {place : Cursor} {c : Char} {more : List Char} {accepts : Char → Bool}
    (starts : place.rest = c :: more) (accepted : accepts c = true) :
    (place.rest.dropWhile accepts).length ≤ place.next.rest.length := by
  simp only [next, starts, List.dropWhile_cons_of_pos accepted]
  exact (List.dropWhile_sublist _).length_le

end Cursor

namespace Descent

open Text.Quoted (doubleQuote apostrophe)

/-- What a part of the reader leaves: what it has read, and the nesting that it has counted.
Unless it has failed, no more than so many characters are left, so reading on makes progress. -/
structure Exit (α : Type) (limit : Nat) extends Reading α where
  depth : Nat
  within : ∀ value, outcome = .ok value → cursor.rest.length ≤ limit

namespace Exit

variable {α β : Type} {limit other : Nat}

def fail (failure : Failure) (cursor : Cursor) (depth : Nat) : Exit α limit where
  outcome := .error failure
  notices := []
  cursor
  depth
  within := nofun

def succeed (value : α) (notices : List Notice) (cursor : Cursor) (depth : Nat)
    (within : cursor.rest.length ≤ limit) : Exit α limit where
  outcome := .ok value
  notices
  cursor
  depth
  within _ _ := within

def map (f : α → β) (exit : Exit α limit) : Exit β limit where
  outcome := exit.outcome.map f
  notices := exit.notices
  cursor := exit.cursor
  depth := exit.depth
  within _ mapped := by
    cases outcome : exit.outcome with
    | error failure =>
        rw [outcome] at mapped
        cases mapped
    | ok value => exact exit.within value outcome

def andThen (exit : Exit α limit)
    (next : ∀ value, exit.outcome = .ok value → Exit β other) : Exit β other :=
  match outcome : exit.outcome with
  | .error failure => ⟨⟨.error failure, exit.notices, exit.cursor⟩, exit.depth, nofun⟩
  | .ok value =>
      let later := next value outcome
      ⟨⟨later.outcome, exit.notices ++ later.notices, later.cursor⟩, later.depth, later.within⟩

/-- Count down, whether reading has failed or not. -/
def leave (exit : Exit α limit) : Exit α limit := { exit with depth := exit.depth - 1 }

def weaken (exit : Exit α limit) (le : limit ≤ other) : Exit α other where
  toReading := exit.toReading
  depth := exit.depth
  within value outcome := Nat.le_trans (exit.within value outcome) le

def catching (exit : Exit α limit) : Exit α limit where
  toReading := exit.toReading.catching
  depth := exit.depth
  within value caught := by
    cases outcome : exit.outcome with
    | error failure =>
        rw [Reading.catching, outcome] at caught
        cases caught
    | ok value => exact exit.within value outcome

def counted (exit : Exit α limit) : Reading α × Nat := (exit.toReading, exit.depth)

end Exit

def readRun (kind : RunKind) (place : Cursor) (depth : Nat) :
    Exit Form (place.rest.dropWhile kind.accepts).length where
  outcome := (kind.denoted place.offset (place.rest.takeWhile kind.accepts)).map .leaf
  notices := []
  cursor := ⟨place.offset + (place.rest.takeWhile kind.accepts).length,
    place.rest.dropWhile kind.accepts⟩
  depth
  within _ _ := Nat.le_refl _

def takeString (options : Options) (place : Cursor) (depth : Nat) : Reading Form :=
  let taken := place.next.rest.takeWhile (· != doubleQuote)
  let closing : Cursor :=
    ⟨place.next.offset + taken.length, place.next.rest.dropWhile (· != doubleQuote)⟩
  let form : Form := .leaf (.string (String.ofList taken))
  match closing.rest with
  | _ :: _ => ⟨.ok form, [], closing.next⟩
  | [] =>
      if options.strict then ⟨.error (.located place.offset .unterminatedString), [], closing⟩
      else if options.room.closing < depth + 1 then ⟨.error .stackExhausted, [], closing⟩
      else ⟨.ok form, [.closedString place.offset], closing⟩

theorem length_rest_takeString (options : Options) (place : Cursor) (depth : Nat) :
    (takeString options place depth).cursor.rest.length ≤ place.next.rest.length := by
  have dropped : (place.next.rest.dropWhile (· != doubleQuote)).length ≤ place.next.rest.length :=
    (List.dropWhile_sublist _).length_le
  unfold takeString
  dsimp only
  split
  next => exact Nat.le_trans (Cursor.length_rest_next_le _) dropped
  next =>
    split
    next => exact dropped
    next => split <;> exact dropped

def readString (options : Options) (place : Cursor) (depth : Nat) :
    Exit Form place.next.rest.length where
  toReading := takeString options place depth
  depth
  within _ _ := length_rest_takeString options place depth

def refusal? (options : Options) (start depth : Nat) : Option Failure :=
  if options.maxDepth < depth then some (.located start (.tooDeep options.maxDepth))
  else if options.room.reading < depth then some .stackExhausted
  else none

mutual

def readForm (options : Options) (place : Cursor) (depth : Nat) :
    Exit Form place.next.rest.length :=
  match starts : place.rest with
  | [] => .fail (.located place.offset .unexpectedEnd) place depth
  | c :: _ =>
      have shorter := Cursor.length_rest_next_lt starts
      let run (kind : RunKind) (accepted : kind.accepts c = true) :=
        (readRun kind place depth).weaken (Cursor.length_dropWhile_le starts accepted)
      if c = '(' then readList options place depth
      else if isNumber : c.isDigit || c = '-' then run .number (RunKind.accepts_number isNumber)
      else if isName : c.isAlpha then run .name (by simp [RunKind.accepts, isNameChar, isName])
      else if isSpecial : c = '*' then run .special (by simp [RunKind.accepts, isSpecial])
      else if isKeyword : c = ':' then run .keyword (by simp [RunKind.accepts, isKeyword])
      else if c = doubleQuote then readString options place depth
      else if c = apostrophe then readQuote options place depth
      else .fail (.located place.offset (.unexpectedCharacter c)) place depth
termination_by (place.rest.length, 0)

def readList (options : Options) (place : Cursor) (depth : Nat) :
    Exit Form place.next.rest.length :=
  match refusal? options place.offset (depth + 1) with
  | some failure => (Exit.fail failure place.next (depth + 1)).leave
  | none => (readItems options place.offset [] place.next (depth + 1)).leave
termination_by (place.next.rest.length, 2)

def readQuote (options : Options) (place : Cursor) (depth : Nat) :
    Exit Form place.next.rest.length :=
  if State.followsQuote place.next.rest.head? then
    match refusal? options place.offset (depth + 1) with
    | some failure => (Exit.fail failure place.next (depth + 1)).leave
    | none =>
        let inner := (readForm options place.next (depth + 1)).map .quote
        (inner.weaken place.next.length_rest_next_le).leave
  else .fail (.located place.offset .danglingQuote) place.next depth
termination_by (place.next.rest.length, 2)

/-- Read on in a list that starts at an offset, with its items so far, the last one first. -/
def readItems (options : Options) (start : Nat) (items : List Form) (place : Cursor)
    (depth : Nat) : Exit Form place.rest.length :=
  match starts : place.rest with
  | [] =>
      if options.strict then .fail (.located start .unterminatedList) place depth
      else if options.room.closing < depth then .fail .stackExhausted place depth
      else .succeed (.list items.reverse) [.closedList start] place depth (by simp [starts])
  | c :: _ =>
      have shorter := Cursor.length_rest_next_lt starts
      if c = ')' then
        .succeed (.list items.reverse) [] place.next depth (starts ▸ Nat.le_of_lt shorter)
      else if c = ' ' then
        (readItems options start items place.next depth).weaken (starts ▸ Nat.le_of_lt shorter)
      else
        -- The next items have fewer characters left only if there is this one.
        have item := readForm options place depth
        item.andThen fun form outcome =>
          have fewer := Nat.lt_of_le_of_lt (item.within form outcome) shorter
          (readItems options start (form :: items) item.cursor item.depth).weaken
            (starts ▸ Nat.le_of_lt fewer)
termination_by (place.rest.length, 1)

end

/-- Read on to the end of the text, after some forms, the last one first. -/
def readForms (options : Options) (forms : List Form) (place : Cursor) (depth : Nat) :
    Exit (List Form) 0 :=
  match starts : place.rest with
  | [] => .succeed forms.reverse [] place depth (by simp [starts])
  | c :: _ =>
      have shorter := Cursor.length_rest_next_lt starts
      if c = ' ' then readForms options forms place.next depth
      else if c = ')' then .fail (.located place.offset .strayClose) place depth
      else
        have item := readForm options place depth
        item.andThen fun form outcome =>
          have fewer := Nat.lt_of_le_of_lt (item.within form outcome) shorter
          readForms options (form :: forms) item.cursor item.depth
termination_by place.rest.length

def readAll (options : Options) (place : Cursor) (depth : Nat) : Exit Form 0 :=
  (readForms options [] place depth).catching.map .list

def Exit.first {limit : Nat} (all : Exit (List Form) limit) : Exit Form limit :=
  all.andThen fun forms outcome =>
    have within := all.within forms outcome
    match forms with
    | [] => .fail (.located all.cursor.offset .noForm) all.cursor all.depth
    | [only] => .succeed only [] all.cursor all.depth within
    | head :: others =>
        .succeed head [.discarded others.length] all.cursor all.depth within

def readFirst (options : Options) (place : Cursor) (depth : Nat) : Exit Form 0 :=
  (readForms options [] place depth).catching.first

/-- Read by a method at a place, with the nesting counted before.  What is read comes with the
nesting counted after. -/
def read (options : Options) (place : Cursor) (depth : Nat) : Method → Reading Form × Nat
  | .form => (readForm options place depth).counted
  | .run kind => (readRun kind place depth).counted
  | .string => (readString options place depth).counted
  | .list => (readList options place depth).counted
  | .quote => (readQuote options place depth).counted
  | .all => (readAll options place depth).counted
  | .first => (readFirst options place depth).counted

structure Session extends Reader.Session where
  depth : Nat

namespace Session

def start (options : Options) (text : String) : Session := ⟨Reader.Session.start options text, 0⟩

def read (session : Session) (method : Method) : Reading Form × Nat :=
  Descent.read session.options session.cursor session.depth method

def step (session : Session) : Call → Answer × List Notice × Session
  | .read method =>
      let (reading, depth) := session.read method
      (.form reading.outcome, reading.notices,
        { session with offset := reading.cursor.offset, depth })
  | other =>
      let (answer, notices, stepped) := session.toSession.step other
      (answer, notices, ⟨stepped, session.depth⟩)

def run (session : Session) : List Call → List (Answer × List Notice) × Session
  | [] => ([], session)
  | call :: calls =>
      let (answer, notices, stepped) := session.step call
      let (answers, last) := stepped.run calls
      ((answer, notices) :: answers, last)

end Session

end Descent

end Sexpr.Reader
