import Sexpr.Script.Expression

/-!
Readers and errors that are made from values of any kind.

All values are made before any is looked at, and making them may report something.  The
nesting limit is checked before the text.  An error shows the given message, or the
description of its family where the message counts as false.
-/

namespace Sexpr.Script

/-- The options of a reader, from a nesting limit and a value that counts as true or false. -/
def readerOptions (limit strict : Value) : Except Fault Reader.Options :=
  match limit with
  | .int n =>
      if n < 1 then .error (.depthLimitTooSmall n)
      else .ok { maxDepth := n.toNat, strict := strict.isTrue }
  | other => .error (.wrongKind .depthLimit other.qualifiedName)

def readerText : Value → Except Fault String
  | .text content => .ok content
  | other => .error (.wrongKind .input other.qualifiedName)

def readerInput (limit strict text : Value) : Except Fault (Reader.Options × String) := do
  let options ← readerOptions limit strict
  let content ← readerText text
  return (options, content)

structure Inputs where
  text : Expression
  limit : Expression := .int ({} : Reader.Options).maxDepth
  strict : Expression := .bool ({} : Reader.Options).strict

/-- The options and the text of a reader, and what was reported while they were made. -/
def Inputs.prepare (inputs : Inputs) :
    Except Fault (Reader.Options × String) × List Notice :=
  let made : Evaluation (Reader.Options × String) := do
    let text ← inputs.text.evaluate []
    let limit ← inputs.limit.evaluate []
    let strict ← inputs.strict.evaluate []
    readerInput limit strict text
  let (outcome, journal) := made.carryOut {}
  (outcome, journal.notices)

structure Report where
  message : String
  place : Value

def report (kind : ErrorKind) (given : List Value) : Except Fault Report :=
  let made (message place : Value) : Except Fault Report :=
    if message.isTrue then
      match message.display? with
      | some shown => .ok ⟨String.ofList shown, place⟩
      | none => .error .unsupported
    else .ok ⟨kind.description, place⟩
  match given with
  | [] => made (.text "") .none
  | [message] => made message .none
  | [message, place] => made message place
  | _ => .error (.tooManyArguments (given.length + 1))

def reportOf (kind : ErrorKind) (given : List Expression) : Except Fault Report :=
  let made : Evaluation Report := do report kind (← Expression.evaluateAll [] given)
  (made.carryOut {}).1

end Sexpr.Script
