import Sexpr.Command.Words
import Sexpr.Text.Integer
import Sexpr.Text.Quoted

/-!
Interfaces: the options and the operand of a program, and what a command line does to its
settings.

Words are acted on from left to right, so the first that is wrong, or that asks for help,
decides.  Words that have no use are collected.
-/

namespace Sexpr.Command

inductive Operand (σ : Type) where
  | none
  | single (name : String) (store : String → σ → σ)
  /-- A command and all words after it. -/
  | command

structure Interface (σ : Type) where
  rules : List (Rule σ)
  operand : Operand σ

inductive Halt where
  | help
  | misuse (message : String)

structure Parsed (σ : Type) where
  settings : σ
  /-- Whether the operand is still to come. -/
  isPending : Bool
  unused : List String
  command : List String

namespace Rule

variable {σ : Type}

def misuse (rule : Rule σ) (message : String) : Halt :=
  .misuse ("argument " ++ rule.title ++ ": " ++ message)

def ignored (rule : Rule σ) (text : List Char) : Halt :=
  rule.misuse ("ignored explicit argument " ++ String.ofList (Text.Quoted.encode text))

end Rule

/-- The options of a word, of which only the last may have a value. -/
structure Cluster (σ : Type) where
  flags : List (Rule σ)
  last : Rule σ
  value : Option String

namespace Cluster

variable {σ : Type}

def push (rule : Rule σ) (cluster : Cluster σ) : Cluster σ :=
  { cluster with flags := rule :: cluster.flags }

/-- The options of a word of one-letter names: the rule of a name, and the text after it.
That text is the value of an option that takes one, and names more options after any other. -/
def ofLetters (rules : List (Rule σ)) (rule : Rule σ) : List Char → Except Halt (Cluster σ)
  | [] =>
      match rule.action with
      | .take _ => .ok ⟨[], rule, some ""⟩
      | _ => .error (rule.ignored [])
  | c :: rest =>
      match rule.action with
      | .take _ => .ok ⟨[], rule, some (String.ofList (c :: rest))⟩
      | _ =>
          match Rule.find? rules (String.ofList ['-', c]), rest with
          | none, _ => .error (rule.ignored (c :: rest))
          | some next, [] => .ok ⟨[rule], next, none⟩
          | some next, following => (ofLetters rules next following).map (push rule)

def ofRecognised (rules : List (Rule σ)) (found : Recognised σ) : Except Halt (Cluster σ) :=
  match found.attached, found.rule.action, found.name.toList with
  | none, _, _ => .ok ⟨[], found.rule, none⟩
  | some text, .take _, _ => .ok ⟨[], found.rule, some (String.ofList text)⟩
  | some text, _, '-' :: '-' :: _ => .error (found.rule.ignored text)
  | some text, _, _ => ofLetters rules found.rule text

end Cluster

namespace Parsed

variable {σ : Type}

def act (rule : Rule σ) (value : Option String) (parsed : Parsed σ) : Except Halt (Parsed σ) :=
  match rule.action, value with
  | .help, _ => .error .help
  | .change apply, _ => .ok { parsed with settings := apply parsed.settings }
  | .take _, none => .error (rule.misuse "expected one argument")
  | .take apply, some text =>
      match apply (if text = "--" then none else some text) parsed.settings with
      | .ok settings => .ok { parsed with settings := settings }
      | .error message => .error (rule.misuse message)

def actAll : List (Rule σ) → Parsed σ → Except Halt (Parsed σ)
  | [], parsed => .ok parsed
  | rule :: rest, parsed => do actAll rest (← parsed.act rule none)

def leave (text : String) (parsed : Parsed σ) : Parsed σ :=
  { parsed with unused := parsed.unused ++ [text] }

/-- Act on the options of a word, with the operand that follows it, if one does.  The last
option may take that operand as its value, which is also told. -/
def actCluster (cluster : Cluster σ) (next : Option String) (parsed : Parsed σ) :
    Except Halt (Parsed σ × Bool) := do
  let acted ← parsed.actAll cluster.flags
  match cluster.last.action, cluster.value with
  | .take _, none => return (← acted.act cluster.last next, true)
  | _, value => return (← acted.act cluster.last value, false)

def accept (store : String → σ → σ) (text : String) (parsed : Parsed σ) : Parsed σ :=
  { parsed with settings := store text parsed.settings, isPending := false }

end Parsed

namespace Interface

variable {σ : Type}

def nextOperand? : List (Word σ) → Option String
  | .operand text :: _ => some text
  | _ => none

def follow (interface : Interface σ) : List (Word σ) → Parsed σ → Except Halt (Parsed σ)
  | [], parsed => .ok parsed
  | .unknown text :: rest, parsed => follow interface rest (parsed.leave text)
  | .option _ found :: rest, parsed =>
      let acted := do
        let cluster ← Cluster.ofRecognised interface.rules found
        parsed.actCluster cluster (nextOperand? rest)
      match acted, rest with
      | .error halt, _ => .error halt
      -- The last option has taken the next word for its value.
      | .ok (after, true), _ :: following => follow interface following after
      | .ok (after, _), following => follow interface following after
  | .operand text :: rest, parsed =>
      match interface.operand, parsed.isPending, rest with
      | .command, _, following =>
          .ok { parsed with command := text :: following.map Word.text }
      -- The separator next to an operand goes with it.
      | .single _ store, true, .separator :: following =>
          follow interface following (parsed.accept store text)
      | .single _ store, true, following =>
          follow interface following (parsed.accept store text)
      | _, _, following => follow interface following (parsed.leave text)
  | .separator :: rest, parsed =>
      match interface.operand, parsed.isPending, rest with
      | .command, _, .operand text :: following =>
          .ok { parsed with command := "--" :: text :: following.map Word.text }
      | .single _ store, true, .operand text :: following =>
          follow interface following (parsed.accept store text)
      | _, _, following => follow interface following (parsed.leave "--")

def parse (interface : Interface σ) (settings : σ) (texts : List String) :
    Except Halt (Parsed σ) :=
  match Word.classify Text.looksNegative interface.rules texts with
  | .error message => .error (.misuse message)
  | .ok words => do
      let parsed ← interface.follow words ⟨settings, true, [], []⟩
      match interface.operand, parsed.isPending with
      | .single name _, true =>
          throw (.misuse ("the following arguments are required: " ++ name))
      | _, _ => return parsed

end Interface

end Sexpr.Command
