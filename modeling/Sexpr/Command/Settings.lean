import Sexpr.Command.Interface
import Sexpr.Command.Usage
import Sexpr.Decimal
import Sexpr.Reader.State

/-!
What the program is asked to do, and how a command line asks for it.
-/

namespace Sexpr.Command

structure Room extends Reader.Room where
  /-- How deeply calls may nest while a form is shown. -/
  showing : Nat := 996

structure Settings where
  /-- The nesting limit, unless it was set to no value. -/
  maxDepth : Option Int := some 256
  lenient : Bool := false
  sexp : Bool := false
  expression : String := ""
  prompt : String := "LPRP>> "
  recover : Bool := false
  room : Room := {}

inductive Mode where
  | read
  | repl
  deriving DecidableEq

structure Plan where
  verbosity : Nat
  mode : Mode
  settings : Settings

inductive Refusal where
  | help (scope : Scope)
  | misuse (scope : Scope) (message : String)
  | noCommand
  | noDepthLimit

def helpRule {σ : Type} : Rule σ := ⟨["-h", "--help"], .help⟩

def programInterface : Interface Nat where
  rules := [helpRule, ⟨["--verbose", "-v"], .change (· + 1)⟩]
  operand := .command

def setMaxDepth (value : Option String) (settings : Settings) : Except String Settings :=
  match value with
  | none => .ok { settings with maxDepth := none }
  | some text =>
      match Text.readInt text.toList with
      | .ok n => .ok { settings with maxDepth := some n }
      | .error _ => .error ("invalid int value: " ++ String.ofList (Text.Quoted.encode text.toList))

/-- Set the prompt.  No value is shown as an empty list. -/
def setPrompt (value : Option String) (settings : Settings) : Except String Settings :=
  .ok { settings with prompt := value.getD "[]" }

def sharedRules : List (Rule Settings) :=
  [helpRule,
    ⟨["--max-depth"], .take setMaxDepth⟩,
    ⟨["--lenient"], .change fun settings => { settings with lenient := true }⟩,
    ⟨["--sexp"], .change fun settings => { settings with sexp := true }⟩]

def sessionRules : List (Rule Settings) :=
  [⟨["--prompt"], .take setPrompt⟩,
    ⟨["--recover"], .change fun settings => { settings with recover := true }⟩]

namespace Mode

def interface : Mode → Interface Settings
  | .read =>
      ⟨sharedRules, .single "expr" fun text settings => { settings with expression := text }⟩
  | .repl => ⟨sharedRules ++ sessionRules, .none⟩

def scope : Mode → Scope
  | .read => .read
  | .repl => .repl

def ofName? (name : String) : Option Mode :=
  if name = "read" then some .read else if name = "repl" then some .repl else none

end Mode

def within {α : Type} (scope : Scope) : Except Halt α → Except Refusal α
  | .ok value => .ok value
  | .error .help => .error (.help scope)
  | .error (.misuse message) => .error (.misuse scope message)

def unrecognised (words : List String) : String :=
  "unrecognized arguments: " ++ " ".intercalate words

/-- What a command line asks for.  A command sees only the words after it; words that
neither has a use for are refused together. -/
def plan (room : Room) (words : List String) : Except Refusal Plan := do
  let outer ← within .program (programInterface.parse 0 words)
  match outer.command with
  | [] =>
      if outer.unused.isEmpty then throw .noCommand
      else throw (.misuse .program (unrecognised outer.unused))
  | name :: rest =>
      match Mode.ofName? name with
      | none =>
          throw (.misuse .program ("argument \x7bread,repl\x7d: invalid choice: " ++
            String.ofList (Text.Quoted.encode name.toList) ++ " (choose from 'read', 'repl')"))
      | some mode =>
          let inner ← within mode.scope (mode.interface.parse { room } rest)
          let unused := outer.unused ++ inner.unused
          if !unused.isEmpty then throw (.misuse .program (unrecognised unused))
          else
            match inner.settings.maxDepth with
            | none => throw .noDepthLimit
            | some limit =>
                if limit < 1 then
                  throw (.misuse .program ("--max-depth must be >= 1, but got " ++
                    String.ofList (integerText limit)))
                else return ⟨outer.settings, mode, inner.settings⟩

end Sexpr.Command
