/-!
The usage and help texts of the program and of its two commands.
-/

namespace Sexpr.Command

def block (lines : List String) : String :=
  lines.foldl (fun text line => text ++ line ++ "\n") ""

/-- What can be called: the program without a command, or with one of the two. -/
inductive Scope where
  | program
  | read
  | repl
  deriving DecidableEq

namespace Scope

def name : Scope → String
  | .program => "lprp"
  | .read => "lprp read"
  | .repl => "lprp repl"

def usage : Scope → String
  | .program => block ["usage: lprp [-h] [--verbose] \x7bread,repl\x7d ..."]
  | .read => block ["usage: lprp read [-h] [--max-depth MAX_DEPTH] [--lenient] [--sexp] expr"]
  | .repl =>
      block ["usage: lprp repl [-h] [--max-depth MAX_DEPTH] [--lenient] [--sexp]",
        "                 [--prompt PROMPT] [--recover]"]

def sharedOptions : List String :=
  ["options:",
    "  -h, --help            show this help message and exit",
    "  --max-depth MAX_DEPTH",
    "                        maximum nesting depth of lists and quotes (default:",
    "                        256)",
    "  --lenient             accept unterminated strings and lists instead of",
    "                        failing",
    "  --sexp                print results as S-expressions instead of token",
    "                        structures"]

def help (scope : Scope) : String :=
  scope.usage ++ block (match scope with
    | .program =>
        ["",
          "read S-expressions and print their syntax trees",
          "",
          "positional arguments:",
          "  \x7bread,repl\x7d",
          "    read         read one expression and print it",
          "    repl         read expressions interactively",
          "",
          "options:",
          "  -h, --help     show this help message and exit",
          "  --verbose, -v  show info logs (-v) or debug logs (-vv)"]
    | .read =>
        ["",
          "positional arguments:",
          "  expr                  expression to read",
          ""] ++ sharedOptions
    | .repl =>
        [""] ++ sharedOptions ++
          ["  --prompt PROMPT       prompt string (default: \"LPRP>> \")",
            "  --recover             keep the session alive after a read error"])

def complaint (scope : Scope) (message : String) : String :=
  scope.usage ++ scope.name ++ ": error: " ++ message ++ "\n"

end Scope

end Sexpr.Command
