import Sexpr.Command.Run

/-!
The program: streams in and out, and an exit status.
-/

namespace Sexpr.Command

/-- The status of an end; a crash is told first. -/
def finish : Ending → IO UInt32
  | .exit status => return UInt32.ofNat status
  | .crash cause => do
      (← IO.getStderr).putStrLn cause.message
      return 1

def answerLines (verbosity : Nat) (settings : Settings) :
    List String → IO (Option Ending)
  | [] => return none
  | line :: rest => do
      let (response, ending) := answerLine verbosity settings line
      (← IO.getStderr).putStr response.stderr
      (← IO.getStdout).putStr response.stdout
      match ending with
      | some ending => return some ending
      | none =>
          if !rest.isEmpty then (← IO.getStdout).putStr settings.prompt
          answerLines verbosity settings rest

partial def hold (verbosity : Nat) (settings : Settings) : IO UInt32 := do
  let stdout ← IO.getStdout
  stdout.putStr settings.prompt
  stdout.flush
  let received ← (← IO.getStdin).getLine
  if received.isEmpty then
    stdout.putStrLn ""
    return 0
  match ← answerLines verbosity settings (inputLines received) with
  | some ending => finish ending
  | none => hold verbosity settings

def write (transcript : Transcript) : IO UInt32 := do
  (← IO.getStderr).putStr transcript.stderr
  (← IO.getStdout).putStr transcript.stdout
  finish transcript.ending

def perform (words : List String) : IO UInt32 :=
  match plan {} words with
  | .ok ⟨verbosity, .repl, settings⟩ => hold verbosity settings
  | .ok ⟨verbosity, .read, settings⟩ => write (runRead verbosity settings)
  | .error refusal => write (refuse refusal)

end Sexpr.Command

def main (words : List String) : IO UInt32 := Sexpr.Command.perform words
