import Sexpr.Command.Settings
import Sexpr.Form.Printer
import Sexpr.Reader.Basic
import Sexpr.Text.Lines

/-!
What the program writes, and how it ends.

A session answers its lines one after the other, each as the command that reads one text
would; it ends with the input, with a line that asks for it, with the first error unless it is to
go on after errors, or with a crash.
-/

namespace Sexpr.Command

/-- Why the program stops without a status of its own. -/
inductive Crash where
  /-- By a failure that is no error of the text. -/
  | failed (failure : Failure)
  | noDepthLimit
  deriving DecidableEq

namespace Crash

def message : Crash → String
  | .failed failure => String.ofList (failure.message [])
  | .noDepthLimit => "'<' not supported between instances of 'list' and 'int'"

end Crash

inductive Ending where
  | exit (status : Nat)
  | crash (cause : Crash)
  deriving DecidableEq

structure Transcript where
  stdout : String
  stderr : String
  ending : Ending

structure Response where
  stdout : String
  stderr : String
  failure : Option Failure

namespace Settings

/-- The options of the reader.  Nothing nests without a nesting limit. -/
def readerOptions (settings : Settings) : Reader.Options :=
  ⟨(settings.maxDepth.getD 0).toNat, !settings.lenient, settings.room.toRoom⟩

def calls (settings : Settings) (form : Form) : Nat :=
  if settings.sexp then form.printCalls else form.describeCalls

def render (settings : Settings) (form : Form) : Except Failure String :=
  if settings.room.showing < settings.calls form then .error .stackExhausted
  else .ok (if settings.sexp then form.print else form.describe)

end Settings

def threshold (verbosity : Nat) : Level :=
  if verbosity = 0 then .warning else if verbosity = 1 then .info else .debug

def noticeLine (verbosity : Nat) (notice : Notice) : String :=
  let message := String.ofList notice.message
  (if verbosity = 0 then message
    else notice.level.name ++ ":lprp.reader:" ++ message) ++ "\n"

def noticeLines (verbosity : Nat) (notices : List Notice) : String :=
  String.join ((notices.filter (Notice.isShown (threshold verbosity))).map
    (noticeLine verbosity))

/-- Read a text and show its first form.  An error of the text is shown after the given label.
Other failures are not shown, and neither is one to show the form, which is no error of the
text. -/
def respond (verbosity : Nat) (settings : Settings) (label text : String) : Response :=
  let reading := Reader.readFirst settings.readerOptions text
  let notices := noticeLines verbosity reading.notices
  match reading.outcome with
  | .ok form =>
      match settings.render form with
      | .ok shown => ⟨shown ++ "\n", notices, none⟩
      | .error failure => ⟨"", notices, some failure⟩
  | .error failure =>
      match failure.kind? with
      | some kind =>
          ⟨"", notices ++ label ++ kind.description ++ ": " ++
            String.ofList (failure.message text.toList) ++ "\n", some failure⟩
      | none => ⟨"", notices, some failure⟩

def errorLabel : String := "ERROR: "

def endingOf (failure : Failure) : Ending :=
  if failure.kind?.isSome then .exit 1 else .crash (.failed failure)

def runRead (verbosity : Nat) (settings : Settings) : Transcript :=
  let response := respond verbosity settings errorLabel settings.expression
  let ending := match response.failure with
    | some failure => endingOf failure
    | none => .exit 0
  ⟨response.stdout, response.stderr, ending⟩

def isQuit (line : String) : Bool := line == "quit" || line == "(quit)"

/-- Answer a line of a session: the response, if the line does not end the session, and the
end, if the session does not go on. -/
def answerLine (verbosity : Nat) (settings : Settings) (line : String) :
    Response × Option Ending :=
  if isQuit line then (⟨"", "", none⟩, some (.exit 0))
  else
    let response := respond verbosity settings "" line
    match response.failure with
    | none => (response, none)
    | some failure =>
        if failure.kind?.isSome && settings.recover then (response, none)
        else (response, some (endingOf failure))

def runSession (verbosity : Nat) (settings : Settings) : List String → Transcript
  | [] => ⟨settings.prompt ++ "\n", "", .exit 0⟩
  | line :: rest =>
      let (response, ending) := answerLine verbosity settings line
      match ending with
      | some ending => ⟨settings.prompt ++ response.stdout, response.stderr, ending⟩
      | none =>
          let later := runSession verbosity settings rest
          ⟨settings.prompt ++ response.stdout ++ later.stdout,
            response.stderr ++ later.stderr, later.ending⟩

def inputLines (stdin : String) : List String :=
  (Text.lines (Text.universalNewlines stdin.toList)).map String.ofList

def refuse : Refusal → Transcript
  | .help scope => ⟨scope.help, "", .exit 0⟩
  | .misuse scope message => ⟨"", scope.complaint message, .exit 2⟩
  | .noCommand => ⟨"", Scope.program.help, .exit 2⟩
  | .noDepthLimit => ⟨"", "", .crash .noDepthLimit⟩

def run (room : Room) (words : List String) (stdin : String) : Transcript :=
  match plan room words with
  | .error refusal => refuse refusal
  | .ok ⟨verbosity, .read, settings⟩ => runRead verbosity settings
  | .ok ⟨verbosity, .repl, settings⟩ => runSession verbosity settings (inputLines stdin)

end Sexpr.Command
