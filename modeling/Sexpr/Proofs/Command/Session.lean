import Mathlib.Data.List.TakeWhile
import Sexpr.Command.Run
import Sexpr.Proofs.Decimal.Digits
import Sexpr.Proofs.Form.Calls
import Sexpr.Proofs.Reader.Failure
import Sexpr.Proofs.Reader.RoundTrip

/-!
A session answers line by line.

What a session writes for a line is what the command that reads one text writes for it, without the
label of errors.  A session that goes on after errors answers every line before the one that ends
it; one that does not answers the same lines up to the first error.  No session goes on after a
crash, be it to read a line or to show what was read.
-/

namespace Sexpr.Text

theorem universalNewlines_eq_self {text : List Char} (free : '\r' ∉ text) :
    universalNewlines text = text := by
  induction text with
  | nil => rfl
  | cons c rest inductionHypothesis =>
      rw [List.mem_cons, not_or] at free
      rw [universalNewlines.eq_4 c rest (fun _ isReturn _ => free.1 isReturn.symm)
        (fun isReturn => free.1 isReturn.symm), inductionHypothesis free.2]

/-- Pieces without the last one, if that is empty. -/
def dropEmptyLast (pieces : List (List Char)) : List (List Char) :=
  if pieces.getLast? = some [] then pieces.dropLast else pieces

@[simp]
theorem dropEmptyLast_cons_cons (piece next : List Char) (pieces : List (List Char)) :
    dropEmptyLast (piece :: next :: pieces) = piece :: dropEmptyLast (next :: pieces) := by
  simp only [dropEmptyLast, List.getLast?_cons_cons, List.dropLast_cons_cons]
  split <;> rfl

theorem dropEmptyLast_singleton (piece : List Char) :
    dropEmptyLast [piece] = if piece = [] then [] else [piece] := by
  simp [dropEmptyLast]

theorem lines_cons {c : Char} (other : c ≠ '\n') (rest : List Char) :
    lines (c :: rest) =
      match lines rest with
      | [] => [[c]]
      | line :: more => (c :: line) :: more :=
  lines.eq_3 c rest other

/-- The lines of a text are its pieces between line feeds. -/
theorem lines_eq_splitOn (text : List Char) : lines text = dropEmptyLast (text.splitOn '\n') := by
  induction text with
  | nil => rfl
  | cons c rest inductionHypothesis =>
      obtain ⟨piece, pieces, splits⟩ := List.exists_cons_of_ne_nil (List.splitOn_ne_nil '\n' rest)
      rw [splits] at inductionHypothesis
      rw [List.splitOn_cons_eq_if_modifyHead, splits]
      by_cases feed : c = '\n'
      · subst feed
        simp [lines, inductionHypothesis]
      · rw [lines_cons feed, inductionHypothesis, if_neg (by simpa using feed),
          List.modifyHead_cons]
        cases pieces with
        | nil =>
            simp only [dropEmptyLast_singleton, reduceCtorEq, if_false]
            by_cases empty : piece = []
            · rw [if_pos empty, empty]
            · rw [if_neg empty]
        | cons next pieces => rw [dropEmptyLast_cons_cons, dropEmptyLast_cons_cons]

end Sexpr.Text

namespace Sexpr.Command

/-! ## Without the label -/

/-- A text without the label of an error at its front. -/
def unlabelled (text : String) : String :=
  if errorLabel.toList <+: text.toList then String.ofList (text.toList.drop errorLabel.length)
  else text

theorem unlabelled_append (text : String) : unlabelled (errorLabel ++ text) = text := by
  have labelled : errorLabel.toList <+: (errorLabel ++ text).toList := by
    rw [String.toList_append]
    exact List.prefix_append _ _
  rw [unlabelled, if_pos labelled, String.toList_append, ← String.length_toList,
    List.drop_left, String.ofList_toList]

theorem unlabelled_eq_self {text : String} (other : text.toList.head? ≠ some 'E') :
    unlabelled text = text := by
  rw [unlabelled, if_neg]
  rintro ⟨rest, equality⟩
  rw [← equality] at other
  exact other rfl

theorem exists_noticeLine_eq_cons (verbosity : Nat) (notice : Notice) :
    ∃ c rest, (noticeLine verbosity notice).toList = c :: rest ∧ c ≠ 'E' := by
  unfold noticeLine
  dsimp only
  split
  · rw [String.toList_append, String.toList_ofList]
    cases notice with
    | closedString start => exact ⟨'u', _, rfl, by decide⟩
    | closedList start => exact ⟨'u', _, rfl, by decide⟩
    | discarded count =>
        -- The count comes first, and no digit begins the label.
        obtain ⟨nonempty, areDigits⟩ := isDigits_decimalDigits count
        obtain ⟨digit, digits, equality⟩ := List.exists_cons_of_ne_nil nonempty
        rw [equality, List.forall_mem_cons] at areDigits
        unfold Notice.message
        dsimp only
        rw [equality, List.cons_append, List.cons_append]
        refine ⟨digit, _, rfl, ?_⟩
        rintro rfl
        exact absurd areDigits.1 (by decide)
  · rw [String.append_assoc, String.append_assoc, String.toList_append]
    cases notice <;> dsimp only [Notice.level, Level.name]
    case closedString => exact ⟨'W', _, rfl, by decide⟩
    case closedList => exact ⟨'W', _, rfl, by decide⟩
    case discarded => exact ⟨'D', _, rfl, by decide⟩

theorem unlabelled_noticeLines (verbosity : Nat) (notices : List Notice) :
    unlabelled (noticeLines verbosity notices) = noticeLines verbosity notices := by
  apply unlabelled_eq_self
  unfold noticeLines
  cases notices.filter (Notice.isShown (threshold verbosity)) with
  | nil => simp
  | cons notice others =>
      obtain ⟨c, rest, equality, other⟩ := exists_noticeLine_eq_cons verbosity notice
      rw [List.map_cons, String.join_cons, String.toList_append, equality]
      simpa using other

/-! ## One line -/

/-- The lines that end a session. -/
def quitLines : List String := ["quit", "(quit)"]

theorem isQuit_iff {line : String} : isQuit line = true ↔ line ∈ quitLines := by
  simp [isQuit, quitLines]

/-- What the command that reads one text comes to for a line. -/
def runLine (verbosity : Nat) (settings : Settings) (line : String) : Transcript :=
  runRead verbosity { settings with expression := line }

/-- Reading a line succeeds, or fails with an error of the text. -/
def IsAnswered (settings : Settings) (line : String) : Prop :=
  ∀ failure, (Reader.readFirst settings.readerOptions line).outcome = .error failure →
    failure.kind?.isSome = true

/-- The stack has room to show what is read of a line. -/
def IsShown (settings : Settings) (line : String) : Prop :=
  ∀ form, (Reader.readFirst settings.readerOptions line).outcome = .ok form →
    settings.calls form ≤ settings.room.showing

theorem Settings.calls_le (settings : Settings) (form : Form) :
    settings.calls form ≤ 5 * form.depth + 4 := by
  have printed := form.printCalls_le
  have described := form.describeCalls_le
  unfold calls
  split <;> omega

/-- A stack that is ample for the nesting limit shows whatever is read. -/
theorem isShown_of_le {settings : Settings}
    (ample : 5 * settings.readerOptions.maxDepth + 4 ≤ settings.room.showing) (line : String) :
    IsShown settings line := by
  intro form outcome
  have shallow := (Reader.wellFormed_of_readFirst outcome).2
  have calls := settings.calls_le form
  omega

/-- Whether a session goes on after a line for which the command that reads one text ends so. -/
def Ending.goesOn (recover : Bool) : Ending → Bool
  | .exit status => recover || status == 0
  | .crash _ => false

theorem goesOn_of_exit_zero {ending : Ending} (recover : Bool) (passes : ending = .exit 0) :
    ending.goesOn recover = true := by
  rw [passes, Ending.goesOn, beq_self_eq_true, Bool.or_true]

section Answer

variable (verbosity : Nat) {settings : Settings} {line : String}

theorem respond_unlabelled (settings : Settings) (text : String) :
    let labelled := respond verbosity settings errorLabel text
    respond verbosity settings "" text =
      ⟨labelled.stdout, unlabelled labelled.stderr, labelled.failure⟩ := by
  unfold respond
  dsimp only
  cases outcome : (Reader.readFirst settings.readerOptions text).outcome with
  | ok form =>
      dsimp only
      cases settings.render form <;> rw [unlabelled_noticeLines]
  | error failure =>
      have silent : noticeLines verbosity [] = "" := rfl
      rw [Reader.notices_readFirst_of_error outcome, silent]
      dsimp only
      cases failure.kind? with
      | none =>
          dsimp only
          rw [unlabelled_eq_self (by simp)]
      | some kind => simp only [String.empty_append, String.append_assoc, unlabelled_append]

theorem respond_eq_runLine (settings : Settings) (line : String) :
    (respond verbosity settings "" line).stdout = (runLine verbosity settings line).stdout ∧
      (respond verbosity settings "" line).stderr =
        unlabelled (runLine verbosity settings line).stderr := by
  rw [respond_unlabelled]
  exact ⟨rfl, rfl⟩

theorem failure_respond (settings : Settings) (label line : String) :
    (respond verbosity settings label line).failure =
      match (Reader.readFirst settings.readerOptions line).outcome with
      | .ok form =>
          if settings.room.showing < settings.calls form then some .stackExhausted else none
      | .error failure => some failure := by
  unfold respond Settings.render
  dsimp only
  cases (Reader.readFirst settings.readerOptions line).outcome with
  | ok form => by_cases deep : settings.room.showing < settings.calls form <;> simp [deep]
  | error failure =>
      dsimp only
      cases failure.kind? <;> rfl

theorem ending_runLine (settings : Settings) (line : String) :
    (runLine verbosity settings line).ending =
      ((respond verbosity settings "" line).failure.map endingOf).getD (.exit 0) := by
  have same : respond verbosity { settings with expression := line } errorLabel line =
      respond verbosity settings errorLabel line := rfl
  rw [respond_unlabelled, runLine, runRead]
  dsimp only
  rw [same]
  cases (respond verbosity settings errorLabel line).failure <;> rfl

theorem answerLine_eq (recover : Bool) (settings : Settings) (other : line ∉ quitLines) :
    answerLine verbosity { settings with recover := recover } line =
      (respond verbosity settings "" line,
        if (runLine verbosity settings line).ending.goesOn recover then none
        else some (runLine verbosity settings line).ending) := by
  have same : respond verbosity { settings with recover := recover } "" line =
      respond verbosity settings "" line := rfl
  rw [answerLine, if_neg (by rwa [isQuit_iff]), same, ending_runLine]
  rcases respond verbosity settings "" line with ⟨stdout, stderr, _ | failure⟩
  · simp [Ending.goesOn]
  · cases isSome : failure.kind?.isSome <;> cases recover <;>
      simp [endingOf, Ending.goesOn, isSome]

/-- The command that reads one text crashes exactly where the stack has no room to show what was
read. -/
theorem ending_runLine_cases (answered : IsAnswered settings line) :
    (IsShown settings line ∧
      ((runLine verbosity settings line).ending = .exit 0 ∨
        (runLine verbosity settings line).ending = .exit 1)) ∨
    ¬IsShown settings line ∧
      (runLine verbosity settings line).ending = .crash (.failed .stackExhausted) := by
  rw [ending_runLine, failure_respond]
  unfold IsShown
  cases outcome : (Reader.readFirst settings.readerOptions line).outcome with
  | ok form =>
      by_cases deep : settings.room.showing < settings.calls form
      · refine .inr ⟨fun shown => ?_, by simp [deep, endingOf, Failure.kind?]⟩
        exact Nat.not_le_of_lt deep (shown form rfl)
      · exact .inl ⟨by simpa using Nat.le_of_not_lt deep, by simp [deep]⟩
  | error failure =>
      have isSome := answered failure outcome
      exact .inl ⟨nofun, by simp [endingOf, isSome]⟩

theorem respond_of_not_isShown {form : Form} {cursor : Reader.Cursor} (label : String)
    (read : Reader.readFirst settings.readerOptions line = ⟨.ok form, [], cursor⟩)
    (deep : settings.room.showing < settings.calls form) :
    respond verbosity settings label line = ⟨"", "", some .stackExhausted⟩ := by
  have silent : noticeLines verbosity [] = "" := rfl
  simp only [respond, Settings.render, read, if_pos deep, silent]

theorem goesOn_of_isShown (answered : IsAnswered settings line) (shows : IsShown settings line) :
    (runLine verbosity settings line).ending.goesOn true = true := by
  rcases ending_runLine_cases verbosity answered with ⟨_, ends | ends⟩ | ⟨crashes, _⟩
  · rw [ends]
    rfl
  · rw [ends]
    rfl
  · exact absurd shows crashes

end Answer

/-! ## Many lines -/

/-- The pieces of an input between line feeds, without an empty last one. -/
def inputPieces (stdin : String) : List String :=
  (Text.dropEmptyLast ((Text.universalNewlines stdin.toList).splitOn '\n')).map String.ofList

theorem inputLines_eq (stdin : String) : inputLines stdin = inputPieces stdin := by
  rw [inputLines, Text.lines_eq_splitOn, inputPieces]

/-- An input without line ends is one line. -/
theorem inputLines_eq_singleton {line : String} (nonempty : line ≠ "")
    (noReturn : '\r' ∉ line.toList) (noFeed : '\n' ∉ line.toList) : inputLines line = [line] := by
  have someText : line.toList ≠ [] := by simpa using nonempty
  rw [inputLines_eq, inputPieces, Text.universalNewlines_eq_self noReturn,
    List.splitOn_eq_singleton noFeed, Text.dropEmptyLast_singleton, if_neg someText,
    List.map_singleton, String.ofList_toList]

/-- The lines of a session before the one that ends it. -/
def answeredLines (stdin : String) : List String :=
  (inputPieces stdin).takeWhile (· ∉ quitLines)

section Run

variable (verbosity : Nat) (settings : Settings)

/-- What is shown for some lines, each after a prompt. -/
def shown (lines : List String) : String :=
  String.join (lines.map fun line => settings.prompt ++ (runLine verbosity settings line).stdout)

/-- What is said of some lines. -/
def told (lines : List String) : String :=
  String.join (lines.map fun line => unlabelled (runLine verbosity settings line).stderr)

theorem shown_append (front back : List String) :
    shown verbosity settings (front ++ back) =
      shown verbosity settings front ++ shown verbosity settings back := by
  rw [shown, List.map_append, String.join_append]
  rfl

theorem told_append (front back : List String) :
    told verbosity settings (front ++ back) =
      told verbosity settings front ++ told verbosity settings back := by
  rw [told, List.map_append, String.join_append]
  rfl

theorem runSession_append (recover : Bool) {lines : List String}
    (others : ∀ line ∈ lines, line ∉ quitLines)
    (goesOn : ∀ line ∈ lines, (runLine verbosity settings line).ending.goesOn recover = true)
    (rest : List String) :
    runSession verbosity { settings with recover := recover } (lines ++ rest) =
      let later := runSession verbosity { settings with recover := recover } rest
      ⟨shown verbosity settings lines ++ later.stdout,
        told verbosity settings lines ++ later.stderr, later.ending⟩ := by
  induction lines with
  | nil => simp [shown, told]
  | cons line lines inductionHypothesis =>
      rw [List.forall_mem_cons] at others goesOn
      obtain ⟨stdout, stderr⟩ := respond_eq_runLine verbosity settings line
      have answer := answerLine_eq verbosity recover settings others.1
      rw [if_pos goesOn.1] at answer
      rw [List.cons_append, runSession, answer, inductionHypothesis others.2 goesOn.2]
      simp only [stdout, stderr, shown, told, List.map_cons, String.join_cons, String.append_assoc]

/-- A line after which a session does not go on ends it as the command that reads one text. -/
theorem runSession_cons_of_stop (recover : Bool) {line : String} (other : line ∉ quitLines)
    (stops : (runLine verbosity settings line).ending.goesOn recover = false)
    (rest : List String) :
    runSession verbosity { settings with recover := recover } (line :: rest) =
      ⟨shown verbosity settings [line], told verbosity settings [line],
        (runLine verbosity settings line).ending⟩ := by
  obtain ⟨stdout, stderr⟩ := respond_eq_runLine verbosity settings line
  have answer := answerLine_eq verbosity recover settings other
  rw [if_neg (by simp [stops])] at answer
  rw [runSession, answer]
  simp [stdout, stderr, shown, told]

theorem runSession_of_quit {lines : List String} (quits : ∀ line ∈ lines.head?, line ∈ quitLines) :
    runSession verbosity settings lines =
      ⟨settings.prompt ++ if lines = [] then "\n" else "", "", .exit 0⟩ := by
  cases lines with
  | nil => rfl
  | cons line rest =>
      have quit : isQuit line = true := isQuit_iff.mpr (quits line rfl)
      rw [runSession, answerLine, if_pos quit]
      simp

end Run

/-- The line feed after the last prompt of a session, unless a line ends it. -/
def closing (stdin : String) : String :=
  if ∃ piece ∈ inputPieces stdin, piece ∈ quitLines then "" else "\n"

theorem not_mem_quitLines {stdin line : String} (answered : line ∈ answeredLines stdin) :
    line ∉ quitLines := by
  simpa using List.all_eq_true.mp List.all_takeWhile line answered

/-- After the lines that are answered, a session has one more prompt and ends well. -/
theorem exists_inputLines_eq_append (stdin : String) :
    ∃ rest, inputLines stdin = answeredLines stdin ++ rest ∧
      ∀ verbosity settings, runSession verbosity settings rest =
        ⟨settings.prompt ++ closing stdin, "", .exit 0⟩ := by
  refine ⟨(inputPieces stdin).dropWhile (· ∉ quitLines), ?_, fun verbosity settings => ?_⟩
  · rw [inputLines_eq]
    exact List.takeWhile_append_dropWhile.symm
  · rw [runSession_of_quit]
    · have ended : (inputPieces stdin).dropWhile (· ∉ quitLines) = [] ↔
          ¬ ∃ piece ∈ inputPieces stdin, piece ∈ quitLines := by
        simp [List.dropWhile_eq_nil_iff]
      simp only [ended, closing, ite_not]
    · intro line first
      have stopped := List.head?_dropWhile_not (fun piece => decide (piece ∉ quitLines))
        (inputPieces stdin)
      rw [Option.mem_def.mp first] at stopped
      simpa using stopped

section Whole

variable (verbosity : Nat) {settings : Settings} {stdin : String}

/-- A session that goes on after every line shows and says all that there is to them. -/
theorem runSession_of_goesOn (recover : Bool)
    (goesOn : ∀ line ∈ answeredLines stdin,
      (runLine verbosity settings line).ending.goesOn recover = true) :
    runSession verbosity { settings with recover := recover } (inputLines stdin) =
      ⟨shown verbosity settings (answeredLines stdin) ++ settings.prompt ++ closing stdin,
        told verbosity settings (answeredLines stdin), .exit 0⟩ := by
  obtain ⟨rest, splits, ends⟩ := exists_inputLines_eq_append stdin
  have others : ∀ line ∈ answeredLines stdin, line ∉ quitLines := fun _ => not_mem_quitLines
  rw [splits, runSession_append verbosity settings recover others goesOn, ends]
  simp only [String.append_assoc, String.append_empty]

/-- The first line after which a session does not go on is the last that it answers. -/
theorem runSession_of_first_stop (recover : Bool) {before after : List String} {line : String}
    (parts : answeredLines stdin = before ++ line :: after)
    (goesOn : ∀ earlier ∈ before,
      (runLine verbosity settings earlier).ending.goesOn recover = true)
    (stops : (runLine verbosity settings line).ending.goesOn recover = false) :
    runSession verbosity { settings with recover := recover } (inputLines stdin) =
      ⟨shown verbosity settings (before ++ [line]), told verbosity settings (before ++ [line]),
        (runLine verbosity settings line).ending⟩ := by
  obtain ⟨rest, splits, _⟩ := exists_inputLines_eq_append stdin
  have others : ∀ line ∈ answeredLines stdin, line ∉ quitLines := fun _ => not_mem_quitLines
  rw [parts, List.forall_mem_append, List.forall_mem_cons] at others
  rw [splits, parts, List.append_assoc, List.cons_append,
    runSession_append verbosity settings recover others.1 goesOn,
    runSession_cons_of_stop verbosity settings recover others.2.1 stops, shown_append, told_append]

end Whole

/-- What a session that does not go on after errors comes to, beside one that does and answers the
given lines: the same if none of them fails, and else only what is up to the first that does. -/
def IsCutShort (verbosity : Nat) (settings : Settings) (lines : List String)
    (going stopping : Transcript) : Prop :=
  (∀ line ∈ lines, (runLine verbosity settings line).ending = .exit 0) ∧ stopping = going ∨
    ∃ before line after, lines = before ++ line :: after ∧
      (∀ earlier ∈ before, (runLine verbosity settings earlier).ending = .exit 0) ∧
      (runLine verbosity settings line).ending = .exit 1 ∧
      stopping = ⟨shown verbosity settings (before ++ [line]),
        told verbosity settings (before ++ [line]), .exit 1⟩ ∧
      (∃ later, going.stdout = stopping.stdout ++ later) ∧
      ∃ later, going.stderr = stopping.stderr ++ later

theorem isCutShort (verbosity : Nat) {settings : Settings} {stdin : String}
    {lines rest : List String} {going : Transcript}
    (parts : answeredLines stdin = lines ++ rest)
    (answered : ∀ line ∈ lines, IsAnswered settings line ∧ IsShown settings line)
    (same : (∀ line ∈ lines, (runLine verbosity settings line).ending = .exit 0) →
      runSession verbosity { settings with recover := false } (inputLines stdin) = going)
    (stdout : ∃ later, going.stdout = shown verbosity settings lines ++ later)
    (stderr : ∃ later, going.stderr = told verbosity settings lines ++ later) :
    IsCutShort verbosity settings lines going
      (runSession verbosity { settings with recover := false } (inputLines stdin)) := by
  -- The two sessions part at the first line that fails, if there is one.
  cases first : lines.find? fun line =>
      decide ((runLine verbosity settings line).ending ≠ .exit 0) with
  | none =>
      have passes : ∀ line ∈ lines, (runLine verbosity settings line).ending = .exit 0 := by
        simpa using List.find?_eq_none.mp first
      exact .inl ⟨passes, same passes⟩
  | some line =>
      obtain ⟨fails, before, after, rfl, passes⟩ := List.find?_eq_some_iff_append.mp first
      simp only [decide_eq_true_eq, Bool.not_eq_true', decide_eq_false_iff_not, not_not]
        at fails passes
      obtain ⟨isAnswered, isShown⟩ := answered line (by simp)
      have ends : (runLine verbosity settings line).ending = .exit 1 := by
        rcases ending_runLine_cases verbosity isAnswered with ⟨_, ends⟩ | ⟨crashes, _⟩
        · exact ends.resolve_left fails
        · exact absurd isShown crashes
      rw [List.append_assoc, List.cons_append] at parts
      have stopping := runSession_of_first_stop verbosity false parts
        (fun earlier membership => goesOn_of_exit_zero false (passes earlier membership))
        (by rw [ends]; rfl)
      rw [ends] at stopping
      rw [List.append_cons before, shown_append] at stdout
      rw [List.append_cons before, told_append] at stderr
      obtain ⟨laterStdout, stdout⟩ := stdout
      obtain ⟨laterStderr, stderr⟩ := stderr
      rw [String.append_assoc] at stdout stderr
      refine .inr ⟨before, line, after, rfl, passes, ends, stopping, ?_, ?_⟩
      · exact ⟨_, stdout.trans (by rw [stopping])⟩
      · exact ⟨_, stderr.trans (by rw [stopping])⟩

/-- A session ends at the printed text of a form that the stack has no room to show. -/
theorem runSession_print_of_deep (verbosity : Nat) {settings : Settings} {form : Form}
    (wellFormed : form.WellFormed) (shallow : form.depth ≤ settings.readerOptions.maxDepth)
    (ample : settings.readerOptions.maxDepth ≤ settings.room.reading)
    (deep : settings.room.showing < settings.calls form) (other : form.print ∉ quitLines)
    (rest : List String) :
    IsAnswered settings form.print ∧
      runSession verbosity settings (form.print :: rest) =
        ⟨settings.prompt, "", .crash (.failed .stackExhausted)⟩ := by
  have read : Reader.readFirst settings.readerOptions form.print = _ :=
    Reader.readFirst_print_of_wellFormed ample wellFormed shallow
  have notQuit : ¬isQuit form.print = true := by rwa [isQuit_iff]
  constructor
  · intro failure outcome
    rw [read] at outcome
    cases outcome
  · rw [runSession, answerLine, if_neg notQuit, respond_of_not_isShown verbosity "" read deep]
    simp [endingOf, Failure.kind?]

section NestedList

variable (count : Nat)

theorem print_nestedList_ne_empty : (Form.nestedList count).print ≠ "" := by
  intro empty
  have noText := congrArg String.toList empty
  rw [Form.print, String.toList_ofList, Form.source_nestedList, List.replicate_succ] at noText
  cases noText

theorem not_mem_print_nestedList {c : Char} (other : c ≠ '(' ∧ c ≠ ')') :
    c ∉ (Form.nestedList count).print.toList := by
  rw [Form.print, String.toList_ofList]
  intro membership
  rcases Form.mem_source_nestedList membership with isOpen | isClose
  · exact other.1 isOpen
  · exact other.2 isClose

theorem print_nestedList_notMem_quitLines : (Form.nestedList count).print ∉ quitLines := by
  intro quits
  have letter : ∀ line ∈ quitLines, 'q' ∈ line.toList := by decide
  exact not_mem_print_nestedList count (by decide) (letter _ quits)

theorem inputLines_print_nestedList :
    inputLines (Form.nestedList count).print = [(Form.nestedList count).print] :=
  inputLines_eq_singleton (print_nestedList_ne_empty count)
    (not_mem_print_nestedList count (by decide)) (not_mem_print_nestedList count (by decide))

end NestedList

end Sexpr.Command
