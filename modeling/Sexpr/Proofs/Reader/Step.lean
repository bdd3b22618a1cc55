import Sexpr.Reader.State

/-!
The steps of a reader, as relations.

`Settles` lists what the next character can bring about before it is taken, and `Takes` lists
what taking it can do.  A move that takes a character is one after the other, so whatever
both keep is kept by reading.
-/

namespace Sexpr.Reader

section CloseAtEnd

variable {options : Options} {refusal failure : Failure} {notice : Notice} {form : Form}
  {frames : List Frame} {forms : List Form} {finished : List Notice × List Form}

theorem closeAtEnd_eq_ok_iff :
    closeAtEnd options refusal notice form frames forms = .ok finished ↔
      options.strict = false ∧ frames.length < options.room.closing ∧
        finished = (notice :: (sealFrames form frames).1, (sealFrames form frames).2 :: forms) := by
  unfold closeAtEnd
  cases options.strict
  · by_cases exhausted : options.room.closing < frames.length + 1
    · simp [exhausted, Nat.not_lt.mpr (Nat.le_of_lt_succ exhausted)]
    · simp [exhausted, Nat.lt_of_not_le (mt Nat.lt_succ_of_le exhausted), eq_comm]
  · simp

theorem closeAtEnd_eq_error_iff :
    closeAtEnd options refusal notice form frames forms = .error failure ↔
      options.strict = true ∧ failure = refusal ∨
        options.strict = false ∧ options.room.closing ≤ frames.length ∧
          failure = .stackExhausted := by
  unfold closeAtEnd
  cases options.strict
  · by_cases exhausted : options.room.closing < frames.length + 1
    · simp [exhausted, Nat.le_of_lt_succ exhausted, eq_comm]
    · simp [exhausted, mt Nat.lt_succ_of_le exhausted]
  · simp [eq_comm]

end CloseAtEnd

namespace State

@[simp]
theorem scan_deliver (form : Form) (frames : List Frame) (forms : List Form) :
    (deliver form frames forms).scan = .gap := by
  induction frames generalizing form with
  | nil => rfl
  | cons frame frames inductionHypothesis =>
      cases frame with
      | list start items => rfl
      | quote start => exact inductionHypothesis form.quote

/-- What the next character, or the end of the text, brings about without being taken: a run
ends, or a list or quote is entered if the nesting allows it. -/
inductive Settles (options : Options) (next : Option Char) : State → State → Prop where
  | gap {frames : List Frame} {forms : List Form} :
      Settles options next ⟨.gap, frames, forms⟩ ⟨.gap, frames, forms⟩
  | string {start : Nat} {taken : List Char} {frames : List Frame} {forms : List Form} :
      Settles options next ⟨.string start taken, frames, forms⟩
        ⟨.string start taken, frames, forms⟩
  | run {kind : RunKind} {start : Nat} {taken : List Char} {frames : List Frame}
      {forms : List Form} :
      next.any kind.accepts = true →
      Settles options next ⟨.run kind start taken, frames, forms⟩
        ⟨.run kind start taken, frames, forms⟩
  | atom {kind : RunKind} {start : Nat} {taken : List Char} {atom : Atom}
      {frames : List Frame} {forms : List Form} :
      next.any kind.accepts = false →
      kind.denoted start taken.reverse = .ok atom →
      Settles options next ⟨.run kind start taken, frames, forms⟩
        (deliver (.leaf atom) frames forms)
  | list {start : Nat} {frames : List Frame} {forms : List Form} :
      frames.length < options.maxDepth →
      frames.length < options.room.reading →
      Settles options next ⟨.opened start, frames, forms⟩
        ⟨.gap, .list start [] :: frames, forms⟩
  | quote {start : Nat} {frames : List Frame} {forms : List Form} :
      followsQuote next = true →
      frames.length < options.maxDepth →
      frames.length < options.room.reading →
      Settles options next ⟨.quoted start, frames, forms⟩
        ⟨.gap, .quote start :: frames, forms⟩

theorem enter_eq_ok_iff {options : Options} {start : Nat} {frame : Frame}
    {state entered : State} :
    state.enter options start frame = .ok entered ↔
      state.frames.length < options.maxDepth ∧ state.frames.length < options.room.reading ∧
        entered = ⟨.gap, frame :: state.frames, state.forms⟩ := by
  unfold enter
  by_cases deep : options.maxDepth < state.frames.length + 1
  · simp only [if_pos deep, reduceCtorEq, false_iff, not_and]
    omega
  · by_cases exhausted : options.room.reading < state.frames.length + 1
    · simp only [if_neg deep, if_pos exhausted, reduceCtorEq, false_iff, not_and]
      omega
    · simp only [if_neg deep, if_neg exhausted, Except.ok.injEq]
      constructor
      · intro equality
        exact ⟨by omega, by omega, equality.symm⟩
      · rintro ⟨_, _, equality⟩
        exact equality.symm

theorem settle_eq_ok_iff {options : Options} {next : Option Char} {state settled : State} :
    state.settle options next = .ok settled ↔ Settles options next state settled := by
  constructor
  · intro outcome
    rcases state with ⟨scan, frames, forms⟩
    cases scan with
    | gap =>
        cases outcome
        exact .gap
    | string start taken =>
        cases outcome
        exact .string
    | opened start =>
        obtain ⟨shallow, ample, rfl⟩ := enter_eq_ok_iff.mp outcome
        exact .list shallow ample
    | quoted start =>
        simp only [settle] at outcome
        split at outcome
        next follows =>
          obtain ⟨shallow, ample, rfl⟩ := enter_eq_ok_iff.mp outcome
          exact .quote follows shallow ample
        next => cases outcome
    | run kind start taken =>
        simp only [settle] at outcome
        split at outcome
        next more =>
          cases outcome
          exact .run more
        next ends =>
          split at outcome
          next => cases outcome
          next atom denoted =>
            cases outcome
            exact .atom (Bool.eq_false_iff.mpr ends) denoted
  · intro settles
    cases settles with
    | gap => rfl
    | string => rfl
    | run more => simp [settle, more]
    | atom ends denoted => simp [settle, ends, denoted]
    | list shallow ample => exact enter_eq_ok_iff.mpr ⟨shallow, ample, rfl⟩
    | quote follows shallow ample =>
        simp only [settle, follows, if_true]
        exact enter_eq_ok_iff.mpr ⟨shallow, ample, rfl⟩

/-- A settled state stays as it is. -/
theorem Settles.settled {options : Options} {next : Option Char} {state settled : State}
    (settles : Settles options next state settled) : Settles options next settled settled := by
  cases settles with
  | gap => exact .gap
  | string => exact .string
  | run more => exact .run more
  | @atom kind start taken atom frames forms ends denoted =>
      have gap := scan_deliver (.leaf atom) frames forms
      generalize deliver (.leaf atom) frames forms = delivered at gap
      rcases delivered with ⟨scan, frames, forms⟩
      cases gap
      exact .gap
  | list shallow ample => exact .gap
  | quote follows shallow ample => exact .gap

/-- Whether spaces may separate forms inside the given frames. -/
def separates (goal : Goal) : List Frame → Bool
  | [] => decide (goal = .all)
  | .list _ _ :: _ => true
  | .quote _ :: _ => false

/-- What taking a character does to a settled state: it goes to the run or string that is
being read, or it ends a string or a list, separates two forms or starts one. -/
inductive Takes (goal : Goal) (offset : Nat) (c : Char) : State → State → Prop where
  | run {kind : RunKind} {start : Nat} {taken : List Char} {frames : List Frame}
      {forms : List Form} :
      Takes goal offset c ⟨.run kind start taken, frames, forms⟩
        ⟨.run kind start (c :: taken), frames, forms⟩
  | string {start : Nat} {taken : List Char} {frames : List Frame} {forms : List Form} :
      c ≠ Text.Quoted.doubleQuote →
      Takes goal offset c ⟨.string start taken, frames, forms⟩
        ⟨.string start (c :: taken), frames, forms⟩
  | stringEnd {start : Nat} {taken : List Char} {frames : List Frame} {forms : List Form} :
      c = Text.Quoted.doubleQuote →
      Takes goal offset c ⟨.string start taken, frames, forms⟩
        (deliver (.leaf (.string (String.ofList taken.reverse))) frames forms)
  | space {frames : List Frame} {forms : List Form} :
      separates goal frames = true →
      c = ' ' →
      Takes goal offset c ⟨.gap, frames, forms⟩ ⟨.gap, frames, forms⟩
  | listEnd {start : Nat} {items : List Form} {frames : List Frame} {forms : List Form} :
      c = ')' →
      Takes goal offset c ⟨.gap, .list start items :: frames, forms⟩
        (deliver (.list items.reverse) frames forms)
  | start {scan : Scan} {frames : List Frame} {forms : List Form} :
      opening? offset c = some scan →
      Takes goal offset c ⟨.gap, frames, forms⟩ ⟨scan, frames, forms⟩

theorem startForm_eq_ok_iff {offset : Nat} {c : Char} {state taken : State} :
    state.startForm offset c = .ok taken ↔
      ∃ scan, opening? offset c = some scan ∧ taken = { state with scan := scan } := by
  unfold startForm
  cases opening : opening? offset c with
  | none => simp
  | some scan => simp [eq_comm]

theorem Takes.of_startForm {goal : Goal} {offset : Nat} {c : Char} {frames : List Frame}
    {forms : List Form} {taken : State}
    (outcome : startForm offset c ⟨.gap, frames, forms⟩ = .ok taken) :
    Takes goal offset c ⟨.gap, frames, forms⟩ taken := by
  obtain ⟨scan, opening, rfl⟩ := startForm_eq_ok_iff.mp outcome
  exact .start opening

theorem Takes.of_takeInGap {goal : Goal} {offset : Nat} {c : Char} {frames : List Frame}
    {forms : List Form} {taken : State}
    (outcome : takeInGap goal offset c ⟨.gap, frames, forms⟩ = .ok taken) :
    Takes goal offset c ⟨.gap, frames, forms⟩ taken := by
  rcases frames with _ | ⟨⟨start, items⟩ | start, frames⟩
  · cases goal with
    | one => exact .of_startForm outcome
    | all =>
        simp only [takeInGap] at outcome
        split at outcome
        next space =>
          cases outcome
          exact .space rfl space
        next =>
          split at outcome
          next => cases outcome
          next => exact .of_startForm outcome
  · simp only [takeInGap] at outcome
    split at outcome
    next space =>
      cases outcome
      exact .space rfl space
    next =>
      split at outcome
      next close =>
        cases outcome
        exact .listEnd close
      next => exact .of_startForm outcome
  · exact .of_startForm outcome

/-- The first characters of runs of a kind. -/
def OpensWith (c : Char) : RunKind → Prop
  | .number => c.isDigit = true ∨ c = '-'
  | .name => c.isAlpha = true
  | .keyword => c = ':'
  | .special => c = '*'

/-- The characters that open a form, and what they open. -/
theorem opening?_cases {offset : Nat} {c : Char} {scan : Scan}
    (opening : opening? offset c = some scan) :
    c = '(' ∧ scan = .opened offset ∨
      c = Text.Quoted.apostrophe ∧ scan = .quoted offset ∨
      c = Text.Quoted.doubleQuote ∧ scan = .string offset [] ∨
      ∃ kind, scan = .run kind offset [c] ∧ OpensWith c kind := by
  unfold opening? at opening
  split at opening
  next equality =>
    cases opening
    exact .inl ⟨equality, rfl⟩
  next =>
    split at opening
    next isNumber =>
      cases opening
      have starts : c.isDigit = true ∨ c = '-' := by simpa using isNumber
      exact .inr (.inr (.inr ⟨.number, rfl, starts⟩))
    next =>
      split at opening
      next isAlpha =>
        cases opening
        exact .inr (.inr (.inr ⟨.name, rfl, isAlpha⟩))
      next =>
        split at opening
        next equality =>
          cases opening
          exact .inr (.inr (.inr ⟨.special, rfl, equality⟩))
        next =>
          split at opening
          next equality =>
            cases opening
            exact .inr (.inr (.inr ⟨.keyword, rfl, equality⟩))
          next =>
            split at opening
            next equality =>
              cases opening
              exact .inr (.inr (.inl ⟨equality, rfl⟩))
            next =>
              split at opening
              next equality =>
                cases opening
                exact .inr (.inl ⟨equality, rfl⟩)
              next => cases opening

theorem opening?_ne_gap (offset : Nat) (c : Char) : opening? offset c ≠ some .gap := by
  intro opening
  rcases opening?_cases opening with ⟨_, scan⟩ | ⟨_, scan⟩ | ⟨_, scan⟩ | ⟨_, scan, _⟩
  all_goals cases scan

theorem ne_of_opening {offset : Nat} {c : Char} {scan : Scan}
    (opening : opening? offset c = some scan) : c ≠ ' ' ∧ c ≠ ')' := by
  constructor
  · rintro rfl
    cases opening
  · rintro rfl
    cases opening

/-- Where a form can start, nothing else can happen. -/
theorem takeInGap_of_opening {goal : Goal} {offset : Nat} {c : Char} {scan : Scan}
    (opening : opening? offset c = some scan) (frames : List Frame) (forms : List Form) :
    takeInGap goal offset c ⟨.gap, frames, forms⟩ = .ok ⟨scan, frames, forms⟩ := by
  obtain ⟨notSpace, notClose⟩ := ne_of_opening opening
  have begun : startForm offset c ⟨.gap, frames, forms⟩ = .ok ⟨scan, frames, forms⟩ :=
    startForm_eq_ok_iff.mpr ⟨scan, opening, rfl⟩
  rcases frames with _ | ⟨_ | _, frames⟩
  · cases goal with
    | one => exact begun
    | all => simpa [takeInGap, notSpace, notClose] using begun
  · simpa [takeInGap, notSpace, notClose] using begun
  · exact begun

theorem takeInGap_eq_ok_iff {goal : Goal} {offset : Nat} {c : Char}
    {frames : List Frame} {forms : List Form} {taken : State} :
    takeInGap goal offset c ⟨.gap, frames, forms⟩ = .ok taken ↔
      Takes goal offset c ⟨.gap, frames, forms⟩ taken := by
  constructor
  · exact .of_takeInGap
  · intro takes
    cases takes with
    | space between equality =>
        subst equality
        rcases frames with _ | ⟨_ | _, frames⟩
        · cases goal with
          | one => cases between
          | all => rfl
        · rfl
        · cases between
    | listEnd equality =>
        subst equality
        rfl
    | start opening => exact takeInGap_of_opening opening frames forms

/-- Nothing waits to be entered in a settled state. -/
theorem Settles.scan_ne {options : Options} {next : Option Char} {state settled : State}
    (settles : Settles options next state settled) (start : Nat) :
    settled.scan ≠ .opened start ∧ settled.scan ≠ .quoted start := by
  cases settles <;> simp

theorem Settles.accepts_of_run {options : Options} {c : Char} {state settled : State}
    {kind : RunKind} {start : Nat} {taken : List Char}
    (settles : Settles options (some c) state settled)
    (running : settled.scan = .run kind start taken) : kind.accepts c = true := by
  cases settles with
  | run more =>
      cases running
      exact more
  | gap => cases running
  | string => cases running
  | atom ends denoted =>
      rw [scan_deliver] at running
      cases running
  | list shallow ample => cases running
  | quote follows shallow ample => cases running

/-- At the end of the text nothing but a string is pending in a settled state. -/
theorem Settles.scan_atEnd {options : Options} {state settled : State}
    (settles : Settles options none state settled) :
    settled.scan = .gap ∨ ∃ start taken, settled.scan = .string start taken := by
  cases settles with
  | gap => exact .inl rfl
  | @string start taken frames forms => exact .inr ⟨start, taken, rfl⟩
  | run more => cases more
  | atom ends denoted => exact .inl (scan_deliver _ _ _)
  | list shallow ample => exact .inl rfl
  | quote follows shallow ample => cases follows

theorem Settles.take_eq_ok_iff {options : Options} {goal : Goal} {offset : Nat} {c : Char}
    {state settled taken : State} (settles : Settles options (some c) state settled) :
    settled.take goal offset c = .ok taken ↔ Takes goal offset c settled taken := by
  have waiting := settles.scan_ne
  rcases settled with ⟨scan, frames, forms⟩
  cases scan with
  | gap => exact takeInGap_eq_ok_iff
  | opened start => exact absurd rfl (waiting start).1
  | quoted start => exact absurd rfl (waiting start).2
  | run kind start characters =>
      constructor
      · intro outcome
        cases outcome
        exact .run
      · intro takes
        cases takes
        rfl
  | string start characters =>
      by_cases ends : c = Text.Quoted.doubleQuote
      · simp only [take, if_pos ends]
        constructor
        · intro outcome
          cases outcome
          exact .stringEnd ends
        · intro takes
          cases takes with
          | string more => exact absurd ends more
          | stringEnd _ => rfl
      · simp only [take, if_neg ends]
        constructor
        · intro outcome
          cases outcome
          exact .string ends
        · intro takes
          cases takes with
          | string _ => rfl
          | stringEnd equality => exact absurd equality ends

/-- A move that takes a character settles first and takes it then. -/
theorem move_eq_go_iff {options : Options} {goal : Goal} {offset : Nat} {c : Char}
    {state taken : State} :
    state.move options goal offset c = .go taken ↔
      ∃ settled, Settles options (some c) state settled ∧
        ¬(goal = .one ∧ settled.isComplete = true) ∧ Takes goal offset c settled taken := by
  unfold move
  cases outcome : state.settle options (some c) with
  | error failure =>
      simp only [reduceCtorEq, ← settle_eq_ok_iff, outcome, false_and, exists_false]
  | ok settled =>
      have settles := settle_eq_ok_iff.mp outcome
      simp only [← settle_eq_ok_iff, outcome, Except.ok.injEq, exists_eq_left']
      by_cases complete : goal = .one ∧ settled.isComplete = true
      · simp [complete]
      · rw [if_neg complete, ← settles.take_eq_ok_iff]
        cases settled.take goal offset c <;> simp [complete]

/-- A reader of all forms does not stop before a character unless it fails. -/
theorem exists_error_of_stop {options : Options} {offset : Nat} {c : Char} {state : State}
    {outcome : Except Failure (List Form)}
    (stopped : state.move options .all offset c = .stop outcome) :
    ∃ failure, outcome = .error failure := by
  unfold move at stopped
  split at stopped
  next failure _ =>
    cases stopped
    exact ⟨failure, rfl⟩
  next settled _ =>
    rw [if_neg (by simp)] at stopped
    split at stopped
    next failure _ =>
      cases stopped
      exact ⟨failure, rfl⟩
    next => cases stopped

end State

end Sexpr.Reader
