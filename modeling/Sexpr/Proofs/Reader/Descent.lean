import Mathlib.Data.List.TakeWhile
import Sexpr.Proofs.Reader.Completeness
import Sexpr.Proofs.Reader.Shift
import Sexpr.Reader.Descent

/-!
Recursive descent reads what `Method.read` reads.

A function of the descending reader takes the characters of one form.  Meanwhile the other reader
goes from a state with some frames to one in which that form has been delivered to them.  The
number of these frames is the nesting that has been counted.
-/

namespace Sexpr.Reader

open State (Goal deliver opening? separates takeInGap startForm)
open Text.Quoted (doubleQuote)

def Reading.after {α : Type} (notices : List Notice) (reading : Reading α) : Reading α :=
  { reading with notices := notices ++ reading.notices }

namespace Descent

namespace Exit

variable {α β : Type} {limit other : Nat} {exit : Exit α limit}
  {next : ∀ value, exit.outcome = .ok value → Exit β other}

theorem outcome_cases (exit : Exit α limit) :
    (∃ failure, exit.outcome = .error failure) ∨ ∃ value, exit.outcome = .ok value := by
  cases exit.outcome with
  | error failure => exact .inl ⟨failure, rfl⟩
  | ok value => exact .inr ⟨value, rfl⟩

theorem andThen_error {failure : Failure} (outcome : exit.outcome = .error failure) :
    (exit.andThen next).toReading = ⟨.error failure, exit.notices, exit.cursor⟩ ∧
      (exit.andThen next).depth = exit.depth := by
  unfold andThen
  split
  next found =>
    rw [outcome] at found
    cases found
    exact ⟨rfl, rfl⟩
  next found =>
    rw [outcome] at found
    cases found

theorem andThen_ok {value : α} (outcome : exit.outcome = .ok value) :
    (exit.andThen next).toReading = (next value outcome).toReading.after exit.notices ∧
      (exit.andThen next).depth = (next value outcome).depth := by
  unfold andThen
  split
  next found =>
    rw [outcome] at found
    cases found
  next found =>
    have same := outcome
    rw [found] at same
    cases same
    exact ⟨rfl, rfl⟩

theorem depth_andThen {depth : Nat} (counted : exit.depth = depth)
    (later : ∀ value outcome, (next value outcome).depth = depth) :
    (exit.andThen next).depth = depth := by
  rcases exit.outcome_cases with ⟨failure, outcome⟩ | ⟨value, outcome⟩
  · rw [(andThen_error outcome).2, counted]
  · rw [(andThen_ok outcome).2, later]

end Exit

/-- How a reader goes on among some frames when the next form has been read. -/
def resume (options : Options) (goal : Goal) (frames : List Frame) (forms : List Form)
    (reading : Reading Form) : Reading (List Form) :=
  match reading.outcome with
  | .error failure => ⟨.error failure, reading.notices, reading.cursor⟩
  | .ok form =>
      (advance options goal (deliver form frames forms) reading.cursor.offset
        reading.cursor.rest).after reading.notices

section Resuming

variable {options : Options} {goal : Goal} {frames : List Frame} {forms : List Form}

theorem resume_after (notices : List Notice) (reading : Reading Form) :
    resume options goal frames forms (reading.after notices) =
      (resume options goal frames forms reading).after notices := by
  rcases reading with ⟨_ | form, later, cursor⟩
  · rfl
  · simp only [resume, Reading.after, List.append_assoc]

theorem resume_quote (start : Nat) (reading : Reading Form) :
    resume options goal (.quote start :: frames) forms reading =
      resume options goal frames forms (reading.map .quote) := by
  rcases reading with ⟨_ | form, notices, cursor⟩ <;> rfl

/-- At the end of the text a lenient reader completes the frames around a form, if the stack has
room for the notice about the innermost of them. -/
theorem advance_deliver_nil (lenient : options.strict = false) (form : Form) (frames : List Frame)
    (ample : frames.length ≤ options.room.closing) (offset : Nat) :
    advance options goal (deliver form frames forms) offset [] =
      ⟨.ok ((sealFrames form frames).2 :: forms), (sealFrames form frames).1, ⟨offset, []⟩⟩ := by
  induction frames generalizing form with
  | nil => rfl
  | cons frame frames inductionHypothesis =>
      cases frame with
      | list start items =>
          have closed : closeAtEnd options (.located start .unterminatedList) (.closedList start)
              (.list (form :: items).reverse) frames forms = .ok _ :=
            closeAtEnd_eq_ok_iff.mpr ⟨lenient, ample, rfl⟩
          simp only [deliver, advance, State.conclude, State.settle, State.finish, closed,
            sealFrames, atEnd]
      | quote start => exact inductionHypothesis form.quote (Nat.le_of_succ_le ample)

/-- At the end of the text something unterminated is a failure, or it is closed with a notice. -/
theorem advance_unterminated {state : State} {failure : Failure} {notice : Notice} {form : Form}
    (settled : state.settle options none = .ok state)
    (finished : state.finish options = closeAtEnd options failure notice form frames forms)
    (offset : Nat) :
    advance options goal state offset [] =
      resume options goal frames forms
        (if options.strict then ⟨.error failure, [], ⟨offset, []⟩⟩
          else if options.room.closing < frames.length + 1 then
            ⟨.error .stackExhausted, [], ⟨offset, []⟩⟩
          else ⟨.ok form, [notice], ⟨offset, []⟩⟩) := by
  simp only [advance, State.conclude, settled, finished, closeAtEnd]
  by_cases strict : options.strict = true
  · simp only [if_pos strict]
    rfl
  · by_cases exhausted : options.room.closing < frames.length + 1
    · simp only [if_neg strict, if_pos exhausted]
      rfl
    · have ample : frames.length ≤ options.room.closing := by omega
      simp only [if_neg strict, if_neg exhausted, resume,
        advance_deliver_nil (Bool.eq_false_iff.mpr strict) form frames ample]
      rfl

theorem any_head?_dropWhile (p : Char → Bool) (text : List Char) :
    (text.dropWhile p).head?.any p = false := by
  have stops := List.head?_dropWhile_not p text
  cases rest : (text.dropWhile p).head? with
  | none => rfl
  | some c =>
      rw [rest] at stops
      exact stops

theorem advance_readRun (kind : RunKind) (place : Cursor) (depth : Nat) :
    advance options goal ⟨.run kind place.offset [], frames, forms⟩ place.offset place.rest =
      resume options goal frames forms (readRun kind place depth).toReading := by
  rcases place with ⟨offset, text⟩
  have accepted : ∀ c ∈ text.takeWhile kind.accepts, kind.accepts c = true :=
    fun c membership => List.mem_takeWhile_imp membership
  have ends := any_head?_dropWhile kind.accepts text
  have parts : text.takeWhile kind.accepts ++ text.dropWhile kind.accepts = text :=
    List.takeWhile_append_dropWhile
  simp only [readRun]
  generalize text.takeWhile kind.accepts = run at accepted parts ⊢
  generalize text.dropWhile kind.accepts = rest at ends parts ⊢
  subst parts
  rw [advance_run accepted, List.append_nil]
  cases denoted : kind.denoted offset run with
  | error failure =>
      apply advance_of_unsettled
      simp only [State.settle, ends, Bool.false_eq_true, if_false, List.reverse_reverse, denoted]
  | ok atom =>
      rw [← List.reverse_reverse run] at denoted
      rw [advance_settle (.atom ends denoted)]
      rfl

theorem advance_takeString (place : Cursor) :
    advance options goal ⟨.string place.offset [], frames, forms⟩ place.next.offset
        place.next.rest =
      resume options goal frames forms (takeString options place frames.length) := by
  have free : doubleQuote ∉ place.next.rest.takeWhile (· != doubleQuote) := by
    intro membership
    have other := List.mem_takeWhile_imp membership
    simp at other
  have ends := any_head?_dropWhile (· != doubleQuote) place.next.rest
  have parts : place.next.rest.takeWhile (· != doubleQuote) ++
      place.next.rest.dropWhile (· != doubleQuote) = place.next.rest :=
    List.takeWhile_append_dropWhile
  simp only [takeString]
  generalize place.next.rest.takeWhile (· != doubleQuote) = taken at free parts ⊢
  generalize place.next.rest.dropWhile (· != doubleQuote) = rest at ends parts ⊢
  rw [← parts, advance_string free, List.append_nil]
  cases rest with
  | nil =>
      apply advance_unterminated rfl
      simp only [State.finish, List.reverse_reverse]
  | cons c rest =>
      have quote : c = doubleQuote := by simpa using ends
      rw [advance_take .string (by simp [State.isComplete]) (.stringEnd quote),
        List.reverse_reverse]
      rfl

end Resuming

/-! ## Forms in forms -/

/-- Reading from the given states completes a form for the frames around it, and comes to what a
part of the descending reader leaves. -/
structure Mirrors (options : Options) (state : List Frame → List Form → State) (outer depth : Nat)
    (place : Cursor) (left : Reading Form × Nat) : Prop where
  counted : left.2 = depth
  advances : ∀ goal frames forms, frames.length = outer → (goal = .one → forms = []) →
    advance options goal (state frames forms) place.offset place.rest =
      resume options goal frames forms left.1

/-- Reading from between two forms completes the next form. -/
structure MirrorsForm (options : Options) (depth : Nat) (place : Cursor)
    (left : Reading Form × Nat) : Prop where
  counted : left.2 = depth
  advances : ∀ goal frames forms, frames.length = depth → (goal = .one → forms = []) →
    (separates goal frames = true → place.rest.head? ≠ some ' ' ∧ place.rest.head? ≠ some ')') →
    advance options goal ⟨.gap, frames, forms⟩ place.offset place.rest =
      resume options goal frames forms left.1

def amongItems (start : Nat) (items : List Form) (frames : List Frame) : List Form → State :=
  .mk .gap (.list start items :: frames)

def ReadsForm (options : Options) (place : Cursor) : Prop :=
  ∀ depth, place.rest ≠ [] →
    MirrorsForm options depth place (readForm options place depth).counted

def ReadsItems (options : Options) (place : Cursor) : Prop :=
  ∀ depth start items, Mirrors options (amongItems start items) depth (depth + 1) place
    (readItems options start items place (depth + 1)).counted

section Nesting

variable {options : Options}

theorem refusal?_eq_none_iff {start depth : Nat} :
    refusal? options start (depth + 1) = none ↔
      depth < options.maxDepth ∧ depth < options.room.reading := by
  unfold refusal?
  split
  next deep => simp [Nat.not_lt.mpr (Nat.le_of_lt_succ deep)]
  next shallow =>
    split
    next exhausted => simp [Nat.not_lt.mpr (Nat.le_of_lt_succ exhausted)]
    next room =>
      simp only [true_iff]
      omega

theorem enter_of_refusal {start : Nat} {failure : Failure} {frame : Frame} {state : State}
    (refused : refusal? options start (state.frames.length + 1) = some failure) :
    state.enter options start frame = .error failure := by
  unfold refusal? at refused
  unfold State.enter
  split at refused
  next deep =>
    cases refused
    simp only [if_pos deep]
  next shallow =>
    split at refused
    next exhausted =>
      cases refused
      simp only [if_neg shallow, if_pos exhausted]
    next => cases refused

theorem mirrors_readList {place : Cursor} (depth : Nat) (reads : ReadsItems options place.next) :
    Mirrors options (.mk (.opened place.offset)) depth depth place.next
      (readList options place depth).counted := by
  rw [readList]
  cases refused : refusal? options place.offset (depth + 1) with
  | some failure =>
      refine ⟨rfl, ?_⟩
      intro goal frames forms nested _
      apply advance_of_unsettled
      apply enter_of_refusal
      rw [nested]
      exact refused
  | none =>
      obtain ⟨shallow, ample⟩ := refusal?_eq_none_iff.mp refused
      have items := reads depth place.offset []
      refine ⟨congrArg (· - 1) items.counted, ?_⟩
      intro goal frames forms nested incomplete
      subst nested
      rw [advance_settle (.list shallow ample)]
      exact items.advances goal frames forms rfl incomplete

theorem mirrors_readQuote {place : Cursor} (depth : Nat) (reads : ReadsForm options place.next) :
    Mirrors options (.mk (.quoted place.offset)) depth depth place.next
      (readQuote options place depth).counted := by
  rw [readQuote]
  cases follows : State.followsQuote place.next.rest.head? with
  | false =>
      refine ⟨rfl, ?_⟩
      intro goal frames forms _ _
      apply advance_of_unsettled
      simp only [State.settle, follows, Bool.false_eq_true, if_false]
  | true =>
      rw [if_pos rfl]
      cases refused : refusal? options place.offset (depth + 1) with
      | some failure =>
          refine ⟨rfl, ?_⟩
          intro goal frames forms nested _
          apply advance_of_unsettled
          simp only [State.settle, follows, if_true]
          apply enter_of_refusal
          rw [nested]
          exact refused
      | none =>
          obtain ⟨shallow, ample⟩ := refusal?_eq_none_iff.mp refused
          have started : place.next.rest ≠ [] := by
            intro ends
            rw [ends] at follows
            cases follows
          have inner := reads (depth + 1) started
          refine ⟨congrArg (· - 1) inner.counted, ?_⟩
          intro goal frames forms nested incomplete
          subst nested
          rw [advance_settle (.quote follows shallow ample),
            inner.advances goal _ forms List.length_cons incomplete (by rintro ⟨⟩), resume_quote]
          rfl

theorem advance_unknown {goal : Goal} {offset : Nat} {c : Char} {more : List Char}
    {frames : List Frame} {forms : List Form} (incomplete : goal = .one → forms = [])
    (notBetween : separates goal frames = true → c ≠ ' ' ∧ c ≠ ')')
    (unknown : opening? offset c = none) :
    advance options goal ⟨.gap, frames, forms⟩ offset (c :: more) =
      ⟨.error (.located offset (.unexpectedCharacter c)), [], ⟨offset, c :: more⟩⟩ := by
  have begun : startForm offset c ⟨.gap, frames, forms⟩ =
      .error (.located offset (.unexpectedCharacter c)) := by
    simp only [startForm, unknown]
  have taken : takeInGap goal offset c ⟨.gap, frames, forms⟩ =
      .error (.located offset (.unexpectedCharacter c)) := by
    rcases frames with _ | ⟨_ | _, frames⟩
    · cases goal with
      | one => exact begun
      | all =>
          obtain ⟨notSpace, notClose⟩ := notBetween rfl
          simp only [takeInGap, if_neg notSpace, if_neg notClose, begun]
    · obtain ⟨notSpace, notClose⟩ := notBetween rfl
      simp only [takeInGap, if_neg notSpace, if_neg notClose, begun]
    · exact begun
  simp only [advance, State.move, State.settle, if_neg (not_isComplete incomplete .gap frames),
    State.take, taken]

section Starting

variable {offset depth : Nat} {c : Char} {more : List Char}

theorem Mirrors.form {scan : Scan} {left : Reading Form × Nat}
    (mirrors : Mirrors options (.mk scan) depth depth ⟨offset + 1, more⟩ left)
    (opening : opening? offset c = some scan) :
    MirrorsForm options depth ⟨offset, c :: more⟩ left where
  counted := mirrors.counted
  advances goal frames forms nested incomplete _ := by
    rw [advance_start incomplete opening]
    exact mirrors.advances goal frames forms nested incomplete

theorem mirrorsForm_unknown (unknown : opening? offset c = none) :
    MirrorsForm options depth ⟨offset, c :: more⟩
      (⟨.error (.located offset (.unexpectedCharacter c)), [], ⟨offset, c :: more⟩⟩, depth) where
  counted := rfl
  advances goal frames forms _ incomplete notBetween := by
    simp only [List.head?_cons, ne_eq, Option.some.injEq] at notBetween
    exact advance_unknown incomplete notBetween unknown

theorem mirrors_readString (options : Options) (place : Cursor) (depth : Nat) :
    Mirrors options (.mk (.string place.offset [])) depth depth place.next
      (readString options place depth).counted where
  counted := rfl
  advances goal frames forms nested _ := by
    subst nested
    exact advance_takeString place

theorem accepts_of_opensWith {kind : RunKind} (opens : State.OpensWith c kind) :
    kind.accepts c = true := by
  cases kind with
  | number =>
      have starts : c.isDigit = true ∨ c = '-' := opens
      exact RunKind.accepts_number (by simpa using starts)
  | name =>
      have isAlpha : c.isAlpha = true := opens
      simp [RunKind.accepts, isNameChar, isAlpha]
  | keyword =>
      obtain rfl : c = ':' := opens
      rfl
  | special =>
      obtain rfl : c = '*' := opens
      rfl

theorem mirrorsForm_readRun {kind : RunKind}
    (opening : opening? offset c = some (.run kind offset [c])) (opens : State.OpensWith c kind) :
    MirrorsForm options depth ⟨offset, c :: more⟩
      (readRun kind ⟨offset, c :: more⟩ depth).counted where
  counted := rfl
  advances goal frames forms _ incomplete _ := by
    -- The first character is part of the run, so an empty run comes to the same state.
    have continues : (some c).any kind.accepts = true := accepts_of_opensWith opens
    have run := @advance_readRun options goal frames forms kind ⟨offset, c :: more⟩ depth
    rw [advance_take (.run continues) (not_isComplete incomplete _ _) .run] at run
    rw [advance_start incomplete opening]
    exact run

/-- The first character of a form tells what reads it. -/
theorem counted_readForm (options : Options) (offset : Nat) (c : Char) (more : List Char)
    (depth : Nat) :
    (readForm options ⟨offset, c :: more⟩ depth).counted =
      match opening? offset c with
      | some (.opened _) => (readList options ⟨offset, c :: more⟩ depth).counted
      | some (.quoted _) => (readQuote options ⟨offset, c :: more⟩ depth).counted
      | some (.string _ _) => (readString options ⟨offset, c :: more⟩ depth).counted
      | some (.run kind _ _) => (readRun kind ⟨offset, c :: more⟩ depth).counted
      | some .gap | none =>
          (⟨.error (.located offset (.unexpectedCharacter c)), [], ⟨offset, c :: more⟩⟩, depth) := by
  rw [readForm]
  simp only [opening?]
  split_ifs <;> rfl

theorem mirrorsForm_readForm (depth : Nat) (readsItems : ReadsItems options ⟨offset + 1, more⟩)
    (readsForm : ReadsForm options ⟨offset + 1, more⟩) :
    MirrorsForm options depth ⟨offset, c :: more⟩
      (readForm options ⟨offset, c :: more⟩ depth).counted := by
  rw [counted_readForm]
  cases opening : opening? offset c with
  | none => exact mirrorsForm_unknown opening
  | some scan =>
      rcases State.opening?_cases opening with
        ⟨_, rfl⟩ | ⟨_, rfl⟩ | ⟨_, rfl⟩ | ⟨kind, rfl, opens⟩
      · have list := @mirrors_readList options ⟨offset, c :: more⟩ depth readsItems
        exact list.form opening
      · have quote := @mirrors_readQuote options ⟨offset, c :: more⟩ depth readsForm
        exact quote.form opening
      · have string := mirrors_readString options ⟨offset, c :: more⟩ depth
        exact string.form opening
      · exact mirrorsForm_readRun opening opens

end Starting

theorem mirrors_readItems_nil (depth start : Nat) (items : List Form) (offset : Nat) :
    Mirrors options (amongItems start items) depth (depth + 1) ⟨offset, []⟩
      (readItems options start items ⟨offset, []⟩ (depth + 1)).counted := by
  have counted : (readItems options start items ⟨offset, []⟩ (depth + 1)).counted =
      (if options.strict then ⟨.error (.located start .unterminatedList), [], ⟨offset, []⟩⟩
        else if options.room.closing < depth + 1 then ⟨.error .stackExhausted, [], ⟨offset, []⟩⟩
        else ⟨.ok (.list items.reverse), [.closedList start], ⟨offset, []⟩⟩, depth + 1) := by
    rw [readItems]
    split_ifs <;> rfl
  rw [counted]
  refine ⟨rfl, ?_⟩
  intro goal frames forms nested _
  subst nested
  apply advance_unterminated rfl rfl

theorem Mirrors.item {depth start : Nat} {items : List Form} {place : Cursor} {limit other : Nat}
    {item : Exit Form limit} {next : ∀ form, item.outcome = .ok form → Exit Form other}
    (between : place.rest.head? ≠ some ' ' ∧ place.rest.head? ≠ some ')')
    (first : MirrorsForm options (depth + 1) place item.counted)
    (others : ∀ form outcome, Mirrors options (amongItems start (form :: items)) depth (depth + 1)
      item.cursor (next form outcome).counted) :
    Mirrors options (amongItems start items) depth (depth + 1) place
      (item.andThen next).counted where
  counted := Exit.depth_andThen first.counted fun form outcome => (others form outcome).counted
  advances goal frames forms nested incomplete := by
    have read := first.advances goal (.list start items :: frames) forms
      (by rw [List.length_cons, nested]) incomplete fun _ => between
    refine read.trans ?_
    rcases item.outcome_cases with ⟨failure, outcome⟩ | ⟨form, outcome⟩
    · simp only [Exit.counted, (Exit.andThen_error outcome).1, resume, outcome]
    · have later := (others form outcome).advances goal frames forms nested incomplete
      simp only [Exit.counted] at later ⊢
      rw [(Exit.andThen_ok outcome).1, resume_after, ← later]
      simp only [resume, outcome, deliver, amongItems]

theorem mirrors_readItems {place : Cursor} (depth start : Nat) (items : List Form)
    (readsForm : ReadsForm options place)
    (readsItems : ∀ later : Cursor, later.rest.length < place.rest.length →
      ReadsItems options later) :
    Mirrors options (amongItems start items) depth (depth + 1) place
      (readItems options start items place (depth + 1)).counted := by
  rcases place with ⟨offset, _ | ⟨c, more⟩⟩
  · exact mirrors_readItems_nil depth start items offset
  · rw [readItems]
    by_cases close : c = ')'
    · simp only [if_pos close]
      refine ⟨rfl, ?_⟩
      intro goal frames forms _ incomplete
      apply advance_take .gap (not_isComplete incomplete _ _) (.listEnd close)
    · by_cases space : c = ' '
      · have others := readsItems ⟨offset + 1, more⟩ (Nat.lt_succ_self _) depth start items
        simp only [if_neg close, if_pos space]
        refine ⟨others.counted, ?_⟩
        intro goal frames forms nested incomplete
        rw [amongItems, advance_take .gap (not_isComplete incomplete _ _) (.space rfl space)]
        exact others.advances goal frames forms nested incomplete
      · -- How far the items go on after this one is known only if it is read.
        have first := readsForm (depth + 1) (List.cons_ne_nil c more)
        have depthKept : (readForm options ⟨offset, c :: more⟩ (depth + 1)).depth = depth + 1 :=
          first.counted
        simp only [if_neg close, if_neg space]
        refine .item (by simp [space, close]) first ?_
        intro form outcome
        have others := readsItems (readForm options ⟨offset, c :: more⟩ (depth + 1)).cursor
          (Nat.lt_succ_of_le (Exit.within _ form outcome)) depth start (form :: items)
        simp only [Exit.weaken, Exit.counted, depthKept]
        exact others

theorem reads (options : Options) (place : Cursor) :
    ReadsForm options place ∧ ReadsItems options place := by
  induction size : place.rest.length using Nat.strong_induction_on generalizing place with
  | _ size inductionHypothesis =>
      subst size
      -- The items at a place begin with the form there, so the form comes before the items.
      have readsForm : ReadsForm options place := by
        intro depth started
        rcases place with ⟨offset, _ | ⟨c, more⟩⟩
        · exact absurd rfl started
        · have inner := inductionHypothesis _ (Nat.lt_succ_self more.length) ⟨offset + 1, more⟩ rfl
          exact mirrorsForm_readForm depth inner.2 inner.1
      refine ⟨readsForm, ?_⟩
      intro depth start items
      apply mirrors_readItems depth start items readsForm
      intro later shorter
      exact (inductionHypothesis _ shorter later rfl).2

/-! ## Whole readings -/

theorem counted_readForms (options : Options) (forms : List Form) (place : Cursor) :
    (readForms options forms place 0).counted =
      ((advance options .all ⟨.gap, [], forms⟩ place.offset place.rest).map List.reverse, 0) := by
  induction size : place.rest.length using Nat.strong_induction_on generalizing place forms with
  | _ size inductionHypothesis =>
      subst size
      rw [readForms]
      rcases place with ⟨offset, _ | ⟨c, more⟩⟩
      · rfl
      · by_cases space : c = ' '
        · rw [advance_take .gap (by simp) (.space rfl space)]
          simp only [if_pos space]
          exact inductionHypothesis _ (Nat.lt_succ_self _) forms ⟨offset + 1, more⟩ rfl
        · by_cases close : c = ')'
          · simp only [if_neg space, if_pos close]
            subst close
            rfl
          · have first := (reads options ⟨offset, c :: more⟩).1 0 (List.cons_ne_nil c more)
            have depthKept : (readForm options ⟨offset, c :: more⟩ 0).depth = 0 := first.counted
            rw [first.advances .all [] forms rfl (by rintro ⟨⟩)
              fun _ => by simp [space, close]]
            simp only [if_neg space, if_neg close]
            rcases (readForm options ⟨offset, c :: more⟩ 0).outcome_cases with
              ⟨failure, outcome⟩ | ⟨form, outcome⟩
            · obtain ⟨read, kept⟩ := Exit.andThen_error outcome
              refine Prod.ext (read.trans ?_) (kept.trans depthKept)
              simp only [Exit.counted, resume, outcome, Reading.map, Except.map]
            · obtain ⟨read, kept⟩ := Exit.andThen_ok outcome
              have later := inductionHypothesis _ (Nat.lt_succ_of_le (Exit.within _ form outcome))
                (form :: forms) (readForm options ⟨offset, c :: more⟩ 0).cursor rfl
              refine Prod.ext (read.trans ?_) (kept.trans ?_)
              · simp only [depthKept, Exit.counted, resume, outcome, deliver]
                exact congrArg (Reading.after _) (congrArg Prod.fst later)
              · simp only [depthKept]
                exact congrArg Prod.snd later

theorem advance_complete (form : Form) (offset : Nat) (rest : List Char) :
    advance options .one ⟨.gap, [], [form]⟩ offset rest = ⟨.ok [form], [], ⟨offset, rest⟩⟩ := by
  cases rest <;> rfl

theorem choose_single {method : Method} (single : method.goal = .one) (form : Form)
    (offset : Nat) : method.choose [form] offset = (.ok form, []) := by
  cases method <;> first | rfl | cases single

theorem report_single {method : Method} (single : method.goal = .one)
    (reading : Reading (List Form)) : method.report reading = reading := by
  cases method <;> first | rfl | cases single

theorem read_eq_of_single {method : Method} {place : Cursor} {reading : Reading Form}
    (single : method.goal = .one)
    (read : advance options .one ⟨method.scan place.offset, [], []⟩ (method.place place).offset
      (method.place place).rest = resume options .one [] [] reading) :
    method.read options place = reading := by
  rw [Method.read_eq_answer, single, read, report_single single]
  rcases reading with ⟨_ | form, notices, cursor⟩
  · rfl
  · simp only [resume, deliver, advance_complete, Reading.after, Method.answer, List.append_nil,
      List.reverse_singleton, choose_single single]

theorem read_eq_of_whole {method : Method} {place : Cursor} (whole : method.goal = .all) :
    method.read options place =
      method.answer (advance options .all ⟨.gap, [], []⟩ place.offset place.rest).catching := by
  cases method <;> first | rfl | cases whole

theorem counted_catching_readForms (options : Options) (place : Cursor) :
    (readForms options [] place 0).catching.counted =
      ((advance options .all ⟨.gap, [], []⟩ place.offset place.rest).catching.map List.reverse,
        0) := by
  rw [← Reading.catching_map]
  exact congrArg (Prod.map Reading.catching id) (counted_readForms options [] place)

theorem counted_first {limit : Nat} (forms : List Form) (notices : List Notice) (cursor : Cursor)
    (depth : Nat)
    (within : ∀ value, Except.ok forms = Except.ok value → cursor.rest.length ≤ limit) :
    (Exit.first ⟨⟨.ok forms, notices, cursor⟩, depth, within⟩).counted =
      (⟨(Method.first.choose forms cursor.offset).1,
        notices ++ (Method.first.choose forms cursor.offset).2, cursor⟩, depth) := by
  rcases forms with _ | ⟨head, _ | ⟨second, others⟩⟩ <;> rfl

/-- Every method reads what the other reader reads, and leaves no nesting if it finds none. -/
theorem read_eq (options : Options) (place : Cursor) (method : Method) :
    read options place 0 method = (method.read options place, 0) := by
  cases method with
  | form =>
      rcases place with ⟨offset, _ | ⟨c, more⟩⟩
      · rw [read, readForm]
        rfl
      · have first := (reads options ⟨offset, c :: more⟩).1 0 (List.cons_ne_nil c more)
        refine Prod.ext (read_eq_of_single rfl ?_).symm first.counted
        exact first.advances .one [] [] rfl (fun _ => rfl) (by rintro ⟨⟩)
  | run kind =>
      exact Prod.ext (read_eq_of_single rfl (advance_readRun kind place 0)).symm rfl
  | string => exact Prod.ext (read_eq_of_single rfl (advance_takeString place)).symm rfl
  | list =>
      have list := mirrors_readList 0 (reads options place.next).2
      refine Prod.ext (read_eq_of_single rfl ?_).symm list.counted
      exact list.advances .one [] [] rfl fun _ => rfl
  | quote =>
      have quote := mirrors_readQuote 0 (reads options place.next).1
      refine Prod.ext (read_eq_of_single rfl ?_).symm quote.counted
      exact quote.advances .one [] [] rfl fun _ => rfl
  | all =>
      have all := counted_catching_readForms options place
      rw [read_eq_of_whole rfl, read, readAll]
      generalize (readForms options [] place 0).catching = exit at all ⊢
      generalize (advance options .all ⟨.gap, [], []⟩ place.offset place.rest).catching = reading
        at all ⊢
      rcases exit with ⟨exited, depth, within⟩
      cases all
      rcases reading with ⟨_ | forms, notices, cursor⟩
      · rfl
      · simp [Exit.counted, Exit.map, Except.map, Method.answer, Method.choose]
  | first =>
      have all := counted_catching_readForms options place
      rw [read_eq_of_whole rfl, read, readFirst]
      generalize (readForms options [] place 0).catching = exit at all ⊢
      generalize (advance options .all ⟨.gap, [], []⟩ place.offset place.rest).catching = reading
        at all ⊢
      rcases exit with ⟨exited, depth, within⟩
      cases all
      rcases reading with ⟨_ | forms, notices, cursor⟩
      · rfl
      · exact counted_first forms.reverse notices cursor 0 within

end Nesting

end Descent

end Sexpr.Reader
