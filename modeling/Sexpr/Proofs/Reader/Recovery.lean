import Sexpr.Proofs.Reader.Nesting
import Sexpr.Proofs.Reader.Refusal

/-!
Lenient reading.

Until the text ends a lenient reader does what a strict one does.  At the end it closes what is
open, from the inside out, and each notice names where the closed construct starts.  Adding the
missing characters to the text gives a strict reader the same forms.  Only the first notice can
fail, because it is made inside of all that is open.
-/

namespace Sexpr

/-- Where the construct starts that a notice is about. -/
def Notice.start? : Notice → Option Nat
  | .closedString start | .closedList start => some start
  | .discarded _ => none

/-- The character that is missing from a construct that the end of the text closes. -/
def Notice.closing : Notice → List Char
  | .closedString _ => [Text.Quoted.doubleQuote]
  | .closedList _ => [')']
  | .discarded _ => []

/-- The notice of a lenient reader where a strict one finds something unterminated. -/
def Failure.recovery? : Failure → Option Notice
  | .located start .unterminatedString => some (.closedString start)
  | .located start .unterminatedList => some (.closedList start)
  | _ => none

theorem Failure.level_of_recovery? {failure : Failure} {notice : Notice}
    (recovery : failure.recovery? = some notice) : notice.level = .warning := by
  unfold recovery? at recovery
  split at recovery
  all_goals cases recovery
  all_goals rfl

end Sexpr

namespace Sexpr.Reader

open State (Goal Settles Takes deliver)

/-! ## Where open constructs start -/

/-- Where a frame starts. -/
def Frame.start : Frame → Nat
  | .list start _ | .quote start => start

/-- The notice about a frame that the end of the text closes. -/
def Frame.notice? : Frame → Option Notice
  | .list start _ => some (.closedList start)
  | .quote _ => none

/-- Where the pending characters start, if there are any. -/
def Scan.starts : Scan → List Nat
  | .gap => []
  | .opened start | .quoted start | .run _ start _ | .string start _ => [start]

namespace State

/-- Where the constructs start that are not complete, the innermost first. -/
def starts (state : State) : List Nat := state.scan.starts ++ state.frames.map Frame.start

theorem starts_deliver_sublist (form : Form) (frames : List Frame) (forms : List Form) :
    (deliver form frames forms).starts.Sublist (frames.map Frame.start) := by
  induction frames generalizing form with
  | nil => exact List.Sublist.refl _
  | cons frame frames inductionHypothesis =>
      cases frame with
      | list start items => exact List.Sublist.refl _
      | quote start => exact (inductionHypothesis form.quote).cons start

theorem starts_of_opening {offset : Nat} {c : Char} {scan : Scan}
    (opening : opening? offset c = some scan) : scan.starts = [offset] := by
  rcases opening?_cases opening with ⟨_, rfl⟩ | ⟨_, rfl⟩ | ⟨_, rfl⟩ | ⟨kind, rfl, _⟩ <;> rfl

theorem Settles.starts_sublist {options : Options} {next : Option Char} {state settled : State}
    (settles : Settles options next state settled) : settled.starts.Sublist state.starts := by
  cases settles with
  | gap => exact List.Sublist.refl _
  | string => exact List.Sublist.refl _
  | run more => exact List.Sublist.refl _
  | atom ends denoted => exact (starts_deliver_sublist _ _ _).cons _
  | list shallow ample => exact List.Sublist.refl _
  | quote follows shallow ample => exact List.Sublist.refl _

theorem Takes.starts_sublist {goal : Goal} {offset : Nat} {c : Char} {state taken : State}
    (takes : Takes goal offset c state taken) :
    taken.starts.Sublist (offset :: state.starts) := by
  cases takes with
  | run => exact List.sublist_cons_self _ _
  | string more => exact List.sublist_cons_self _ _
  | stringEnd ends => exact ((starts_deliver_sublist _ _ _).cons _).cons _
  | space between equality => exact List.sublist_cons_self _ _
  | listEnd equality => exact ((starts_deliver_sublist _ _ _).cons _).cons _
  | start opening =>
      rw [starts, starts_of_opening opening]
      exact List.Sublist.refl _

theorem starts_sublist_of_go {options : Options} {goal : Goal} {offset : Nat} {c : Char}
    {state taken : State} (moved : state.move options goal offset c = .go taken) :
    taken.starts.Sublist (offset :: state.starts) := by
  obtain ⟨settled, settles, _, takes⟩ := move_eq_go_iff.mp moved
  exact takes.starts_sublist.trans (settles.starts_sublist.cons_cons offset)

/-- Open constructs start before the place of the reader, and inner ones after outer ones. -/
def IsPlaced (offset : Nat) (state : State) : Prop :=
  (offset :: state.starts).Pairwise (· > ·)

theorem IsPlaced.move {options : Options} {goal : Goal} {offset : Nat} {c : Char}
    {state taken : State} (placed : state.IsPlaced offset)
    (moved : state.move options goal offset c = .go taken) : taken.IsPlaced (offset + 1) := by
  have sublist := starts_sublist_of_go moved
  refine List.pairwise_cons.mpr ⟨?_, placed.sublist sublist⟩
  intro start membership
  rcases List.mem_cons.mp (sublist.subset membership) with rfl | before
  · exact Nat.lt_succ_self start
  · exact Nat.lt_succ_of_lt (List.rel_of_pairwise_cons placed before)

end State

/-! ## What cannot be recovered from -/

theorem recovery?_of_number {start : Nat} {complaint : Complaint}
    (isNumber : complaint.kind = .number) :
    (Failure.located start complaint).recovery? = none := by
  cases complaint <;> first | rfl | cases isNumber

namespace State

theorem SettleFails.recovery?_eq_none {options : Options} {next : Option Char} {state : State}
    {failure : Failure} (fails : SettleFails options next state failure) :
    failure.recovery? = none := by
  cases fails with
  | tooDeep opens => rfl
  | exhausted => rfl
  | quote => rfl
  | run ends fails =>
      cases fails with
      | number isNumber => exact recovery?_of_number isNumber
      | digits written areDigits few many => rfl
      | keyword => rfl
      | special => rfl

theorem recovery?_of_stop {options : Options} {goal : Goal} {offset : Nat} {c : Char}
    {state : State} {failure : Failure}
    (stopped : state.move options goal offset c = .stop (.error failure)) :
    failure.recovery? = none := by
  rcases fails_of_stop stopped with fails | ⟨settled, _, fails⟩
  · exact fails.recovery?_eq_none
  · cases fails with
    | close => rfl
    | start unknown => rfl

end State

theorem recovery?_of_pass {options : Options} {state : State} {offset : Nat} {text : List Char}
    {reading : Reading (List Form)}
    (stopped : pass options .all state offset text = .error reading) :
    reading.notices = [] ∧
      ∃ failure, reading.outcome = .error failure ∧ failure.recovery? = none := by
  induction text generalizing state offset with
  | nil => cases stopped
  | cons c rest inductionHypothesis =>
      cases moved : state.move options .all offset c with
      | stop outcome =>
          simp only [pass, moved] at stopped
          cases stopped
          obtain ⟨failure, rfl⟩ := State.exists_error_of_stop moved
          exact ⟨rfl, failure, rfl, State.recovery?_of_stop moved⟩
      | go taken =>
          simp only [pass, moved] at stopped
          exact inductionHypothesis stopped

/-! ## Closing what is open -/

theorem notices_sealFrames (form : Form) (frames : List Frame) :
    (sealFrames form frames).1 = frames.filterMap Frame.notice? := by
  induction frames generalizing form with
  | nil => rfl
  | cons frame frames inductionHypothesis =>
      cases frame with
      | list start items => simp [sealFrames, Frame.notice?, inductionHypothesis]
      | quote start => exact inductionHypothesis form.quote

/-- A strict reader that is given the missing parentheses completes the same form. -/
theorem advance_closing (maxDepth : Nat) (room : Room) (form : Form) (frames : List Frame)
    (forms : List Form) (offset : Nat) :
    (advance ⟨maxDepth, true, room⟩ .all (deliver form frames forms) offset
        ((frames.filterMap Frame.notice?).flatMap Notice.closing)).outcome =
      .ok ((sealFrames form frames).2 :: forms) := by
  induction frames generalizing form offset with
  | nil => rfl
  | cons frame frames inductionHypothesis =>
      cases frame with
      | list start items =>
          have text : ((Frame.list start items :: frames).filterMap Frame.notice?).flatMap
              Notice.closing = ')' :: (frames.filterMap Frame.notice?).flatMap Notice.closing := rfl
          rw [text, deliver, advance_take .gap (by simp) (.listEnd rfl)]
          exact inductionHypothesis _ _
      | quote start => exact inductionHypothesis form.quote offset

/-- A state that the end of the text settles is settled by any text that ends all runs. -/
theorem State.Settles.ofEnd {options : Options} {text : List Char} {state settled : State}
    (ends : ∀ kind, Grammar.EndsBefore kind text) (settles : Settles options none state settled) :
    Settles options text.head? state settled := by
  cases settles with
  | gap => exact .gap
  | string => exact .string
  | run more => cases more
  | @atom kind start taken atom frames forms _ denoted => exact .atom (ends kind) denoted
  | list shallow ample => exact .list shallow ample
  | quote follows shallow ample => cases follows

theorem State.Settles.eq_of_string {options : Options} {next : Option Char}
    {state settled : State} {start : Nat} {taken : List Char}
    (settles : Settles options next state settled) (string : settled.scan = .string start taken) :
    state = settled := by
  cases settles with
  | gap => rfl
  | string => rfl
  | run more => rfl
  | atom ends denoted =>
      rw [State.scan_deliver] at string
      cases string
  | list shallow ample => cases string
  | quote follows shallow ample => cases string

/-- What a lenient reader makes of a state in which a strict one finds something unterminated:
the notices are about the innermost construct and then about the lists around it. -/
structure Recovers (maxDepth : Nat) (room : Room) (state : State) (failure : Failure)
    (notice : Notice) (frames : List Frame) (forms : List Form) : Prop where
  fails : state.conclude ⟨maxDepth, true, room⟩ = .error failure
  recovery : failure.recovery? = some notice
  concludes : ∀ closing, state.conclude ⟨maxDepth, false, ⟨room.reading, closing⟩⟩ =
    if closing < frames.length + 1 then .error .stackExhausted
    else .ok (notice :: frames.filterMap Frame.notice?, forms)
  encloses : frames.length ≤ Tree.depthAll forms
  sublist : (notice.start?.toList ++ frames.map Frame.start).Sublist state.starts
  closes : ∀ offset, (advance ⟨maxDepth, true, room⟩ .all state offset
    ((notice :: frames.filterMap Frame.notice?).flatMap Notice.closing)).outcome = .ok forms

theorem length_frames_le_depthAll (form : Form) (frames : List Frame) (forms : List Form) :
    frames.length ≤ Tree.depthAll ((sealFrames form frames).2 :: forms) := by
  have sealed := framesDepth_eq_max frames form.depth
  rw [Tree.depthAll_cons, depth_sealFrames]
  omega

theorem recovers_of_list {maxDepth start : Nat} {room : Room} {state : State} {items : List Form}
    {frames : List Frame} {forms : List Form}
    (settles : Settles ⟨maxDepth, true, room⟩ none state
      ⟨.gap, .list start items :: frames, forms⟩) :
    Recovers maxDepth room state (.located start .unterminatedList) (.closedList start) frames
      ((sealFrames (.list items.reverse) frames).2 :: forms) where
  fails := by
    simp only [State.conclude, State.settle_eq_ok_iff.mpr settles]
    rfl
  recovery := rfl
  concludes closing := by
    simp only [State.conclude, State.settle_closing maxDepth false closing,
      State.settle_eq_ok_iff.mpr settles, ← notices_sealFrames (.list items.reverse)]
    rfl
  encloses := length_frames_le_depthAll _ frames forms
  sublist := settles.starts_sublist
  closes := by
    intro offset
    have text : (Notice.closedList start :: frames.filterMap Frame.notice?).flatMap
        Notice.closing = ')' :: (frames.filterMap Frame.notice?).flatMap Notice.closing := rfl
    rw [text, advance_settle (settles.ofEnd fun kind => by cases kind <;> rfl),
      advance_take .gap (by simp) (.listEnd rfl)]
    exact advance_closing maxDepth room _ frames forms (offset + 1)

theorem recovers_of_string (maxDepth start : Nat) (room : Room) (taken : List Char)
    (frames : List Frame) (forms : List Form) :
    Recovers maxDepth room ⟨.string start taken, frames, forms⟩
      (.located start .unterminatedString) (.closedString start) frames
      ((sealFrames (.leaf (.string (String.ofList taken.reverse))) frames).2 :: forms) where
  fails := rfl
  recovery := rfl
  concludes closing := by
    rw [← notices_sealFrames (.leaf (.string (String.ofList taken.reverse)))]
    rfl
  encloses := length_frames_le_depthAll _ frames forms
  sublist := List.Sublist.refl _
  closes := by
    intro offset
    have text : (Notice.closedString start :: frames.filterMap Frame.notice?).flatMap
        Notice.closing = Text.Quoted.doubleQuote ::
          (frames.filterMap Frame.notice?).flatMap Notice.closing := rfl
    rw [text, advance_take .string (by simp) (.stringEnd rfl)]
    exact advance_closing maxDepth room _ frames forms (offset + 1)

/-- At the end of the text a lenient reader does what a strict one does, silently, or it
recovers. -/
theorem State.conclude_cases (maxDepth : Nat) (room : Room) (state : State) :
    (state.conclude ⟨maxDepth, false, room⟩ = state.conclude ⟨maxDepth, true, room⟩ ∧
      ((∃ forms, state.conclude ⟨maxDepth, true, room⟩ = .ok ([], forms)) ∨
        ∃ failure, state.conclude ⟨maxDepth, true, room⟩ = .error failure ∧
          failure.recovery? = none)) ∨
    ∃ failure notice frames forms, Recovers maxDepth room state failure notice frames forms := by
  cases outcome : state.settle ⟨maxDepth, true, room⟩ none with
  | error failure =>
      have lenient := outcome
      rw [← State.settle_strict maxDepth false] at lenient
      refine .inl ⟨by simp only [conclude, outcome, lenient], .inr ⟨failure, ?_, ?_⟩⟩
      · simp only [conclude, outcome]
      · exact (fails_of_settle outcome).recovery?_eq_none
  | ok settled =>
      have lenient := outcome
      rw [← State.settle_strict maxDepth false] at lenient
      have settles := settle_eq_ok_iff.mp outcome
      rcases settled with ⟨scan, frames, forms⟩
      rcases settles.scan_atEnd with gap | ⟨start, taken, string⟩
      · cases gap
        rcases frames with _ | ⟨⟨start, items⟩ | start, frames⟩
        · refine .inl ⟨?_, .inl ⟨forms, ?_⟩⟩
          · simp only [conclude, outcome, lenient]
            rfl
          · simp only [conclude, outcome]
            rfl
        · exact .inr ⟨_, _, _, _, recovers_of_list settles⟩
        · refine .inl ⟨?_, .inr ⟨.located start .danglingQuote, ?_, rfl⟩⟩
          · simp only [conclude, outcome, lenient]
            rfl
          · simp only [conclude, outcome]
            rfl
      · cases string
        rw [settles.eq_of_string rfl]
        exact .inr ⟨_, _, _, _, recovers_of_string maxDepth start room taken frames forms⟩

theorem Recovers.starts_pairwise {maxDepth : Nat} {room : Room} {state : State}
    {failure : Failure} {notice : Notice} {frames : List Frame} {forms : List Form} {offset : Nat}
    (recovers : Recovers maxDepth room state failure notice frames forms)
    (placed : state.IsPlaced offset) :
    ((notice :: frames.filterMap Frame.notice?).filterMap Notice.start?).Pairwise (· > ·) := by
  have within : ((notice :: frames.filterMap Frame.notice?).filterMap Notice.start?).Sublist
      (notice.start?.toList ++ frames.map Frame.start) := by
    have outer : ((frames.filterMap Frame.notice?).filterMap Notice.start?).Sublist
        (frames.map Frame.start) := by
      clear recovers
      induction frames with
      | nil => exact List.Sublist.refl _
      | cons frame frames inductionHypothesis =>
          cases frame with
          | list start items => exact inductionHypothesis.cons_cons start
          | quote start => exact inductionHypothesis.cons start
    rw [List.filterMap_cons]
    cases notice.start? with
    | none => exact outer
    | some start => exact outer.cons_cons start
  exact ((List.pairwise_cons.mp placed).2).sublist (within.trans recovers.sublist)

/-- Either both readers do the same, silently, or the lenient one recovers from what the strict
one fails with, if the stack has room for what encloses that. -/
theorem advance_lenient (maxDepth : Nat) (room : Room) (text : List Char) :
    (advance ⟨maxDepth, false, room⟩ .all .initial 0 text =
        advance ⟨maxDepth, true, room⟩ .all .initial 0 text ∧
      (advance ⟨maxDepth, true, room⟩ .all .initial 0 text).notices = [] ∧
      ∀ failure, (advance ⟨maxDepth, true, room⟩ .all .initial 0 text).outcome = .error failure →
        failure.recovery? = none) ∨
    ∃ failure notice forms others enclosing,
      (advance ⟨maxDepth, true, room⟩ .all .initial 0 text).outcome = .error failure ∧
      failure.recovery? = some notice ∧
      (∀ closing, advance ⟨maxDepth, false, ⟨room.reading, closing⟩⟩ .all .initial 0 text =
        if closing ≤ enclosing then ⟨.error .stackExhausted, [], ⟨text.length, []⟩⟩
        else ⟨.ok forms, notice :: others, ⟨text.length, []⟩⟩) ∧
      others.length ≤ enclosing ∧ enclosing ≤ Tree.depthAll forms ∧
      (∀ other ∈ others, ∃ start, other = .closedList start) ∧
      ((notice :: others).filterMap Notice.start?).Pairwise (· > ·) ∧
      (advance ⟨maxDepth, true, room⟩ .all .initial 0
        (text ++ (notice :: others).flatMap Notice.closing)).outcome = .ok forms := by
  cases passed : pass ⟨maxDepth, true, room⟩ .all .initial 0 text with
  | error reading =>
      have lenient := passed
      rw [← pass_strict maxDepth false] at lenient
      obtain ⟨silent, failure, fails, unrecoverable⟩ := recovery?_of_pass passed
      rw [advance_of_stop passed, advance_of_stop lenient]
      refine .inl ⟨rfl, silent, ?_⟩
      intro other outcome
      rw [fails] at outcome
      cases outcome
      exact unrecoverable
  | ok final =>
      have lenient := passed
      rw [← pass_strict maxDepth false] at lenient
      have begun : State.initial.IsPlaced 0 := List.pairwise_singleton _ 0
      have placed := pass_induct (motive := fun offset state => state.IsPlaced offset)
        State.IsPlaced.move begun passed
      simp only [advance_append _ passed]
      rcases final.conclude_cases maxDepth room with
        ⟨same, ⟨forms, concluded⟩ | ⟨failure, concluded, unrecoverable⟩⟩ |
        ⟨failure, notice, frames, forms, recovers⟩
      · rw [advance_of_pass passed, advance_of_pass lenient, same, concluded]
        refine .inl ⟨rfl, rfl, ?_⟩
        intro failure outcome
        cases outcome
      · rw [advance_of_pass passed, advance_of_pass lenient, same, concluded]
        refine .inl ⟨rfl, rfl, ?_⟩
        intro other outcome
        cases outcome
        exact unrecoverable
      · rw [advance_of_pass passed, recovers.fails]
        refine .inr ⟨failure, notice, forms, frames.filterMap Frame.notice?, frames.length, rfl,
          recovers.recovery, fun closing => ?_, List.length_filterMap_le _ _, recovers.encloses, ?_,
          recovers.starts_pairwise placed, recovers.closes _⟩
        · have closingPassed := passed
          rw [← pass_closing maxDepth false closing] at closingPassed
          rw [advance_of_pass closingPassed, recovers.concludes, Nat.zero_add]
          simp only [Nat.lt_add_one_iff]
          split <;> rfl
        · intro other membership
          obtain ⟨frame, _, isNotice⟩ := List.mem_filterMap.mp membership
          cases frame with
          | list start items => exact ⟨start, (Option.some.inj isNotice).symm⟩
          | quote start => cases isNotice

theorem readAll_eq_error_recovery?_iff {options : Options} {text : String} {failure : Failure}
    {notice : Notice} (recoverable : failure.recovery? = some notice) :
    (readAll options text).outcome = .error failure ↔
      (advance options .all .initial 0 text.toList).outcome = .error failure := by
  cases failure with
  | located offset complaint => exact readAll_eq_error_located_iff
  | stackExhausted => cases recoverable
  | nestingExhausted offset => cases recoverable
  | tooManyDigits count => cases recoverable

theorem filter_isShown {threshold : Level} (shown : threshold.rank ≤ Level.warning.rank)
    {notices : List Notice} (warnings : ∀ notice ∈ notices, notice.level = .warning) :
    notices.filter (Notice.isShown threshold) = notices := by
  refine List.filter_eq_self.mpr fun notice membership => ?_
  rw [Notice.isShown, warnings notice membership]
  exact decide_eq_true shown

/-- A lenient reader differs from a strict one only where the strict one finds something
unterminated.  It then closes what is open, from the inside out, and reads what a strict reader
reads when the missing characters are added to the text.  Where the stack has no room for what
encloses the innermost of them, it fails with the first notice, and reports none. -/
theorem readAll_lenient (maxDepth : Nat) (room : Room) (text : String) :
    (∀ form, (readAll ⟨maxDepth, true, room⟩ text).outcome = .ok form →
      readAll ⟨maxDepth, false, room⟩ text = readAll ⟨maxDepth, true, room⟩ text ∧
        (readAll ⟨maxDepth, false, room⟩ text).notices = []) ∧
    (∀ failure, (readAll ⟨maxDepth, true, room⟩ text).outcome = .error failure →
      failure.recovery? = none →
      readAll ⟨maxDepth, false, room⟩ text = readAll ⟨maxDepth, true, room⟩ text ∧
        (readAll ⟨maxDepth, false, room⟩ text).notices = []) ∧
    (∀ failure notice, (readAll ⟨maxDepth, true, room⟩ text).outcome = .error failure →
      failure.recovery? = some notice →
      ∃ forms others enclosing,
        (∀ closing, readAll ⟨maxDepth, false, ⟨room.reading, closing⟩⟩ text =
          if closing ≤ enclosing then
            ⟨.error (.nestingExhausted text.length), [], ⟨text.length, []⟩⟩
          else ⟨.ok (.list forms), notice :: others, ⟨text.length, []⟩⟩) ∧
        others.length ≤ enclosing ∧ enclosing ≤ Tree.depthAll forms ∧
        Tree.depthAll forms ≤ maxDepth ∧
        (∀ other ∈ others, ∃ start, other = .closedList start) ∧
        ((notice :: others).filterMap Notice.start?).Pairwise (· > ·) ∧
        (∀ threshold : Level, threshold.rank ≤ Level.warning.rank →
          (notice :: others).filter (Notice.isShown threshold) = notice :: others) ∧
        (readAll ⟨maxDepth, true, room⟩
          (text ++ String.ofList ((notice :: others).flatMap Notice.closing))).outcome =
            .ok (.list forms)) := by
  refine ⟨?_, ?_, ?_⟩
  · intro form outcome
    obtain ⟨forms, rfl, read⟩ := readAll_eq_ok_iff.mp outcome
    rcases advance_lenient maxDepth room text.toList with
      ⟨same, silent, _⟩ | ⟨failure, notice, read', others, enclosing, fails, _⟩
    · rw [readAll_eq, readAll_eq, same]
      exact ⟨rfl, silent⟩
    · rw [fails] at read
      cases read
  · intro failure outcome unrecoverable
    rcases advance_lenient maxDepth room text.toList with
      ⟨same, silent, _⟩ | ⟨failure', notice, read, others, enclosing, fails, recoverable, _⟩
    · rw [readAll_eq, readAll_eq, same]
      exact ⟨rfl, silent⟩
    · rw [(readAll_eq_error_recovery?_iff recoverable).mpr fails] at outcome
      cases outcome
      rw [unrecoverable] at recoverable
      cases recoverable
  · intro failure notice outcome recoverable
    have fails := (readAll_eq_error_recovery?_iff recoverable).mp outcome
    rcases advance_lenient maxDepth room text.toList with
      ⟨_, _, unrecoverable⟩ |
      ⟨failure', notice', read, others, enclosing, fails', recoverable', lenient, atLeast, encloses,
        lists, decreasing, closes⟩
    · rw [unrecoverable failure fails] at recoverable
      cases recoverable
    · rw [fails] at fails'
      cases fails'
      rw [recoverable] at recoverable'
      cases recoverable'
      have warnings : ∀ reported ∈ notice :: others, reported.level = .warning := by
        refine List.forall_mem_cons.mpr ⟨Failure.level_of_recovery? recoverable, ?_⟩
        intro other membership
        obtain ⟨start, rfl⟩ := lists other membership
        rfl
      have completed : (readAll ⟨maxDepth, true, room⟩
          (text ++ String.ofList ((notice :: others).flatMap Notice.closing))).outcome =
            .ok (.list read.reverse) := by
        refine readAll_eq_ok_iff.mpr ⟨read.reverse, rfl, ?_⟩
        rw [List.reverse_reverse, String.toList_append, String.toList_ofList]
        exact closes
      refine ⟨read.reverse, others, enclosing, fun closing => ?_, atLeast, ?_,
        depthAll_of_readAll completed, lists, decreasing,
        fun threshold shown => filter_isShown shown warnings, completed⟩
      · rw [readAll_eq, lenient closing, String.length_toList]
        split <;> rfl
      · rwa [Tree.depthAll_reverse]

theorem readAll_lenient_nested :
    (readAll ⟨3, true, {}⟩ "(a '(b \"c").outcome = .error (.located 7 .unterminatedString) ∧
      (readAll ⟨3, false, {}⟩ "(a '(b \"c").notices =
        [.closedString 7, .closedList 4, .closedList 0] ∧
      (readAll ⟨3, true, {}⟩ ("(a '(b \"c" ++ "\"))")).outcome =
        (readAll ⟨3, false, {}⟩ "(a '(b \"c").outcome := by
  have fails : (readAll ⟨3, true, {}⟩ "(a '(b \"c").outcome =
      .error (.located 7 .unterminatedString) := by rfl
  have reported : (readAll ⟨3, false, {}⟩ "(a '(b \"c").notices =
      [.closedString 7, .closedList 4, .closedList 0] := by rfl
  obtain ⟨forms, others, enclosing, lenient, _, encloses, shallow, _, _, _, completed⟩ :=
    (readAll_lenient 3 {} "(a '(b \"c").2.2 _ (.closedString 7) fails rfl
  have few : ¬493 ≤ enclosing := by omega
  have recovered : readAll ⟨3, false, {}⟩ "(a '(b \"c" = _ := (lenient 493).trans (if_neg few)
  rw [recovered] at reported
  cases reported
  exact ⟨fails, by rw [recovered], completed.trans (by rw [recovered])⟩

/-- Opening parentheses alone leave as many lists open, the last of which has not been entered
when the text ends. -/
theorem advance_opened {options : Options} {start count : Nat} {frames : List Frame}
    {forms : List Form} (shallow : frames.length + count ≤ options.maxDepth)
    (ample : frames.length + count ≤ options.room.reading) :
    ∃ inner, inner.length = frames.length + count ∧
      advance options .all ⟨.opened start, frames, forms⟩ (start + 1) (List.replicate count '(') =
        atEnd (start + 1 + count)
          (State.conclude options ⟨.opened (start + count), inner, forms⟩) := by
  induction count generalizing start frames with
  | zero => exact ⟨frames, rfl, rfl⟩
  | succ count inductionHypothesis =>
      have entered : State.Settles options (some '(') ⟨.opened start, frames, forms⟩
          ⟨.gap, .list start [] :: frames, forms⟩ := .list (by omega) (by omega)
      obtain ⟨inner, length, read⟩ := @inductionHypothesis (start + 1) (.list start [] :: frames)
        (by rw [List.length_cons]; omega) (by rw [List.length_cons]; omega)
      refine ⟨inner, by rw [length, List.length_cons]; omega, ?_⟩
      rw [List.replicate_succ, advance_settle entered, advance_take .gap (by simp) (.start rfl),
        read, Nat.add_assoc (start + 1), Nat.add_assoc start 1 count, Nat.add_comm 1 count]

theorem advance_replicate_open {options : Options} {count : Nat}
    (shallow : count < options.maxDepth) (ample : count < options.room.reading) :
    ∃ inner, inner.length = count ∧
      advance options .all .initial 0 (List.replicate (count + 1) '(') =
        atEnd (count + 1) (closeAtEnd options (.located count .unterminatedList)
          (.closedList count) (.list []) inner []) := by
  obtain ⟨inner, length, read⟩ := @advance_opened options 0 count [] []
    (by simpa using Nat.le_of_lt shallow) (by simpa using Nat.le_of_lt ample)
  rw [List.length_nil, Nat.zero_add] at length
  have settled : State.settle options none ⟨.opened count, inner, []⟩ =
      .ok ⟨.gap, .list count [] :: inner, []⟩ :=
    State.settle_eq_ok_iff.mpr (.list (by rwa [length]) (by rwa [length]))
  refine ⟨inner, length, ?_⟩
  rw [List.replicate_succ, State.initial, advance_take .gap (by simp) (.start rfl), read,
    Nat.zero_add, Nat.zero_add, Nat.add_comm 1 count, State.conclude, settled]
  rfl

/-- A reader of opening parentheses alone complains about the last of them.  A lenient one may have
no room left to report it. -/
theorem readAll_replicate_open {maxDepth count : Nat} {room : Room} (shallow : count < maxDepth)
    (ample : count < room.reading) (full : room.closing ≤ count) :
    let text := String.ofList (List.replicate (count + 1) '(')
    (readAll ⟨maxDepth, true, room⟩ text).outcome = .error (.located count .unterminatedList) ∧
      (readAll ⟨maxDepth, false, room⟩ text).outcome = .error (.nestingExhausted (count + 1)) := by
  constructor
  · obtain ⟨inner, _, read⟩ := @advance_replicate_open ⟨maxDepth, true, room⟩ count shallow ample
    rw [readAll_eq_error_located_iff, String.toList_ofList, read]
    rfl
  · obtain ⟨inner, length, read⟩ :=
      @advance_replicate_open ⟨maxDepth, false, room⟩ count shallow ample
    have exhausted : closeAtEnd ⟨maxDepth, false, room⟩ (.located count .unterminatedList)
        (.closedList count) (.list []) inner [] = .error .stackExhausted :=
      closeAtEnd_eq_error_iff.mpr (.inr ⟨rfl, by rwa [length], rfl⟩)
    rw [readAll_eq, String.toList_ofList, read, exhausted]
    rfl

/-- On a stack of a thousand calls a lenient reader has no room to report what a strict one
complains about, and none is shown where only errors are asked for. -/
theorem exists_readAll_lenient_silent :
    let text := String.ofList (List.replicate 495 '(')
    (readAll ⟨1000, true, {}⟩ text).outcome = .error (.located 494 .unterminatedList) ∧
      (readAll ⟨1000, false, {}⟩ text).outcome = .error (.nestingExhausted 495) ∧
      (readAll ⟨256, true, {}⟩ "(").outcome = .error (.located 0 .unterminatedList) ∧
      (readAll ⟨256, false, {}⟩ "(").notices.filter (Notice.isShown .error) = [] := by
  obtain ⟨strict, lenient⟩ :=
    @readAll_replicate_open 1000 494 {} (by decide) (by decide) (by decide)
  exact ⟨strict, lenient, by rfl, by rfl⟩

end Sexpr.Reader
