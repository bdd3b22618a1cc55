import Sexpr.Proofs.Reader.Passage
import Sexpr.Proofs.Tree.Depth

/-!
Nesting and its limit.

The depth of a state is the depth of the forms that it would have if all frames were closed at
once.  Taking a character does not change it, and entering a frame raises it to the number of
frames at most.  So the limit bounds the depth of what is read, and every frame that was ever
entered is found again in the depth of the result.
-/

namespace Sexpr.Reader

open State (Goal Settles Takes deliver)

/-- The depth of a frame that is closed around a form of the given depth. -/
def Frame.depthAround (inner : Nat) : Frame → Nat
  | .list _ items => max inner (Tree.depthAll items) + 1
  | .quote _ => inner + 1

/-- The depth of the outermost of some frames that are closed around a form of the given
depth. -/
def framesDepth (frames : List Frame) (inner : Nat) : Nat :=
  frames.foldl Frame.depthAround inner

@[simp]
theorem framesDepth_nil (inner : Nat) : framesDepth [] inner = inner := rfl

@[simp]
theorem framesDepth_list (start : Nat) (items : List Form) (frames : List Frame) (inner : Nat) :
    framesDepth (.list start items :: frames) inner =
      framesDepth frames (max inner (Tree.depthAll items) + 1) := rfl

@[simp]
theorem framesDepth_quote (start : Nat) (frames : List Frame) (inner : Nat) :
    framesDepth (.quote start :: frames) inner = framesDepth frames (inner + 1) := rfl

theorem framesDepth_eq_max (frames : List Frame) (inner : Nat) :
    framesDepth frames inner = max (framesDepth frames 0) (inner + frames.length) := by
  induction frames generalizing inner with
  | nil => simp
  | cons frame frames inductionHypothesis =>
      cases frame with
      | list start items =>
          rw [framesDepth_list, framesDepth_list, inductionHypothesis,
            inductionHypothesis (max 0 (Tree.depthAll items) + 1), List.length_cons]
          omega
      | quote start =>
          rw [framesDepth_quote, framesDepth_quote, inductionHypothesis,
            inductionHypothesis (0 + 1), List.length_cons]
          omega

theorem depth_sealFrames (form : Form) (frames : List Frame) :
    (sealFrames form frames).2.depth = framesDepth frames form.depth := by
  induction frames generalizing form with
  | nil => rfl
  | cons frame frames inductionHypothesis =>
      cases frame with
      | list start items => simp [sealFrames, inductionHypothesis, max_comm]
      | quote start => simp [sealFrames, inductionHypothesis]

namespace State

/-- The depth of the forms of a state when all its frames are closed at once. -/
def depth (state : State) : Nat :=
  max (Tree.depthAll state.forms) (framesDepth state.frames 0)

theorem depth_deliver (form : Form) (frames : List Frame) (forms : List Form) :
    (deliver form frames forms).depth =
      max (Tree.depthAll forms) (framesDepth frames form.depth) := by
  induction frames generalizing form with
  | nil => simp [deliver, depth, max_comm]
  | cons frame frames inductionHypothesis =>
      cases frame with
      | list start items => simp [deliver, depth]
      | quote start => exact inductionHypothesis form.quote

theorem length_frames_le_depth (state : State) : state.frames.length ≤ state.depth := by
  have closed := framesDepth_eq_max state.frames 0
  unfold depth
  omega

/-- What settling does to the depth. -/
theorem Settles.depth_le {options : Options} {next : Option Char} {state settled : State}
    (settles : Settles options next state settled) :
    state.depth ≤ settled.depth ∧ settled.depth ≤ max state.depth options.maxDepth := by
  cases settles with
  | gap => omega
  | string => omega
  | run => omega
  | atom ends denoted =>
      rw [depth_deliver]
      simp only [depth, Tree.depth_leaf]
      omega
  | @list start frames forms shallow ample =>
      have entered := framesDepth_eq_max frames 1
      simp only [depth, framesDepth_list, Tree.depthAll_nil, Nat.max_self, Nat.zero_add]
      omega
  | @quote start frames forms follows shallow ample =>
      have entered := framesDepth_eq_max frames 1
      simp only [depth, framesDepth_quote, Nat.zero_add]
      omega

/-- Taking a character does not change the depth. -/
theorem Takes.depth_eq {goal : Goal} {offset : Nat} {c : Char} {state taken : State}
    (takes : Takes goal offset c state taken) : taken.depth = state.depth := by
  cases takes with
  | run => rfl
  | string more => rfl
  | stringEnd ends => rw [depth_deliver, depth, Tree.depth_leaf]
  | space between equality => rfl
  | listEnd equality =>
      rw [depth_deliver]
      simp [depth]
  | start opening => rfl

theorem Settles.depth_of_finish {options : Options} {state settled : State}
    (settles : Settles options none state settled) {notices : List Notice} {forms : List Form}
    (finished : settled.finish options = .ok (notices, forms)) :
    Tree.depthAll forms = settled.depth := by
  rcases settled with ⟨scan, frames, others⟩
  rcases settles.scan_atEnd with gap | ⟨start, taken, string⟩
  · cases gap
    rcases frames with _ | ⟨⟨start, items⟩ | start, frames⟩
    · cases finished
      simp [depth]
    · obtain ⟨_, _, closed⟩ := closeAtEnd_eq_ok_iff.mp finished
      cases closed
      simp [depth, depth_sealFrames, max_comm]
    · cases finished
  · cases string
    obtain ⟨_, _, closed⟩ := closeAtEnd_eq_ok_iff.mp finished
    cases closed
    simp [depth, depth_sealFrames, max_comm]

theorem depth_of_conclude {options : Options} {state : State} {notices : List Notice}
    {forms : List Form} (concluded : state.conclude options = .ok (notices, forms)) :
    state.depth ≤ Tree.depthAll forms ∧
      Tree.depthAll forms ≤ max state.depth options.maxDepth := by
  unfold conclude at concluded
  split at concluded
  next => cases concluded
  next settled outcome =>
    have settles := settle_eq_ok_iff.mp outcome
    rw [settles.depth_of_finish concluded]
    exact settles.depth_le

theorem depth_of_go {options : Options} {goal : Goal} {offset : Nat} {c : Char}
    {state taken : State} (moved : state.move options goal offset c = .go taken) :
    state.depth ≤ taken.depth ∧ taken.depth ≤ max state.depth options.maxDepth := by
  obtain ⟨settled, settles, _, takes⟩ := move_eq_go_iff.mp moved
  rw [takes.depth_eq]
  exact settles.depth_le

end State

/-- No form that is read is deeper than the limit or shallower than what was open before. -/
theorem depth_of_advance {options : Options} {state : State} {offset : Nat} {text : List Char}
    {forms : List Form}
    (outcome : (advance options .all state offset text).outcome = .ok forms) :
    state.depth ≤ Tree.depthAll forms ∧
      Tree.depthAll forms ≤ max state.depth options.maxDepth := by
  refine advance_induct (motive := fun state _ => state.depth ≤ Tree.depthAll forms ∧
    Tree.depthAll forms ≤ max state.depth options.maxDepth) ?_ ?_ outcome
  · intro state notices concluded
    exact State.depth_of_conclude concluded
  · intro state offset c taken rest moved bounds
    have first := State.depth_of_go moved
    omega

/-! ## Two limits -/

section Limits

variable {limit wider : Nat} (narrower : limit ≤ wider) (strict : Bool) (room : Room)
include narrower

namespace State

theorem enter_limit (start : Nat) (frame : Frame) (state : State) :
    state.enter ⟨limit, strict, room⟩ start frame = state.enter ⟨wider, strict, room⟩ start frame ∨
      state.enter ⟨limit, strict, room⟩ start frame = .error (.located start (.tooDeep limit)) ∧
        ∀ entered, state.enter ⟨wider, strict, room⟩ start frame = .ok entered →
          limit < entered.frames.length := by
  by_cases deep : limit < state.frames.length + 1
  · refine .inr ⟨by simp [enter, deep], ?_⟩
    intro entered outcome
    obtain ⟨_, _, rfl⟩ := enter_eq_ok_iff.mp outcome
    exact deep
  · have shallow : ¬ wider < state.frames.length + 1 := by omega
    exact .inl (by simp only [enter, if_neg deep, if_neg shallow])

/-- A smaller limit changes nothing, or it stops the reader where the larger one lets it go
deeper than the smaller. -/
theorem settle_limit (next : Option Char) (state : State) :
    state.settle ⟨limit, strict, room⟩ next = state.settle ⟨wider, strict, room⟩ next ∨
      ∃ start, state.settle ⟨limit, strict, room⟩ next = .error (.located start (.tooDeep limit)) ∧
        ∀ settled, state.settle ⟨wider, strict, room⟩ next = .ok settled →
          limit < settled.frames.length := by
  rcases state with ⟨scan, frames, forms⟩
  cases scan with
  | gap => exact .inl rfl
  | string start taken => exact .inl rfl
  | run kind start taken => exact .inl rfl
  | opened start =>
      rcases enter_limit narrower strict room start (.list start [])
          ⟨.opened start, frames, forms⟩ with same | stops
      · exact .inl same
      · exact .inr ⟨start, stops⟩
  | quoted start =>
      by_cases follows : followsQuote next = true
      · simp only [settle, if_pos follows]
        rcases enter_limit narrower strict room start (.quote start)
            ⟨.quoted start, frames, forms⟩ with same | stops
        · exact .inl same
        · exact .inr ⟨start, stops⟩
      · exact .inl (by simp only [settle, if_neg follows])

theorem move_limit (goal : Goal) (offset : Nat) (c : Char) (state : State) :
    state.move ⟨limit, strict, room⟩ goal offset c =
        state.move ⟨wider, strict, room⟩ goal offset c ∨
      ∃ start, state.move ⟨limit, strict, room⟩ goal offset c =
          .stop (.error (.located start (.tooDeep limit))) ∧
        ∀ taken, state.move ⟨wider, strict, room⟩ goal offset c = .go taken →
          limit < taken.depth := by
  rcases settle_limit narrower strict room (some c) state with same | ⟨start, stops, deep⟩
  · exact .inl (by simp only [move, same])
  · refine .inr ⟨start, by simp only [move, stops], ?_⟩
    intro taken moved
    obtain ⟨settled, settles, _, takes⟩ := move_eq_go_iff.mp moved
    have deeper := deep settled (settle_eq_ok_iff.mpr settles)
    rw [takes.depth_eq]
    exact Nat.lt_of_lt_of_le deeper settled.length_frames_le_depth

theorem conclude_limit (state : State) :
    state.conclude ⟨limit, strict, room⟩ = state.conclude ⟨wider, strict, room⟩ ∨
      ∃ start, state.conclude ⟨limit, strict, room⟩ = .error (.located start (.tooDeep limit)) ∧
        ∀ notices forms, state.conclude ⟨wider, strict, room⟩ = .ok (notices, forms) →
          limit < Tree.depthAll forms := by
  rcases settle_limit narrower strict room none state with same | ⟨start, stops, deep⟩
  · refine .inl ?_
    simp only [conclude, same]
    rfl
  · refine .inr ⟨start, by simp only [conclude, stops], ?_⟩
    intro notices forms concluded
    unfold conclude at concluded
    split at concluded
    next => cases concluded
    next settled outcome =>
      rw [(settle_eq_ok_iff.mp outcome).depth_of_finish concluded]
      exact Nat.lt_of_lt_of_le (deep settled outcome) settled.length_frames_le_depth

end State

/-- Reading with a smaller limit is the same, or it fails by the limit because the larger one
lets it read something deeper. -/
theorem advance_limit (state : State) (offset : Nat) (text : List Char) :
    advance ⟨limit, strict, room⟩ .all state offset text =
        advance ⟨wider, strict, room⟩ .all state offset text ∨
      ∃ start, (advance ⟨limit, strict, room⟩ .all state offset text).outcome =
          .error (.located start (.tooDeep limit)) ∧
        ∀ forms, (advance ⟨wider, strict, room⟩ .all state offset text).outcome = .ok forms →
          limit < Tree.depthAll forms := by
  induction text generalizing state offset with
  | nil =>
      rcases State.conclude_limit narrower strict room state with
        same | ⟨start, stops, deep⟩
      · exact .inl (by simp only [advance, same])
      · refine .inr ⟨start, by simp only [advance, stops, atEnd], ?_⟩
        intro forms outcome
        obtain ⟨notices, concluded⟩ := advance_nil_eq_ok_iff.mp outcome
        exact deep notices forms concluded
  | cons c rest inductionHypothesis =>
      rcases State.move_limit narrower strict room .all offset c state with
        same | ⟨start, stops, deep⟩
      · cases moved : state.move ⟨wider, strict, room⟩ .all offset c with
        | stop outcome => exact .inl (by simp only [advance, same, moved])
        | go taken =>
            simp only [advance, same, moved]
            exact inductionHypothesis taken (offset + 1)
      · refine .inr ⟨start, by simp only [advance, stops], ?_⟩
        intro forms outcome
        obtain ⟨taken, moved, outcome⟩ := advance_cons_eq_ok_iff.mp outcome
        exact Nat.lt_of_lt_of_le (deep taken moved) (depth_of_advance outcome).1

end Limits

/-- Whether reading fails because lists and quotes are nested too deeply. -/
def Reading.IsTooDeep {α : Type} (reading : Reading α) : Prop :=
  ∃ failure, reading.outcome = .error failure ∧ failure.kind? = some .depth

theorem depthAll_of_advance {options : Options} {text : List Char} {forms : List Form}
    (outcome : (advance options .all .initial 0 text).outcome = .ok forms) :
    Tree.depthAll forms ≤ options.maxDepth := by
  simpa [State.initial, State.depth] using (depth_of_advance outcome).2

theorem depthAll_of_readAll {options : Options} {text : String} {forms : List Form}
    (outcome : (readAll options text).outcome = .ok (.list forms)) :
    Tree.depthAll forms ≤ options.maxDepth := by
  obtain ⟨_, equality, read⟩ := readAll_eq_ok_iff.mp outcome
  cases equality
  simpa using depthAll_of_advance read

theorem readAll_limit {limit wider : Nat} (narrower : limit ≤ wider) (strict : Bool)
    (room : Room) (text : String) :
    readAll ⟨limit, strict, room⟩ text = readAll ⟨wider, strict, room⟩ text ∨
      (readAll ⟨limit, strict, room⟩ text).IsTooDeep ∧
        ∀ forms, (readAll ⟨wider, strict, room⟩ text).outcome = .ok (.list forms) →
          limit < Tree.depthAll forms := by
  rcases advance_limit narrower strict room State.initial 0 text.toList with
    same | ⟨start, stops, deep⟩
  · exact .inl (by rw [readAll_eq, readAll_eq, same])
  · refine .inr ⟨⟨_, readAll_eq_error_located_iff.mpr stops, rfl⟩, ?_⟩
    intro forms outcome
    obtain ⟨_, equality, read⟩ := readAll_eq_ok_iff.mp outcome
    cases equality
    simpa using deep _ read

/-- The limit decides exactly by the depth of the forms, and is otherwise not seen: what is not
too deep is read, or fails, as with every larger limit. -/
theorem readAll_of_limit_le {limit wider : Nat} (narrower : limit ≤ wider) (strict : Bool)
    (room : Room) (text : String) :
    (∀ form, (readAll ⟨wider, strict, room⟩ text).outcome = .ok form →
      ∃ forms, form = .list forms ∧
        (Tree.depthAll forms ≤ limit →
          readAll ⟨limit, strict, room⟩ text = readAll ⟨wider, strict, room⟩ text) ∧
        (limit < Tree.depthAll forms → (readAll ⟨limit, strict, room⟩ text).IsTooDeep)) ∧
    (∀ failure, (readAll ⟨wider, strict, room⟩ text).outcome = .error failure →
      (readAll ⟨limit, strict, room⟩ text).outcome = .error failure ∨
        (readAll ⟨limit, strict, room⟩ text).IsTooDeep) ∧
    (¬(readAll ⟨limit, strict, room⟩ text).IsTooDeep →
      ∀ larger, limit ≤ larger →
        readAll ⟨larger, strict, room⟩ text = readAll ⟨limit, strict, room⟩ text) := by
  refine ⟨?_, ?_, ?_⟩
  · intro form outcome
    obtain ⟨forms, rfl, _⟩ := readAll_eq_ok_iff.mp outcome
    refine ⟨forms, rfl, ?_, ?_⟩
    · intro shallow
      rcases readAll_limit narrower strict room text with same | ⟨_, deep⟩
      · exact same
      · exact absurd (deep forms outcome) (Nat.not_lt.mpr shallow)
    · intro deep
      rcases readAll_limit narrower strict room text with same | ⟨stops, _⟩
      · rw [← same] at outcome
        exact absurd deep (Nat.not_lt.mpr (depthAll_of_readAll outcome))
      · exact stops
  · intro failure outcome
    rcases readAll_limit narrower strict room text with same | ⟨stops, _⟩
    · exact .inl (by rw [same, outcome])
    · exact .inr stops
  · intro shallow larger wide
    rcases readAll_limit wide strict room text with same | ⟨stops, _⟩
    · exact same.symm
    · exact absurd stops shallow

theorem readAll_of_limit_le_unterminated :
    1 ≤ 2 ∧
      (readAll ⟨2, false, {}⟩ "(a 'b").outcome =
        .ok (.list [.list [.leaf (.symbol "a"), .quote (.leaf (.symbol "b"))]]) ∧
      (readAll ⟨1, false, {}⟩ "(a 'b").IsTooDeep := by
  have outcome : (readAll ⟨2, false, {}⟩ "(a 'b").outcome =
      .ok (.list [.list [.leaf (.symbol "a"), .quote (.leaf (.symbol "b"))]]) := by rfl
  obtain ⟨forms, equality, _, deep⟩ :=
    (readAll_of_limit_le (show 1 ≤ 2 by decide) false {} "(a 'b").1 _ outcome
  cases equality
  exact ⟨by decide, outcome, deep (by decide)⟩

end Sexpr.Reader
