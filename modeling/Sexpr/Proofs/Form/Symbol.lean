import Sexpr.Form.Symbol

/-!
The shapes of names, with their parts.
-/

namespace Sexpr

theorem le_toNat_of_isAlpha {c : Char} (isAlpha : c.isAlpha = true) : 65 ≤ c.toNat := by
  rcases (Bool.or_eq_true _ _).mp isAlpha with isUpper | isLower
  · exact UInt32.le_iff_toNat_le.mp (of_decide_eq_true isUpper).1
  · have fromLower : 97 ≤ c.toNat :=
      UInt32.le_iff_toNat_le.mp (of_decide_eq_true ((Bool.and_eq_true _ _).mp isLower).1)
    omega

theorem isDigit_eq_false_of_isAlpha {c : Char} (isAlpha : c.isAlpha = true) :
    c.isDigit = false := by
  have letter := le_toNat_of_isAlpha isAlpha
  apply Bool.eq_false_iff.mpr
  intro isDigit
  have digit : c.toNat ≤ 57 :=
    UInt32.le_iff_toNat_le.mp (of_decide_eq_true ((Bool.and_eq_true _ _).mp isDigit).2)
  omega

theorem constantNamed?_cases {name : List Char} {atom : Atom}
    (named : constantNamed? name = some atom) :
    atom = .nil ∧ (name = ['n', 'i', 'l'] ∨ name = ['N', 'I', 'L']) ∨
      atom = .t ∧ name = ['t'] := by
  unfold constantNamed? at named
  split at named
  next isNil =>
    cases named
    exact .inl ⟨rfl, isNil⟩
  next =>
    split at named
    next isT =>
      cases named
      exact .inr ⟨rfl, isT⟩
    next => cases named

theorem isPlainName_iff {name : List Char} :
    isPlainName name = true ↔
      ∃ c more, name = c :: more ∧ c.isAlpha = true ∧ ∀ d ∈ more, isNameChar d = true := by
  cases name with
  | nil => simp [isPlainName]
  | cons c more =>
      simp only [isPlainName, Bool.and_eq_true, List.all_eq_true]
      constructor
      · rintro ⟨isAlpha, others⟩
        exact ⟨c, more, rfl, isAlpha, others⟩
      · rintro ⟨_, _, equality, isAlpha, others⟩
        cases equality
        exact ⟨isAlpha, others⟩

theorem isNameChar_of_isPlainName {name : List Char} (plain : isPlainName name = true) :
    ∀ c ∈ name, isNameChar c = true := by
  obtain ⟨first, more, rfl, isAlpha, others⟩ := isPlainName_iff.mp plain
  intro c membership
  rcases List.mem_cons.mp membership with rfl | later
  · simp [isNameChar, isAlpha]
  · exact others c later

theorem isKeywordName_iff {name : List Char} :
    isKeywordName name = true ↔ ∃ inner, name = ':' :: inner ∧ isPlainName inner = true := by
  unfold isKeywordName
  split
  next inner => simp
  next other =>
    simp only [Bool.false_eq_true, false_iff, not_exists, not_and]
    rintro inner rfl
    exact absurd rfl (other inner)

theorem isSpecialName_iff {name : List Char} :
    isSpecialName name = true ↔
      ∃ inner, name = '*' :: inner ++ ['*'] ∧ isPlainName inner = true := by
  unfold isSpecialName
  split
  next rest =>
    simp only [Bool.and_eq_true, beq_iff_eq]
    constructor
    · rintro ⟨last, plain⟩
      obtain ⟨inner, rfl⟩ := List.getLast?_eq_some_iff.mp last
      rw [List.dropLast_concat] at plain
      exact ⟨inner, rfl, plain⟩
    · rintro ⟨inner, equality, plain⟩
      obtain rfl := List.cons.inj equality |>.2
      simpa using plain
  next other =>
    simp only [Bool.false_eq_true, false_iff, not_exists, not_and]
    rintro inner rfl
    exact absurd rfl (other (inner ++ ['*']))

end Sexpr
