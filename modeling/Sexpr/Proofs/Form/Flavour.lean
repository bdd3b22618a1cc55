import Sexpr.Proofs.Form.Symbol

/-!
The three flavours of symbols.

The first character of a name tells its flavour, so no name has two, and the marks by which a
keyword or a special is recognised are found on names of that flavour only.
-/

namespace Sexpr.Symbol

inductive Flavour where
  | plain
  | keyword
  | special
  deriving DecidableEq

namespace Flavour

def names : Flavour → List Char → Bool
  | .plain => isPlainName
  | .keyword => isKeywordName
  | .special => isSpecialName

/-- The flavour that the first character of a name tells. -/
def ofFirst : Option Char → Flavour
  | some ':' => .keyword
  | some '*' => .special
  | _ => .plain

theorem eq_ofFirst {flavour : Flavour} {name : List Char} (named : flavour.names name = true) :
    flavour = ofFirst name.head? := by
  cases flavour with
  | plain =>
      obtain ⟨c, more, rfl, isAlpha, _⟩ := isPlainName_iff.mp named
      have notColon : c ≠ ':' := by
        rintro rfl
        cases isAlpha
      have notAsterisk : c ≠ '*' := by
        rintro rfl
        cases isAlpha
      simp [ofFirst, notColon, notAsterisk]
  | keyword =>
      obtain ⟨inner, rfl, _⟩ := isKeywordName_iff.mp named
      rfl
  | special =>
      obtain ⟨inner, rfl, _⟩ := isSpecialName_iff.mp named
      rfl

theorem ofFirst_eq_keyword_iff {first : Option Char} :
    ofFirst first = .keyword ↔ first = some ':' := by
  unfold ofFirst
  split <;> simp_all

theorem ofFirst_eq_special_iff {first : Option Char} :
    ofFirst first = .special ↔ first = some '*' := by
  unfold ofFirst
  split <;> simp_all

end Flavour

/-- A text is the name of a symbol of one flavour and of no other, and is marked as its flavour
is. -/
structure HasFlavour (text : String) (flavour : Flavour) : Prop where
  names_iff : ∀ other : Flavour, other.names text.toList = true ↔ other = flavour
  isKeyword_iff : isKeyword text = true ↔ flavour = .keyword
  isSpecial_iff : isSpecial text = true ↔ flavour = .special
  ordinary : flavour = .plain → text ∉ ["nil", "NIL", "t"]

theorem isSpecial_of_isSpecialName {text : String} (named : isSpecialName text.toList = true) :
    isSpecial text = true := by
  obtain ⟨inner, written, plain⟩ := isSpecialName_iff.mp named
  obtain ⟨c, more, rfl, _, _⟩ := isPlainName_iff.mp plain
  have last : ('*' :: c :: more ++ ['*']).getLast? = some '*' := List.getLast?_concat
  have long : 2 < ('*' :: c :: more ++ ['*']).length := by simp
  rw [isSpecial, written, last, decide_eq_true long]
  rfl

theorem HasFlavour.of_names {text : String} {flavour : Flavour}
    (named : flavour.names text.toList = true)
    (ordinary : flavour = .plain → constantNamed? text.toList = none) :
    HasFlavour text flavour where
  names_iff := by
    intro other
    constructor
    · intro otherNamed
      rw [Flavour.eq_ofFirst named, Flavour.eq_ofFirst otherNamed]
    · rintro rfl
      exact named
  isKeyword_iff := by
    rw [Flavour.eq_ofFirst named, Flavour.ofFirst_eq_keyword_iff, isKeyword, beq_iff_eq]
  isSpecial_iff := by
    constructor
    · intro marked
      rw [Flavour.eq_ofFirst named, Flavour.ofFirst_eq_special_iff]
      simp only [isSpecial, Bool.and_eq_true, beq_iff_eq] at marked
      exact marked.1.2
    · rintro rfl
      exact isSpecial_of_isSpecialName named
  ordinary := by
    intro isPlain constant
    have none := ordinary isPlain
    simp only [List.mem_cons, List.not_mem_nil, or_false] at constant
    rcases constant with rfl | rfl | rfl <;> cases none

/-- What a symbol that source text denotes looks like. -/
theorem exists_hasFlavour {text : String}
    (wellFormed : (Atom.symbol text).isWellFormed = true) :
    ∃ flavour, HasFlavour text flavour := by
  simp only [Atom.isWellFormed, Bool.or_eq_true, Bool.and_eq_true,
    Option.isNone_iff_eq_none] at wellFormed
  rcases wellFormed with (⟨plain, ordinary⟩ | keyword) | special
  · exact ⟨.plain, .of_names plain fun _ => ordinary⟩
  · exact ⟨.keyword, .of_names keyword nofun⟩
  · exact ⟨.special, .of_names special nofun⟩

end Sexpr.Symbol
