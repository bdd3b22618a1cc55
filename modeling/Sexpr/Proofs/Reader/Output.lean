import Sexpr.Proofs.Form.Flavour
import Sexpr.Proofs.Reader.RoundTrip

/-!
What a reader can return.

Strict or lenient, and however little of the text was left to close a list with, every atom is one
that source text denotes and no form outside of all others is deeper than the limit.
-/

namespace Sexpr

/-- What is known of an atom that was read. -/
def Atom.IsReadable : Atom → Prop
  | .t | .nil => True
  | .int value => minInt ≤ value ∧ value ≤ maxInt
  | .float value => value.isFinite = true
  | .symbol text => ∃ flavour, Symbol.HasFlavour text flavour
  | .string text => Text.Quoted.doubleQuote ∉ text.toList

theorem Atom.isReadable_of_isWellFormed {atom : Atom} (wellFormed : atom.isWellFormed = true) :
    atom.IsReadable := by
  cases atom with
  | t => trivial
  | nil => trivial
  | int value => exact fitsInt_iff.mp wellFormed
  | float value => exact wellFormed
  | symbol text => exact Symbol.exists_hasFlavour wellFormed
  | string text => simpa [isWellFormed, IsReadable, Text.Quoted.doubleQuote] using wellFormed

/-- A form that was read with the given limit of nesting. -/
def Form.IsReadable (maxDepth : Nat) (form : Form) : Prop :=
  form.depth ≤ maxDepth ∧ ∀ atom ∈ form.leaves, atom.IsReadable

theorem Form.WellFormed.isReadable {maxDepth : Nat} {form : Form} (wellFormed : form.WellFormed)
    (shallow : form.depth ≤ maxDepth) : form.IsReadable maxDepth := by
  refine ⟨shallow, ?_⟩
  intro atom membership
  exact Atom.isReadable_of_isWellFormed (wellFormed atom membership)

end Sexpr

namespace Sexpr.Reader

/-- Every form that is read is within the limit, and all its atoms are in range and written as
source text writes them. -/
theorem isReadable_of_read (options : Options) (text : String) :
    (∀ form, (readAll options text).outcome = .ok form →
      ∃ forms, form = .list forms ∧ ∀ item ∈ forms, Form.IsReadable options.maxDepth item) ∧
    (∀ form, (readFirst options text).outcome = .ok form →
      Form.IsReadable options.maxDepth form) := by
  constructor
  · intro form outcome
    obtain ⟨forms, rfl, read⟩ := readAll_eq_ok_iff.mp outcome
    have shallow := Tree.depthAll_le_iff.mp (depthAll_of_readAll outcome)
    refine ⟨forms, rfl, ?_⟩
    intro item membership
    apply Form.WellFormed.isReadable
    · exact wellFormed_of_advance read item (List.mem_reverse.mpr membership)
    · exact shallow item membership
  · intro form outcome
    obtain ⟨wellFormed, shallow⟩ := wellFormed_of_readFirst outcome
    exact wellFormed.isReadable shallow

theorem isReadable_of_read_unterminated :
    (readFirst ⟨2, false, {}⟩ "(:key '*s* \"t").outcome =
        .ok (.list [.leaf (.symbol ":key"), .quote (.leaf (.symbol "*s*")),
          .leaf (.string "t")]) ∧
      Symbol.HasFlavour ":key" .keyword ∧ Symbol.HasFlavour "*s*" .special := by
  have outcome : (readFirst ⟨2, false, {}⟩ "(:key '*s* \"t").outcome =
      .ok (.list [.leaf (.symbol ":key"), .quote (.leaf (.symbol "*s*")),
        .leaf (.string "t")]) := by rfl
  obtain ⟨_, readable⟩ := (isReadable_of_read ⟨2, false, {}⟩ "(:key '*s* \"t").2 _ outcome
  obtain ⟨first, key⟩ := readable (.symbol ":key") (by decide)
  obtain ⟨second, special⟩ := readable (.symbol "*s*") (by decide)
  obtain rfl := key.isKeyword_iff.mp rfl
  obtain rfl := special.isSpecial_iff.mp rfl
  exact ⟨outcome, key, special⟩

end Sexpr.Reader
