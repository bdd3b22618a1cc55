import Mathlib.Algebra.Ring.Nat
import Mathlib.Tactic.SplitIfs
import Sexpr.Proofs.Text.Delimited
import Sexpr.Text.Quoted

/-!
Quoted texts tell what they quote, and end at their closing mark.

What stands between the marks is read back character by character: the letter after a backslash
tells whether a code point follows and in how many digits.  No escape begins with the mark.
-/

namespace Sexpr.Text.Quoted

/-- The value of a digit, or of a lower-case letter as a hexadecimal digit. -/
def hexDigit (c : Char) : Nat := if c.isDigit then c.toNat - 48 else c.toNat - 87

/-- The number written by hexadecimal digits. -/
def hexValue (digits : List Char) : Nat :=
  digits.foldl (fun value digit => 16 * value + hexDigit digit) 0

theorem hexDigit_digitChar : ∀ n < 16, hexDigit n.digitChar = n := by decide

theorem hexValue_toDigits (n : Nat) : hexValue (Nat.toDigits 16 n) = n := by
  induction n using Nat.strongRecOn with
  | _ n inductionHypothesis =>
      rw [Nat.toDigits_eq_if (by decide)]
      split
      next small => simp [hexValue, hexDigit_digitChar n small]
      next large =>
        have front := inductionHypothesis (n / 16) (by omega)
        have last := hexDigit_digitChar (n % 16) (Nat.mod_lt n (by decide))
        rw [hexValue] at front ⊢
        rw [List.foldl_append, front, List.foldl_cons, List.foldl_nil, last]
        exact Nat.div_add_mod n 16

theorem hexValue_hexDigits (length n : Nat) : hexValue (hexDigits length n) = n := by
  have zeros : ∀ count digits, hexValue (List.replicate count '0' ++ digits) = hexValue digits := by
    intro count digits
    induction count with
    | zero => rfl
    | succ count inductionHypothesis => exact inductionHypothesis
  rw [hexDigits, zeros, hexValue_toDigits]

theorem length_hexDigits {length n : Nat} (positive : 0 < length) (small : n < 16 ^ length) :
    (hexDigits length n).length = length := by
  have short := (Nat.length_toDigits_le_iff (by decide) positive).mpr small
  rw [hexDigits, List.length_append, List.length_replicate]
  omega

/-- A character by its code point in so many hexadecimal digits, and what follows. -/
def readCodePoint (length : Nat) (text : List Char) : Char × List Char :=
  (Char.ofNat (hexValue (text.take length)), text.drop length)

/-- The character that is written at the front of a text, and what follows. -/
def readEscape : List Char → Option (Char × List Char)
  | [] => none
  | '\\' :: letter :: rest =>
      some <| match letter with
        | 'n' => ('\n', rest)
        | 'r' => ('\r', rest)
        | 't' => ('\t', rest)
        | 'x' => readCodePoint 2 rest
        | 'u' => readCodePoint 4 rest
        | 'U' => readCodePoint 8 rest
        | _ => (letter, rest)
  | c :: rest => some (c, rest)

theorem readCodePoint_hexDigits (length : Nat) {c : Char} (positive : 0 < length)
    (small : c.toNat < 16 ^ length) (rest : List Char) :
    readCodePoint length (hexDigits length c.toNat ++ rest) = (c, rest) := by
  have exact := length_hexDigits positive small
  rw [readCodePoint, List.take_left' exact, List.drop_left' exact, hexValue_hexDigits,
    Char.ofNat_toNat]

theorem readEscape_codePoint (c : Char) (rest : List Char) :
    readEscape (codePoint c ++ rest) = some (c, rest) := by
  unfold codePoint
  split
  next small => simp [readEscape, readCodePoint_hexDigits 2 (by decide) small]
  next =>
    split
    next small => simp [readEscape, readCodePoint_hexDigits 4 (by decide) small]
    next =>
      have bounded : c.toNat < 16 ^ 8 := c.val.toNat_lt
      simp [readEscape, readCodePoint_hexDigits 8 (by decide) bounded]

/-- The characters that can enclose a text. -/
def IsMark (c : Char) : Prop := c = apostrophe ∨ c = doubleQuote

theorem isMark_mark (text : List Char) : IsMark (mark text) := by
  unfold mark
  split
  next => exact .inr rfl
  next => exact .inl rfl

theorem readEscape_escape {mark : Char} (isMark : IsMark mark) (c : Char) (rest : List Char) :
    readEscape (escape mark c ++ rest) = some (c, rest) := by
  unfold escape
  split_ifs with marked lineFeed carriageReturn tab
  · rcases marked with rfl | rfl
    · rfl
    · rcases isMark with rfl | rfl <;> rfl
  · subst lineFeed
    rfl
  · subst carriageReturn
    rfl
  · subst tab
    rfl
  · rw [not_or] at marked
    cases rest <;> simp [readEscape, marked.1]
  · exact readEscape_codePoint c rest

theorem exists_escape_eq_cons {mark : Char} (isMark : IsMark mark) (c : Char) :
    ∃ first more, escape mark c = first :: more ∧ first ≠ mark := by
  have notBackslash : '\\' ≠ mark := by
    rcases isMark with rfl | rfl <;> decide
  unfold escape codePoint
  split_ifs with marked
  · exact ⟨_, _, rfl, notBackslash⟩
  · exact ⟨_, _, rfl, notBackslash⟩
  · exact ⟨_, _, rfl, notBackslash⟩
  · exact ⟨_, _, rfl, notBackslash⟩
  · exact ⟨c, [], rfl, fun equality => marked (.inr equality)⟩
  · exact ⟨_, _, rfl, notBackslash⟩
  · exact ⟨_, _, rfl, notBackslash⟩
  · exact ⟨_, _, rfl, notBackslash⟩

theorem delimited_encode (text : List Char) : Delimited encode text := by
  intro other rest more same
  obtain ⟨sameMark, same⟩ := List.cons.inj same
  rw [← sameMark] at same
  have isMark := isMark_mark text
  exact delimited_flatMap (exists_escape_eq_cons isMark)
    (fun c _ => delimited_of_read (readEscape_escape isMark) c) other rest more same

end Sexpr.Text.Quoted
