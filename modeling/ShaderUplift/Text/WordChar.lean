import ShaderUplift.Text.Blank
import ShaderUplift.Text.DecimalDigit
import ShaderUplift.Text.Letter
import ShaderUplift.Text.Numeral

/-! The characters of a word: letters, digits and numerals of any script, and the underscore.
A word starts with an ASCII letter or an underscore and goes on with any of them.
-/

namespace ShaderUplift.Text

/-- Whether a character may continue a word. -/
def isWordChar (c : Char) : Bool :=
  c == '_' || isLetter c || isDecimalDigit c || isNumeral c

/-- Whether a character may start a word. -/
def isWordStart (c : Char) : Bool :=
  c.isAlpha || c == '_'

/-- The ASCII letters by their code points. -/
theorem isAlpha_iff {c : Char}
    : c.isAlpha = true
      ↔ 0x41 ≤ c.toNat ∧ c.toNat ≤ 0x5A ∨ 0x61 ≤ c.toNat ∧ c.toNat ≤ 0x7A := by
  change (decide (c.val ≥ 0x41 ∧ c.val ≤ 0x5A)
    || decide (c.val ≥ 0x61) && decide (c.val ≤ 0x7A)) = true ↔ _
  simp only [Bool.or_eq_true, Bool.and_eq_true, decide_eq_true_eq, ge_iff_le,
    UInt32.le_iff_toNat_le]
  exact Iff.rfl

theorem isLetter_of_isAlpha {c : Char} (h : c.isAlpha = true)
    : isLetter c = true := by
  have table : ∃ rest, letterRanges = ⟨0x41, 0x5A⟩ :: ⟨0x61, 0x7A⟩ :: rest := ⟨_, rfl⟩
  obtain ⟨rest, table⟩ := table
  rw [isLetter, table]
  rcases isAlpha_iff.mp h with ⟨low, high⟩ | ⟨low, high⟩
  · have inFirst : ¬c.toNat < 0x41 := by omega
    simp [CodeRange.covers, inFirst, high]
  · have pastFirst : ¬c.toNat < 0x41 := by omega
    have inSecond : ¬c.toNat < 0x61 := by omega
    simp [CodeRange.covers, pastFirst, inSecond, high]

theorem isWordChar_of_isWordStart {c : Char} (h : isWordStart c = true)
    : isWordChar c = true := by
  simp only [isWordStart, Bool.or_eq_true, beq_iff_eq] at h
  rcases h with alpha | rfl
  · simp [isWordChar, isLetter_of_isAlpha alpha]
  · decide

/-- A blank ends a word. -/
theorem isWordChar_of_isBlank {c : Char} (blank : isBlank c = true)
    : isWordChar c = false := by
  have uncovered : ∀ table, CodeRange.Ascending table
      → (∀ range ∈ blankRanges, ∀ next ∈ table,
          range.last < next.first ∨ next.last < range.first)
      → CodeRange.covers table c.toNat = false := by
    intro table ascending apart
    exact CodeRange.covers_eq_false_of_apart (by decide) ascending apart blank
  have letter : isLetter c = false := uncovered letterRanges (by decide +kernel) (by decide +kernel)
  have digit : isDecimalDigit c = false :=
    uncovered decimalDigitRanges (by decide +kernel) (by decide +kernel)
  have numeral : isNumeral c = false :=
    uncovered numeralRanges (by decide +kernel) (by decide +kernel)
  have underscore : c ≠ '_' := by
    intro same
    subst same
    exact absurd blank (by decide)
  simp [isWordChar, letter, digit, numeral, underscore]

theorem isBlank_of_isWordStart {c : Char} (h : isWordStart c = true)
    : isBlank c = false := by
  have inWord := isWordChar_of_isWordStart h
  cases blank : isBlank c with
  | false => rfl
  | true =>
      rw [isWordChar_of_isBlank blank] at inWord
      cases inWord

end ShaderUplift.Text
