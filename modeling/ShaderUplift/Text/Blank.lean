import ShaderUplift.Text.CodeRange

/-! Blank characters: the white space, separators and line ends of Unicode 14.
They form the whitespace between the tokens of a shader and around the names in its directives.
-/

namespace ShaderUplift.Text

/-- The code points of the blank characters. -/
def blankRanges : List CodeRange :=
  [ ⟨0x0009, 0x000D⟩, ⟨0x001C, 0x0020⟩, ⟨0x0085, 0x0085⟩, ⟨0x00A0, 0x00A0⟩, ⟨0x1680, 0x1680⟩,
    ⟨0x2000, 0x200A⟩, ⟨0x2028, 0x2029⟩, ⟨0x202F, 0x202F⟩, ⟨0x205F, 0x205F⟩, ⟨0x3000, 0x3000⟩ ]

example : CodeRange.Ascending blankRanges := by decide

example : CodeRange.count blankRanges = 29 := by decide

/-- Whether a character is blank. -/
def isBlank (c : Char) : Bool :=
  CodeRange.covers blankRanges c.toNat

/-- Whether a character ends a line: a line feed or a carriage return. -/
def isLineBreak (c : Char) : Bool :=
  c == '\n' || c == '\r'

theorem isBlank_of_isLineBreak {c : Char} (h : isLineBreak c = true)
    : isBlank c = true := by
  simp only [isLineBreak, Bool.or_eq_true, beq_iff_eq] at h
  rcases h with rfl | rfl <;> decide

end ShaderUplift.Text
