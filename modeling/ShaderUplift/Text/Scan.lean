import ShaderUplift.Text.Blank

/-! Reading a text from its front.
The readers work on lists of characters and return what is left, so that a text is always the
part that was read followed by the rest.
-/

namespace ShaderUplift.Text

/-- The text after its leading blanks. -/
def skipBlanks (text : List Char) : List Char :=
  text.dropWhile isBlank

/-- The text after its leading blanks, of which there has to be at least one. -/
def skipSomeBlanks? : List Char → Option (List Char)
  | [] => none
  | c :: rest => if isBlank c then some (skipBlanks rest) else none

/-- The text after `literal`, when it starts with it. -/
def after? (literal : List Char) (text : List Char) : Option (List Char) :=
  match literal, text with
  | [], rest => some rest
  | _ :: _, [] => none
  | l :: literal, c :: text => if l = c then after? literal text else none

theorem after?_eq_some_iff {literal text rest : List Char}
    : after? literal text = some rest ↔ text = literal ++ rest := by
  induction literal generalizing text with
  | nil => simp [after?, eq_comm]
  | cons l literal ih =>
      cases text with
      | nil => simp [after?]
      | cons c text =>
          by_cases h : l = c
          · simp [after?, h, ih]
          · simp [after?, h, Ne.symm h]

/-- The leading character of a text, when it is one of a class. -/
def takeOne (belongs : Char → Bool) : List Char → List Char
  | [] => []
  | c :: _ => if belongs c then [c] else []

theorem takeOne_isPrefix (belongs : Char → Bool) (text : List Char)
    : takeOne belongs text <+: text := by
  cases text with
  | nil => exact List.prefix_rfl
  | cons c rest =>
      rw [takeOne]
      split
      · exact ⟨rest, rfl⟩
      · exact List.nil_prefix

/-- Two stretches, of which the second one is read where the first one ends, are one. -/
theorem append_isPrefix {front next text : List Char} (isFront : front <+: text)
    (isNext : next <+: text.drop front.length)
    : front ++ next <+: text := by
  obtain ⟨rest, rfl⟩ := isFront
  rw [List.drop_left] at isNext
  exact (List.prefix_append_right_inj front).mpr isNext

/-- The text without its trailing blanks. -/
def trimEnd : List Char → List Char
  | [] => []
  | c :: rest =>
      let back := trimEnd rest
      if back = [] ∧ isBlank c then [] else c :: back

/-- The text without the blanks at its two ends. -/
def trim (text : List Char) : List Char :=
  trimEnd (skipBlanks text)

/-- The part of a text before its last colon. -/
def beforeLastColon? : List Char → Option (List Char)
  | [] => none
  | c :: rest =>
      match beforeLastColon? rest with
      | some front => some (c :: front)
      | none => if c = ':' then some [] else none

theorem beforeLastColon?_eq_none_iff {text : List Char}
    : beforeLastColon? text = none ↔ ':' ∉ text := by
  induction text with
  | nil => simp [beforeLastColon?]
  | cons c rest ih =>
      cases hRest : beforeLastColon? rest with
      | some front =>
          have hMem : ':' ∈ rest := by
            rw [hRest] at ih
            simpa using ih
          simp [beforeLastColon?, hRest, hMem]
      | none =>
          have hMem : ':' ∉ rest := ih.mp hRest
          simp [beforeLastColon?, hRest, hMem, eq_comm]

/-- What stands behind the last colon holds no further one. -/
theorem beforeLastColon?_append {front back : List Char} (h : ':' ∉ back)
    : beforeLastColon? (front ++ ':' :: back) = some front := by
  induction front with
  | nil => simp [beforeLastColon?, beforeLastColon?_eq_none_iff.mpr h]
  | cons c front ih => simp [beforeLastColon?, ih]

end ShaderUplift.Text
