import ShaderUplift.Token.Lexeme

/-! What the readers take from a text.
Every reader takes a front part of the text, so the token at the front is a front part too. It
is never empty, because a character that no reader takes is a token by itself.
-/

namespace ShaderUplift.Lexeme
open ShaderUplift.Text

theorem throughEndMark_isPrefix (text : List Char)
    : throughEndMark text <+: text := by
  induction text with
  | nil => exact List.prefix_rfl
  | cons c rest ih =>
      rw [throughEndMark]
      split
      · rename_i closes
        exact List.isPrefixOf_iff_prefix.mp closes
      · exact List.cons_prefix_cons.mpr ⟨rfl, ih⟩

theorem blockComment_isPrefix (text : List Char)
    : blockComment text <+: text := by
  unfold blockComment
  cases opened : after? ['/', '*'] text with
  | none => exact List.nil_prefix
  | some rest =>
      rw [after?_eq_some_iff.mp opened]
      exact (List.prefix_append_right_inj ['/', '*']).mpr (throughEndMark_isPrefix rest)

theorem lineComment_isPrefix (text : List Char)
    : lineComment text <+: text := by
  unfold lineComment
  cases opened : after? ['/', '/'] text with
  | none => exact List.nil_prefix
  | some rest =>
      rw [after?_eq_some_iff.mp opened]
      exact (List.prefix_append_right_inj ['/', '/']).mpr (List.takeWhile_prefix _)

theorem logicalLine_isPrefix (continued : Bool) (text : List Char)
    : logicalLine continued text <+: text := by
  induction text generalizing continued with
  | nil => exact List.prefix_rfl
  | cons c rest ih =>
      rw [logicalLine]
      split
      · split
        · exact List.cons_prefix_cons.mpr ⟨rfl, ih false⟩
        · exact List.nil_prefix
      · split
        · split
          · exact List.cons_prefix_cons.mpr ⟨rfl, ih true⟩
          · exact List.nil_prefix
        · exact List.cons_prefix_cons.mpr ⟨rfl, ih _⟩

theorem directive_isPrefix (text : List Char)
    : directive text <+: text := by
  cases text with
  | nil => exact List.prefix_rfl
  | cons c rest =>
      rw [directive]
      split
      · exact List.cons_prefix_cons.mpr ⟨rfl, logicalLine_isPrefix false rest⟩
      · exact List.nil_prefix

theorem blanks_isPrefix (text : List Char)
    : blanks text <+: text :=
  List.takeWhile_prefix _

theorem digits_isPrefix (text : List Char)
    : digits text <+: text :=
  List.takeWhile_prefix _

theorem pointed_isPrefix (text : List Char)
    : pointed text <+: text := by
  unfold pointed
  cases point : after? ['.'] (text.dropWhile isDecimalDigit) with
  | none => exact List.nil_prefix
  | some rest =>
      have whole : digits text ++ '.' :: rest = text := by
        rw [← List.singleton_append, ← after?_eq_some_iff.mp point]
        exact List.takeWhile_append_dropWhile
      have isFront : digits text ++ '.' :: digits rest <+: digits text ++ '.' :: rest :=
        (List.prefix_append_right_inj _).mpr
          (List.cons_prefix_cons.mpr ⟨rfl, digits_isPrefix rest⟩)
      dsimp only
      split
      · exact List.nil_prefix
      · rwa [whole] at isFront

theorem exponent_isPrefix (text : List Char)
    : exponent text <+: text := by
  cases text with
  | nil => exact List.prefix_rfl
  | cons mark rest =>
      rw [exponent]
      split
      · exact List.cons_prefix_cons.mpr
          ⟨rfl, append_isPrefix (takeOne_isPrefix _ rest) (digits_isPrefix _)⟩
      · exact List.nil_prefix

theorem mantissa_isPrefix (text : List Char)
    : mantissa text <+: text := by
  unfold mantissa
  split
  · exact digits_isPrefix text
  · exact pointed_isPrefix text

theorem float_isPrefix (text : List Char)
    : float text <+: text := by
  unfold float
  split
  · exact List.nil_prefix
  · exact append_isPrefix (append_isPrefix (mantissa_isPrefix text) (exponent_isPrefix _))
      (takeOne_isPrefix _ _)

theorem hexadecimal_isPrefix (text : List Char)
    : hexadecimal text <+: text := by
  match text with
  | [] => exact List.prefix_rfl
  | [_] => exact List.nil_prefix
  | zero :: mark :: rest =>
      rw [hexadecimal]
      split
      · exact List.cons_prefix_cons.mpr
          ⟨rfl, List.cons_prefix_cons.mpr ⟨rfl, List.takeWhile_prefix _⟩⟩
      · exact List.nil_prefix

theorem magnitude_isPrefix (text : List Char)
    : magnitude text <+: text := by
  unfold magnitude
  split
  · exact digits_isPrefix text
  · exact hexadecimal_isPrefix text

theorem integer_isPrefix (text : List Char)
    : integer text <+: text := by
  unfold integer
  split
  · exact List.nil_prefix
  · exact append_isPrefix (magnitude_isPrefix text) (takeOne_isPrefix _ _)

theorem word_isPrefix (text : List Char)
    : word text <+: text := by
  cases text with
  | nil => exact List.prefix_rfl
  | cons c rest =>
      rw [word]
      split
      · exact List.cons_prefix_cons.mpr ⟨rfl, List.takeWhile_prefix _⟩
      · exact List.nil_prefix

theorem operator_isPrefix (text : List Char)
    : operator text <+: text := by
  unfold operator
  cases found : Vocabulary.operators.find? fun op => op.toList.isPrefixOf text with
  | none => exact List.nil_prefix
  | some op =>
      have fits := List.find?_some found
      exact List.isPrefixOf_iff_prefix.mp fits

theorem token?_eq_some_iff {kind : TokenKind} {taken : List Char} {token : Token}
    : token? kind taken = some token ↔ taken ≠ [] ∧ token = .ofChars kind taken := by
  unfold token?
  split <;> simp_all [eq_comm]

/-- What a reader takes becomes a non-empty front part of the text. -/
theorem chars_of_token? {kind : TokenKind} {taken text : List Char} {token : Token}
    (isTaken : token? kind taken = some token) (isFront : taken <+: text)
    : token.chars ≠ [] ∧ token.chars <+: text := by
  obtain ⟨isSome, rfl⟩ := token?_eq_some_iff.mp isTaken
  rw [Token.chars_ofChars]
  exact ⟨isSome, isFront⟩

/-- A token of a class is a non-empty front part of the text. -/
theorem chars_of_classed? {text : List Char} {token : Token}
    (classed : classed? text = some token)
    : token.chars ≠ [] ∧ token.chars <+: text := by
  simp only [classed?, Option.orElse_eq_orElse, Option.orElse_eq_or, Option.or_eq_some_iff]
    at classed
  rcases classed with taken | ⟨_, taken | ⟨_, taken | ⟨_, taken | ⟨_, taken | ⟨_, taken |
    ⟨_, taken | ⟨_, taken⟩⟩⟩⟩⟩⟩⟩
  · exact chars_of_token? taken (blockComment_isPrefix text)
  · exact chars_of_token? taken (lineComment_isPrefix text)
  · exact chars_of_token? taken (directive_isPrefix text)
  · exact chars_of_token? taken (blanks_isPrefix text)
  · exact chars_of_token? taken (float_isPrefix text)
  · exact chars_of_token? taken (integer_isPrefix text)
  · exact chars_of_token? taken (word_isPrefix text)
  · exact chars_of_token? taken (operator_isPrefix text)

/-- The token at the front is a non-empty front part of the text. -/
theorem chars_front (c : Char) (rest : List Char)
    : (front c rest).chars ≠ [] ∧ (front c rest).chars <+: c :: rest := by
  unfold front
  cases classed : classed? (c :: rest) with
  | none => simp
  | some token => exact chars_of_classed? classed

end ShaderUplift.Lexeme
