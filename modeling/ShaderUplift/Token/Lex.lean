import ShaderUplift.Token.Extent

/-! Cutting a text into tokens.
The token at the front is taken off until nothing is left. Nothing is lost and nothing is
refused: the tokens of a text spell it again.
-/

namespace ShaderUplift

/-- The tokens of a text whose first `taken` characters belong to a token already. -/
def lexFrom : (taken : Nat) → List Char → List Token
  | _, [] => []
  | taken + 1, _ :: rest => lexFrom taken rest
  | 0, c :: rest =>
      -- The token holds `c`, so that one character fewer is left to skip.
      let token := Lexeme.front c rest
      token :: lexFrom (token.chars.length - 1) rest

/-- The tokens of a shader. -/
def lex (source : String) : List Token :=
  lexFrom 0 source.toList

theorem lexFrom_eq_drop (taken : Nat) (text : List Char)
    : lexFrom taken text = lexFrom 0 (text.drop taken) := by
  induction text generalizing taken with
  | nil => simp [lexFrom]
  | cons c rest ih =>
      cases taken with
      | zero => rfl
      | succ taken => rw [lexFrom, ih, List.drop_succ_cons]

/-- The token at the front of a text is followed by the tokens of the rest. -/
theorem lexFrom_cons (c : Char) (rest : List Char)
    : lexFrom 0 (c :: rest) =
        Lexeme.front c rest ::
          lexFrom 0 ((c :: rest).drop (Lexeme.front c rest).chars.length) := by
  obtain ⟨first, chars, cons⟩ := List.exists_cons_of_ne_nil (Lexeme.chars_front c rest).1
  rw [lexFrom, lexFrom_eq_drop, cons, List.length_cons, List.drop_succ_cons,
    Nat.add_sub_cancel]

/-- The tokens of a text spell it. -/
theorem flatMap_chars_lexFrom (taken : Nat) (text : List Char)
    : (lexFrom taken text).flatMap Token.chars = text.drop taken := by
  induction text generalizing taken with
  | nil => simp [lexFrom]
  | cons c rest ih =>
      cases taken with
      | succ taken => rw [lexFrom, ih, List.drop_succ_cons]
      | zero =>
          obtain ⟨isSome, isFront⟩ := Lexeme.chars_front c rest
          obtain ⟨first, chars, cons⟩ := List.exists_cons_of_ne_nil isSome
          rw [cons] at isFront
          obtain ⟨back, split⟩ := isFront
          obtain ⟨rfl, rfl⟩ := List.cons.inj split
          rw [lexFrom, List.flatMap_cons, ih, cons]
          simp

theorem render_lex (source : String)
    : Token.render (lex source) = source := by
  rw [Token.render, lex, flatMap_chars_lexFrom, List.drop_zero, String.ofList_toList]

end ShaderUplift
