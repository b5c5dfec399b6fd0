import ShaderUplift.Proofs.Token.Legible

/-! Cutting a text in two before it is cut into tokens.
A line feed parts all tokens but three: whitespace, which it belongs to, a directive that a
backslash continues, and a block comment that has no end. Everywhere else a text can be cut in front
of a line feed, and the tokens of its two parts are the tokens of the whole.
-/

namespace ShaderUplift
open ShaderUplift.Lexeme ShaderUplift.Text

/-- A line feed behind a token is not read into it. -/
def Token.EndsBeforeFeed (token : Token) : Prop :=
  match token.kind with
  | .whitespace => False
  | .directive => token.chars.getLast? ≠ some '\\'
  | .blockComment => ['*', '/'] <:+: token.chars.drop 2
  | _ => True

theorem Lexeme.continues_false_eq_false_iff {chars : List Char}
    : continues false chars = false ↔ chars.getLast? ≠ some '\\' := by
  rw [continues]
  cases chars.getLast? <;> simp

/-- The last token of a text ends before a line feed exactly if it is no whitespace and stops there,
by cases on its kind. -/
theorem Token.endsBeforeFeed_iff {token : Token} (shaped : token.WellShaped)
    (stops : token.StopsBefore []) (back : List Char)
    : token.EndsBeforeFeed ↔ token.kind ≠ .whitespace ∧ token.StopsBefore ('\n' :: back) := by
  cases kind : token.kind with
  | whitespace => simp [EndsBeforeFeed, kind]
  | directive =>
      simp [EndsBeforeFeed, StopsBefore, kind, logicalLine_cons_eq_nil,
        continues_false_eq_false_iff]
  | lineComment => simp [EndsBeforeFeed, StopsBefore, kind, isLineBreak]
  | blockComment =>
      simp only [WellShaped, kind] at shaped
      obtain ⟨body, chars, whole⟩ := shaped
      simp only [EndsBeforeFeed, StopsBefore, kind, chars, List.drop_succ_cons, List.drop_zero]
      constructor
      · rintro ⟨before, after, split⟩
        rw [List.append_assoc] at split
        obtain rfl := eq_nil_of_throughEndMark (whole.trans split.symm)
        exact ⟨by decide, Or.inr ⟨before, split⟩⟩
      · rintro ⟨-, ended⟩
        exact (ended.resolve_left (List.cons_ne_nil _ _)).isInfix
  | keyword | builtin | identifier | operator | integer | float | other name =>
      have span : token.kind.isSpan = false := by rw [kind]; rfl
      obtain ⟨c, tail, chars, -⟩ := (wellShaped_iff_of_not_isSpan span).mp shaped
      have closed := (stopsBefore_iff_of_not_isSpan span _).mp stops
      rw [List.append_nil, chars] at closed
      have stillClosed : opens (c :: (tail ++ '\n' :: back)) = false := opens_append rfl closed
      simp only [EndsBeforeFeed, kind, stopsBefore_iff_of_not_isSpan span, chars, List.cons_append,
        stillClosed]
      simp

/-- Only whitespace begins with a line break. -/
theorem kind_of_startsWithBreak {text : List Char} {token : Token}
    (member : token ∈ lexFrom 0 text) (broken : token.startsWithBreak = true)
    : token.kind = .whitespace := by
  apply (blankShaped_lexFrom text token member).mpr
  rw [Token.startsWithBreak] at broken
  cases first : token.chars.head? with
  | none =>
      rw [first] at broken
      cases broken
  | some c =>
      rw [first, Option.any_some] at broken
      rw [Option.any_some, isBlank_of_isLineBreak broken]

/-- The tokens of a text are tokens of a longer one exactly if the last of them stops before what is
put behind, and is not joined with the blank that stands there. -/
theorem lexFrom_append_feed_iff (front back : List Char)
    : lexFrom 0 (front ++ '\n' :: back) = lexFrom 0 front ++ lexFrom 0 ('\n' :: back)
      ↔ ∀ last ∈ (lexFrom 0 front).getLast?,
          last.kind ≠ .whitespace ∧ last.StopsBefore ('\n' :: back) := by
  constructor
  · intro same last isLast
    have apart := apart_lexFrom (front ++ '\n' :: back)
    have chain := isChain_lexFrom (front ++ '\n' :: back)
    rw [same, Token.apart_append, flatMap_chars_lexFrom, List.drop_zero, List.append_nil] at apart
    rw [same, List.isChain_append] at chain
    refine ⟨?_, (apart.1.getLast? isLast).2⟩
    intro kind
    exact chain.2.2 last isLast _ rfl ⟨kind, by rw [front_blank (by decide)]; rfl⟩
  · intro ends
    have apart : Token.Apart (lexFrom 0 front) ('\n' :: back) := by
      apply (apart_lexFrom front).replace
      · intro _ last isLast broken
        have kind := kind_of_startsWithBreak (List.mem_of_getLast? isLast) broken
        exact absurd kind (ends last isLast).1
      · exact fun last isLast => (ends last isLast).2
    have read := ((legible_lexFrom front).replace apart rfl rfl).lexFrom
    rw [flatMap_chars_lexFrom, List.drop_zero] at read
    rw [read, foldr_onto_of_isChain]
    refine List.isChain_append.mpr ⟨isChain_lexFrom _, isChain_lexFrom _, ?_⟩
    rintro last isLast next - ⟨kind, -⟩
    exact (ends last isLast).1 kind

/-- A text can be cut in front of a line feed exactly if the last token before it ends there. -/
theorem lex_divided_iff (front back : String)
    : lex (front ++ "\n" ++ back) = lex front ++ lex ("\n" ++ back)
      ↔ ∀ last ∈ (lex front).getLast?, last.EndsBeforeFeed := by
  have feed : ("\n" ++ back).toList = '\n' :: back.toList := by simp
  have whole : (front ++ "\n" ++ back).toList = front.toList ++ '\n' :: back.toList := by simp
  rw [lex, lex, lex, whole, feed, lexFrom_append_feed_iff]
  refine forall₂_congr fun last isLast => ?_
  obtain ⟨shaped, stops⟩ := (apart_lexFrom front.toList).getLast? isLast
  exact (Token.endsBeforeFeed_iff shaped stops back.toList).symm

end ShaderUplift
