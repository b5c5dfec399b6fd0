import ShaderUplift.Proofs.Text.Run
import ShaderUplift.Proofs.Token.Shape
import ShaderUplift.Token.Lex

/-! Tokens that stand apart keep their directives when their text is read again.
Whether a token survives depends on its own shape and on the few characters that follow it.
Words, numbers and operators may join one another, but no directive gets lost, shortened or
swallowed as long as every token stops before the text after it.
-/

namespace ShaderUplift

-----------------------------------------------------------------------------------------
-- Logical lines and block comments that have an end
-----------------------------------------------------------------------------------------

namespace Lexeme
open ShaderUplift.Text

/-- Whether a line that begins with `chars` is continued over a line break after them. -/
def continues (continued : Bool) (chars : List Char) : Bool :=
  (chars.getLast?.map fun last => last == '\\').getD continued

theorem continues_cons (continued : Bool) (c : Char) (rest : List Char)
    : continues continued (c :: rest) = continues (c == '\\') rest := by
  rw [continues, continues, List.getLast?_cons]
  cases rest.getLast? <;> rfl

/-- What is left of a text after a whole logical line is read on its own, by induction on the
line. -/
theorem logicalLine_append {continued : Bool} {line : List Char}
    (whole : logicalLine continued line = line) (after : List Char)
    : logicalLine continued (line ++ after)
      = line ++ logicalLine (continues continued line) after := by
  induction line generalizing continued with
  | nil => rfl
  | cons c rest ih =>
      rw [List.cons_append, List.cons_append, continues_cons]
      rw [logicalLine] at whole ⊢
      by_cases feed : c = '\n'
      · subst feed
        cases continued with
        | false => simp at whole
        | true =>
            simp only [if_true, List.cons.injEq, true_and] at whole
            simpa using ih whole
      · by_cases carriage : c = '\r'
        · subst carriage
          cases rest with
          | nil => simp at whole
          | cons next rest =>
              have goesOn : continued = true ∧ next = '\n' := by
                by_cases h : continued = true ∧ next = '\n'
                · exact h
                · simp [h] at whole
              obtain ⟨rfl, rfl⟩ := goesOn
              simp only [feed, if_false, if_true, Bool.true_and, List.head?_cons, beq_self_eq_true,
                List.cons_append, List.cons.injEq, true_and] at whole ⊢
              simpa [continues_cons] using ih whole
        · simp only [feed, carriage, if_false, List.cons.injEq, true_and] at whole ⊢
          exact ih whole

/-- Reading a logical line again finds the same line, by induction on the text. -/
theorem logicalLine_logicalLine (continued : Bool) (text : List Char)
    : logicalLine continued (logicalLine continued text) = logicalLine continued text := by
  induction text generalizing continued with
  | nil => rfl
  | cons c rest ih =>
      by_cases feed : c = '\n'
      · subst feed
        cases continued <;> simp [logicalLine, ih]
      · by_cases carriage : c = '\r'
        · subst carriage
          by_cases goesOn : continued = true ∧ rest.head? = some '\n'
          · obtain ⟨rfl, next⟩ := goesOn
            obtain ⟨back, rfl⟩ : ∃ back, rest = '\n' :: back := List.head?_eq_some_iff.mp next
            have again := ih true
            simp only [logicalLine, if_true, List.cons.injEq, true_and] at again
            simp [logicalLine, again]
          · simp [logicalLine, goesOn]
        · simp [logicalLine, feed, carriage, ih]

/-- A logical line ends where the rest of the text does not continue it. -/
theorem logicalLine_rest {continued : Bool} {line after : List Char}
    (read : logicalLine continued (line ++ after) = line)
    : logicalLine continued line = line
      ∧ logicalLine (continues continued line) after = [] := by
  have whole : logicalLine continued line = line := by
    have again := logicalLine_logicalLine continued (line ++ after)
    rwa [read] at again
  rw [logicalLine_append whole] at read
  exact ⟨whole, List.append_cancel_left (read.trans (List.append_nil line).symm)⟩

/-- The part through the end mark either has the mark at its end or is all of the text. -/
theorem throughEndMark_ends (text : List Char)
    : ['*', '/'] <:+ throughEndMark text ∨ throughEndMark text = text := by
  induction text with
  | nil => exact Or.inr rfl
  | cons c rest ih =>
      rw [throughEndMark]
      split
      · exact Or.inl List.suffix_rfl
      · rcases ih with ended | all
        · exact Or.inl (ended.trans (List.suffix_cons c _))
        · exact Or.inr (congrArg (List.cons c) all)

theorem throughEndMark_throughEndMark (text : List Char)
    : throughEndMark (throughEndMark text) = throughEndMark text := by
  induction text with
  | nil => rfl
  | cons c rest ih =>
      by_cases closes : ['*', '/'].isPrefixOf (c :: rest) = true
      · rw [throughEndMark, if_pos closes]
        rfl
      · have stillOpen : ¬['*', '/'].isPrefixOf (c :: throughEndMark rest) = true := by
          intro early
          have isFront := List.isPrefixOf_iff_prefix.mp early
          exact closes (List.isPrefixOf_iff_prefix.mpr
            (isFront.trans (List.cons_prefix_cons.mpr ⟨rfl, throughEndMark_isPrefix rest⟩)))
        rw [throughEndMark, if_neg closes, throughEndMark, if_neg stillOpen, ih]

/-- A comment body with its end mark at the end is read alike whatever follows, by induction on
the body. -/
theorem throughEndMark_append {body : List Char} (whole : throughEndMark body = body)
    (ended : ['*', '/'] <:+ body) (after : List Char)
    : throughEndMark (body ++ after) = body := by
  induction body with
  | nil => simp at ended
  | cons c rest ih =>
      rw [throughEndMark] at whole
      by_cases closes : ['*', '/'].isPrefixOf (c :: rest) = true
      · rw [if_pos closes] at whole
        rw [← whole]
        rfl
      · rw [if_neg closes, List.cons.injEq] at whole
        have later : ['*', '/'] <:+ rest := by
          rcases List.suffix_cons_iff.mp ended with same | later
          · rw [← same] at closes
            exact absurd rfl closes
          · exact later
        have stillOpen : ¬['*', '/'].isPrefixOf (c :: (rest ++ after)) = true := by
          obtain ⟨next, back, rfl⟩ : ∃ next back, rest = next :: back := by
            cases rest with
            | nil => simp at later
            | cons next back => exact ⟨next, back, rfl⟩
          simpa using closes
        rw [List.cons_append, throughEndMark, if_neg stillOpen, ih whole.2 later]

end Lexeme

-----------------------------------------------------------------------------------------
-- Tokens that stand apart
-----------------------------------------------------------------------------------------

namespace Token
open ShaderUplift.Lexeme ShaderUplift.Text

/-- A token has the shape of its kind, apart from what its words and numbers spell. -/
def WellShaped (token : Token) : Prop :=
  match token.kind with
  | .directive => ∃ line, token.chars = '#' :: line ∧ logicalLine false line = line
  | .lineComment => ∃ line, token.chars = '/' :: '/' :: line ∧ ∀ c ∈ line, isLineBreak c = false
  | .blockComment => ∃ body, token.chars = '/' :: '*' :: body ∧ throughEndMark body = body
  | _ => ∃ c tail, token.chars = c :: tail ∧ c ≠ '#' ∧ Unmarked tail

/-- A token that is written before a text is not read further than to its own end. -/
def StopsBefore (token : Token) (after : List Char) : Prop :=
  match token.kind with
  | .directive => logicalLine (continues false token.chars) after = []
  | .lineComment => after.head?.all isLineBreak = true
  | .blockComment => after = [] ∨ ['*', '/'] <:+ token.chars.drop 2
  | _ => opens (token.chars ++ after) = false

/-- Every token stops before the text of the tokens after it, of which `after` comes last. -/
def Apart : List Token → (after : List Char) → Prop
  | [], _ => True
  | token :: rest, after =>
      token.WellShaped ∧ token.StopsBefore (rest.flatMap chars ++ after) ∧ Apart rest after

theorem apart_append {front back : List Token} {after : List Char}
    : Apart (front ++ back) after
      ↔ Apart front (back.flatMap chars ++ after) ∧ Apart back after := by
  induction front with
  | nil => simp [Apart]
  | cons token front ih => simp [Apart, ih, and_assoc]

theorem wellShaped_iff_of_not_isSpan {token : Token} (plain : token.kind.isSpan = false)
    : token.WellShaped ↔ ∃ c tail, token.chars = c :: tail ∧ c ≠ '#' ∧ Unmarked tail := by
  simp only [WellShaped]
  split <;> simp_all [TokenKind.isSpan]

theorem stopsBefore_iff_of_not_isSpan {token : Token} (plain : token.kind.isSpan = false)
    (after : List Char)
    : token.StopsBefore after ↔ opens (token.chars ++ after) = false := by
  simp only [StopsBefore]
  split <;> simp_all [TokenKind.isSpan]

/-- The token at the front of a text is well shaped and stops before the rest of the text, by
cases on its class. -/
theorem front_apart {c : Char} {rest after : List Char}
    (split : (front c rest).chars ++ after = c :: rest)
    : (front c rest).WellShaped ∧ (front c rest).StopsBefore after := by
  obtain ⟨tail, chars⟩ := chars_front_cons c rest
  have shape := front_shape c rest
  generalize front c rest = token at chars shape split
  cases opened : opens (c :: rest) with
  | false =>
      obtain ⟨plain, unmarked⟩ := shape.unmarked_tail opened
      rw [wellShaped_iff_of_not_isSpan plain, stopsBefore_iff_of_not_isSpan plain, split]
      refine ⟨⟨c, tail, chars, ?_, by simpa [chars] using unmarked⟩, opened⟩
      intro equal
      subst equal
      simp [opens] at opened
  | true =>
      cases shape with
      | directive opened =>
          subst opened
          simp only [Lexeme.directive, chars_ofChars, if_true, List.cons_append, List.cons.injEq,
            true_and] at split
          have read : logicalLine false (logicalLine false rest ++ after)
              = logicalLine false rest := by rw [split]
          obtain ⟨whole, stops⟩ := logicalLine_rest read
          refine ⟨⟨logicalLine false rest, by simp [Lexeme.directive], whole⟩, ?_⟩
          simpa [StopsBefore, Lexeme.directive, continues_cons] using stops
      | @blockComment opened back marked =>
          subst opened marked
          simp only [blockComment, after?, chars_ofChars, if_true, List.cons_append,
            List.cons.injEq, true_and] at split
          refine ⟨⟨throughEndMark back, by simp [blockComment, after?],
            throughEndMark_throughEndMark back⟩, ?_⟩
          rcases throughEndMark_ends back with ended | all
          · exact Or.inr (by simpa [blockComment, after?] using ended)
          · rw [all] at split
            exact Or.inl (List.append_right_eq_self.mp split)
      | @lineComment opened back marked =>
          subst opened marked
          simp only [lineComment, after?, chars_ofChars, if_true, List.cons_append,
            List.cons.injEq, true_and] at split
          refine ⟨⟨back.takeWhile fun d => !isLineBreak d, by simp [lineComment, after?], ?_⟩, ?_⟩
          · intro d member
            simpa using List.mem_takeWhile_imp member
          · have stops := stops_of_split split
            cases after with
            | nil => rfl
            | cons d after => simpa [StopsBefore] using stops
      | whitespace closed | float closed | integer closed | word closed | operator closed
      | other closed =>
          simp [closed] at opened

end Token

/-- A property of texts and their tokens holds of every text if it passes from what follows the
token at the front to the whole text. -/
theorem lexFrom_induction {motive : List Char → List Token → Prop}
    (nil : motive [] [])
    (cons
      : ∀ c rest after,
          (Lexeme.front c rest).chars ++ after = c :: rest
          → motive after (lexFrom 0 after)
          → motive (c :: rest) (Lexeme.front c rest :: lexFrom 0 after))
    (text : List Char)
    : motive text (lexFrom 0 text) := by
  induction length : text.length using Nat.strongRecOn generalizing text with
  | ind n ih =>
      cases text with
      | nil => exact nil
      | cons c rest =>
          obtain ⟨isSome, after, split⟩ := Lexeme.chars_front c rest
          have dropped : (c :: rest).drop (Lexeme.front c rest).chars.length = after := by
            rw [← split, List.drop_left]
          rw [lexFrom_cons, dropped]
          have shorter : after.length < n := by
            rw [← length, ← split, List.length_append]
            exact Nat.lt_add_of_pos_left (List.length_pos_iff.mpr isSome)
          exact cons c rest after split (ih after.length shorter after rfl)

/-- What holds of the token at the front, whatever the text is, holds of every token. -/
theorem forall_mem_lexFrom {motive : Token → Prop}
    (first : ∀ c rest, motive (Lexeme.front c rest)) (text : List Char)
    : ∀ token ∈ lexFrom 0 text, motive token := by
  induction text using lexFrom_induction with
  | nil => simp
  | cons c rest after split ih => exact List.forall_mem_cons.mpr ⟨first c rest, ih⟩

/-- The tokens of a text stand apart. -/
theorem apart_lexFrom (text : List Char)
    : Token.Apart (lexFrom 0 text) [] := by
  induction text using lexFrom_induction with
  | nil => trivial
  | cons c rest after split ih =>
      obtain ⟨shaped, stops⟩ := Token.front_apart split
      refine ⟨shaped, ?_, ih⟩
      rwa [List.append_nil, flatMap_chars_lexFrom, List.drop_zero]

end ShaderUplift
