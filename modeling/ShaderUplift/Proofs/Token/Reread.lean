import ShaderUplift.Proofs.Token.Apart

/-! Reading the text of tokens again.
The directives of a text are found by scanning for the places where directives and comments
begin, whatever the words between them are. Hence tokens that stand apart show the same
directives when their text is read again, though not always the same words.
-/

namespace ShaderUplift
open ShaderUplift.Lexeme ShaderUplift.Text

/-- The directives among tokens. -/
def directivesIn (tokens : List Token) : List Token :=
  tokens.filter fun token => token.kind = .directive

theorem directivesIn_append (front back : List Token)
    : directivesIn (front ++ back) = directivesIn front ++ directivesIn back :=
  List.filter_append ..

theorem directivesIn_cons_of_ne {token : Token} (other : token.kind ≠ .directive)
    (rest : List Token)
    : directivesIn (token :: rest) = directivesIn rest := by
  simp [directivesIn, other]

/-- What follows the token at the front is read on its own. -/
theorem lexFrom_append {c : Char} {tail after : List Char}
    (read : (front c (tail ++ after)).chars = c :: tail)
    : lexFrom 0 (c :: tail ++ after) = front c (tail ++ after) :: lexFrom 0 after := by
  rw [List.cons_append, lexFrom_cons, read, ← List.cons_append, List.drop_left]

/-- A character that begins neither a directive nor a comment can be left out when only the
directives are sought, by induction on the length of the text. -/
theorem directivesIn_lexFrom_cons {c : Char} {rest : List Char}
    (closed : opens (c :: rest) = false)
    : directivesIn (lexFrom 0 (c :: rest)) = directivesIn (lexFrom 0 rest) := by
  induction length : rest.length using Nat.strongRecOn generalizing c rest with
  | ind n ih =>
      obtain ⟨tail, chars⟩ := chars_front_cons c rest
      obtain ⟨plain, unmarked⟩ := (front_shape c rest).unmarked_tail closed
      obtain ⟨-, after, split⟩ := chars_front c rest
      rw [chars] at unmarked
      rw [chars, List.cons_append, List.cons.injEq] at split
      obtain ⟨-, rfl⟩ := split
      have notDirective : (front c (tail ++ after)).kind ≠ .directive := by
        intro same
        simp [same, TokenKind.isSpan] at plain
      rw [← List.cons_append, lexFrom_append chars, directivesIn_cons_of_ne notDirective]
      -- The rest of the token is passed over one character at a time.
      have passed : ∀ part : List Char, Unmarked part → part.length ≤ tail.length
          → directivesIn (lexFrom 0 (part ++ after)) = directivesIn (lexFrom 0 after) := by
        intro part
        induction part with
        | nil => exact fun _ _ => rfl
        | cons d part partIh =>
            intro partUnmarked bound
            have partClosed : opens (d :: (part ++ after)) = false := by
              have notMark := partUnmarked d (by simp)
              rw [← Bool.not_eq_true, opens_cons]
              simp [notMark.1, notMark.2]
            rw [List.length_cons] at bound
            have shorter : (part ++ after).length < n := by
              rw [← length, List.length_append, List.length_append]
              omega
            rw [List.cons_append, ih _ shorter partClosed rfl]
            exact partIh (fun e member => partUnmarked e (List.mem_cons_of_mem d member))
              (Nat.le_of_succ_le bound)
      exact (passed tail unmarked (Nat.le_refl _)).symm

/-- Characters that begin neither a directive nor a comment can all be left out. -/
theorem directivesIn_lexFrom_unmarked {chars : List Char} (unmarked : Unmarked chars)
    (after : List Char)
    : directivesIn (lexFrom 0 (chars ++ after)) = directivesIn (lexFrom 0 after) := by
  induction chars with
  | nil => rfl
  | cons c rest ih =>
      have notMark := unmarked c (by simp)
      have closed : opens (c :: (rest ++ after)) = false := by
        rw [← Bool.not_eq_true, opens_cons]
        simp [notMark.1, notMark.2]
      rw [List.cons_append, directivesIn_lexFrom_cons closed]
      exact ih unmarked.tail

namespace Token

/-- A directive that stops before a text is read as it is. -/
theorem StopsBefore.directive {token : Token} {after : List Char}
    (stops : token.StopsBefore after) (shaped : token.WellShaped)
    (kind : token.kind = .directive)
    : Lexeme.directive (token.chars ++ after) = token.chars := by
  simp only [WellShaped, StopsBefore, kind] at shaped stops
  obtain ⟨line, chars, whole⟩ := shaped
  rw [chars, continues_cons] at stops
  rw [chars, List.cons_append, Lexeme.directive, if_pos rfl, logicalLine_append whole]
  rw [show ('#' == '\\') = false from rfl] at stops
  rw [stops, List.append_nil]

/-- A directive or comment that stops before a text is read as it is, by cases on its kind. -/
theorem lexFrom_span {token : Token} {after : List Char} (span : token.kind.isSpan = true)
    (shaped : token.WellShaped) (stops : token.StopsBefore after)
    : lexFrom 0 (token.chars ++ after) = token :: lexFrom 0 after := by
  suffices read : ∃ c tail, token.chars = c :: tail
      ∧ front c (tail ++ after) = .ofChars token.kind token.chars by
    obtain ⟨c, tail, chars, same⟩ := read
    rw [ofChars_chars] at same
    rw [chars, lexFrom_append (same ▸ chars), same]
  cases kind : token.kind with
  | directive =>
      have read := stops.directive shaped kind
      simp only [WellShaped, kind] at shaped
      obtain ⟨line, chars, -⟩ := shaped
      refine ⟨'#', line, chars, ?_⟩
      rw [chars, List.cons_append] at read
      rw [front_directive, read, chars]
  | blockComment =>
      simp only [WellShaped, StopsBefore, kind] at shaped stops
      obtain ⟨body, chars, whole⟩ := shaped
      refine ⟨'/', '*' :: body, chars, ?_⟩
      have read : throughEndMark (body ++ after) = body := by
        rcases stops with rfl | ended
        · rw [List.append_nil, whole]
        · exact throughEndMark_append whole (by simpa [chars] using ended) after
      rw [List.cons_append, front_blockComment, chars]
      simp [blockComment, after?, read]
  | lineComment =>
      simp only [WellShaped, StopsBefore, kind] at shaped stops
      obtain ⟨line, chars, unbroken⟩ := shaped
      refine ⟨'/', '/' :: line, chars, ?_⟩
      have read : (line ++ after).takeWhile (fun c => !isLineBreak c) = line :=
        IsRun.takeWhile_eq
          ⟨rfl, by simpa using unbroken, by simpa using (Option.all_eq_true ..).mp stops⟩
      rw [List.cons_append, front_lineComment, chars]
      simp [lineComment, after?, read]
  | keyword | builtin | identifier | operator | whitespace | integer | float | other name =>
      simp [kind, TokenKind.isSpan] at span

/-- The directives of tokens that stand apart are the directives of their text, by induction on
the tokens. -/
theorem Apart.directivesIn_lexFrom {tokens : List Token} {after : List Char}
    (apart : Apart tokens after)
    : directivesIn (lexFrom 0 (tokens.flatMap chars ++ after))
      = directivesIn tokens ++ directivesIn (lexFrom 0 after) := by
  induction tokens with
  | nil => rfl
  | cons token rest ih =>
      obtain ⟨shaped, stops, restApart⟩ := apart
      rw [List.flatMap_cons, List.append_assoc]
      cases span : token.kind.isSpan with
      | true =>
          rw [lexFrom_span span shaped stops, ← List.singleton_append, directivesIn_append,
            ih restApart, ← List.append_assoc, ← directivesIn_append, List.singleton_append]
      | false =>
          obtain ⟨c, tail, chars, notSign, unmarked⟩ :=
            (wellShaped_iff_of_not_isSpan span).mp shaped
          have closed := (stopsBefore_iff_of_not_isSpan span _).mp stops
          have notDirective : token.kind ≠ .directive := by
            intro same
            simp [same, TokenKind.isSpan] at span
          rw [chars, List.cons_append] at closed
          rw [chars, List.cons_append, directivesIn_lexFrom_cons closed,
            directivesIn_lexFrom_unmarked unmarked, ih restApart,
            directivesIn_cons_of_ne notDirective]

theorem Apart.directivesIn_lex_render {tokens : List Token} (apart : Apart tokens [])
    : directivesIn (lex (render tokens)) = directivesIn tokens := by
  have read := apart.directivesIn_lexFrom
  rw [List.append_nil] at read
  rw [lex, toList_render, read]
  exact List.append_nil _

end Token

end ShaderUplift
