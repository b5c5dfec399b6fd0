import ShaderUplift.Proofs.Token.Neighbours
import ShaderUplift.Proofs.Token.Spelling

/-! The tokens of a text are whole.
Every token has the shape of its kind, and is read as far as that shape goes. What a token looks
like tells its kind, and the token behind it could not have been a part of it.
-/

namespace ShaderUplift
open ShaderUplift.Lexeme ShaderUplift.Text

theorem Vocabulary.classify_eq_iff (word : String)
    : (classify word = .keyword ↔ word ∈ keywords)
      ∧ (classify word = .builtin ↔ word ∉ keywords ∧ word ∈ builtins) := by
  by_cases keyword : word ∈ keywords
  · simp [classify, keyword]
  · by_cases builtin : word ∈ builtins <;> simp [classify, keyword, builtin]

theorem Lexeme.Front.classify_of_kind {c : Char} {rest : List Char} {token : Token}
    (shape : Front c rest token) (isWord : token.kind.isWord = true)
    : token.kind = Vocabulary.classify token.text := by
  cases shape with
  | word => rfl
  | directive | blockComment | lineComment | whitespace | float | integer | operator | other =>
      cases isWord

namespace Token

-----------------------------------------------------------------------------------------
-- Whole tokens
-----------------------------------------------------------------------------------------

/-- Tokens end the line before them: there are none, or the first one is whitespace that begins
with a line break.
-/
def EndLine (tokens : List Token) : Prop :=
  ∀ next ∈ tokens.head?, next.kind = .whitespace ∧ next.startsWithBreak = true

/-- A token has the shape of its kind and is read as far as it goes before the tokens behind it. -/
def IsWhole (token : Token) (behind : List Token) : Prop :=
  match token.kind with
  | .whitespace =>
      (∀ c ∈ token.chars, isBlank c = true) ∧ ∀ next ∈ behind.head?, next.kind ≠ .whitespace
  | .directive => ['#'] <+: token.chars ∧ Continued token.chars ∧ EndLine behind
  | .lineComment =>
      ['/', '/'] <+: token.chars ∧ (∀ c ∈ token.chars, isLineBreak c = false) ∧ EndLine behind
  | .blockComment =>
      ∃ body,
        token.chars = '/' :: '*' :: body
        ∧ (ClosesOnce body ∨ ¬['*', '/'] <:+: body ∧ behind = [])
  | .keyword | .builtin | .identifier =>
      (∃ c tail,
          token.chars = c :: tail ∧ isWordStart c = true ∧ ∀ d ∈ tail, isWordChar d = true)
      ∧ (∀ next ∈ behind.head?, ∀ c ∈ next.chars.head?, isWordChar c = false)
      ∧ (token.kind = .keyword ↔ token.text ∈ Vocabulary.keywords)
      ∧ (token.kind = .builtin
          ↔ token.text ∉ Vocabulary.keywords ∧ token.text ∈ Vocabulary.builtins)
  | .float | .integer => token.kind = .float ↔ SpellsFloat token.chars
  | .operator =>
      let text := token.chars ++ behind.flatMap chars
      (token.text ∈ Vocabulary.operators
          ∧ ∀ op ∈ Vocabulary.operators, op.toList <+: text → op.length ≤ token.text.length)
      ∨ (∀ op ∈ Vocabulary.operators, ¬op.toList <+: text)
        ∧ ∃ c, token.chars = [c] ∧ BeginsNothing c
  | .other _ => False

-----------------------------------------------------------------------------------------
-- Directives and comments
-----------------------------------------------------------------------------------------

/-- A text that begins with a line break begins with a token that ends the line. -/
theorem endLine_lexFrom {text : List Char} (broken : text.head?.all isLineBreak = true)
    : EndLine (lexFrom 0 text) := by
  cases text with
  | nil => simp [EndLine, lexFrom]
  | cons c rest =>
      have isBreak : isLineBreak c = true := broken
      obtain ⟨tail, chars⟩ := chars_front_cons c rest
      intro next first
      rw [lexFrom_cons, List.head?_cons, Option.mem_def, Option.some.injEq] at first
      subst first
      refine ⟨?_, ?_⟩
      · rw [front_blank (isBlank_of_isLineBreak isBreak), kind_ofChars]
      · rw [startsWithBreak, chars, List.head?_cons, Option.any_some, isBreak]

theorem isWhole_directive {token : Token} {after : List Char} (kind : token.kind = .directive)
    (shaped : token.WellShaped) (stops : token.StopsBefore after)
    : token.IsWhole (lexFrom 0 after) := by
  simp only [WellShaped, StopsBefore, kind] at shaped stops
  obtain ⟨line, chars, whole⟩ := shaped
  have continued : Continued line := continued_of_logicalLine whole
  simp only [IsWhole, kind, chars]
  exact ⟨⟨line, rfl⟩, .visible rfl continued,
    endLine_lexFrom (head?_isLineBreak_of_logicalLine stops)⟩

theorem isWhole_lineComment {token : Token} {after : List Char}
    (kind : token.kind = .lineComment) (shaped : token.WellShaped)
    (stops : token.StopsBefore after)
    : token.IsWhole (lexFrom 0 after) := by
  simp only [WellShaped, StopsBefore, kind] at shaped stops
  obtain ⟨line, chars, unbroken⟩ := shaped
  simp only [IsWhole, kind, chars, List.forall_mem_cons]
  exact ⟨⟨line, rfl⟩, ⟨rfl, rfl, unbroken⟩, endLine_lexFrom stops⟩

/-- A comment that does not end in an end mark holds none, so that it has swallowed the rest of
the text.
-/
theorem isWhole_blockComment {token : Token} {after : List Char}
    (kind : token.kind = .blockComment) (shaped : token.WellShaped)
    (stops : token.StopsBefore after)
    : token.IsWhole (lexFrom 0 after) := by
  simp only [WellShaped, StopsBefore, kind] at shaped stops
  obtain ⟨body, chars, whole⟩ := shaped
  have once : ∀ front back, body = front ++ '*' :: '/' :: back → back = [] := by
    intro front back split
    exact eq_nil_of_throughEndMark (whole.trans split)
  simp only [IsWhole, kind]
  refine ⟨body, chars, ?_⟩
  by_cases ended : ['*', '/'] <:+ body
  · exact Or.inl ⟨ended, once⟩
  · refine Or.inr ⟨?_, ?_⟩
    · rintro ⟨front, back, split⟩
      rw [List.append_assoc] at split
      obtain rfl := once front back split.symm
      exact ended ⟨front, split⟩
    · rw [chars] at stops
      rw [stops.resolve_right ended]
      rfl

-----------------------------------------------------------------------------------------
-- Whitespace and words
-----------------------------------------------------------------------------------------

/-- The first token of a text begins with the first character. -/
theorem head?_of_head?_lexFrom {text : List Char} {token : Token}
    (first : (lexFrom 0 text).head? = some token)
    : ∃ c rest, text = c :: rest ∧ token = front c rest ∧ token.chars.head? = some c := by
  cases text with
  | nil => cases first
  | cons c rest =>
      obtain ⟨tail, chars⟩ := chars_front_cons c rest
      rw [lexFrom_cons, List.head?_cons, Option.some.injEq] at first
      exact ⟨c, rest, rfl, first.symm, by rw [← first, chars, List.head?_cons]⟩

theorem isWhole_whitespace {c : Char} {rest after : List Char}
    (split : (front c rest).chars ++ after = c :: rest)
    (kind : (front c rest).kind = .whitespace)
    : (front c rest).IsWhole (lexFrom 0 after) := by
  obtain ⟨chars, -⟩ := (front_shape c rest).blank_of_kind kind
  simp only [IsWhole, kind]
  refine ⟨?_, ?_⟩
  · rw [chars]
    exact fun d member => List.mem_takeWhile_imp member
  · intro next first nextKind
    obtain ⟨d, more, rfl, rfl, -⟩ := head?_of_head?_lexFrom first
    have visible := after_whitespace split kind d rfl
    rw [((front_shape d more).blank_of_kind nextKind).2] at visible
    cases visible

theorem isWhole_word {c : Char} {rest after : List Char}
    (split : (front c rest).chars ++ after = c :: rest)
    (isWord : (front c rest).kind.isWord = true)
    : (front c rest).IsWhole (lexFrom 0 after) := by
  obtain ⟨chars, start⟩ := (front_shape c rest).word_of_kind isWord
  have spelled
      : ∃ d tail,
          (front c rest).chars = d :: tail ∧ isWordStart d = true
          ∧ ∀ e ∈ tail, isWordChar e = true := by
    rw [chars, word, if_pos start]
    exact ⟨c, _, rfl, start, fun d => List.mem_takeWhile_imp⟩
  have stops
      : ∀ next ∈ (lexFrom 0 after).head?, ∀ d ∈ next.chars.head?, isWordChar d = false := by
    intro next first d head
    obtain ⟨e, more, rfl, -, begins⟩ := head?_of_head?_lexFrom first
    obtain rfl : e = d := Option.some.inj (begins.symm.trans head)
    exact after_word split isWord e rfl
  have classified := (front_shape c rest).classify_of_kind isWord
  obtain ⟨keyword, builtin⟩ := Vocabulary.classify_eq_iff (front c rest).text
  rw [← classified] at keyword builtin
  unfold IsWhole
  cases kind : (front c rest).kind with
  | keyword | builtin | identifier =>
      rw [kind] at keyword builtin
      exact ⟨spelled, stops, keyword, builtin⟩
  | operator | directive | whitespace | integer | float | lineComment | blockComment
  | other name =>
      rw [kind] at isWord
      cases isWord

-----------------------------------------------------------------------------------------
-- Numbers and operators
-----------------------------------------------------------------------------------------

theorem spellsFloat_front (c : Char) (rest : List Char)
    (kind : (front c rest).kind = .float ∨ (front c rest).kind = .integer)
    : (front c rest).kind = .float ↔ SpellsFloat (front c rest).chars := by
  have some := (chars_front c rest).1
  have shape := front_shape c rest
  generalize front c rest = token at kind some shape
  cases shape with
  | float => simpa using spellsFloat_float (by simpa using some)
  | integer => simpa using not_spellsFloat_integer (c :: rest)
  | word =>
      rcases kind with kind | kind <;> exact absurd kind (Vocabulary.classify_ne rfl _)
  | directive | blockComment | lineComment | whitespace | operator | other =>
      rcases kind with kind | kind <;> cases kind

theorem front_kind_ne_other {c : Char} {rest : List Char} (name : String)
    : (front c rest).kind ≠ .other name := by
  intro kind
  have shape := front_shape c rest
  generalize front c rest = token at kind shape
  cases shape with
  | word => exact Vocabulary.classify_ne rfl _ kind
  | directive | blockComment | lineComment | whitespace | float | integer | operator | other =>
      cases kind

/-- An operator is read by its reader, unless no reader takes anything. -/
theorem operator_of_front {c : Char} {rest : List Char}
    (kind : (front c rest).kind = .operator)
    : (front c rest).chars = Lexeme.operator (c :: rest)
      ∨ (front c rest).chars = [c] ∧ classed? (c :: rest) = none := by
  unfold front at kind ⊢
  cases found : classed? (c :: rest) with
  | none => exact Or.inr (by simp)
  | some token =>
      left
      rw [found, Option.getD_some] at kind
      simp only [classed?, token?_eq_some_iff, Option.orElse_eq_orElse, Option.orElse_eq_or,
        Option.or_eq_some_iff] at found
      rcases found with ⟨_, rfl⟩ | ⟨_, ⟨_, rfl⟩ | ⟨_, ⟨_, rfl⟩ | ⟨_, ⟨_, rfl⟩ | ⟨_, ⟨_, rfl⟩ |
        ⟨_, ⟨_, rfl⟩ | ⟨_, ⟨_, rfl⟩ | ⟨_, _, rfl⟩⟩⟩⟩⟩⟩⟩
      · cases kind
      · cases kind
      · cases kind
      · cases kind
      · cases kind
      · cases kind
      · exact absurd kind (Vocabulary.classify_ne rfl _)
      · simp

theorem isWhole_operator {c : Char} {rest after : List Char}
    (split : (front c rest).chars ++ after = c :: rest)
    (kind : (front c rest).kind = .operator)
    : (front c rest).IsWhole (lexFrom 0 after) := by
  simp only [IsWhole, kind, flatMap_chars_lexFrom, List.drop_zero, split]
  rcases operator_of_front kind with read | ⟨chars, unread⟩
  · have some := (chars_front c rest).1
    rw [read] at some
    exact Or.inl (length_le_of_operator read.symm some)
  · obtain ⟨-, -, -, -, noOperator⟩ := readers_of_unread unread
    exact Or.inr ⟨operator_eq_nil_iff.mp noOperator, c, chars, beginsNothing_of_unread unread⟩

/-- The token at the front of a text is whole before the tokens of the rest, by cases on its
kind.
-/
theorem isWhole_front {c : Char} {rest after : List Char}
    (split : (front c rest).chars ++ after = c :: rest)
    : (front c rest).IsWhole (lexFrom 0 after) := by
  obtain ⟨shaped, stops⟩ := Token.front_apart split
  cases kind : (front c rest).kind with
  | directive => exact isWhole_directive kind shaped stops
  | lineComment => exact isWhole_lineComment kind shaped stops
  | blockComment => exact isWhole_blockComment kind shaped stops
  | whitespace => exact isWhole_whitespace split kind
  | keyword | builtin | identifier => exact isWhole_word split (by rw [kind]; rfl)
  | float | integer =>
      have spelled := spellsFloat_front c rest (by simp [kind])
      rw [kind] at spelled
      unfold IsWhole
      rw [kind]
      exact spelled
  | operator => exact isWhole_operator split kind
  | other name => exact absurd kind (front_kind_ne_other name)

end Token

/-- Every token of a text is whole. It begins with a blank exactly if it is whitespace. -/
theorem lex_maximal (source : String) {before behind : List Token} {token : Token}
    (split : lex source = before ++ token :: behind)
    : (token.kind = .whitespace ↔ token.chars.head?.any isBlank = true)
      ∧ token.IsWhole behind := by
  obtain ⟨text, -, read⟩ := lexFrom_eq_append split
  obtain ⟨c, rest, after, rfl, rfl, parted, rfl⟩ := lexFrom_eq_cons read
  exact ⟨blankShaped_front c rest, Token.isWhole_front parted⟩

/-- An operator of three characters, between a hexadecimal number that has no exponent and a
comment without an end.
-/
theorem lex_maximal_shift
    : lex "0x1E<<=/*/"
        = [⟨.integer, "0x1E"⟩] ++ ⟨.operator, "<<="⟩ :: [⟨.blockComment, "/*/"⟩]
      ∧ Token.IsWhole ⟨.operator, "<<="⟩ [⟨.blockComment, "/*/"⟩] := by
  have split
      : lex "0x1E<<=/*/"
        = [⟨.integer, "0x1E"⟩] ++ ⟨.operator, "<<="⟩ :: [⟨.blockComment, "/*/"⟩] := by
    decide +kernel
  exact ⟨split, (lex_maximal _ split).2⟩

end ShaderUplift
