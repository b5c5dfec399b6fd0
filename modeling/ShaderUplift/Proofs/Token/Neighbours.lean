import ShaderUplift.Proofs.Token.Splice

/-! Which tokens may follow one another in a text.
A text is cut into tokens at its front, none of which is empty, until nothing is left. Blanks and
words are read as far as they go, so neither is followed by more of the same. A token that begins
with a blank is whitespace, and one that is of a kind for words begins a word.
-/

namespace ShaderUplift
open ShaderUplift.Lexeme ShaderUplift.Text

/-- The kinds that words are sorted into. -/
def TokenKind.isWord : TokenKind → Bool
  | keyword | builtin | identifier => true
  | _ => false

theorem Vocabulary.isWord_classify (word : String)
    : (classify word).isWord = true := by
  simp only [classify]
  split
  · rfl
  · split <;> rfl

theorem Vocabulary.classify_ne {kind : TokenKind} (plain : kind.isWord = false) (word : String)
    : classify word ≠ kind := by
  intro equal
  subst equal
  rw [isWord_classify] at plain
  cases plain

theorem Vocabulary.mem_builtins_of_classify {word : String} (builtin : classify word = .builtin)
    : word ∈ builtins := by
  unfold classify at builtin
  split at builtin
  · cases builtin
  · split at builtin
    · rename_i member
      exact member
    · cases builtin

/-- The first token of a text is read at its front, and the others from the rest. -/
theorem lexFrom_eq_cons {text : List Char} {token : Token} {tokens : List Token}
    (read : lexFrom 0 text = token :: tokens)
    : ∃ c rest after,
        text = c :: rest ∧ token = front c rest ∧ token.chars ++ after = text
        ∧ lexFrom 0 after = tokens := by
  cases text with
  | nil => cases read
  | cons c rest =>
      obtain ⟨-, after, split⟩ := chars_front c rest
      rw [lexFrom_cons, List.cons.injEq] at read
      obtain ⟨rfl, rfl⟩ := read
      refine ⟨c, rest, after, rfl, rfl, split, ?_⟩
      rw [← split, List.drop_left]

theorem eq_nil_of_lexFrom {text : List Char} (read : lexFrom 0 text = [])
    : text = [] := by
  cases text with
  | nil => rfl
  | cons c rest =>
      rw [lexFrom_cons] at read
      cases read

/-- The later tokens of a text are those of its later part. -/
theorem lexFrom_eq_append {text : List Char} {front back : List Token}
    (read : lexFrom 0 text = front ++ back)
    : ∃ rest, text = front.flatMap Token.chars ++ rest ∧ lexFrom 0 rest = back := by
  induction front generalizing text with
  | nil => exact ⟨text, rfl, read⟩
  | cons token front ih =>
      obtain ⟨c, rest, after, -, -, split, laterRead⟩ := lexFrom_eq_cons read
      obtain ⟨rest, laterSplit, backRead⟩ := ih laterRead
      exact ⟨rest, by rw [← split, laterSplit, List.flatMap_cons, List.append_assoc], backRead⟩

/-- A text has no more tokens than characters, because every token takes some, by induction on the
tokens. -/
theorem length_lexFrom_le (text : List Char)
    : (lexFrom 0 text).length ≤ text.length := by
  induction text using lexFrom_induction with
  | nil => exact Nat.le_refl _
  | cons c rest after split ih =>
      have some : 0 < (front c rest).chars.length := List.length_pos_iff.mpr (chars_front c rest).1
      rw [← split, List.length_append, List.length_cons]
      omega

/-- Every text is cut into tokens, whatever it holds. Each token is read where those before it end
and takes at least one character, so the cutting comes to an end and no character gets lost. -/
theorem lex_lossless (source : String)
    : Token.render (lex source) = source
      ∧ (∀ token ∈ lex source, token.text ≠ "")
      ∧ (lex source).length ≤ source.length
      ∧ ∀ before token after,
          lex source = before ++ token :: after
          → ∃ c rest,
              source.toList = before.flatMap Token.chars ++ c :: rest
              ∧ token = front c rest := by
  refine ⟨render_lex source, ?_, ?_, ?_⟩
  · have each : ∀ token ∈ lexFrom 0 source.toList, token.chars ≠ [] :=
      forall_mem_lexFrom (fun c rest => (chars_front c rest).1) _
    intro token member empty
    have some := each token member
    rw [Token.chars, empty] at some
    exact some rfl
  · rw [← String.length_toList]
    exact length_lexFrom_le source.toList
  · intro before token after split
    obtain ⟨text, whole, read⟩ := lexFrom_eq_append split
    obtain ⟨c, rest, behind, rfl, same, -⟩ := lexFrom_eq_cons read
    exact ⟨c, rest, whole, same⟩

namespace Lexeme

/-- A text that begins with a blank begins with whitespace. -/
theorem front_blank {c : Char} (blank : isBlank c = true) (rest : List Char)
    : front c rest = .ofChars .whitespace (blanks (c :: rest)) := by
  have closed : opens (c :: rest) = false := by
    rw [← Bool.not_eq_true, opens_cons]
    rintro (rfl | ⟨rfl, -⟩) <;> exact absurd blank (by decide)
  obtain ⟨noBlock, noLine, noDirective⟩ := readers_of_closed closed
  have some : blanks (c :: rest) ≠ [] := by simp [blanks, blank]
  simp [front, classed?, noBlock, noLine, noDirective, token?, some]

theorem Front.blank_of_kind {c : Char} {rest : List Char} {token : Token}
    (shape : Front c rest token) (kind : token.kind = .whitespace)
    : token.chars = blanks (c :: rest) ∧ isBlank c = true := by
  cases shape with
  | whitespace closed blank => exact ⟨by simp, blank⟩
  | word => exact absurd kind (Vocabulary.classify_ne rfl _)
  | directive | blockComment | lineComment | float | integer | operator | other => cases kind

theorem Front.word_of_kind {c : Char} {rest : List Char} {token : Token}
    (shape : Front c rest token) (kind : token.kind.isWord = true)
    : token.chars = Lexeme.word (c :: rest) ∧ isWordStart c = true := by
  cases shape with
  | word closed start => exact ⟨by simp, start⟩
  | directive | blockComment | lineComment | whitespace | float | integer | operator | other =>
      cases kind

theorem Front.mem_builtins {c : Char} {rest : List Char} {token : Token}
    (shape : Front c rest token) (kind : token.kind = .builtin)
    : token.text ∈ Vocabulary.builtins := by
  cases shape with
  | word closed start => exact Vocabulary.mem_builtins_of_classify kind
  | directive | blockComment | lineComment | whitespace | float | integer | operator | other =>
      cases kind

theorem Front.sign_of_kind {c : Char} {rest : List Char} {token : Token}
    (shape : Front c rest token) (kind : token.kind = .directive)
    : token.chars = Lexeme.directive (c :: rest) ∧ c = '#' := by
  cases shape with
  | directive opened => exact ⟨by simp, opened⟩
  | word => exact absurd kind (Vocabulary.classify_ne rfl _)
  | whitespace | blockComment | lineComment | float | integer | operator | other => cases kind

theorem after_whitespace {c : Char} {rest after : List Char}
    (split : (front c rest).chars ++ after = c :: rest)
    (kind : (front c rest).kind = .whitespace)
    : ∀ d ∈ after.head?, isBlank d = false := by
  rw [((front_shape c rest).blank_of_kind kind).1] at split
  exact stops_of_split split

theorem after_word {c : Char} {rest after : List Char}
    (split : (front c rest).chars ++ after = c :: rest)
    (kind : (front c rest).kind.isWord = true)
    : ∀ d ∈ after.head?, isWordChar d = false := by
  obtain ⟨chars, start⟩ := (front_shape c rest).word_of_kind kind
  rw [chars, word, if_pos start, List.cons_append, List.cons.injEq] at split
  exact stops_of_split split.2

end Lexeme

/-- Exactly the whitespace begins with a blank. -/
def Token.BlankShaped (token : Token) : Prop :=
  token.kind = .whitespace ↔ token.chars.head?.any isBlank = true

instance (token : Token) : Decidable token.BlankShaped :=
  inferInstanceAs (Decidable (_ ↔ _))

theorem blankShaped_front (c : Char) (rest : List Char)
    : (front c rest).BlankShaped := by
  obtain ⟨tail, chars⟩ := chars_front_cons c rest
  rw [Token.BlankShaped, chars, List.head?_cons, Option.any_some]
  constructor
  · intro kind
    exact ((front_shape c rest).blank_of_kind kind).2
  · intro blank
    rw [front_blank blank]
    rfl

theorem blankShaped_lexFrom (text : List Char)
    : ∀ token ∈ lexFrom 0 text, token.BlankShaped :=
  forall_mem_lexFrom blankShaped_front text

end ShaderUplift
