import Mathlib.Data.List.Chain
import ShaderUplift.Proofs.Token.Maximal
import ShaderUplift.Proofs.Token.Reread
import ShaderUplift.Proofs.Token.Separated

/-! Tokens that are read again from their text.
A token may be followed by any text that it is not read into. Only whitespace tokens need not be
parted from one another, as the text does not show where one ends and the next one begins. So the
text of legible tokens is cut into them again, with runs of whitespace joined.
-/

namespace ShaderUplift
open ShaderUplift.Lexeme ShaderUplift.Text

-----------------------------------------------------------------------------------------
-- Runs of whitespace
-----------------------------------------------------------------------------------------

/-- A token put in front of others. Whitespace becomes one token with whitespace behind it. -/
def Token.onto (token : Token) : List Token → List Token
  | [] => [token]
  | next :: later =>
      if token.kind = .whitespace ∧ next.kind = .whitespace then
        ⟨.whitespace, token.text ++ next.text⟩ :: later
      else token :: next :: later

/-- Tokens with each run of whitespace joined into one token. -/
def joinBlanks (tokens : List Token) : List Token :=
  tokens.foldr Token.onto []

theorem joinBlanks_cons (token : Token) (rest : List Token)
    : joinBlanks (token :: rest) = token.onto (joinBlanks rest) :=
  rfl

/-- Two tokens of which one at most is whitespace. -/
def Token.Unjoined (token next : Token) : Prop :=
  ¬(token.kind = .whitespace ∧ next.kind = .whitespace)

theorem Token.onto_of_unjoined {token : Token} {tokens : List Token}
    (unjoined : ∀ next ∈ tokens.head?, token.Unjoined next)
    : token.onto tokens = token :: tokens := by
  cases tokens with
  | nil => rfl
  | cons next later => rw [onto, if_neg (unjoined next rfl)]

/-- Nothing is joined where no two whitespace tokens meet, by induction on the tokens in front. -/
theorem foldr_onto_of_isChain {front back : List Token}
    (chain : List.IsChain Token.Unjoined (front ++ back))
    : front.foldr Token.onto back = front ++ back := by
  induction front with
  | nil => rfl
  | cons token front ih =>
      rw [List.cons_append, List.isChain_cons] at chain
      rw [List.foldr_cons, ih chain.2, Token.onto_of_unjoined chain.1, List.cons_append]

/-- Whitespace is not joined across another token, by induction on the tokens in front of it. -/
theorem joinBlanks_append_cons {token : Token} (visible : token.kind ≠ .whitespace)
    (front back : List Token)
    : joinBlanks (front ++ token :: back) = joinBlanks front ++ token :: joinBlanks back := by
  induction front with
  | nil => exact Token.onto_of_unjoined fun _ _ both => visible both.1
  | cons first front ih =>
      rw [List.cons_append, joinBlanks_cons, ih, joinBlanks_cons]
      cases joinBlanks front with
      | nil =>
          refine Token.onto_of_unjoined fun next head both => ?_
          obtain rfl : token = next := Option.some.inj head
          exact visible both.2
      | cons next later =>
          rw [List.cons_append, Token.onto, Token.onto]
          split <;> rfl

theorem Token.flatMap_chars_onto (token : Token) (tokens : List Token)
    : (token.onto tokens).flatMap chars = token.chars ++ tokens.flatMap chars := by
  cases tokens with
  | nil => simp [onto]
  | cons next later =>
      rw [onto]
      split
      · simp [chars]
      · rfl

/-- Joining whitespace leaves the text as it is. -/
theorem flatMap_chars_joinBlanks (tokens : List Token)
    : (joinBlanks tokens).flatMap Token.chars = tokens.flatMap Token.chars := by
  induction tokens with
  | nil => rfl
  | cons token rest ih =>
      rw [joinBlanks_cons, Token.flatMap_chars_onto, ih, List.flatMap_cons]

/-- No two whitespace tokens meet in a text. -/
theorem isChain_lexFrom (text : List Char)
    : List.IsChain Token.Unjoined (lexFrom 0 text) := by
  induction text using lexFrom_induction with
  | nil => exact .nil
  | cons c rest after split ih =>
      refine List.isChain_cons.mpr ⟨?_, ih⟩
      rintro next first ⟨kind, nextKind⟩
      have whole := Token.isWhole_whitespace split kind
      simp only [Token.IsWhole, kind] at whole
      exact whole.2 next first nextKind

-----------------------------------------------------------------------------------------
-- Legible tokens
-----------------------------------------------------------------------------------------

/-- A token that is written before a text is read again, by itself unless it is whitespace. -/
structure Token.ReadBefore (token : Token) (after : List Char) : Prop where
  some : token.chars ≠ []
  blank : token.kind = .whitespace → ∀ c ∈ token.chars, isBlank c = true
  alone
    : token.kind ≠ .whitespace → lexFrom 0 (token.chars ++ after) = token :: lexFrom 0 after

/-- Every token is read again before the text of the tokens after it, of which `after` comes
last. -/
def Legible : List Token → (after : List Char) → Prop
  | [], _ => True
  | token :: rest, after =>
      token.ReadBefore (rest.flatMap Token.chars ++ after) ∧ Legible rest after

theorem legible_append {front back : List Token} {after : List Char}
    : Legible (front ++ back) after
      ↔ Legible front (back.flatMap Token.chars ++ after) ∧ Legible back after := by
  induction front with
  | nil => simp [Legible]
  | cons token front ih => simp [Legible, ih, and_assoc]

/-- Blanks in front of a text are read together with those that it begins with. -/
theorem lexFrom_blanks {blank : List Char} (some : blank ≠ [])
    (each : ∀ c ∈ blank, isBlank c = true) (text : List Char)
    : lexFrom 0 (blank ++ text)
      = .ofChars .whitespace (blank ++ blanks text) :: lexFrom 0 (text.dropWhile isBlank) := by
  obtain ⟨c, rest, rfl⟩ := List.exists_cons_of_ne_nil some
  have read : front c (rest ++ text) = .ofChars .whitespace (c :: rest ++ blanks text) := by
    rw [front_blank (each c List.mem_cons_self), ← List.cons_append, blanks,
      List.takeWhile_append_of_pos each, blanks]
  have split : c :: (rest ++ text) = c :: rest ++ blanks text ++ text.dropWhile isBlank := by
    simp [blanks, List.takeWhile_append_dropWhile]
  rw [List.cons_append, lexFrom_cons, read, Token.chars_ofChars, split, List.drop_left]

theorem Token.ReadBefore.lexFrom {token : Token} {after : List Char}
    (read : token.ReadBefore after)
    : lexFrom 0 (token.chars ++ after) = token.onto (lexFrom 0 after) := by
  by_cases kind : token.kind = .whitespace
  · rw [lexFrom_blanks read.some (read.blank kind)]
    cases after with
    | nil => simp [blanks, ShaderUplift.lexFrom, onto, ← kind]
    | cons c rest =>
        cases blank : isBlank c with
        | true =>
            have each : ∀ d ∈ [c], isBlank d = true := by simpa using blank
            have later := lexFrom_blanks (List.cons_ne_nil c []) each rest
            rw [List.singleton_append] at later
            simp [later, blanks, blank, onto, kind, ofChars, chars]
        | false =>
            rw [onto_of_unjoined]
            · simp [blanks, blank, ← kind]
            · rintro next first ⟨-, nextKind⟩
              obtain ⟨d, more, same, rfl, -⟩ := head?_of_head?_lexFrom first
              obtain ⟨rfl, rfl⟩ := List.cons.inj same
              rw [((front_shape c rest).blank_of_kind nextKind).2] at blank
              cases blank
  · rw [read.alone kind, onto_of_unjoined fun _ _ both => kind both.1]

/-- The text of legible tokens is cut into them again, with runs of whitespace joined. -/
theorem Legible.lexFrom {tokens : List Token} {after : List Char} (legible : Legible tokens after)
    : lexFrom 0 (tokens.flatMap Token.chars ++ after)
      = tokens.foldr Token.onto (lexFrom 0 after) := by
  induction tokens with
  | nil => rfl
  | cons token rest ih =>
      rw [List.flatMap_cons, List.append_assoc, legible.1.lexFrom, ih legible.2, List.foldr_cons]

/-- The tokens of a text are legible. -/
theorem legible_lexFrom (text : List Char)
    : Legible (lexFrom 0 text) [] := by
  induction text using lexFrom_induction with
  | nil => trivial
  | cons c rest after split ih =>
      refine ⟨?_, ih⟩
      rw [List.append_nil, flatMap_chars_lexFrom, List.drop_zero]
      refine ⟨(chars_front c rest).1, ?_, ?_⟩
      · intro kind d member
        rw [((front_shape c rest).blank_of_kind kind).1] at member
        exact List.mem_takeWhile_imp member
      · intro _
        rw [split, lexFrom_cons, ← split, List.drop_left]

-----------------------------------------------------------------------------------------
-- Other text behind legible tokens
-----------------------------------------------------------------------------------------

/-- A text opens nothing if it does not with more behind it. -/
theorem Lexeme.opens_of_append {c : Char} {rest after : List Char}
    (closed : opens (c :: (rest ++ after)) = false)
    : opens (c :: rest) = false := by
  rw [← Bool.not_eq_true, opens_cons] at closed ⊢
  cases rest with
  | nil => simp_all
  | cons next rest => exact closed

/-- A token is also read again before a text with another one behind a separator, if it stops
there. -/
theorem Token.ReadBefore.replace {token : Token} {middle after next : List Char}
    (read : token.ReadBefore (middle ++ after)) (shaped : token.WellShaped)
    (stops : token.StopsBefore (middle ++ next)) (parted : after.head?.all isSeparator = true)
    (nextParted : next.head?.all isSeparator = true)
    : token.ReadBefore (middle ++ next) := by
  refine ⟨read.some, read.blank, fun visible => ?_⟩
  cases span : token.kind.isSpan with
  | true => exact lexFrom_span span shaped stops
  | false =>
      obtain ⟨c, tail, chars, -⟩ := (wellShaped_iff_of_not_isSpan span).mp shaped
      have same := read.alone visible
      rw [chars, List.cons_append, lexFrom_cons, List.cons.injEq] at same
      obtain ⟨same, -⟩ := same
      have closed := (stopsBefore_iff_of_not_isSpan span _).mp stops
      rw [chars, List.cons_append, ← List.append_assoc] at closed
      have stillClosed := opens_of_append closed
      have notBlank : isBlank c = false := by
        cases blank : isBlank c with
        | false => rfl
        | true =>
            rw [front_blank blank] at same
            exact absurd (same ▸ rfl) visible
      have again : front c (tail ++ (middle ++ next)) = token := by
        rw [← List.append_assoc, front_append nextParted stillClosed notBlank,
          ← front_append parted stillClosed notBlank, List.append_assoc, same]
      rw [chars, lexFrom_append (by rw [again, chars]), again]

/-- Legible tokens stay so when another text is put behind a separator, if they stand apart from
it. By induction on the tokens. -/
theorem Legible.replace {tokens : List Token} {after next : List Char}
    (legible : Legible tokens after) (apart : Token.Apart tokens next)
    (parted : after.head?.all isSeparator = true) (nextParted : next.head?.all isSeparator = true)
    : Legible tokens next := by
  induction tokens with
  | nil => trivial
  | cons token rest ih =>
      obtain ⟨shaped, stops, restApart⟩ := apart
      exact ⟨legible.1.replace shaped stops parted nextParted, ih legible.2 restApart⟩

end ShaderUplift
