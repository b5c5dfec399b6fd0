import ShaderUplift.Proofs.Token.Reread
import ShaderUplift.Proofs.Upgrade.Rewriting

/-! The words of a text after they have been rewritten.
Words become words. A word neither ends a line nor makes a comment of the slash before it, so the
tokens around it stand apart whichever word it is.
-/

namespace ShaderUplift
open ShaderUplift.Lexeme ShaderUplift.Text

-----------------------------------------------------------------------------------------
-- Tokens that spell words
-----------------------------------------------------------------------------------------

namespace Token

/-- A token begins like a word and holds no mark of a directive or comment. -/
def SpellsWord (token : Token) : Prop :=
  ∃ c tail, token.chars = c :: tail ∧ isWordStart c = true ∧ Unmarked tail

/-- A token of a kind for words spells one. -/
def WordShaped (token : Token) : Prop :=
  token.kind.isWord = true → token.SpellsWord

end Token

theorem plain_of_isWordStart {c : Char} (start : isWordStart c = true)
    : c ≠ '/' ∧ c ≠ '#' ∧ c ≠ '*' ∧ isLineBreak c = false := by
  refine ⟨?_, ?_, ?_, ?_⟩
  · intro equal
    subst equal
    exact absurd start (by decide)
  · intro equal
    subst equal
    exact absurd start (by decide)
  · intro equal
    subst equal
    exact absurd start (by decide)
  · cases broken : isLineBreak c with
    | false => rfl
    | true =>
        have blank := isBlank_of_isLineBreak broken
        rw [isBlank_of_isWordStart start] at blank
        cases blank

theorem TokenKind.isSpan_of_isWord {kind : TokenKind} (word : kind.isWord = true)
    : kind.isSpan = false := by
  cases kind <;> first | rfl | cases word

theorem Token.SpellsWord.unmarked {token : Token} (spells : token.SpellsWord)
    : Unmarked token.chars := by
  obtain ⟨c, tail, chars, start, unmarked⟩ := spells
  obtain ⟨notSlash, notSign, -⟩ := plain_of_isWordStart start
  rw [chars]
  intro d member
  rcases List.mem_cons.mp member with rfl | member
  · exact ⟨notSlash, notSign⟩
  · exact unmarked d member

theorem wordShaped_front (c : Char) (rest : List Char)
    : (front c rest).WordShaped := by
  intro isWord
  obtain ⟨chars, start⟩ := (front_shape c rest).word_of_kind isWord
  have unmarked := unmarked_word (c :: rest)
  rw [word, if_pos start] at chars unmarked
  exact ⟨c, _, chars, start, unmarked.tail⟩

theorem wordShaped_lexFrom (text : List Char)
    : ∀ token ∈ lexFrom 0 text, token.WordShaped :=
  forall_mem_lexFrom wordShaped_front text

-----------------------------------------------------------------------------------------
-- The forms of words
-----------------------------------------------------------------------------------------

theorem Builtin.withoutSuffixes_subset (text : List Char)
    : ∀ c ∈ withoutSuffixes text, c ∈ text := by
  fun_induction withoutSuffixes text with
  | case1 rest ih | case2 rest ih | case3 rest ih =>
      intro c member
      simp [ih c member]
  | case4 c rest _ _ _ ih =>
      intro d member
      rcases List.mem_cons.mp member with rfl | member
      · exact List.mem_cons_self
      · exact List.mem_cons_of_mem _ (ih d member)
  | case5 => simp

theorem FragmentOutput.spellsWord_reference (output : FragmentOutput)
    : Token.SpellsWord ⟨.identifier, output.variableName⟩ := by
  cases output with
  | color =>
      exact ⟨'u', "nique_fragColor".toList, by decide +kernel, by decide, by decide +kernel⟩
  | depth =>
      exact ⟨'u', "nique_fragDepth".toList, by decide +kernel, by decide, by decide +kernel⟩

theorem Qualifier.spellsWord_modernize {token : Token} (spells : token.SpellsWord)
    (stage : Stage)
    : (modernize stage token).SpellsWord := by
  have input : Token.SpellsWord ⟨token.kind, "in"⟩ :=
    ⟨'i', ['n'], show "in".toList = _ by decide +kernel, by decide, by simp [Unmarked]⟩
  have output : Token.SpellsWord ⟨token.kind, "out"⟩ :=
    ⟨'o', ['u', 't'], show "out".toList = _ by decide +kernel, by decide, by simp [Unmarked]⟩
  simp only [modernize]
  split
  · simp only [modern?]
    split
    · exact input
    · split
      · cases stage with
        | vertex => exact output
        | fragment => exact input
      · exact spells
  · exact spells

theorem Builtin.spellsWord_modernize {token : Token} (spells : token.SpellsWord) (stage : Stage)
    : (modernize stage token).SpellsWord := by
  simp only [modernize]
  split
  · exact spells
  · split
    · rename_i texture
      obtain ⟨rest, isFront⟩ := List.isPrefixOf_iff_prefix.mp texture
      obtain ⟨c, tail, chars, -, unmarked⟩ := spells
      have same : 't' :: ("exture".toList ++ rest) = c :: tail := by
        rw [← chars, Token.chars, ← isFront]
        rfl
      obtain ⟨rfl, -⟩ := List.cons.inj same
      refine ⟨'t', withoutSuffixes tail, by simp [chars, withoutSuffixes], by decide, ?_⟩
      exact fun d member => unmarked d (withoutSuffixes_subset tail d member)
    · split
      · exact FragmentOutput.spellsWord_reference _
      · exact spells

/-- A form is the token itself, or both are words. -/
theorem Recast.eq_or_words {stage : Stage} {token form : Token}
    (recast : Recast stage token form) (shaped : token.WordShaped)
    : form = token
      ∨ token.kind.isWord = true ∧ form.kind.isWord = true
        ∧ token.SpellsWord ∧ form.SpellsWord := by
  cases recast with
  | qualifier kind =>
      have isWord : token.kind.isWord = true := by simp [kind, TokenKind.isWord]
      refine Or.inr ⟨isWord, ?_, shaped isWord,
        Qualifier.spellsWord_modernize (shaped isWord) stage⟩
      simp [Qualifier.modernize, kind, TokenKind.isWord]
  | builtin kind =>
      have isWord : token.kind.isWord = true := by simp [kind, TokenKind.isWord]
      refine Or.inr ⟨isWord, ?_, shaped isWord,
        Builtin.spellsWord_modernize (shaped isWord) stage⟩
      simp only [Builtin.modernize]
      split
      · exact isWord
      · split
        · rfl
        · split
          · rfl
          · exact isWord
  | kept kind free => exact Or.inl rfl
  | escaped kind taken =>
      have isWord : token.kind.isWord = true := by simp [kind, TokenKind.isWord]
      have spells := shaped isWord
      refine Or.inr ⟨isWord, rfl, spells, 'u', "nique_".toList ++ token.chars, ?_, by decide, ?_⟩
      · simp only [Token.chars, String.toList_append]
        rfl
      · exact Unmarked.append (by decide +kernel) spells.unmarked
  | other kind => exact Or.inl rfl

/-- A word yields to whatever token stood before another word. -/
theorem Token.SpellsWord.yields {token form : Token} (spells : token.SpellsWord)
    (formSpells : form.SpellsWord) (after next : List Char)
    : Yields (token.chars ++ after) (form.chars ++ next) := by
  obtain ⟨c, tail, chars, start, -⟩ := spells
  obtain ⟨d, formTail, formChars, formStart, -⟩ := formSpells
  obtain ⟨-, -, -, unbroken⟩ := plain_of_isWordStart start
  obtain ⟨notSlash, -, notStar, formUnbroken⟩ := plain_of_isWordStart formStart
  rw [chars, formChars]
  refine ⟨?_, by simp, ?_, ?_⟩
  · intro continued stops
    have broken := head?_isLineBreak_of_logicalLine stops
    rw [List.cons_append, List.head?_cons, Option.all_some, unbroken] at broken
    cases broken
  · simp [opens_cons, notSlash, notStar]
  · intro feed
    obtain rfl : d = '\n' := by simpa using feed
    cases formUnbroken

/-- The forms of tokens yield to whatever stood before the tokens. -/
theorem yields_forms {stage : Stage} {tokens forms : List Token}
    (recasts : List.Forall₂ (Recast stage) tokens forms)
    (shaped : ∀ token ∈ tokens, token.WordShaped) {after next : List Char}
    (yields : Yields after next)
    : Yields (tokens.flatMap Token.chars ++ after) (forms.flatMap Token.chars ++ next) := by
  induction recasts with
  | nil => exact yields
  | @cons token form tokens forms recast _ ih =>
      rw [List.flatMap_cons, List.flatMap_cons, List.append_assoc, List.append_assoc]
      rcases recast.eq_or_words (shaped token (by simp)) with rfl | ⟨-, -, spells, formSpells⟩
      · exact (ih fun other member => shaped other (List.mem_cons_of_mem _ member)).append _
      · exact spells.yields formSpells _ _

/-- The forms of tokens that stand apart stand apart, by induction on the tokens. -/
theorem apart_forms {stage : Stage} {tokens forms : List Token} {after : List Char}
    (recasts : List.Forall₂ (Recast stage) tokens forms)
    (shaped : ∀ token ∈ tokens, token.WordShaped) (apart : Token.Apart tokens after)
    : Token.Apart forms after := by
  induction recasts with
  | nil => trivial
  | @cons token form tokens forms recast recasts ih =>
      obtain ⟨tokenShaped, stops, restApart⟩ := apart
      have restShaped : ∀ token ∈ tokens, token.WordShaped :=
        fun other member => shaped other (List.mem_cons_of_mem _ member)
      have later := ih restShaped restApart
      rcases recast.eq_or_words (shaped token (by simp)) with rfl | ⟨-, isWord, -, formSpells⟩
      · exact ⟨tokenShaped,
          stops.yields tokenShaped (yields_forms recasts restShaped (Yields.refl after)), later⟩
      · have span := TokenKind.isSpan_of_isWord isWord
        obtain ⟨c, tail, chars, start, unmarked⟩ := formSpells
        obtain ⟨notSlash, notSign, -⟩ := plain_of_isWordStart start
        obtain ⟨formShaped, formStops, -⟩ :=
          Token.apart_singleton span chars ⟨notSlash, notSign⟩ unmarked
            (forms.flatMap Token.chars ++ after)
        exact ⟨formShaped, formStops, later⟩

end ShaderUplift
