import ShaderUplift.Proofs.Upgrade.Spaced

/-! Upgrading a legacy shader again.
The declarations of the outputs are put on lines of their own, so the tokens around them stand
apart as before. The result of upgrading a spaced shader is a shader for the target.
-/

namespace ShaderUplift
open ShaderUplift.Lexeme ShaderUplift.Text

-----------------------------------------------------------------------------------------
-- Whitespace
-----------------------------------------------------------------------------------------

theorem Recast.blankShaped {stage : Stage} {token form : Token}
    (recast : Recast stage token form) (wordShaped : token.WordShaped)
    (blankShaped : token.BlankShaped)
    : form.BlankShaped := by
  rcases recast.eq_or_words wordShaped with rfl | ⟨-, isWord, -, c, tail, chars, start, -⟩
  · exact blankShaped
  · rw [Token.BlankShaped, chars, List.head?_cons, Option.any_some, isBlank_of_isWordStart start]
    constructor
    · intro kind
      rw [kind] at isWord
      cases isWord
    · intro impossible
      cases impossible

theorem blankShaped_remaining {source : String}
    (isLegacy : Version.IsLegacy Version.desktop (lex source))
    : ∀ token ∈ ExtensionPolicy.standard.remaining Version.desktop (lex source),
        token.BlankShaped := by
  intro token member
  rcases mem_remaining_standard isLegacy member with member | rfl | rfl | rfl
  · exact blankShaped_lexFrom source.toList token member
  · decide +kernel
  · decide +kernel
  · decide +kernel

-----------------------------------------------------------------------------------------
-- Declarations between forms
-----------------------------------------------------------------------------------------

/-- Forms that stand apart still do so with the declarations between them. -/
theorem Rewritten.apart {stage : Stage} {target : String} {tokens front inserted back : List Token}
    (rewritten : Rewritten stage target tokens front inserted back)
    (apart : Token.Apart (front ++ back) [])
    (blank : ∀ token ∈ front ++ back, token.BlankShaped)
    (closed : ∀ token ∈ (front ++ back).getLast?, ¬token.IsOpen)
    : Token.Apart (front ++ inserted ++ back) [] := by
  by_cases none : FragmentOutput.used stage tokens = []
  · have nothing := rewritten.inserted_eq_nil_iff.mpr none
    simpa [nothing] using apart
  · obtain ⟨prologue, skipped, rfl, gap⟩ := rewritten.behind none
    obtain ⟨-, backApart⟩ := Token.apart_append.mp apart
    obtain ⟨output, later, begins⟩ :=
      Declaration.exists_stacked_eq none (prologue ++ skipped) back
    obtain ⟨tail, declares⟩ : ∃ tail, output.declaration = ⟨.keyword, "out"⟩ :: tail := ⟨_, rfl⟩
    rw [← rewritten.declared, declares] at begins
    have visible : inserted.flatMap Token.chars ++ (back.flatMap Token.chars ++ [])
        = (Declaration.leadingBreak (prologue ++ skipped)).flatMap Token.chars
          ++ 'o' :: ('u' :: 't' :: (tail ++ later).flatMap Token.chars
            ++ (back.flatMap Token.chars ++ [])) := by
      have out : Token.chars ⟨.keyword, "out"⟩ = ['o', 'u', 't'] := by decide +kernel
      simp [begins, out]
    rw [Token.apart_append, Token.apart_append]
    refine ⟨⟨?_, ?_⟩, backApart⟩
    · rw [visible]
      refine gap.apart_before apart blank ?_ _
      rintro rfl
      rwa [List.append_nil] at closed
    · rw [rewritten.declared]
      exact Declaration.apart_stacked _ _ _

theorem IsCurrent.of_directivesIn {policy : ExtensionPolicy} {target : String}
    {tokens other : List Token} (current : IsCurrent policy target tokens)
    (same : directivesIn other = directivesIn tokens)
    : IsCurrent policy target other where
  declared := by
    rw [← Version.declaredIn_directivesIn, same, Version.declaredIn_directivesIn,
      current.declared]
  distinct := current.distinct
  required := by
    rw [← extensionsIn_directivesIn, same, extensionsIn_directivesIn]
    exact current.required

/-- Among the forms of blank shaped tokens every one is blank shaped. -/
theorem blankShaped_forms {stage : Stage} {tokens forms : List Token}
    (recasts : List.Forall₂ (Recast stage) tokens forms)
    (words : ∀ token ∈ tokens, token.WordShaped) (blank : ∀ token ∈ tokens, token.BlankShaped)
    : ∀ form ∈ forms, form.BlankShaped := by
  induction recasts with
  | nil => simp
  | @cons token form tokens forms recast _ ih =>
      intro other member
      rcases List.mem_cons.mp member with rfl | member
      · exact recast.blankShaped (words token (by simp)) (blank token (by simp))
      · exact ih (fun other member => words other (List.mem_cons_of_mem _ member))
          (fun other member => blank other (List.mem_cons_of_mem _ member)) other member

/-- The last form is open only if the last token is, because a directive is its own form. -/
theorem closed_forms {stage : Stage} {tokens forms : List Token}
    (recasts : List.Forall₂ (Recast stage) tokens forms)
    (words : ∀ token ∈ tokens, token.WordShaped)
    (closed : ∀ token ∈ tokens.getLast?, ¬token.IsOpen)
    : ∀ form ∈ forms.getLast?, ¬form.IsOpen := by
  induction recasts with
  | nil => simp
  | @cons token form tokens forms recast recasts ih =>
      cases recasts with
      | cons nextRecast laterRecasts =>
          rw [List.getLast?_cons_cons] at closed ⊢
          exact ih (fun other member => words other (List.mem_cons_of_mem _ member)) closed
      | nil =>
          intro other last isOpen
          obtain rfl : form = other := by simpa using last
          rcases recast.eq_or_words (words token (by simp)) with rfl | ⟨-, isWord, -, -⟩
          · exact closed form rfl isOpen
          · rw [isOpen.1] at isWord
            cases isWord

/-- The result of upgrading is the text of the upgraded tokens. -/
theorem exists_upgradeTokens {source text target : String} {stage : Stage}
    (upgraded : upgrade source stage target = .ok text)
    : ∃ result,
        upgradeTokens .standard target stage (lex source) = .ok result
        ∧ text = Token.render result := by
  unfold upgrade Upgrader.upgrade at upgraded
  dsimp only at upgraded
  cases tokens : upgradeTokens .standard target stage (lex source) with
  | error failure =>
      rw [tokens] at upgraded
      cases upgraded
  | ok result =>
      rw [tokens] at upgraded
      cases upgraded
      exact ⟨result, rfl, rfl⟩

/-- The result of upgrading a spaced legacy shader is a shader for the target. -/
theorem Spaced.isCurrent_upgrade {source text : String} {stage : Stage} (spaced : Spaced source)
    (isLegacy : Version.IsLegacy Version.desktop (lex source))
    (upgraded : upgrade source stage Version.desktop = .ok text)
    : IsCurrent .standard Version.desktop (lex text) := by
  obtain ⟨result, upgradedTokens, rfl⟩ := exists_upgradeTokens upgraded
  obtain ⟨front, inserted, back, rewritten, rfl⟩ := exists_rewritten isLegacy upgradedTokens
  obtain ⟨remainingApart, current⟩ := spaced.apart_remaining isLegacy
  have recasts := forall₂_recast rewritten.forms
  have words := wordShaped_remaining isLegacy
  have apart := rewritten.apart (apart_forms recasts words remainingApart)
    (blankShaped_forms recasts words (blankShaped_remaining isLegacy))
    (closed_forms recasts words (spaced.closed_remaining isLegacy))
  exact (current.of_directivesIn rewritten.directivesIn_eq).lex_render apart

end ShaderUplift
