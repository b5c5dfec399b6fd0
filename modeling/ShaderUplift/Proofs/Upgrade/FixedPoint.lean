import ShaderUplift.Proofs.Upgrade.PassThrough
import ShaderUplift.Proofs.Upgrade.Repeated
import ShaderUplift.Proofs.Upgrade.Unfixed

/-! The fixed points of upgrading.
A text is its own upgrade exactly if it is a shader for the target. So upgrading twice is the same
as upgrading once wherever the result is such a shader when it is read again.
-/

namespace ShaderUplift
open ShaderUplift.Lexeme ShaderUplift.Text

-----------------------------------------------------------------------------------------
-- What a legacy text begins with when it is upgraded
-----------------------------------------------------------------------------------------

/-- Declarations are put behind every directive that leads. -/
theorem Rewritten.exists_behind {stage : Stage} {target : String}
    {tokens front inserted back before after : List Token} {directive : Token}
    (rewritten : Rewritten stage target tokens front inserted back)
    (forms : front ++ back = before ++ directive :: after)
    (leading : directive.isLeadingDirective = true)
    : ∃ rest, front ++ inserted ++ back = before ++ directive :: rest := by
  by_cases none : FragmentOutput.used stage tokens = []
  · have nothing := rewritten.inserted_eq_nil_iff.mpr none
    exact ⟨after, by rw [nothing, List.append_nil, forms]⟩
  · obtain ⟨prologue, skipped, rfl, gap⟩ := rewritten.behind none
    have ends := gap.ends
    rw [← List.append_assoc, forms] at ends
    have inside := Declaration.lt_prologueLength_of_isAnchor (Or.inl leading) ends
    rcases List.append_eq_append_iff.mp forms with ⟨more, whole, -⟩ | ⟨more, whole, split⟩
    · have length := congrArg List.length whole
      simp only [List.length_append] at length
      omega
    · cases more with
      | nil =>
          have length := congrArg List.length whole
          simp only [List.length_append, List.length_nil] at length
          omega
      | cons token more =>
          obtain ⟨rfl, -⟩ := List.cons.inj split
          exact ⟨more ++ inserted ++ back, by simp [whole]⟩

/-- An upgraded legacy shader has the forms of what stands before its version directive, and then
the new directive. -/
theorem exists_upgraded_eq {stage : Stage} {tokens result : List Token}
    (isLegacy : Version.IsLegacy Version.desktop tokens)
    (upgraded : upgradeTokens .standard Version.desktop stage tokens = .ok result)
    : ∃ before after forms rest,
        Version.Opening tokens before after
        ∧ List.Forall₂ (Recast stage) (ExtensionPolicy.standard.pruneAfter 0 before) forms
        ∧ result = forms ++ Version.declaring Version.desktop :: rest := by
  obtain ⟨front, inserted, back, rewritten, rfl⟩ := exists_rewritten isLegacy upgraded
  obtain ⟨before, after, opening, remaining⟩ := exists_remaining isLegacy
  have recasts := forall₂_recast rewritten.forms
  rw [remaining, ← List.singleton_append] at recasts
  obtain ⟨forms, later, split, formRecasts, -⟩ := exists_forms (by decide) recasts
  obtain ⟨rest, whole⟩ := rewritten.exists_behind split (by decide +kernel)
  exact ⟨before, after, forms, rest, opening, formRecasts, whole⟩

-----------------------------------------------------------------------------------------
-- Fixed points
-----------------------------------------------------------------------------------------

/-- No legacy text is its own upgrade. -/
theorem upgrade_ne_of_isLegacy {text : String}
    (isLegacy : Version.IsLegacy Version.desktop (lex text)) (stage : Stage)
    : upgrade text stage Version.desktop ≠ .ok text := by
  intro fixed
  obtain ⟨result, upgraded, same⟩ := exists_upgradeTokens fixed
  obtain ⟨before, after, forms, rest, opening, recasts, rfl⟩ :=
    exists_upgraded_eq isLegacy upgraded
  have chars : text.toList
      = forms.flatMap Token.chars ++ ("#version 150".toList ++ rest.flatMap Token.chars) := by
    have begins : (Version.declaring Version.desktop).chars = "#version 150".toList := rfl
    rw [same, Token.toList_render, List.flatMap_append, List.flatMap_cons, begins]
  cases opening with
  | replaced split first declares => exact not_fixed declares split recasts chars.symm
  | inserted none =>
      cases recasts
      rw [lex, chars, List.flatMap_nil, List.nil_append] at none
      cases read : lexFrom 0 ("#version 150".toList ++ rest.flatMap Token.chars) with
      | nil => cases eq_nil_of_lexFrom read
      | cons token tokens =>
          obtain ⟨version, declares, -⟩ := version?_of_front read
          rw [read, Version.declaredIn_cons_of_some declares] at none
          cases none

/-- The new version directive declares the desktop version, alone or with the block. -/
theorem version?_desktop_missing (tokens : List Token)
    : Directive.version? ("#version 150" ++ missingText tokens).toList
      = some Version.desktop := by
  simp only [missingText]
  split
  · decide +kernel
  · decide +kernel

/-- A directive that is kept, and followed by the block, is its own replacement only if it is for
the target already and nothing is missing. -/
theorem Version.Site.eq_of_text {site : Site} {tokens : List Token}
    (declares : site.directive.version? = some site.declared)
    (text : site.directive.text = site.keptText ++ missingText tokens)
    : site.declared ≠ embedded ∧ missingText tokens = "" := by
  have notEmbedded : site.declared ≠ embedded := by
    intro profile
    rw [keptText, if_pos profile] at text
    rw [Token.version?, if_pos (Token.kind_of_version? declares), Token.chars, text,
      version?_desktop_missing, profile] at declares
    exact absurd (Option.some.inj declares) (by decide)
  refine ⟨notEmbedded, ?_⟩
  rw [keptText, if_neg notEmbedded] at text
  have chars := congrArg String.toList text
  rw [String.toList_append] at chars
  exact String.toList_inj.mp (List.self_eq_append_right.mp chars)

/-- A text that is its own upgrade, and has a version directive for the target or the embedded
profile, is a shader for the target. -/
theorem isCurrent_of_passedThrough {text : String} {site : Version.Site}
    (found : Version.site? (lex text) = some site)
    (forTarget : site.normalized.declared = Version.desktop)
    (same : text = site.passedThrough (lex text))
    : IsCurrent .standard Version.desktop (lex text) := by
  obtain ⟨-, -, declares⟩ := Version.site?_eq_some_iff.mp found
  have texts : site.directive.text = site.keptText ++ missingText (lex text) := by
    have whole := (Version.Site.eq_render found).symm.trans same
    rw [Version.Site.passedThrough, String.append_left_inj, String.append_assoc,
      String.append_right_inj] at whole
    exact whole
  obtain ⟨notEmbedded, nothing⟩ := Version.Site.eq_of_text declares texts
  rw [Version.Site.normalized, if_neg notEmbedded] at forTarget
  refine ⟨?_, by decide, ?_⟩
  · rw [← Version.map_declared_site?, found, Option.map_some, forTarget]
  · intro name member
    obtain rfl := List.mem_singleton.mp member
    unfold missingText at nothing
    split at nothing
    · rename_i named
      exact named
    · exact absurd nothing (by decide +kernel)

/-- A text that is its own upgrade is a shader for the target. -/
theorem isCurrent_of_upgrade_eq {text : String} {stage : Stage}
    (fixed : upgrade text stage Version.desktop = .ok text)
    : IsCurrent .standard Version.desktop (lex text) := by
  obtain ⟨result, upgraded, same⟩ := exists_upgradeTokens fixed
  cases found : Version.site? (lex text) with
  | none =>
      have declared := Version.map_declared_site? (lex text)
      rw [found] at declared
      exact absurd fixed (upgrade_ne_of_isLegacy (Or.inl declared.symm) stage)
  | some site =>
      have declared := Version.map_declared_site? (lex text)
      rw [found, Option.map_some] at declared
      have notLegacy : site.declared ≠ Version.legacy := by
        intro legacy
        rw [legacy] at declared
        exact upgrade_ne_of_isLegacy (Or.inr ⟨declared.symm, by decide⟩) stage fixed
      by_cases forTarget : site.normalized.declared = Version.desktop
      · rw [upgradeTokens_of_normalized found forTarget stage, Except.ok.injEq] at upgraded
        rw [← upgraded, Version.Site.render_normalized] at same
        exact isCurrent_of_passedThrough found forTarget same
      · have other : site.normalized.declared ≠ Version.legacy := by
          simp only [Version.Site.normalized] at forTarget ⊢
          split at forTarget
          · exact absurd rfl forTarget
          · rename_i notEmbedded
            rw [if_neg notEmbedded]
            exact notLegacy
        rw [upgradeTokens_of_unknown found forTarget other] at upgraded
        cases upgraded

/-- Upgrading an upgraded legacy shader again gives it back exactly if it is a shader for the
target when it is read again. This is so for every spaced shader.
-/
theorem upgrade_again_iff {source text : String} {stage : Stage}
    (isLegacy : Version.IsLegacy Version.desktop (lex source))
    (upgraded : upgrade source stage Version.desktop = .ok text)
    : (upgrade text stage Version.desktop = .ok text
        ↔ IsCurrent .standard Version.desktop (lex text))
      ∧ (Spaced source → upgrade text stage Version.desktop = .ok text) := by
  refine ⟨⟨isCurrent_of_upgrade_eq, fun current => current.upgrade stage⟩, ?_⟩
  intro spaced
  have current := spaced.isCurrent_upgrade isLegacy upgraded
  exact current.upgrade stage

/-- The declaration of an output stays on its line when the shader is upgraded again. -/
theorem upgrade_again_color
    : upgrade "gl_FragColor" .fragment "150"
        = .ok
            "#version 150\n#extension GL_ARB_separate_shader_objects : enable\nout vec4 unique_fragColor;\nunique_fragColor"
      ∧ upgrade
            "#version 150\n#extension GL_ARB_separate_shader_objects : enable\nout vec4 unique_fragColor;\nunique_fragColor"
            .fragment "150"
          = .ok
              "#version 150\n#extension GL_ARB_separate_shader_objects : enable\nout vec4 unique_fragColor;\nunique_fragColor" := by
  have isLegacy : Version.IsLegacy "150" (lex "gl_FragColor") := Or.inl (by decide +kernel)
  have upgraded
      : upgrade "gl_FragColor" .fragment "150"
        = .ok
            "#version 150\n#extension GL_ARB_separate_shader_objects : enable\nout vec4 unique_fragColor;\nunique_fragColor" := by
    decide +kernel
  have tokens : lex "gl_FragColor" = [⟨.builtin, "gl_FragColor"⟩] := by decide +kernel
  have spaced : Spaced "gl_FragColor" := by
    refine ⟨?_, Or.inr (Or.inl (by decide +kernel)), ?_⟩
    · rw [tokens]
      exact .singleton _
    · intro token last isOpen
      rw [tokens] at last
      obtain rfl : _ = token := Option.some.inj last
      cases isOpen.1
  obtain ⟨-, again⟩ := upgrade_again_iff isLegacy upgraded
  exact ⟨upgraded, again spaced⟩

/-- Without a block the new version directive runs into the first line, and the result is no
shader for the target. -/
theorem upgrade_again_glued
    : Version.declaredIn
          (lex "#extension GL_ARB_separate_shader_objects : enable\nvoid main()\x7b\x7d")
        = none
      ∧ upgrade "#extension GL_ARB_separate_shader_objects : enable\nvoid main()\x7b\x7d"
            .vertex "150"
          = .ok
              "#version 150#extension GL_ARB_separate_shader_objects : enable\nvoid main()\x7b\x7d"
      ∧ upgrade
            "#version 150#extension GL_ARB_separate_shader_objects : enable\nvoid main()\x7b\x7d"
            .vertex "150"
          ≠ .ok
              "#version 150#extension GL_ARB_separate_shader_objects : enable\nvoid main()\x7b\x7d" := by
  refine ⟨?_, ?_, ?_⟩
  · decide +kernel
  · decide +kernel
  · decide +kernel

end ShaderUplift
