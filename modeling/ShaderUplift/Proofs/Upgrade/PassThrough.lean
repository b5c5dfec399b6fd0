import ShaderUplift.Proofs.Upgrade.Target

/-! Shaders for the target pass through.
The text of such a shader gains at most the block of required extensions behind its version
directive, and the text with the block is a fixed point. Only a directive that ends with a
backslash is an exception, because the block would continue its line.
-/

namespace ShaderUplift
open ShaderUplift.Lexeme ShaderUplift.Text

namespace Version

/-- The text of a directive that is kept for the target, after a change of profile. -/
def Site.keptText (site : Site) : String :=
  if site.declared = embedded then "#version 150" else site.directive.text

theorem Site.text_normalized (site : Site)
    : site.normalized.directive.text = site.keptText := by
  simp only [normalized, keptText]
  split <;> rfl

end Version

/-- The text of the block that tokens still need. -/
def missingText (tokens : List Token) : String :=
  if "GL_ARB_separate_shader_objects" ∈ extensionsIn tokens then ""
  else "\n#extension GL_ARB_separate_shader_objects : enable\n"

theorem render_missingBlock (tokens : List Token)
    : Token.render (ExtensionPolicy.standard.missingBlock tokens) = missingText tokens := by
  rw [ExtensionPolicy.standard_missingBlock, missingText]
  split
  · rfl
  · decide +kernel

theorem Token.render_cons (token : Token) (rest : List Token)
    : render (token :: rest) = token.text ++ render rest := by
  simp [render, Token.chars, String.ofList_append]

theorem Version.Site.render_tokens (site : Site) (inserted : List Token)
    : Token.render (site.tokens inserted)
      = Token.render site.before ++ site.directive.text ++ Token.render inserted
        ++ Token.render site.after := by
  rw [tokens, Token.render_append, Token.render_cons, Token.render_append]
  simp only [String.append_assoc]

/-- The text of a shader for the target, with its directive kept and the block that it needs. -/
def Version.Site.passedThrough (site : Site) (tokens : List Token) : String :=
  Token.render site.before ++ site.keptText ++ missingText tokens ++ Token.render site.after

theorem Version.Site.render_normalized (site : Site) (tokens : List Token)
    : Token.render (site.normalized.tokens (ExtensionPolicy.standard.missingBlock tokens))
      = site.passedThrough tokens := by
  rw [tokens_normalized, Token.render_append, Token.render_cons, Token.render_append,
    text_normalized, render_missingBlock, passedThrough]
  simp only [String.append_assoc]

/-- A text is what stands before its version directive, the directive, and what stands behind. -/
theorem Version.Site.eq_render {source : String} {site : Site}
    (found : site? (lex source) = some site)
    : source = Token.render site.before ++ site.directive.text ++ Token.render site.after := by
  have whole := site.render_tokens []
  rw [tokens_of_site? found, render_lex] at whole
  simpa [Token.render] using whole

/-- The version that counts for a shader with a version directive. -/
theorem Version.Site.normalized_declared {site : Site} {target : String}
    (forTarget
      : site.declared = target ∧ target ≠ embedded
        ∨ site.declared = embedded ∧ target = desktop)
    : site.normalized.declared = target := by
  rcases forTarget with ⟨rfl, distinct⟩ | ⟨profile, rfl⟩
  · simp [normalized, distinct]
  · simp [normalized, profile]

/-- The directive that is kept for the target is one whole line, and declares the target. -/
theorem Version.Site.normalized_directive {site : Site} {target : String} {line : List Char}
    (chars : site.directive.chars = '#' :: line) (whole : logicalLine false line = line)
    (declares : site.directive.version? = some site.declared)
    (forTarget
      : site.declared = target ∧ target ≠ embedded
        ∨ site.declared = embedded ∧ target = desktop)
    : site.normalized.directive.version? = some target
      ∧ ∃ kept,
          site.normalized.directive.chars = '#' :: kept ∧ logicalLine false kept = kept := by
  rcases forTarget with ⟨rfl, distinct⟩ | ⟨profile, rfl⟩
  · rw [normalized, if_neg distinct]
    exact ⟨declares, line, chars, whole⟩
  · rw [normalized, if_pos profile]
    exact ⟨version?_declaring_desktop, _, chars_declaring_desktop,
      logicalLine_declaring_desktop⟩

/-- Behind a kept directive that does not end with a backslash, the tokens of a shader for the
target stand apart and count as such. -/
theorem apart_passedThrough {source target : String} {site : Version.Site}
    (found : Version.site? (lex source) = some site)
    (forTarget
      : site.declared = target ∧ target ≠ Version.embedded
        ∨ site.declared = Version.embedded ∧ target = Version.desktop)
    (ended : site.keptText.toList.getLast? ≠ some '\\')
    : Token.Apart
          (site.normalized.tokens (ExtensionPolicy.standard.missingBlock (lex source))) []
      ∧ IsCurrent .standard target
          (site.normalized.tokens (ExtensionPolicy.standard.missingBlock (lex source))) := by
  obtain ⟨split, first, declares⟩ := Version.site?_eq_some_iff.mp found
  have sourceApart : Token.Apart (lex source) [] := apart_lexFrom source.toList
  rw [split, Token.apart_append] at sourceApart
  obtain ⟨beforeApart, shaped, stops, afterApart⟩ := sourceApart
  have kind := Token.kind_of_version? declares
  simp only [Token.WellShaped, kind] at shaped
  simp only [Token.StopsBefore, kind, List.append_nil] at stops
  obtain ⟨line, chars, whole⟩ := shaped
  obtain ⟨keptDeclares, kept, keptChars, keptWhole⟩ :=
    Version.Site.normalized_directive chars whole declares forTarget
  have keptEnded : kept.getLast? ≠ some '\\' := by
    intro last
    rw [← Version.Site.text_normalized] at ended
    change site.normalized.directive.chars.getLast? ≠ some '\\' at ended
    simp [keptChars, List.getLast?_cons, last] at ended
  have distinct : target ≠ Version.embedded := by
    rcases forTarget with ⟨-, distinct⟩ | ⟨-, rfl⟩
    · exact distinct
    · decide
  rw [List.flatMap_cons, chars, List.append_nil, List.cons_append] at beforeApart
  have named : extensionsIn (site.before ++ site.after) = extensionsIn (lex source) := by
    rw [split, extensionsIn_append, extensionsIn_append,
      extensionsIn_cons_of_none (Token.extension?_eq_none_of_version? declares)]
  rw [Version.tokens_normalized]
  refine ⟨Token.apart_version beforeApart (Token.kind_of_version? keptDeclares) keptChars
    keptWhole keptEnded afterApart ?_, isCurrent_version first keptDeclares distinct ?_⟩
  · rw [ExtensionPolicy.standard_missingBlock]
    split
    · exact Or.inr ⟨rfl, head?_isLineBreak_of_logicalLine stops⟩
    · exact Or.inl rfl
  · rw [named]
    exact ExtensionPolicy.mem_extensionsIn_or_missingBlock ExtensionPolicy.isProper_standard _

/-- A shader for the target keeps its text up to the block that it lacks, in both stages, and the
text that results is a fixed point. -/
theorem upgrade_passedThrough {source target : String} {site : Version.Site}
    (found : Version.site? (lex source) = some site)
    (forTarget
      : site.declared = target ∧ target ≠ Version.embedded
        ∨ site.declared = Version.embedded ∧ target = Version.desktop)
    : source = Token.render site.before ++ site.directive.text ++ Token.render site.after
      ∧ (∀ stage, upgrade source stage target = .ok (site.passedThrough (lex source)))
      ∧ (site.keptText.toList.getLast? ≠ some '\\'
          → ∀ stage,
              upgrade (site.passedThrough (lex source)) stage target
                = .ok (site.passedThrough (lex source))) := by
  refine ⟨Version.Site.eq_render found, ?_, ?_⟩
  · intro stage
    rw [upgrade, Upgrader.upgrade, upgradeTokens_of_normalized found
      (Version.Site.normalized_declared forTarget) stage, ← Version.Site.render_normalized]
    rfl
  · intro ended stage
    obtain ⟨apart, current⟩ := apart_passedThrough found forTarget ended
    rw [← Version.Site.render_normalized]
    exact (current.lex_render apart).upgrade stage

/-- A shader for the embedded profile becomes one for the desktop version, once and for all. -/
theorem upgrade_passedThrough_embedded
    : (∀ stage,
        upgrade "#version 300 es\nvoid main(){}\n" stage "150"
          = .ok
              "#version 150\n#extension GL_ARB_separate_shader_objects : enable\n\nvoid main(){}\n")
      ∧ ∀ stage,
          upgrade
              "#version 150\n#extension GL_ARB_separate_shader_objects : enable\n\nvoid main(){}\n"
              stage "150"
            = .ok
                "#version 150\n#extension GL_ARB_separate_shader_objects : enable\n\nvoid main(){}\n" := by
  have found : Version.site? (lex "#version 300 es\nvoid main(){}\n")
      = some ⟨[], .directive "#version 300 es", "300 es", lex "\nvoid main(){}\n"⟩ := by
    rfl
  obtain ⟨-, passes, stable⟩ := upgrade_passedThrough found (Or.inr ⟨rfl, rfl⟩)
  have text
      : Version.Site.passedThrough
          ⟨[], .directive "#version 300 es", "300 es", lex "\nvoid main(){}\n"⟩
          (lex "#version 300 es\nvoid main(){}\n")
        = "#version 150\n#extension GL_ARB_separate_shader_objects : enable\n\nvoid main(){}\n" := by
    decide +kernel
  rw [text] at passes stable
  exact ⟨passes, stable (by decide +kernel)⟩

end ShaderUplift
