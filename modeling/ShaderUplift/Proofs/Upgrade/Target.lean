import ShaderUplift.Proofs.Extension.Printed
import ShaderUplift.Proofs.Token.Splice
import ShaderUplift.Proofs.Version.Settled
import ShaderUplift.Upgrade

/-! Shaders that are for the target already.
Such a shader keeps every token. It only gains the block of extensions that it lacks, and after
that there is nothing left to change.
-/

namespace ShaderUplift
open ShaderUplift.Lexeme

-----------------------------------------------------------------------------------------
-- Tokens that an upgrade leaves alone
-----------------------------------------------------------------------------------------

/-- Tokens are for a target if they declare it, and every extension that it requires. -/
structure IsCurrent (policy : ExtensionPolicy) (target : String) (tokens : List Token) : Prop where
  declared : Version.declaredIn tokens = some target
  distinct : target ≠ Version.embedded
  required : ∀ name ∈ policy.required, name ∈ extensionsIn tokens

theorem ExtensionPolicy.missingBlock_eq_nil {policy : ExtensionPolicy} {tokens : List Token}
    (required : ∀ name ∈ policy.required, name ∈ extensionsIn tokens)
    : policy.missingBlock tokens = [] := by
  have none : policy.missing tokens = [] := by
    simpa [ExtensionPolicy.missing] using required
  rw [ExtensionPolicy.missingBlock, none, ExtensionPolicy.block]

/-- A shader for the target gets its directive normalized and the missing block after it; no
other token changes, in either stage. -/
theorem upgradeTokens_of_normalized {policy : ExtensionPolicy} {target : String}
    {tokens : List Token} {site : Version.Site} (found : Version.site? tokens = some site)
    (forTarget : site.normalized.declared = target) (stage : Stage)
    : upgradeTokens policy target stage tokens
      = .ok (site.normalized.tokens (policy.missingBlock tokens)) := by
  rw [upgradeTokens, Version.settle_of_normalized found forTarget]
  simp [bind, Except.bind]

/-- A shader with another version than the target and the legacy one is refused. -/
theorem upgradeTokens_of_unknown {policy : ExtensionPolicy} {target : String}
    {tokens : List Token} {site : Version.Site} (found : Version.site? tokens = some site)
    (other : site.normalized.declared ≠ target)
    (notLegacy : site.normalized.declared ≠ Version.legacy) (stage : Stage)
    : upgradeTokens policy target stage tokens
      = .error (.unknownVersion site.declared target) := by
  rw [upgradeTokens, Version.settle_of_unknown found other notLegacy]
  rfl

/-- Tokens for a target have a version directive that stays. -/
theorem IsCurrent.exists_site {policy : ExtensionPolicy} {target : String} {tokens : List Token}
    (current : IsCurrent policy target tokens)
    : ∃ site,
        Version.site? tokens = some site ∧ site.declared = target
        ∧ site.normalized = site := by
  have declared := current.declared
  rw [← Version.map_declared_site?, Option.map_eq_some_iff] at declared
  obtain ⟨site, found, rfl⟩ := declared
  exact ⟨site, found, rfl, if_neg current.distinct⟩

theorem IsCurrent.settle {policy : ExtensionPolicy} {target : String} {tokens : List Token}
    (current : IsCurrent policy target tokens)
    : Version.settle policy target tokens = ⟨tokens, .ok (some target)⟩ := by
  obtain ⟨site, found, declared, normal⟩ := current.exists_site
  have forTarget : site.normalized.declared = target := by rw [normal, declared]
  rw [Version.settle_of_normalized found forTarget, normal,
    ExtensionPolicy.missingBlock_eq_nil current.required, Version.tokens_of_site? found]

theorem IsCurrent.upgradeTokens {policy : ExtensionPolicy} {target : String}
    {tokens : List Token} (current : IsCurrent policy target tokens) (stage : Stage)
    : upgradeTokens policy target stage tokens = .ok tokens := by
  rw [ShaderUplift.upgradeTokens, current.settle]
  simp [bind, Except.bind]

/-- A text that is for the target is a fixed point of upgrading. -/
theorem IsCurrent.upgrade {target text : String}
    (current : IsCurrent .standard target (lex text)) (stage : Stage)
    : upgrade text stage target = .ok text := by
  simp [ShaderUplift.upgrade, Upgrader.upgrade, current.upgradeTokens stage, Except.map,
    render_lex]

-----------------------------------------------------------------------------------------
-- The block of required extensions
-----------------------------------------------------------------------------------------

namespace ExtensionPolicy

/-- The block that declares what the standard policy requires. -/
def standardBlock : List Token :=
  block ["GL_ARB_separate_shader_objects"]

theorem standard_missingBlock (tokens : List Token)
    : standard.missingBlock tokens
      = if "GL_ARB_separate_shader_objects" ∈ extensionsIn tokens then [] else standardBlock := by
  simp only [missingBlock, missing, standard, List.filter_cons, List.filter_nil]
  split <;> simp_all [block, standardBlock]

theorem apart_standardBlock (after : List Char)
    : Token.Apart standardBlock after := by
  have directive : Token.Apart [enabling "GL_ARB_separate_shader_objects"] ('\n' :: after) :=
    Token.apart_directive rfl rfl (by decide +kernel) (by decide +kernel) rfl
  have split : standardBlock
      = [.newline] ++ ([enabling "GL_ARB_separate_shader_objects"] ++ [.newline]) := rfl
  rw [split, Token.apart_append, Token.apart_append]
  exact ⟨Token.apart_newline _, directive, Token.apart_newline after⟩

end ExtensionPolicy

namespace Version

theorem version?_declaring_desktop
    : (declaring desktop).version? = some desktop := by
  decide +kernel

theorem chars_declaring_desktop
    : (declaring desktop).chars = '#' :: "version 150".toList := by
  decide +kernel

theorem logicalLine_declaring_desktop
    : logicalLine false "version 150".toList = "version 150".toList := by
  decide +kernel

end Version

/-- A version directive on a line of its own, with or without the block after it, keeps the tokens
around it apart. -/
theorem Token.apart_version {before after block : List Token} {token : Token} {line : List Char}
    {rest : List Char} (beforeApart : Apart before ('#' :: rest)) (kind : token.kind = .directive)
    (chars : token.chars = '#' :: line) (whole : logicalLine false line = line)
    (ended : line.getLast? ≠ some '\\') (afterApart : Apart after [])
    (spliced
      : block = ExtensionPolicy.standardBlock
        ∨ block = [] ∧ (after.flatMap Token.chars).head?.all Text.isLineBreak = true)
    : Apart (before ++ token :: (block ++ after)) [] := by
  have blockApart : ∀ text, Apart block text := by
    rcases spliced with rfl | ⟨rfl, -⟩
    · exact ExtensionPolicy.apart_standardBlock
    · exact fun _ => trivial
  have nextLine : ((block ++ after).flatMap Token.chars ++ []).head?.all Text.isLineBreak
      = true := by
    rcases spliced with rfl | ⟨rfl, nextLine⟩
    · rfl
    · simpa using nextLine
  have directiveApart := apart_directive kind chars whole ended nextLine
  rw [apart_append, ← List.singleton_append, apart_append, apart_append]
  refine ⟨?_, directiveApart, blockApart _, afterApart⟩
  simpa [chars] using beforeApart.yields (Yields.visible (by decide) _ _)

/-- Tokens are for a target with its directive first, and around it all that is required. -/
theorem isCurrent_version {policy : ExtensionPolicy} {before after block : List Token}
    {token : Token} {target : String} (first : Version.declaredIn before = none)
    (declares : token.version? = some target) (distinct : target ≠ Version.embedded)
    (required
      : ∀ name ∈ policy.required,
          name ∈ extensionsIn (before ++ after) ∨ name ∈ extensionsIn block)
    : IsCurrent policy target (before ++ token :: (block ++ after)) where
  declared := by
    rw [Version.declaredIn_append_of_none first, Version.declaredIn_cons_of_some declares]
  distinct := distinct
  required := by
    intro name member
    have named := required name member
    rw [extensionsIn_append, List.mem_append] at named
    rw [extensionsIn_append,
      extensionsIn_cons_of_none (Token.extension?_eq_none_of_version? declares),
      extensionsIn_append, List.mem_append, List.mem_append]
    tauto

/-- Tokens for the target are read again as such when they stand apart. -/
theorem IsCurrent.lex_render {policy : ExtensionPolicy} {target : String} {tokens : List Token}
    (current : IsCurrent policy target tokens) (apart : Token.Apart tokens [])
    : IsCurrent policy target (lex (Token.render tokens)) where
  declared := by rw [apart.declaredIn_lex_render, current.declared]
  distinct := current.distinct
  required := by
    rw [apart.extensionsIn_lex_render]
    exact current.required

end ShaderUplift
