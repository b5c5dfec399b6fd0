import ShaderUplift.Proofs.Output.Synthesized
import ShaderUplift.Proofs.Upgrade.InContext
import ShaderUplift.Proofs.Upgrade.Remaining

/-! What an upgraded shader takes over from a legacy shader.
Every token that pruning keeps has its image at the same place, whatever the tokens are. Around the
images there is only what the upgrade puts in: a version directive, a block of extensions, and the
declarations of outputs on lines of their own.
-/

namespace ShaderUplift

-----------------------------------------------------------------------------------------
-- Tokens of some kinds
-----------------------------------------------------------------------------------------

/-- The tokens of some kinds. -/
def ofKinds (kinds : List TokenKind) (tokens : List Token) : List Token :=
  tokens.filter fun token => token.kind ∈ kinds

/-- The kinds of literals and comments. -/
def TokenKind.inert : List TokenKind :=
  [.integer, .float, .lineComment, .blockComment]

theorem ofKinds_append (kinds : List TokenKind) (front back : List Token)
    : ofKinds kinds (front ++ back) = ofKinds kinds front ++ ofKinds kinds back :=
  List.filter_append ..

theorem ofKinds_codeIn {kinds : List TokenKind}
    (code : TokenKind.directive ∉ kinds ∧ TokenKind.whitespace ∉ kinds) (tokens : List Token)
    : ofKinds kinds (codeIn tokens) = ofKinds kinds tokens := by
  rw [ofKinds, codeIn, List.filter_filter]
  apply List.filter_congr
  intro token _
  by_cases listed : token.kind ∈ kinds
  · have notDirective : token.kind ≠ .directive := fun kind => code.1 (kind ▸ listed)
    have notWhitespace : token.kind ≠ .whitespace := fun kind => code.2 (kind ▸ listed)
    simp [Token.isCode, listed, notDirective, notWhitespace]
  · simp [listed]

/-- Tokens that are neither layout nor words are among the forms as they are among the tokens of a
legacy shader. -/
theorem Rewritten.ofKinds_forms {policy : ExtensionPolicy} {stage : Stage} {target : String}
    {tokens front inserted back : List Token} (isLegacy : Version.IsLegacy target tokens)
    (rewritten : Rewritten stage target (policy.remaining target tokens) front inserted back)
    {kinds : List TokenKind}
    (code : TokenKind.directive ∉ kinds ∧ TokenKind.whitespace ∉ kinds)
    (plain : ∀ kind ∈ kinds, kind.isWord = false)
    : ofKinds kinds tokens = ofKinds kinds front ++ ofKinds kinds back := by
  have dropped
      : ∀ token : Token, token.kind.isWord = true → decide (token.kind ∈ kinds) = false := by
    intro token isWord
    rw [decide_eq_false_iff_not]
    intro listed
    rw [plain _ listed] at isWord
    cases isWord
  have same := filter_forms dropped (forall₂_recast rewritten.forms)
  rw [← ofKinds_append, ← ofKinds_codeIn code tokens, ← codeIn_remaining policy isLegacy,
    ofKinds_codeIn code]
  exact same.symm

-----------------------------------------------------------------------------------------
-- What is put in
-----------------------------------------------------------------------------------------

/-- Every declaration of an output contributes the same tokens of some kinds. -/
theorem ofKinds_stacked {kinds : List TokenKind} {part : List Token}
    (unbroken : TokenKind.whitespace ∉ kinds)
    (each : ∀ output : FragmentOutput, ofKinds kinds output.declaration = part)
    (outputs : List FragmentOutput) (before after : List Token)
    : ofKinds kinds
          (Declaration.stacked before (outputs.map FragmentOutput.declaration) after)
      = (List.replicate outputs.length part).flatten := by
  have dropped : decide (Token.newline.kind ∈ kinds) = false := decide_eq_false unbroken
  have parts : (outputs.map FragmentOutput.declaration).reverse.map (ofKinds kinds)
      = List.replicate outputs.length part := by
    rw [List.map_reverse, List.map_map, List.eq_replicate_iff]
    simp [each]
  rw [ofKinds, Declaration.filter_stacked dropped, List.filter_flatten, ← parts]
  rfl

/-- The block holds directives and whitespace. -/
theorem ExtensionPolicy.isWord_of_isPruned_missingBlock {policy : ExtensionPolicy}
    {tokens block : List Token} (pruned : policy.IsPruned (policy.missingBlock tokens) block)
    : ∀ token ∈ block, token.kind.isWord = false := by
  intro token member
  rw [isPruned_iff.mp pruned] at member
  rcases mem_block ((pruneAfter_sublist 0 _).subset member) with rfl | ⟨name, -, rfl⟩
  · rfl
  · rfl

-----------------------------------------------------------------------------------------
-- What is taken over
-----------------------------------------------------------------------------------------

/-- An upgraded legacy shader is made of the images of its tokens. Those that pruning keeps get the
new version directive and the block, and take their images among those. The declarations part the
images at one place. No literal and no comment changes, and each declaration adds one semicolon to
the operators.
-/
theorem upgraded_carried {policy : ExtensionPolicy} {stage : Stage} {target : String}
    {tokens result : List Token} (isLegacy : Version.IsLegacy target tokens)
    (upgraded : upgradeTokens policy target stage tokens = .ok result)
    : ∃ kept before block after early late front back,
        policy.IsPruned tokens kept
        ∧ policy.IsPruned (policy.missingBlock tokens) block
        ∧ Version.Opening kept before after
        ∧ Images stage target (before ++ Version.declaring target :: (block ++ after))
            (early ++ Version.declaring target :: (block ++ late))
        ∧ early.length = before.length
        ∧ early ++ Version.declaring target :: (block ++ late) = front ++ back
        ∧ result
          = front
            ++ Declaration.stacked front
                ((FragmentOutput.used stage tokens).map FragmentOutput.declaration) back
            ++ back
        ∧ ofKinds TokenKind.inert result = ofKinds TokenKind.inert tokens
        ∧ ofKinds [.operator] tokens = ofKinds [.operator] front ++ ofKinds [.operator] back
        ∧ ofKinds [.operator] result
          = ofKinds [.operator] front
            ++ List.replicate (FragmentOutput.used stage tokens).length ⟨.operator, ";"⟩
            ++ ofKinds [.operator] back := by
  obtain ⟨front, inserted, back, rewritten, rfl⟩ := exists_rewritten isLegacy upgraded
  obtain ⟨before, after, opening, remaining⟩ := exists_remaining_eq policy isLegacy
  have images := images_of_modernForms rewritten.forms
  have recasts := forall₂_recast rewritten.forms
  rw [remaining] at images recasts
  have block : policy.IsPruned (policy.missingBlock tokens)
      (policy.prune (policy.missingBlock tokens)) := ExtensionPolicy.isPruned_iff.mpr rfl
  have plain : ∀ token
      ∈ Version.declaring target :: policy.prune (policy.missingBlock tokens),
      token.kind.isWord = false := by
    intro token member
    rcases List.mem_cons.mp member with rfl | member
    · rfl
    · exact ExtensionPolicy.isWord_of_isPruned_missingBlock block token member
  obtain ⟨early, late, forms, earlyRecasts, -⟩ := exists_forms plain recasts
  have declared := rewritten.declared
  rw [← FragmentOutput.used_codeIn, codeIn_remaining policy isLegacy,
    FragmentOutput.used_codeIn] at declared
  have inert
      : ofKinds TokenKind.inert tokens
        = ofKinds TokenKind.inert front ++ ofKinds TokenKind.inert back :=
    rewritten.ofKinds_forms isLegacy (by decide) (by decide)
  have operators
      : ofKinds [.operator] tokens = ofKinds [.operator] front ++ ofKinds [.operator] back :=
    rewritten.ofKinds_forms isLegacy (by decide) (by decide)
  have inertDeclared : ∀ output : FragmentOutput,
      ofKinds TokenKind.inert output.declaration = [] := fun _ => rfl
  have operatorDeclared : ∀ output : FragmentOutput,
      ofKinds [.operator] output.declaration = [⟨.operator, ";"⟩] := fun _ => rfl
  refine ⟨policy.prune tokens, policy.prune before, _, policy.prune after, early, late, front, back,
    ExtensionPolicy.isPruned_iff.mpr rfl, block, opening.prune policy, ?_,
    earlyRecasts.length_eq.symm, forms.symm, ?_, ?_, operators, ?_⟩
  · rwa [forms] at images
  · rw [declared]
  · rw [ofKinds_append, ofKinds_append, declared, ofKinds_stacked (by decide) inertDeclared, inert]
    simp
  · rw [ofKinds_append, ofKinds_append, declared, ofKinds_stacked (by decide) operatorDeclared,
      List.flatten_replicate_singleton]

/-- An obsolete directive goes with the line break behind it, and a comment stays. -/
theorem upgraded_carried_depth
    : ∃ tokens result kept front back,
        tokens
          = [ ⟨.directive, "#version 100"⟩, .newline,
              ⟨.directive, "#extension GL_EXT_frag_depth : enable"⟩, .newline,
              ⟨.builtin, "gl_FragDepthEXT"⟩, ⟨.operator, "="⟩, ⟨.float, "1."⟩, ⟨.operator, ";"⟩,
              ⟨.lineComment, "// z"⟩ ]
        ∧ Version.IsLegacy "150" tokens
        ∧ upgradeTokens .standard "150" .fragment tokens = .ok result
        ∧ ExtensionPolicy.standard.IsPruned tokens kept
        ∧ ofKinds TokenKind.inert result = [⟨.float, "1."⟩, ⟨.lineComment, "// z"⟩]
        ∧ ofKinds [.operator] tokens = ofKinds [.operator] front ++ ofKinds [.operator] back
        ∧ ofKinds [.operator] result
          = ofKinds [.operator] front ++ [⟨.operator, ";"⟩] ++ ofKinds [.operator] back := by
  have isLegacy
      : Version.IsLegacy "150"
          [ ⟨.directive, "#version 100"⟩, .newline,
            ⟨.directive, "#extension GL_EXT_frag_depth : enable"⟩, .newline,
            ⟨.builtin, "gl_FragDepthEXT"⟩, ⟨.operator, "="⟩, ⟨.float, "1."⟩, ⟨.operator, ";"⟩,
            ⟨.lineComment, "// z"⟩ ] :=
    Or.inr ⟨by decide +kernel, by decide⟩
  have upgraded
      : upgradeTokens .standard "150" .fragment
          [ ⟨.directive, "#version 100"⟩, .newline,
            ⟨.directive, "#extension GL_EXT_frag_depth : enable"⟩, .newline,
            ⟨.builtin, "gl_FragDepthEXT"⟩, ⟨.operator, "="⟩, ⟨.float, "1."⟩, ⟨.operator, ";"⟩,
            ⟨.lineComment, "// z"⟩ ]
        = .ok
            (Version.declaring "150" :: ExtensionPolicy.block ["GL_ARB_separate_shader_objects"]
              ++ .newline :: outDeclaration "unique_fragDepth" "float"
              ++ [ .newline, ⟨.identifier, "unique_fragDepth"⟩, ⟨.operator, "="⟩,
                ⟨.float, "1."⟩, ⟨.operator, ";"⟩, ⟨.lineComment, "// z"⟩ ]) := by
    decide +kernel
  obtain ⟨kept, _, _, _, _, _, front, back, pruned, -, -, -, -, -, -, inert, operators, more⟩ :=
    upgraded_carried isLegacy upgraded
  exact ⟨_, _, kept, front, back, rfl, isLegacy, upgraded, pruned, inert, operators, more⟩

end ShaderUplift
