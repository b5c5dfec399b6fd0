import ShaderUplift.Proofs.Extension.Printed
import ShaderUplift.Proofs.Upgrade.Remaining

/-! Which extensions an upgraded shader declares.
The block that is put in declares the names that are missing. Pruning then drops the obsolete names
of the shader and none of the required ones.
-/

namespace ShaderUplift

variable {policy : ExtensionPolicy} {target : String} {stage : Stage} {tokens : List Token}

/-- What remains of a legacy shader declares its names in their order without the obsolete ones,
and the missing names directly behind the version. -/
theorem exists_extensionsIn_remaining
    (proper : ∀ name ∈ policy.required, ExtensionPolicy.IsProper name)
    (current : ∀ name ∈ policy.required, name ∉ policy.obsolete)
    (isLegacy : Version.IsLegacy target tokens)
    : ∃ before after,
        Version.Opening tokens before after
        ∧ extensionsIn (policy.remaining target tokens)
          = (extensionsIn before).filter (fun name => name ∉ policy.obsolete)
            ++ policy.missing tokens
            ++ (extensionsIn after).filter (fun name => name ∉ policy.obsolete) := by
  obtain ⟨before, after, opening, remaining⟩ := exists_remaining_eq policy isLegacy
  refine ⟨before, after, opening, ?_⟩
  have required : ∀ name ∈ policy.missing tokens, name ∈ policy.required :=
    fun name member => (List.mem_filter.mp member).1
  have kept : (policy.missing tokens).filter (fun name => name ∉ policy.obsolete)
      = policy.missing tokens := by
    rw [List.filter_eq_self]
    intro name member
    simpa using current name (required name member)
  have printed : extensionsIn (policy.missingBlock tokens) = policy.missing tokens :=
    ExtensionPolicy.extensionsIn_missingBlock proper tokens
  simp only [ExtensionPolicy.prune] at remaining
  rw [remaining, extensionsIn_append,
    extensionsIn_cons_of_none (Version.extension?_declaring target), extensionsIn_append]
  simp only [ExtensionPolicy.extensionsIn_pruneAfter, printed, kept, List.append_assoc]

/-- The result of upgrading a legacy shader declares the required names that the shader lacks
directly behind the version directive, in their order, and otherwise the names of the shader that
are not obsolete. So it declares every required name, and no obsolete one. -/
theorem extensionsIn_upgraded {result : List Token}
    (proper : ∀ name ∈ policy.required, ExtensionPolicy.IsProper name)
    (current : ∀ name ∈ policy.required, name ∉ policy.obsolete)
    (isLegacy : Version.IsLegacy target tokens)
    (upgraded : upgradeTokens policy target stage tokens = .ok result)
    : ∃ before after,
        Version.Opening tokens before after
        ∧ extensionsIn result
          = (extensionsIn before).filter (fun name => name ∉ policy.obsolete)
            ++ policy.required.filter (fun name => name ∉ extensionsIn tokens)
            ++ (extensionsIn after).filter (fun name => name ∉ policy.obsolete)
        ∧ (∀ name ∈ policy.required, name ∈ extensionsIn result)
        ∧ ∀ name ∈ policy.obsolete, name ∉ extensionsIn result := by
  obtain ⟨front, inserted, back, rewritten, rfl⟩ := exists_rewritten isLegacy upgraded
  obtain ⟨before, after, opening, declared⟩ :=
    exists_extensionsIn_remaining proper current isLegacy
  rw [← extensionsIn_directivesIn, ← rewritten.directivesIn_eq, extensionsIn_directivesIn,
    ExtensionPolicy.missing] at declared
  have named : ∀ name,
      name ∈ extensionsIn tokens ↔ name ∈ extensionsIn before ∨ name ∈ extensionsIn after := by
    intro name
    rw [opening.extensionsIn, List.mem_append]
  refine ⟨before, after, opening, declared, ?_, ?_⟩
  · intro name required
    rw [declared]
    simp only [List.mem_append, List.mem_filter, decide_eq_true_eq, named]
    have kept := current name required
    tauto
  · intro name obsolete declares
    rw [declared] at declares
    simp only [List.mem_append, List.mem_filter, decide_eq_true_eq] at declares
    rcases declares with (early | missing) | late
    · exact early.2 obsolete
    · exact current name missing.1 obsolete
    · exact late.2 obsolete

/-- A shader that names an obsolete extension on either side of its version directive, and in front
of it one that stays. -/
theorem extensionsIn_upgraded_of_standard
    : ∃ tokens result before after,
        tokens
          = [ ExtensionPolicy.enabling "GL_EXT_frag_depth", .newline,
            ExtensionPolicy.enabling "GL_OES_texture_3D", .newline, Version.declaring "100",
            .newline, ExtensionPolicy.enabling "GL_EXT_draw_buffers" ]
        ∧ (∀ name ∈ ExtensionPolicy.standard.required, ExtensionPolicy.IsProper name)
        ∧ (∀ name ∈ ExtensionPolicy.standard.required,
            name ∉ ExtensionPolicy.standard.obsolete)
        ∧ Version.IsLegacy Version.desktop tokens
        ∧ upgradeTokens .standard Version.desktop .vertex tokens = .ok result
        ∧ Version.Opening tokens before after
        ∧ extensionsIn result
          = (extensionsIn before).filter (fun name => name ∉ ExtensionPolicy.standard.obsolete)
            ++ ["GL_ARB_separate_shader_objects"]
            ++ (extensionsIn after).filter
              (fun name => name ∉ ExtensionPolicy.standard.obsolete) := by
  have isLegacy
      : Version.IsLegacy Version.desktop
          [ ExtensionPolicy.enabling "GL_EXT_frag_depth", .newline,
            ExtensionPolicy.enabling "GL_OES_texture_3D", .newline, Version.declaring "100",
            .newline, ExtensionPolicy.enabling "GL_EXT_draw_buffers" ] :=
    Or.inr (by decide +kernel)
  have upgraded
      : upgradeTokens .standard Version.desktop .vertex
          [ ExtensionPolicy.enabling "GL_EXT_frag_depth", .newline,
            ExtensionPolicy.enabling "GL_OES_texture_3D", .newline, Version.declaring "100",
            .newline, ExtensionPolicy.enabling "GL_EXT_draw_buffers" ]
        = .ok
            [ ExtensionPolicy.enabling "GL_OES_texture_3D", .newline,
              Version.declaring Version.desktop, .newline,
              ExtensionPolicy.enabling "GL_ARB_separate_shader_objects", .newline, .newline ] := by
    decide +kernel
  obtain ⟨before, after, opening, declared, -⟩ :=
    extensionsIn_upgraded ExtensionPolicy.isProper_standard ExtensionPolicy.current_standard
      isLegacy upgraded
  exact ⟨_, _, before, after, rfl, ExtensionPolicy.isProper_standard,
    ExtensionPolicy.current_standard, isLegacy, upgraded, opening, declared⟩

end ShaderUplift
