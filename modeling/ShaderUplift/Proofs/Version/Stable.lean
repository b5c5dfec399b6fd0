import ShaderUplift.Proofs.Upgrade.Target

/-! Settling the version of a shader that was settled before.
However its version was settled, a shader then declares the target first and names all that the
target requires. So there is nothing left to settle for that target, and every other target refuses
the shader unless it was settled for the legacy version.
-/

namespace ShaderUplift

-----------------------------------------------------------------------------------------
-- What settled tokens look like
-----------------------------------------------------------------------------------------

namespace Version

/-- A normalized directive declares the version that the site counts as. -/
theorem version?_normalized {tokens : List Token} {site : Site} (found : site? tokens = some site)
    : site.normalized.directive.version? = some site.normalized.declared := by
  unfold Site.normalized
  split
  · exact version?_declaring_desktop
  · exact (site?_eq_some_iff.mp found).2.2

/-- Settled tokens have a directive for the target before any other version directive, and behind it
the block that the other tokens lack. -/
theorem exists_settled {policy : ExtensionPolicy} {target : String} {tokens settled : List Token}
    {declared : Option String} (isVersion : Directive.IsVersion target)
    (success : settle policy target tokens = ⟨settled, .ok declared⟩)
    : ∃ before directive after,
        declaredIn before = none ∧ directive.version? = some target
        ∧ settled
          = before ++ directive :: (policy.missingBlock (before ++ after) ++ after) := by
  obtain ⟨settlement, settles⟩ := exists_settles policy target tokens
  have same := settles.settle_eq.symm.trans success
  cases settles with
  | kept firstAt forTarget =>
      obtain ⟨site, found, rfl, rfl, rfl⟩ := firstAt.exists_site
      obtain ⟨rfl, -⟩ := Settlement.mk.inj same
      obtain ⟨-, first, -⟩ := site?_eq_some_iff.mp found
      refine ⟨site.before, site.normalized.directive, site.after, first, ?_, ?_⟩
      · rw [version?_normalized found, site.declared_normalized, forTarget]
      · rw [normalizedAt_site found]
        exact policy.declareAt_behind site.before (extension?_normalized found) site.after
  | replaced firstAt other isLegacy =>
      obtain ⟨site, found, rfl, rfl, rfl⟩ := firstAt.exists_site
      obtain ⟨rfl, -⟩ := Settlement.mk.inj same
      obtain ⟨-, first, -⟩ := site?_eq_some_iff.mp found
      refine ⟨site.before, declaring target, site.after, first, version?_declaring isVersion, ?_⟩
      rw [set_site found]
      exact policy.declareAt_behind site.before (extension?_declaring target) site.after
  | refused firstAt other unsupported => cases (Settlement.mk.inj same).2
  | inserted none =>
      obtain ⟨rfl, -⟩ := Settlement.mk.inj same
      exact ⟨[], declaring target, tokens, rfl, version?_declaring isVersion,
        policy.declareAt_behind [] (extension?_declaring target) tokens⟩

end Version

-----------------------------------------------------------------------------------------
-- Settling again
-----------------------------------------------------------------------------------------

section
variable {policy : ExtensionPolicy} {target : String} {tokens : List Token}

theorem Version.isCurrent_settled {settled : List Token} {declared : Option String}
    (proper : ∀ name ∈ policy.required, ExtensionPolicy.IsProper name)
    (isVersion : Directive.IsVersion target) (distinct : target ≠ embedded)
    (success : settle policy target tokens = ⟨settled, .ok declared⟩)
    : IsCurrent policy target settled := by
  obtain ⟨before, directive, after, first, declares, rfl⟩ := exists_settled isVersion success
  exact isCurrent_version first declares distinct
    (ExtensionPolicy.mem_extensionsIn_or_missingBlock proper (before ++ after))

/-- Tokens for a target other than the legacy version are refused for every other one. -/
theorem IsCurrent.settle_other (current : IsCurrent policy target tokens)
    (modern : target ≠ Version.legacy) (others : ExtensionPolicy) {other : String}
    (distinct : other ≠ target)
    : Version.settle others other tokens = ⟨tokens, .error (.unknownVersion target other)⟩ := by
  obtain ⟨site, found, declared, normal⟩ := current.exists_site
  have counts : site.normalized.declared = target := by rw [normal, declared]
  rw [Version.settle_of_unknown found (by rw [counts]; exact distinct.symm)
    (by rw [counts]; exact modern), normal, declared, Version.tokens_of_site? found]

end

namespace Version

/-- Settled tokens stay as they are when they are settled again. For the same target that succeeds,
and for any other target they are refused, unless the target is the legacy version. -/
theorem settle_settled {policy : ExtensionPolicy} {target : String} {tokens settled : List Token}
    {declared : Option String}
    (proper : ∀ name ∈ policy.required, ExtensionPolicy.IsProper name)
    (isVersion : Directive.IsVersion target) (distinct : target ≠ embedded)
    (success : settle policy target tokens = ⟨settled, .ok declared⟩)
    : settle policy target settled = ⟨settled, .ok (some target)⟩
      ∧ (target ≠ legacy
          → ∀ others other,
              other ≠ target
              → settle others other settled
                = ⟨settled, .error (.unknownVersion target other)⟩) := by
  have current := isCurrent_settled proper isVersion distinct success
  exact ⟨current.settle,
    fun modern others other distinct => current.settle_other modern others distinct⟩

/-- A legacy shader that is settled for a version with a profile. -/
theorem settle_settled_core
    : ∃ settled,
        settled
          = [ declaring "330 core", .newline,
            ExtensionPolicy.enabling "GL_ARB_separate_shader_objects", .newline, .newline ]
        ∧ (∀ name ∈ ExtensionPolicy.standard.required, ExtensionPolicy.IsProper name)
        ∧ Directive.IsVersion "330 core" ∧ "330 core" ≠ embedded ∧ "330 core" ≠ legacy
        ∧ settle .standard "330 core" [declaring "100", .newline] = ⟨settled, .ok (some "100")⟩
        ∧ settle .standard "330 core" settled = ⟨settled, .ok (some "330 core")⟩
        ∧ settle .standard "150" settled
          = ⟨settled, .error (.unknownVersion "330 core" "150")⟩ := by
  have isVersion : Directive.IsVersion "330 core" :=
    @Directive.IsVersion.profile "330".toList "core".toList (by decide)
      (List.all_eq_true.mp (by decide)) (by decide) (List.all_eq_true.mp (by decide))
  have success
      : settle .standard "330 core" [declaring "100", .newline]
        = ⟨[ declaring "330 core", .newline,
            ExtensionPolicy.enabling "GL_ARB_separate_shader_objects", .newline, .newline ],
          .ok (some "100")⟩ := by
    rfl
  obtain ⟨again, refused⟩ :=
    settle_settled ExtensionPolicy.isProper_standard isVersion (by decide) success
  exact ⟨_, rfl, ExtensionPolicy.isProper_standard, isVersion, by decide, by decide, success,
    again, refused (by decide) .standard "150" (by decide)⟩

end Version

end ShaderUplift
