import ShaderUplift.Proofs.Directive.Keyword
import ShaderUplift.Proofs.Directive.Number

/-! What settling the version of a shader does.
The first directive that spells a version decides, by what the version counts as. At most that
directive is replaced, and the block of missing extensions is put directly behind it.
-/

namespace ShaderUplift

-----------------------------------------------------------------------------------------
-- Replacing a directive
-----------------------------------------------------------------------------------------

namespace ExtensionPolicy

/-- A block depends on the extensions that are named, and on nothing else of the tokens. -/
theorem missingBlock_eq (policy : ExtensionPolicy) {tokens others : List Token}
    (same : extensionsIn tokens = extensionsIn others)
    : policy.missingBlock tokens = policy.missingBlock others := by
  rw [missingBlock, missingBlock, missing, missing, same]

/-- The block goes directly behind a directive that names no extension. -/
theorem declareAt_behind (policy : ExtensionPolicy) (before : List Token) {directive : Token}
    (plain : directive.extension? = none) (after : List Token)
    : policy.declareAt (before ++ directive :: after) (before.length + 1)
      = before ++ directive :: (policy.missingBlock (before ++ after) ++ after) := by
  have same : extensionsIn (before ++ directive :: after) = extensionsIn (before ++ after) := by
    rw [extensionsIn_append, extensionsIn_append, extensionsIn_cons_of_none plain]
  have gap : Position.gap (before ++ directive :: after).length (before.length + 1)
      = (before ++ [directive]).length := by
    have place : (before.length : Int) + 1 = ((before ++ [directive]).length : Nat) := by simp
    rw [place, Position.gap_ofNat]
    simp
  have split : before ++ directive :: after = before ++ [directive] ++ after := by simp
  rw [declareAt, gap, policy.missingBlock_eq same, split, List.take_left, List.drop_left]
  simp

end ExtensionPolicy

namespace Version

-----------------------------------------------------------------------------------------
-- The first version directive
-----------------------------------------------------------------------------------------

/-- A token spells a version directive. -/
def Spells (token : Token) (version : String) : Prop :=
  token.kind = .directive ∧ Directive.Declares token.chars version

/-- The first version directive among tokens: its place, and the version that it declares. -/
structure FirstAt (tokens : List Token) (place : Nat) (directive : Token) (version : String)
    : Prop where
  found : tokens[place]? = some directive
  spells : Spells directive version
  first : ∀ token ∈ tokens.take place, ∀ other, ¬Spells token other

theorem version?_eq_some_iff {token : Token} {version : String}
    : token.version? = some version ↔ Spells token version := by
  rw [Token.version?, Spells, ← Directive.version?_eq_some_iff]
  split
  · rename_i kind
    simp [kind]
  · rename_i other
    simp [other]

theorem declaredIn_eq_none_iff {tokens : List Token}
    : declaredIn tokens = none ↔ ∀ token ∈ tokens, ∀ version, ¬Spells token version := by
  rw [declaredIn, List.findSome?_eq_none_iff]
  simp only [← version?_eq_some_iff, Option.eq_none_iff_forall_ne_some, ne_eq]

/-- The search for a site finds the first version directive. -/
theorem FirstAt.exists_site {tokens : List Token} {place : Nat} {directive : Token}
    {version : String} (firstAt : FirstAt tokens place directive version)
    : ∃ site,
        site? tokens = some site ∧ place = site.before.length ∧ directive = site.directive
        ∧ version = site.declared := by
  obtain ⟨found, spells, first⟩ := firstAt
  obtain ⟨bound, same⟩ := List.getElem?_eq_some_iff.mp found
  have split : tokens = tokens.take place ++ directive :: tokens.drop (place + 1) := by
    rw [← same, ← List.drop_eq_getElem_cons bound, List.take_append_drop]
  refine ⟨⟨tokens.take place, directive, version, tokens.drop (place + 1)⟩, ?_, ?_, rfl, rfl⟩
  · exact site?_eq_some_iff.mpr
      ⟨split, declaredIn_eq_none_iff.mpr first, version?_eq_some_iff.mpr spells⟩
  · rw [List.length_take, Nat.min_eq_left bound.le]

theorem firstAt_of_site? {tokens : List Token} {site : Site} (found : site? tokens = some site)
    : FirstAt tokens site.before.length site.directive site.declared := by
  obtain ⟨split, first, declares⟩ := site?_eq_some_iff.mp found
  refine ⟨?_, version?_eq_some_iff.mp declares, ?_⟩
  · rw [split, List.getElem?_append_right (Nat.le_refl _), Nat.sub_self]
    rfl
  · rw [split, List.take_left]
    exact declaredIn_eq_none_iff.mp first

-----------------------------------------------------------------------------------------
-- The outcomes of settling
-----------------------------------------------------------------------------------------

/-- The version that a declared one counts as. -/
def countsAs (declared : String) : String :=
  if declared = embedded then desktop else declared

theorem Site.declared_normalized (site : Site)
    : site.normalized.declared = countsAs site.declared := by
  rw [normalized, countsAs]
  split <;> rfl

/-- No other version counts as the legacy one. -/
theorem countsAs_eq_legacy_iff {declared : String}
    : countsAs declared = legacy ↔ declared = legacy := by
  unfold countsAs
  split
  · rename_i same
    rw [same]
    decide
  · rfl

/-- Tokens with the directive of the embedded profile replaced by the one of the desktop version. -/
def normalizedAt (tokens : List Token) (place : Nat) (version : String) : List Token :=
  if version = embedded then tokens.set place (declaring desktop) else tokens

/-- What settling leaves behind, by what the first version directive declares. -/
inductive Settles (policy : ExtensionPolicy) (target : String) (tokens : List Token)
    : Settlement → Prop
  | kept {place : Nat} {directive : Token} {version : String}
    (first : FirstAt tokens place directive version) (forTarget : countsAs version = target)
    : Settles policy target tokens
        ⟨policy.declareAt (normalizedAt tokens place version) (place + 1), .ok (some target)⟩
  | replaced {place : Nat} {directive : Token} {version : String}
    (first : FirstAt tokens place directive version) (other : countsAs version ≠ target)
    (isLegacy : countsAs version = legacy)
    : Settles policy target tokens
        ⟨policy.declareAt (tokens.set place (declaring target)) (place + 1), .ok (some legacy)⟩
  | refused {place : Nat} {directive : Token} {version : String}
    (first : FirstAt tokens place directive version) (other : countsAs version ≠ target)
    (unsupported : countsAs version ≠ legacy)
    : Settles policy target tokens
        ⟨normalizedAt tokens place version, .error (.unknownVersion version target)⟩
  | inserted (none : ∀ token ∈ tokens, ∀ version, ¬Spells token version)
    : Settles policy target tokens
        ⟨policy.declareAt (declaring target :: tokens) 1, .ok .none⟩

section
variable {policy : ExtensionPolicy} {target : String} {tokens : List Token} {site : Site}

theorem set_site (found : site? tokens = some site) (other : Token)
    : tokens.set site.before.length other = site.before ++ other :: site.after := by
  obtain ⟨split, -⟩ := site?_eq_some_iff.mp found
  rw [split, List.set_append_right _ _ (Nat.le_refl _), Nat.sub_self, List.set_cons_zero]

/-- The block that goes behind a replaced version directive is the one that the tokens lack. -/
theorem declareAt_site (found : site? tokens = some site) {other : Token}
    (plain : other.extension? = none)
    : policy.declareAt (site.before ++ other :: site.after) (site.before.length + 1)
      = site.before ++ other :: (policy.missingBlock tokens ++ site.after) := by
  obtain ⟨split, -, declares⟩ := site?_eq_some_iff.mp found
  have same : extensionsIn (site.before ++ site.after) = extensionsIn tokens := by
    rw [split, extensionsIn_append, extensionsIn_append,
      extensionsIn_cons_of_none (Token.extension?_eq_none_of_version? declares)]
  rw [policy.declareAt_behind site.before plain, policy.missingBlock_eq same]

theorem tokens_normalized (site : Site) (inserted : List Token)
    : site.normalized.tokens inserted
      = site.before ++ site.normalized.directive :: (inserted ++ site.after) := by
  unfold Site.normalized
  split
  · rfl
  · rfl

theorem normalizedAt_site (found : site? tokens = some site)
    : normalizedAt tokens site.before.length site.declared
      = site.before ++ site.normalized.directive :: site.after := by
  unfold normalizedAt Site.normalized
  split
  · exact set_site found (declaring desktop)
  · exact (site?_eq_some_iff.mp found).1

/-- A version directive names no extension before or after it is normalized. -/
theorem extension?_normalized (found : site? tokens = some site)
    : site.normalized.directive.extension? = none := by
  unfold Site.normalized
  split
  · exact extension?_declaring desktop
  · exact Token.extension?_eq_none_of_version? (site?_eq_some_iff.mp found).2.2

theorem settle_of_normalized (found : site? tokens = some site)
    (forTarget : site.normalized.declared = target)
    : settle policy target tokens
      = ⟨site.normalized.tokens (policy.missingBlock tokens), .ok (some target)⟩ := by
  simp [settle, found, settleSite, forTarget, tokens_of_site? found]

theorem settle_of_legacy (found : site? tokens = some site)
    (other : countsAs site.declared ≠ target) (isLegacy : countsAs site.declared = legacy)
    : settle policy target tokens
      = ⟨site.before ++ declaring target :: (policy.missingBlock tokens ++ site.after),
          .ok (some legacy)⟩ := by
  have declared : site.declared = legacy := countsAs_eq_legacy_iff.mp isLegacy
  have normal : site.normalized = site := by
    rw [Site.normalized, if_neg]
    rw [declared]
    decide
  rw [isLegacy] at other
  simp [settle, found, settleSite, normal, declared, other, tokens_of_site? found]
  rfl

theorem settle_of_unknown (found : site? tokens = some site)
    (other : site.normalized.declared ≠ target) (unsupported : site.normalized.declared ≠ legacy)
    : settle policy target tokens
      = ⟨site.normalized.tokens [], .error (.unknownVersion site.declared target)⟩ := by
  simp [settle, found, settleSite, other, unsupported]

theorem settle_of_none (none : declaredIn tokens = none)
    : settle policy target tokens
      = ⟨declaring target :: (policy.missingBlock tokens ++ tokens), .ok .none⟩ := by
  rw [← map_declared_site?, Option.map_eq_none_iff] at none
  simp [settle, none]

/-- Each outcome is what settling comes to where its conditions hold. -/
theorem Settles.settle_eq {settlement : Settlement}
    (settles : Settles policy target tokens settlement)
    : settle policy target tokens = settlement := by
  cases settles with
  | kept firstAt forTarget =>
      obtain ⟨site, found, rfl, rfl, rfl⟩ := firstAt.exists_site
      rw [settle_of_normalized found (site.declared_normalized.trans forTarget),
        normalizedAt_site found, declareAt_site found (extension?_normalized found),
        tokens_normalized]
  | replaced firstAt other isLegacy =>
      obtain ⟨site, found, rfl, rfl, rfl⟩ := firstAt.exists_site
      rw [settle_of_legacy found other isLegacy, set_site found,
        declareAt_site found (extension?_declaring target)]
  | refused firstAt other unsupported =>
      obtain ⟨site, found, rfl, rfl, rfl⟩ := firstAt.exists_site
      rw [← site.declared_normalized] at other unsupported
      rw [settle_of_unknown found other unsupported, normalizedAt_site found, tokens_normalized,
        List.nil_append]
  | inserted none =>
      have inFront := policy.declareAt_behind [] (extension?_declaring target) tokens
      rw [settle_of_none (declaredIn_eq_none_iff.mpr none)]
      exact congrArg (Settlement.mk · _) inFront.symm

/-- Some outcome has its conditions hold. -/
theorem exists_settles (policy : ExtensionPolicy) (target : String) (tokens : List Token)
    : ∃ settlement, Settles policy target tokens settlement := by
  cases found : site? tokens with
  | none =>
      have none : declaredIn tokens = none := by rw [← map_declared_site?, found, Option.map_none]
      exact ⟨_, .inserted (declaredIn_eq_none_iff.mp none)⟩
  | some site =>
      have firstAt := firstAt_of_site? found
      by_cases forTarget : countsAs site.declared = target
      · exact ⟨_, .kept firstAt forTarget⟩
      · by_cases isLegacy : countsAs site.declared = legacy
        · exact ⟨_, .replaced firstAt forTarget isLegacy⟩
        · exact ⟨_, .refused firstAt forTarget isLegacy⟩

end

end Version

end ShaderUplift
