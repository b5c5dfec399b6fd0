import ShaderUplift.Proofs.Declaration.Unended
import ShaderUplift.Proofs.Output.Synthesized
import ShaderUplift.Proofs.Upgrade.InContext
import ShaderUplift.Proofs.Upgrade.Target
import ShaderUplift.Proofs.Version.Settled

/-! Why shaders cannot be upgraded.
A version that is neither supported nor the target comes first, and a shader for the target never
fails. Apart from that a vertex shader fails with the first attribute whose name is refused, and a
fragment shader with a precision statement that an output cannot be declared behind.
-/

namespace ShaderUplift

variable {stage : Stage} {target : String}

-----------------------------------------------------------------------------------------
-- Precision statements among tokens and forms
-----------------------------------------------------------------------------------------

theorem Recast.eq_precision_iff {token form : Token} (recast : Recast stage token form)
    : form = ⟨.keyword, "precision"⟩ ↔ token = ⟨.keyword, "precision"⟩ := by
  constructor
  · intro same
    subst same
    obtain ⟨same, kind⟩ := recast.of_keyword rfl
    obtain ⟨tokenKind, text⟩ := token
    obtain rfl : tokenKind = .keyword := kind
    simp only [Qualifier.modernize, if_true, Token.mk.injEq, true_and] at same ⊢
    cases replaced : Qualifier.modern? stage text with
    | none =>
        rw [replaced, Option.getD_none] at same
        exact same.symm
    | some modern =>
        rw [replaced, Option.getD_some] at same
        rcases Qualifier.eq_of_modern?_eq_some replaced with other | other
        · simp [other] at same
        · simp [other] at same
  · intro same
    subst same
    cases recast with
    | qualifier kind => cases stage <;> decide
    | builtin kind => cases kind
    | kept kind free => cases kind
    | escaped kind taken => cases kind
    | other kind => exact absurd rfl kind.1

/-- A precision statement is never ended among forms exactly if that is so among their tokens, by
induction on the tokens. -/
theorem unended_forms {tokens forms : List Token}
    (recasts : List.Forall₂ (Recast stage) tokens forms)
    : Declaration.Unended forms ↔ Declaration.Unended tokens := by
  induction recasts with
  | nil => rfl
  | @cons token form tokens forms recast later ih =>
      have operators
          : forms.filter (·.kind = .operator) = tokens.filter (·.kind = .operator) :=
        filter_forms (fun _ => Token.decide_kind_eq_false rfl) later
      have same : ⟨.operator, ";"⟩ ∈ forms ↔ ⟨.operator, ";"⟩ ∈ tokens := by
        have among := congrArg (⟨.operator, ";"⟩ ∈ ·) operators
        simpa using among
      rw [Declaration.unended_cons, Declaration.unended_cons, ih, recast.eq_precision_iff, same]

-----------------------------------------------------------------------------------------
-- Outputs that have to be declared
-----------------------------------------------------------------------------------------

/-- Tokens use an output exactly if one of them is its built-in in a fragment shader. -/
theorem FragmentOutput.used_ne_nil_iff {tokens : List Token}
    : used stage tokens ≠ []
      ↔ stage = .fragment
        ∧ ∃ token ∈ tokens,
            token.kind = .builtin
            ∧ token.text ∈ ["gl_FragColor", "gl_FragDepth", "gl_FragDepthEXT"] := by
  have each : ∀ output : FragmentOutput, output ∈ used stage tokens
      ↔ ∃ token ∈ tokens, token.output? stage = some output := by
    intro output
    rw [used, mem_foldl_enqueue]
    simp
  constructor
  · intro some
    obtain ⟨output, member⟩ := List.exists_mem_of_ne_nil _ some
    obtain ⟨token, inTokens, stands⟩ := (each output).mp member
    cases stage with
    | vertex => simp [Token.output?] at stands
    | fragment => exact ⟨rfl, token, inTokens, exists_output?_iff.mp ⟨output, stands⟩⟩
  · rintro ⟨rfl, token, inTokens, builtin⟩ none
    obtain ⟨output, stands⟩ := exists_output?_iff.mpr builtin
    have member := (each output).mpr ⟨token, inTokens, stands⟩
    rw [none] at member
    cases member

/-- Rewriting fails with an attribute in a vertex shader, and otherwise with a statement that is
never ended in a fragment shader that has an output to declare. -/
theorem modernize_eq_error_iff {tokens : List Token} {failure : Failure}
    : modernize stage target tokens = .error failure
      ↔ (stage = .vertex
          ∧ ∃ name,
              Name.FirstRefused [] tokens name ∧ failure = .reservedAttribute name target)
        ∨ FragmentOutput.used stage tokens ≠ [] ∧ Declaration.Unended tokens
          ∧ failure = .missingSemicolon := by
  rw [modernize, bind_eq_error_iff, ← List.reverse_nil, modernForms_eq_error_iff]
  simp only [Declaration.placeAll_eq_error_iff (Declaration.halts_declarations _), ne_eq,
    List.map_eq_nil_iff]
  constructor
  · intro given
    rcases given with refused | ⟨forms, modern, some, unended, same⟩
    · exact Or.inl refused
    · exact Or.inr ⟨some, (unended_forms (forall₂_recast modern)).mp unended, same⟩
  · intro given
    rcases given with refused | ⟨some, unended, same⟩
    · exact Or.inl refused
    · obtain ⟨fragment, -⟩ := FragmentOutput.used_ne_nil_iff.mp some
      cases modern : modernForms stage target [].reverse tokens with
      | error other =>
          obtain ⟨vertex, -⟩ := modernForms_eq_error_iff.mp modern
          rw [vertex] at fragment
          cases fragment
      | ok forms =>
          exact Or.inr
            ⟨forms, rfl, some, (unended_forms (forall₂_recast modern)).mpr unended, same⟩

-----------------------------------------------------------------------------------------
-- The causes of failures
-----------------------------------------------------------------------------------------

namespace Version

theorem IsLegacy.of_declared {tokens : List Token} {declared : String}
    (isLegacy : IsLegacy target tokens) (declares : declaredIn tokens = some declared)
    : countsAs declared = legacy ∧ target ≠ legacy := by
  rcases isLegacy with none | ⟨some, other⟩
  · rw [none] at declares
    cases declares
  · rw [some, Option.some.injEq] at declares
    exact ⟨countsAs_eq_legacy_iff.mpr declares.symm, other⟩

end Version

/-- Why tokens cannot be upgraded. The causes exclude one another, so that none takes precedence
where two could be told: only legacy tokens are rewritten, and each stage has a cause of its own. -/
inductive Cause (policy : ExtensionPolicy) (stage : Stage) (target : String) (tokens : List Token)
    : Failure → Prop
  | version {declared : String} (declares : Version.declaredIn tokens = some declared)
    (other : Version.countsAs declared ≠ target)
    (unsupported : Version.countsAs declared ≠ Version.legacy)
    : Cause policy stage target tokens (.unknownVersion declared target)
  | attribution {name : String} (isLegacy : Version.IsLegacy target tokens)
    (vertex : stage = .vertex)
    (first : Name.FirstRefused [] (policy.remaining target tokens) name)
    : Cause policy stage target tokens (.reservedAttribute name target)
  | precision (isLegacy : Version.IsLegacy target tokens) (fragment : stage = .fragment)
    (output
      : ∃ token ∈ tokens,
          token.kind = .builtin
          ∧ token.text ∈ ["gl_FragColor", "gl_FragDepth", "gl_FragDepthEXT"])
    (unended : Declaration.Unended tokens)
    : Cause policy stage target tokens .missingSemicolon

section
variable {policy : ExtensionPolicy} {tokens : List Token} {failure : Failure}

/-- Tokens with a version directive fail for nothing but their version unless they are legacy
tokens. -/
theorem Cause.of_declared {declared : String}
    (declares : Version.declaredIn tokens = some declared)
    (settled
      : Version.countsAs declared = target ∨ Version.countsAs declared ≠ Version.legacy)
    : Cause policy stage target tokens failure
      ↔ Version.countsAs declared ≠ target ∧ failure = .unknownVersion declared target := by
  have notLegacy : ¬Version.IsLegacy target tokens := by
    intro isLegacy
    obtain ⟨legacy, other⟩ := isLegacy.of_declared declares
    rcases settled with forTarget | unsupported
    · exact other (forTarget.symm.trans legacy)
    · exact unsupported legacy
  constructor
  · intro cause
    cases cause with
    | version found other unsupported =>
        rw [declares, Option.some.injEq] at found
        subst found
        exact ⟨other, rfl⟩
    | attribution isLegacy vertex first => exact absurd isLegacy notLegacy
    | precision isLegacy fragment output unended => exact absurd isLegacy notLegacy
  · intro given
    obtain ⟨other, rfl⟩ := given
    exact .version declares other (settled.resolve_left other)

/-- The causes of legacy tokens are those for which rewriting fails. -/
theorem Cause.of_isLegacy (isLegacy : Version.IsLegacy target tokens)
    : Cause policy stage target tokens failure
      ↔ modernize stage target (policy.remaining target tokens) = .error failure := by
  have used := FragmentOutput.used_remaining policy isLegacy stage
  have unended : Declaration.Unended (policy.remaining target tokens)
      ↔ Declaration.Unended tokens := by
    have code : ∀ tokens, Declaration.Unended (codeIn tokens) ↔ Declaration.Unended tokens :=
      fun _ => Declaration.unended_filter rfl rfl
    rw [← code, codeIn_remaining policy isLegacy, code]
  rw [modernize_eq_error_iff, used, unended, FragmentOutput.used_ne_nil_iff]
  constructor
  · intro cause
    cases cause with
    | version declares other unsupported =>
        exact absurd (isLegacy.of_declared declares).1 unsupported
    | attribution _ vertex first => exact Or.inl ⟨vertex, _, first, rfl⟩
    | precision _ fragment output unended => exact Or.inr ⟨⟨fragment, output⟩, unended, rfl⟩
  · intro given
    rcases given with ⟨vertex, name, first, rfl⟩ | ⟨⟨fragment, output⟩, unended, rfl⟩
    · exact .attribution isLegacy vertex first
    · exact .precision isLegacy fragment output unended

/-- Tokens cannot be upgraded exactly for the causes, by the version that they declare. -/
theorem upgradeTokens_eq_error_iff
    : upgradeTokens policy target stage tokens = .error failure
      ↔ Cause policy stage target tokens failure := by
  cases declares : Version.declaredIn tokens with
  | none =>
      have isLegacy : Version.IsLegacy target tokens := Or.inl declares
      rw [upgradeTokens_of_isLegacy policy isLegacy, Cause.of_isLegacy isLegacy]
  | some declared =>
      have site := declares
      rw [← Version.map_declared_site?, Option.map_eq_some_iff] at site
      obtain ⟨site, found, rfl⟩ := site
      by_cases forTarget : Version.countsAs site.declared = target
      · rw [upgradeTokens_of_normalized found (site.declared_normalized.trans forTarget),
          Cause.of_declared declares (Or.inl forTarget)]
        simp [forTarget]
      · by_cases legacy : Version.countsAs site.declared = Version.legacy
        · have isLegacy : Version.IsLegacy target tokens := by
            rw [Version.countsAs_eq_legacy_iff] at legacy
            refine Or.inr ⟨by rw [declares, legacy], fun same => forTarget ?_⟩
            rw [Version.countsAs_eq_legacy_iff.mpr legacy, same]
          rw [upgradeTokens_of_isLegacy policy isLegacy, Cause.of_isLegacy isLegacy]
        · have refused
              : upgradeTokens policy target stage tokens
                = .error (.unknownVersion site.declared target) :=
            upgradeTokens_of_unknown found (by rwa [site.declared_normalized])
              (by rwa [site.declared_normalized]) stage
          rw [refused, Cause.of_declared declares (Or.inr legacy)]
          simp [forTarget, eq_comm]

end

/-- A shader fails as its tokens do: reading and writing never fail. -/
theorem upgrade_fails_iff {source : String} {failure : Failure}
    : upgrade source stage target = .error failure
      ↔ upgradeTokens .standard target stage (lex source) = .error failure := by
  cases upgraded : upgradeTokens .standard target stage (lex source) with
  | error other => simp [upgrade, Upgrader.upgrade, upgraded, Except.map]
  | ok result => simp [upgrade, Upgrader.upgrade, upgraded, Except.map]

/-- A legacy vertex shader fails with an attribute exactly if what remains of it refuses a name. -/
theorem upgrade_refuses_iff {source : String} (isLegacy : Version.IsLegacy target (lex source))
    : (∃ name, upgrade source .vertex target = .error (.reservedAttribute name target))
      ↔ Name.Refuses [] (ExtensionPolicy.standard.remaining target (lex source)) [] := by
  simp only [upgrade_fails_iff, upgradeTokens_of_isLegacy _ isLegacy, modernize_eq_error_iff]
  rw [← Name.exists_firstRefused_iff]
  simp

/-- A shader cannot be upgraded exactly for the causes. -/
theorem upgrade_eq_error_iff {source : String} {failure : Failure}
    : upgrade source stage target = .error failure
      ↔ Cause .standard stage target (lex source) failure := by
  rw [upgrade_fails_iff, upgradeTokens_eq_error_iff]

end ShaderUplift
