import ShaderUplift.Proofs.Token.Reread
import ShaderUplift.Version

/-! What the directives of a shader declare.
The version and the extensions that tokens declare depend on the directives among them alone,
and the version on the first directive that declares one.
-/

namespace ShaderUplift

-----------------------------------------------------------------------------------------
-- One directive
-----------------------------------------------------------------------------------------

namespace Token

theorem version?_eq_none_of_kind {token : Token} (other : token.kind ≠ .directive)
    : token.version? = none := by
  simp [Token.version?, other]

theorem extension?_eq_none_of_kind {token : Token} (other : token.kind ≠ .directive)
    : token.extension? = none := by
  simp [Token.extension?, other]

end Token

namespace Directive
open ShaderUplift.Text

/-- A directive that begins with its number sign declares a version or names an extension, not
both, because one keyword follows the sign. -/
theorem extension?_eq_none {text : List Char} {version : String}
    (declares : version? text = some version)
    : extension? text = none := by
  cases named : extension? text with
  | none => rfl
  | some name =>
      simp only [version?, extension?, afterKeyword?, Option.bind_eq_some_iff,
        after?_eq_some_iff] at declares named
      obtain ⟨_, ⟨_, ⟨line, signed, versioned⟩, _⟩, _⟩ := declares
      obtain ⟨_, ⟨_, ⟨other, rfl, extended⟩, _⟩, _⟩ := named
      have sameLine : line = other := by
        have unmoved : skipBlanks (['#'] ++ other) = ['#'] ++ other := by
          simp [skipBlanks, show isBlank '#' = false by decide]
        exact List.append_cancel_left (signed.symm.trans unmoved)
      rw [sameLine, extended] at versioned
      exact absurd versioned (by simp)

end Directive

namespace Token

theorem kind_of_version? {token : Token} {version : String}
    (declares : token.version? = some version)
    : token.kind = .directive := by
  cases other : decide (token.kind = .directive) with
  | true => exact of_decide_eq_true other
  | false => simp [version?_eq_none_of_kind (of_decide_eq_false other)] at declares

theorem kind_of_extension? {token : Token} {name : String} (named : token.extension? = some name)
    : token.kind = .directive := by
  cases other : decide (token.kind = .directive) with
  | true => exact of_decide_eq_true other
  | false => simp [extension?_eq_none_of_kind (of_decide_eq_false other)] at named

theorem extension?_eq_none_of_version? {token : Token} {version : String}
    (declares : token.version? = some version)
    : token.extension? = none := by
  have kind := kind_of_version? declares
  rw [Token.version?, if_pos kind] at declares
  rw [Token.extension?, if_pos kind, Directive.extension?_eq_none declares]

end Token

-----------------------------------------------------------------------------------------
-- Extensions
-----------------------------------------------------------------------------------------

theorem extensionsIn_append (front back : List Token)
    : extensionsIn (front ++ back) = extensionsIn front ++ extensionsIn back :=
  List.filterMap_append ..

theorem extensionsIn_cons_of_none {token : Token} (none : token.extension? = none)
    (rest : List Token)
    : extensionsIn (token :: rest) = extensionsIn rest :=
  List.filterMap_cons_none none

theorem extensionsIn_directivesIn (tokens : List Token)
    : extensionsIn (directivesIn tokens) = extensionsIn tokens := by
  induction tokens with
  | nil => rfl
  | cons token rest ih =>
      simp only [directivesIn, extensionsIn] at ih ⊢
      by_cases kind : token.kind = .directive
      · simp [kind, List.filterMap_cons, ih]
      · simp [kind, Token.extension?_eq_none_of_kind kind, ih]

-----------------------------------------------------------------------------------------
-- The version
-----------------------------------------------------------------------------------------

namespace Version

/-- The version that the first version directive among tokens declares. -/
def declaredIn (tokens : List Token) : Option String :=
  tokens.findSome? Token.version?

theorem declaredIn_cons_of_none {token : Token} (none : token.version? = none)
    (rest : List Token)
    : declaredIn (token :: rest) = declaredIn rest := by
  simp [declaredIn, none]

theorem declaredIn_cons_of_some {token : Token} {version : String}
    (declares : token.version? = some version) (rest : List Token)
    : declaredIn (token :: rest) = some version := by
  simp [declaredIn, declares]

theorem declaredIn_append_of_none {front : List Token} (none : declaredIn front = none)
    (back : List Token)
    : declaredIn (front ++ back) = declaredIn back := by
  simp only [declaredIn] at none ⊢
  rw [List.findSome?_append, none, Option.none_or]

theorem declaredIn_directivesIn (tokens : List Token)
    : declaredIn (directivesIn tokens) = declaredIn tokens := by
  induction tokens with
  | nil => rfl
  | cons token rest ih =>
      by_cases kind : token.kind = .directive
      · have kept : directivesIn (token :: rest) = token :: directivesIn rest := by
          simp [directivesIn, kind]
        rw [kept]
        cases version : token.version? with
        | some declared => simp only [declaredIn_cons_of_some version]
        | none => simp only [declaredIn_cons_of_none version, ih]
      · rw [directivesIn_cons_of_ne kind, ih,
          declaredIn_cons_of_none (Token.version?_eq_none_of_kind kind)]

/-- The first version directive is found where no earlier one stands, by induction on the tokens
before it. -/
theorem site?_append {before : List Token} (first : declaredIn before = none)
    {directive : Token} {declared : String} (declares : directive.version? = some declared)
    (after : List Token)
    : site? (before ++ directive :: after) = some ⟨before, directive, declared, after⟩ := by
  induction before with
  | nil => simp [site?, declares]
  | cons token before ih =>
      obtain ⟨none, later⟩ : token.version? = none ∧ declaredIn before = none := by
        simpa [declaredIn] using first
      simp [site?, none, ih later]

/-- A site is where tokens are cut at their first version directive. -/
theorem site?_eq_some_iff {tokens : List Token} {site : Site}
    : site? tokens = some site
      ↔ tokens = site.before ++ site.directive :: site.after
        ∧ declaredIn site.before = none
        ∧ site.directive.version? = some site.declared := by
  constructor
  · intro found
    induction tokens generalizing site with
    | nil => cases found
    | cons token rest ih =>
        unfold site? at found
        cases version : token.version? with
        | some declared =>
            simp only [version, Option.some.injEq] at found
            subst found
            exact ⟨rfl, rfl, version⟩
        | none =>
            simp only [version, Option.map_eq_some_iff] at found
            obtain ⟨later, laterFound, rfl⟩ := found
            obtain ⟨split, first, declares⟩ := ih laterFound
            refine ⟨by simp [← split], ?_, declares⟩
            rw [declaredIn_cons_of_none version, first]
  · rintro ⟨rfl, first, declares⟩
    exact site?_append first declares site.after

theorem map_declared_site? (tokens : List Token)
    : (site? tokens).map Site.declared = declaredIn tokens := by
  induction tokens with
  | nil => rfl
  | cons token rest ih =>
      simp only [site?]
      cases version : token.version? with
      | some declared => simp [declaredIn, version]
      | none =>
          rw [declaredIn_cons_of_none version, ← ih, Option.map_map]
          rfl

end Version

-----------------------------------------------------------------------------------------
-- Reading the text of tokens again
-----------------------------------------------------------------------------------------

namespace Token

/-- Tokens that stand apart declare the same version when their text is read again. -/
theorem Apart.declaredIn_lex_render {tokens : List Token} (apart : Apart tokens [])
    : Version.declaredIn (lex (render tokens)) = Version.declaredIn tokens := by
  rw [← Version.declaredIn_directivesIn, ← Version.declaredIn_directivesIn tokens,
    apart.directivesIn_lex_render]

/-- Tokens that stand apart name the same extensions when their text is read again. -/
theorem Apart.extensionsIn_lex_render {tokens : List Token} (apart : Apart tokens [])
    : extensionsIn (lex (render tokens)) = extensionsIn tokens := by
  rw [← extensionsIn_directivesIn, ← extensionsIn_directivesIn tokens,
    apart.directivesIn_lex_render]

end Token

end ShaderUplift
