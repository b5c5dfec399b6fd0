import ShaderUplift.Extension.Policy
import ShaderUplift.Failure

/-! Settling the version of a shader.
The first version directive decides. It is kept if it declares the target, and replaced if it
declares the legacy version; any other version is refused. A shader without such a directive is
taken for a legacy shader. The required extensions are declared directly after the directive. A
shader for the embedded modern profile counts as one for the desktop version, whether or not
that is the target.
-/

namespace ShaderUplift

namespace Version

/-- The version that is upgraded. -/
def legacy : String := "100"

/-- The version of the modern profile for embedded systems. -/
def embedded : String := "300 es"

/-- The desktop version that stands for the modern embedded profile. -/
def desktop : String := "150"

/-- The directive that declares a version. -/
def declaring (version : String) : Token :=
  .directive ("#version " ++ version)

/-- The place of the first version directive. -/
structure Site where
  before : List Token
  directive : Token
  declared : String
  after : List Token

/-- The first version directive among tokens, and what stands around it. -/
def site? : List Token → Option Site
  | [] => none
  | token :: rest =>
      match token.version? with
      | some declared => some ⟨[], token, declared, rest⟩
      | none => (site? rest).map fun site => { site with before := token :: site.before }

/-- A site where the embedded profile has become the desktop version. -/
def Site.normalized (site : Site) : Site :=
  if site.declared = embedded then
    { site with directive := declaring desktop, declared := desktop }
  else site

/-- The tokens around a site with `inserted` directly after its directive. -/
def Site.tokens (site : Site) (inserted : List Token) : List Token :=
  site.before ++ site.directive :: (inserted ++ site.after)

/-- What settling leaves behind: the tokens, and the version that the shader declared, if any. -/
structure Settlement where
  tokens : List Token
  outcome : Except Failure (Option String)

/-- What settling a shader with a version directive leaves behind. -/
def settleSite (policy : ExtensionPolicy) (target : String) (site : Site) : Settlement :=
  let normal := site.normalized
  let block := policy.missingBlock (site.tokens [])
  if normal.declared = target then
    ⟨normal.tokens block, .ok (some normal.declared)⟩
  else if normal.declared = legacy then
    ⟨{ normal with directive := declaring target }.tokens block, .ok (some legacy)⟩
  else
    -- The failure shows what was declared, while the tokens hold the normalized directive.
    ⟨normal.tokens [], .error (.unknownVersion site.declared target)⟩

/-- What settling a shader leaves behind. -/
def settle (policy : ExtensionPolicy) (target : String) (tokens : List Token) : Settlement :=
  match site? tokens with
  | some site => settleSite policy target site
  | none => ⟨declaring target :: (policy.missingBlock tokens ++ tokens), .ok none⟩

theorem tokens_of_site? {tokens : List Token} {site : Site} (found : site? tokens = some site)
    : site.tokens [] = tokens := by
  induction tokens generalizing site with
  | nil => cases found
  | cons token rest ih =>
      unfold site? at found
      cases version : token.version? with
      | some declared =>
          simp only [version, Option.some.injEq] at found
          subst found
          rfl
      | none =>
          simp only [version, Option.map_eq_some_iff] at found
          obtain ⟨later, laterFound, rfl⟩ := found
          simpa [Site.tokens] using ih laterFound

end Version

end ShaderUplift
