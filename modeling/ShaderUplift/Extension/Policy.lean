import ShaderUplift.Directive
import ShaderUplift.Position

/-! Which extensions an upgraded shader has to declare, and their declaration.
Extensions that the shader declares already are not declared again.
-/

namespace ShaderUplift

/-- The extensions that an upgraded shader requires, and those that its version made obsolete. -/
structure ExtensionPolicy where
  required : List String
  obsolete : List String
deriving DecidableEq, Repr

/-- The extensions that tokens name, in their order. -/
def extensionsIn (tokens : List Token) : List String :=
  tokens.filterMap Token.extension?

namespace ExtensionPolicy

/-- The policy for desktop core profiles.
Separate shader objects keep the layout of the interface between the stages. The obsolete
extensions are part of the core language.
-/
def standard : ExtensionPolicy where
  required := ["GL_ARB_separate_shader_objects"]
  obsolete :=
    [ "GL_OES_standard_derivatives", "GL_EXT_frag_depth", "GL_EXT_draw_buffers",
      "GL_EXT_shader_texture_lod" ]

/-- The required extensions that tokens do not declare. -/
def missing (policy : ExtensionPolicy) (tokens : List Token) : List String :=
  policy.required.filter fun name => name ∉ extensionsIn tokens

/-- The directive that enables an extension. -/
def enabling (name : String) : Token :=
  .directive ("#extension " ++ name ++ " : enable")

/-- The directives that enable extensions, each on a line of its own. -/
def block : List String → List Token
  | [] => []
  | names => .newline :: names.flatMap fun name => [enabling name, .newline]

/-- The block that tokens still need. -/
def missingBlock (policy : ExtensionPolicy) (tokens : List Token) : List Token :=
  block (policy.missing tokens)

/-- Tokens with the block that they still need put into a gap. -/
def declareAt (policy : ExtensionPolicy) (tokens : List Token) (position : Int) : List Token :=
  let gap := Position.gap tokens.length position
  tokens.take gap ++ policy.missingBlock tokens ++ tokens.drop gap

end ExtensionPolicy

end ShaderUplift
