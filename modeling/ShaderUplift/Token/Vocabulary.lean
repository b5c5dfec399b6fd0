import ShaderUplift.Token.Basic

/-! The words and operators of the legacy shading language.
Words that only later dialects made keywords or built-ins are not listed, so that they are
read as plain identifiers and can be told apart by the passes that rename them.
-/

namespace ShaderUplift.Vocabulary

/-- The keywords: qualifiers, precisions, control flow, types and words kept for the future. -/
def keywords : List String :=
  [ "attribute", "const", "uniform", "varying", "in", "out", "inout", "invariant",
    "precision", "lowp", "mediump", "highp", "break", "continue", "do", "for", "while", "if",
    "else", "discard", "return", "void", "bool", "int", "float", "true", "false", "struct",
    "vec2", "vec3", "vec4", "ivec2", "ivec3", "ivec4", "bvec2", "bvec3", "bvec4", "mat2",
    "mat3", "mat4", "sampler1D", "sampler2D", "sampler3D", "samplerCube", "sampler1DShadow",
    "sampler2DShadow", "asm", "class", "union", "enum", "typedef", "template", "this",
    "packed", "goto", "switch", "default", "inline", "noinline", "volatile", "public",
    "static", "extern", "external", "interface", "long", "short", "double", "half", "fixed",
    "unsigned", "input", "output", "hvec2", "hvec3", "hvec4", "dvec2", "dvec3", "dvec4",
    "fvec2", "fvec3", "fvec4", "sampler2DRect", "sampler3DRect", "sampler2DRectShadow",
    "sizeof", "cast", "namespace", "using" ]

/-- The built-in variables, constants and functions. -/
def builtins : List String :=
  [ "gl_Position", "gl_PointSize", "gl_FragCoord", "gl_FrontFacing", "gl_PointCoord",
    "gl_FragColor", "gl_FragData", "gl_FragDepth", "gl_FragDepthEXT", "gl_MaxVertexAttribs",
    "gl_MaxVertexUniformVectors", "gl_MaxVaryingVectors", "gl_MaxVertexTextureImageUnits",
    "gl_MaxCombinedTextureImageUnits", "gl_MaxTextureImageUnits",
    "gl_MaxFragmentUniformVectors", "gl_MaxDrawBuffers", "gl_DepthRange",
    "gl_DepthRangeParameters", "radians", "degrees", "sin", "cos", "tan", "asin", "acos",
    "atan", "pow", "exp", "log", "exp2", "log2", "sqrt", "inversesqrt", "abs", "sign",
    "floor", "ceil", "fract", "mod", "min", "max", "clamp", "mix", "step", "smoothstep",
    "length", "distance", "dot", "cross", "normalize", "faceforward", "reflect", "refract",
    "matrixCompMult", "lessThan", "lessThanEqual", "greaterThan", "greaterThanEqual", "equal",
    "notEqual", "any", "all", "not", "dFdx", "dFdy", "fwidth", "texture2D", "texture2DProj",
    "texture2DLod", "texture2DProjLod", "textureCube", "textureCubeLod", "texture2DLodEXT",
    "texture2DProjLodEXT", "textureCubeLodEXT", "texture2DGradEXT", "texture2DProjGradEXT",
    "textureCubeGradEXT" ]

/-- The operators, longer ones first, so that the first one that fits is the longest. -/
def operators : List String :=
  [ "<<=", ">>=", "!=", "%=", "&&", "&=", "*=", "++", "+=", "--", "-=", "/=", "<<", "<=",
    "==", ">=", ">>", "^=", "^^", "|=", "||", "!", "%", "&", "(", ")", "*", "+", ",", "-",
    ".", "/", ":", ";", "<", "=", ">", "?", "[", "]", "^", "\x7b", "|", "\x7d", "~" ]

/-- The kind of a word. -/
def classify (word : String) : TokenKind :=
  if word ∈ keywords then .keyword
  else if word ∈ builtins then .builtin
  else .identifier

example : List.Pairwise (fun op next => next.length ≤ op.length) operators := by decide +kernel

end ShaderUplift.Vocabulary
