/-! The words that the target dialect reserves.
They are plain identifiers in the legacy dialect, so a shader may use them as names of its own.
-/

namespace ShaderUplift.Name

/-- The qualifiers, types and functions that only the target dialect knows. -/
def reservedWords : List String :=
  [ "layout", "centroid", "flat", "smooth", "noperspective", "case", "uint", "uvec2", "uvec3",
    "uvec4", "mat2x2", "mat2x3", "mat2x4", "mat3x2", "mat3x3", "mat3x4", "mat4x2", "mat4x3",
    "mat4x4", "samplerCubeShadow", "sampler1DArray", "sampler2DArray", "sampler1DArrayShadow",
    "sampler2DArrayShadow", "samplerBuffer", "sampler2DMS", "sampler2DMSArray", "isampler1D",
    "isampler2D", "isampler3D", "isamplerCube", "isampler1DArray", "isampler2DArray",
    "isampler2DRect", "isamplerBuffer", "isampler2DMS", "isampler2DMSArray", "usampler1D",
    "usampler2D", "usampler3D", "usamplerCube", "usampler1DArray", "usampler2DArray",
    "usampler2DRect", "usamplerBuffer", "usampler2DMS", "usampler2DMSArray", "sinh", "cosh",
    "tanh", "asinh", "acosh", "atanh", "trunc", "round", "roundEven", "isnan", "isinf",
    "floatBitsToInt", "floatBitsToUint", "intBitsToFloat", "uintBitsToFloat", "packSnorm2x16",
    "unpackSnorm2x16", "packUnorm2x16", "unpackUnorm2x16", "packHalf2x16", "unpackHalf2x16",
    "outerProduct", "transpose", "determinant", "inverse", "texture", "textureSize",
    "textureProj", "textureLod", "textureOffset", "texelFetch", "texelFetchOffset",
    "textureProjOffset", "textureLodOffset", "textureProjLod", "textureProjLodOffset",
    "textureGrad", "textureGradOffset", "textureProjGrad", "textureProjGradOffset" ]

/-- Whether a word begins as the names of the texture functions do. -/
def startsAsTexture (word : String) : Bool :=
  "texture".toList.isPrefixOf word.toList || "texel".toList.isPrefixOf word.toList

/-- The texture functions of the target dialect. -/
def samplingFunctions : List String :=
  reservedWords.filter startsAsTexture

end ShaderUplift.Name
