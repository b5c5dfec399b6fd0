import ShaderUplift.Output.Declaration

/-! Built-in functions and variables.
The target dialect has one texture function for every type of sampler, so the suffixes that told
them apart are dropped. Fragment outputs become the variables that are declared for them.
-/

namespace ShaderUplift.Builtin

/-- Whether a built-in is one of the texture functions. -/
def isTexture (name : String) : Bool :=
  "texture".toList.isPrefixOf name.toList

/-- A name without the suffixes for a sampler type or an extension. -/
def withoutSuffixes : List Char → List Char
  | '2' :: 'D' :: rest => withoutSuffixes rest
  | 'C' :: 'u' :: 'b' :: 'e' :: rest => withoutSuffixes rest
  | 'E' :: 'X' :: 'T' :: rest => withoutSuffixes rest
  | c :: rest => c :: withoutSuffixes rest
  | [] => []

/-- A token with its built-in, if it is one, in the modern form. -/
def modernize (stage : Stage) (token : Token) : Token :=
  if token.kind ≠ .builtin then token
  else if isTexture token.text then .ofChars .builtin (withoutSuffixes token.chars)
  else
    match token.output? stage with
    | some output => ⟨.identifier, output.variableName⟩
    | none => token

example : modernize .vertex ⟨.builtin, "texture2DProjLodEXT"⟩ = ⟨.builtin, "textureProjLod"⟩ := by
  decide +kernel

end ShaderUplift.Builtin
