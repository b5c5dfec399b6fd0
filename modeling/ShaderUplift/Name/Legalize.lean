import ShaderUplift.Failure
import ShaderUplift.Name.Context
import ShaderUplift.Name.Escape

/-! Making the names of a shader legal in the target dialect.
Reserved words are escaped, except where a texture function is called. The host binds vertex
attributes by name, so that those cannot be escaped and are refused. A fragment shader declares
its outputs under escaped names, and a name of the shader that equals one gives way to it.
-/

namespace ShaderUplift.Name

/-- Whether a name is one that a fragment output is declared under. -/
def isEscapedOutput (name : String) : Bool :=
  FragmentOutput.all.any fun output => mark ++ output.base = name

/-- The legal form of a token that stands between others. -/
def legalize (stage : Stage) (target : String) (before : List Token) (token : Token)
    (after : List Token)
    : Except Failure Token :=
  if token.kind ≠ .identifier then .ok token
  else if isReserved token.text then
    if token.text ∈ samplingFunctions ∧ inCallPosition after then .ok token
    else if stage = .vertex ∧ inAttributePosition before then
      .error (.reservedAttribute token.text target)
    else .ok ⟨.identifier, escape token.text⟩
  else if stage = .fragment ∧ isEscapedOutput token.text then .ok ⟨.identifier, escape token.text⟩
  else .ok token

/-- The legal form of the token at a signed position, unless there is none. -/
def legalizeAt? (stage : Stage) (target : String) (tokens : List Token) (position : Int)
    : Option (Except Failure Token) :=
  (Position.item? tokens position).map fun token =>
    legalize stage target (before tokens position) token (after tokens position)

end ShaderUplift.Name
