import ShaderUplift.Stage
import ShaderUplift.Token.Basic

/-! The outputs of a fragment shader.
The legacy dialect has them as built-in variables. The target dialect has none, so each one
that a shader uses becomes a variable that is declared.
-/

namespace ShaderUplift

/-- An output that a fragment shader writes to. -/
inductive FragmentOutput where
  | color
  | depth
deriving DecidableEq, Repr

namespace FragmentOutput

/-- The name that an output is known by, which its variable is named after. -/
def base : FragmentOutput → String
  | color => "fragColor"
  | depth => "fragDepth"

/-- The type of an output. -/
def type : FragmentOutput → String
  | color => "vec4"
  | depth => "float"

/-- All outputs, by name. -/
def all : List FragmentOutput :=
  [color, depth]

/-- The output that a built-in variable stands for. -/
def ofBuiltin? (name : String) : Option FragmentOutput :=
  if name = "gl_FragColor" then some color
  else if name = "gl_FragDepth" ∨ name = "gl_FragDepthEXT" then some depth
  else none

theorem mem_all (output : FragmentOutput)
    : output ∈ all := by
  cases output <;> decide

end FragmentOutput

/-- The output that a token stands for in a stage. -/
def Token.output? (stage : Stage) (token : Token) : Option FragmentOutput :=
  if stage = .fragment ∧ token.kind = .builtin then FragmentOutput.ofBuiltin? token.text
  else none

end ShaderUplift
