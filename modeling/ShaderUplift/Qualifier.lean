import ShaderUplift.Stage
import ShaderUplift.Token.Basic

/-! Storage qualifiers.
The target dialect says for each stage whether a variable comes in or goes out.
-/

namespace ShaderUplift.Qualifier

/-- The qualifier that a legacy one becomes in a stage. -/
def modern? (stage : Stage) (qualifier : String) : Option String :=
  if qualifier = "attribute" then some "in"
  else if qualifier = "varying" then
    match stage with
    | .vertex => some "out"
    | .fragment => some "in"
  else none

/-- A token with its legacy qualifier, if it is one, in the modern form. -/
def modernize (stage : Stage) (token : Token) : Token :=
  if token.kind = .keyword then
    { token with text := (modern? stage token.text).getD token.text }
  else token

end ShaderUplift.Qualifier
