import ShaderUplift.Text.Quoted

/-! The two stages of a shader program.
-/

namespace ShaderUplift

/-- The stage of the pipeline that a shader runs in. -/
inductive Stage where
  | vertex
  | fragment
deriving DecidableEq, Repr

namespace Stage

/-- The name of a stage. -/
def name : Stage → String
  | vertex => "vertex"
  | fragment => "fragment"

/-- The stage with a given name. -/
def ofName? (name : String) : Option Stage :=
  if name = "vertex" then some vertex
  else if name = "fragment" then some fragment
  else none

/-- The complaint about a text that names no stage. -/
def unknownMessage (text : String) : String :=
  String.ofList (Text.Quoted.encode text.toList) ++ " is not a valid ShaderStage"

end Stage

end ShaderUplift
