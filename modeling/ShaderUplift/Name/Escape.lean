import ShaderUplift.Name.Reserved
import ShaderUplift.Output.Basic
import ShaderUplift.Text.Scan

/-! Escaping names.
A name that the target dialect does not allow gets a mark in front. Names that carry the mark
already get another one, so that removing one mark recovers every name.
-/

namespace ShaderUplift.Name
open ShaderUplift.Text

/-- What an escaped name begins with. -/
def mark : String := "unique_"

/-- Whether a name begins with the mark. -/
def isMarked (name : String) : Bool :=
  mark.toList.isPrefixOf name.toList

/-- Whether a name is the one that a fragment output is known by. -/
def isOutputBase (name : String) : Bool :=
  FragmentOutput.all.any fun output => output.base = name

/-- Whether the target dialect reserves a name. -/
def isReserved (name : String) : Bool :=
  name ∈ reservedWords

/-- A name in the form that the target dialect allows. -/
def escape (name : String) : String :=
  if isReserved name || isOutputBase name || isMarked name then mark ++ name else name

/-- A name without its first mark, unless the mark is all there is. -/
def unescape (name : String) : String :=
  match after? mark.toList name.toList with
  | some (c :: rest) => String.ofList (c :: rest)
  | _ => name

end ShaderUplift.Name
