import ShaderUplift.Builtin
import ShaderUplift.Declaration.Placement
import ShaderUplift.Extension.Prune
import ShaderUplift.Name.Legalize
import ShaderUplift.Qualifier
import ShaderUplift.Token.Lex
import ShaderUplift.Version

/-! Upgrading a shader to a target version.
The version is settled first. A shader that is for the target already stays as it is. In any
other shader obsolete extensions are dropped, keywords, built-ins and names take their modern
form, all judged by the tokens before any of them changed, and the outputs are declared.
-/

namespace ShaderUplift

/-- The modern form of a token that stands between others. -/
def modernForm (stage : Stage) (target : String) (before : List Token) (token : Token)
    (after : List Token)
    : Except Failure Token :=
  match token.kind with
  | .keyword => .ok (Qualifier.modernize stage token)
  | .builtin => .ok (Builtin.modernize stage token)
  | .identifier => Name.legalize stage target before token after
  | _ => .ok token

/-- The modern forms of tokens that stand after others, of which the nearest is listed first. -/
def modernForms (stage : Stage) (target : String) (before : List Token)
    : List Token → Except Failure (List Token)
  | [] => .ok []
  | token :: after => do
      let form ← modernForm stage target before token after
      let forms ← modernForms stage target (token :: before) after
      return form :: forms

/-- Legacy tokens in the target dialect, with the outputs that they use declared. -/
def modernize (stage : Stage) (target : String) (tokens : List Token)
    : Except Failure (List Token) := do
  let forms ← modernForms stage target [] tokens
  Declaration.placeAll forms
    ((FragmentOutput.used stage tokens).map FragmentOutput.declaration)

/-- The tokens of an upgraded shader. -/
def upgradeTokens (policy : ExtensionPolicy) (target : String) (stage : Stage)
    (tokens : List Token)
    : Except Failure (List Token) := do
  let settlement := Version.settle policy target tokens
  let declared ← settlement.outcome
  if declared = some target then .ok settlement.tokens
  else modernize stage target (policy.prune settlement.tokens)

/-- How shaders are upgraded: the target, the extension policy, and how text is read and
written. -/
structure Upgrader where
  target : String := Version.desktop
  policy : ExtensionPolicy := .standard
  read : String → List Token := lex
  write : List Token → String := Token.render

/-- The upgraded form of a shader. -/
def Upgrader.upgrade (upgrader : Upgrader) (stage : Stage) (source : String)
    : Except Failure String :=
  (upgradeTokens upgrader.policy upgrader.target stage (upgrader.read source)).map
    upgrader.write

/-- The upgraded form of a shader, read and written in the ordinary way. -/
def upgrade (source : String) (stage : Stage) (target : String) : Except Failure String :=
  Upgrader.upgrade { target } stage source

end ShaderUplift
