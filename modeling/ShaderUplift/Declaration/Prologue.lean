import ShaderUplift.Directive
import ShaderUplift.Failure
import ShaderUplift.Position

/-! The prologue of a shader: the part that declarations have to come after.
It runs through the last leading directive and through the end of the last precision statement.
-/

namespace ShaderUplift.Declaration

/-- Whether a token ends a statement. -/
def endsStatement (token : Token) : Bool :=
  token.isOperator ";"

/-- How many tokens `token :: rest` has to begin the prologue with, because of its first one. -/
def claim (token : Token) (rest : List Token) : Except Failure Nat :=
  if token.isLeadingDirective then .ok 1
  else if token.isKeyword "precision" then
    match rest.findIdx? endsStatement with
    -- The statement spans its keyword, what stands between, and its end.
    | some between => .ok (between + 2)
    | none => .error .missingSemicolon
  else .ok 0

/-- The number of tokens in the prologue. -/
def prologueLength : List Token → Except Failure Nat
  | [] => .ok 0
  | token :: rest => do
      let own ← claim token rest
      let later ← prologueLength rest
      return max own (if later = 0 then 0 else later + 1)

/-- Whether a token may stand between the prologue and a declaration. -/
def isSkipped (token : Token) : Bool :=
  token.kind = .directive || token.kind = .whitespace

/-- The number of tokens that a new declaration comes after. -/
def site (tokens : List Token) : Except Failure Nat := do
  let prologue ← prologueLength tokens
  return prologue + ((tokens.drop prologue).takeWhile isSkipped).length

/-- The first signed position from `start` on that ends a statement, if there is one.
A start before the first token is refused.
-/
def nextEnd? (tokens : List Token) (start : Int) : Option (Option Int) :=
  (Position.from? tokens.length start).map fun positions =>
    positions.find? fun position => (Position.item? tokens position).any endsStatement

end ShaderUplift.Declaration
