import ShaderUplift.Position
import ShaderUplift.Token.Basic

/-! Where a name stands among the tokens around it.
The tokens before it are listed from the nearest one on, the tokens after it in their order.
-/

namespace ShaderUplift.Name

/-- Whether the tokens before a name declare it as an attribute.
Between the qualifier and the name may stand layout, directives and other keywords.
-/
def inAttributePosition : (before : List Token) → Bool
  | [] => false
  | token :: before =>
      match token.kind with
      | .keyword =>
          token.text = "attribute" || token.text = "in" || inAttributePosition before
      -- Any other part of an expression or declaration ends the search.
      | .operator | .identifier | .builtin | .integer | .float => false
      | _ => inAttributePosition before

/-- Whether the tokens after a name call it. -/
def inCallPosition : (after : List Token) → Bool
  | [] => false
  | token :: after =>
      if token.kind.isLayout then inCallPosition after else token.isOperator "("

/-- The tokens before a signed position from the nearest one on, none for a position that is
counted from the end. -/
def before (tokens : List Token) (position : Int) : List Token :=
  (tokens.take position.toNat).reverse

/-- The tokens after a signed position. -/
def after (tokens : List Token) (position : Int) : List Token :=
  tokens.drop (Position.gap tokens.length (position + 1))

/-- Whether a signed position is one of an attribute, unless the tokens end before it. -/
def isAttributeAt? (tokens : List Token) (position : Int) : Option Bool :=
  if tokens.length < position then none else some (inAttributePosition (before tokens position))

/-- Whether a signed position is one of a call. -/
def isCallAt (tokens : List Token) (position : Int) : Bool :=
  inCallPosition (after tokens position)

end ShaderUplift.Name
