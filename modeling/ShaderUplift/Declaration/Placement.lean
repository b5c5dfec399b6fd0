import ShaderUplift.Declaration.Prologue

/-! Putting a declaration into a shader.
A declaration stands on a line of its own, directly before the first token that is not part of
the prologue, a directive or whitespace.
-/

namespace ShaderUplift.Declaration

/-- Tokens with a declaration among them, and the offset that it begins at. -/
structure Placement where
  tokens : List Token
  start : Nat
deriving DecidableEq, Repr

/-- The line break that a declaration needs after the tokens before it. -/
def leadingBreak (before : List Token) : List Token :=
  if before.getLast?.all Token.endsWithBreak then [] else [.newline]

/-- The line break that a declaration needs before the tokens after it. -/
def trailingBreak (after : List Token) : List Token :=
  if after.head?.all Token.startsWithBreak then [] else [.newline]

/-- Tokens with a declaration between `before` and `after`. -/
def between (before declaration after : List Token) : Placement where
  tokens := before ++ leadingBreak before ++ declaration ++ trailingBreak after ++ after
  start := before.length + (leadingBreak before).length

/-- Tokens with a declaration at its site. -/
def place (tokens declaration : List Token) : Except Failure Placement := do
  let site ← site tokens
  return between (tokens.take site) declaration (tokens.drop site)

/-- Tokens with declarations placed one after another, so that a later one stands first. -/
def placeAll (tokens : List Token) : (declarations : List (List Token))
    → Except Failure (List Token)
  | [] => .ok tokens
  | declaration :: rest => do
      let placement ← place tokens declaration
      placeAll placement.tokens rest

end ShaderUplift.Declaration
