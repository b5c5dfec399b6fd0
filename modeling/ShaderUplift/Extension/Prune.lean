import ShaderUplift.Extension.Policy

/-! Removing the directives of obsolete extensions.
A directive that is removed takes the whitespace directly after it along, so that no empty
line stays behind.
-/

namespace ShaderUplift.ExtensionPolicy

/-- Whether a token names an obsolete extension. -/
def isObsolete (policy : ExtensionPolicy) (token : Token) : Bool :=
  token.extension?.any fun name => name ∈ policy.obsolete

/-- Tokens without the directives of obsolete extensions, after `owed` directives that have not
taken their whitespace along yet. -/
def pruneAfter (policy : ExtensionPolicy) : (owed : Nat) → List Token → List Token
  | _, [] => []
  | owed, token :: rest =>
      -- Directives in a row each take one whitespace token of those that follow.
      if policy.isObsolete token then pruneAfter policy (owed + 1) rest
      else if token.kind = .whitespace then
        match owed with
        | 0 => token :: pruneAfter policy 0 rest
        | owed + 1 => pruneAfter policy owed rest
      else token :: pruneAfter policy 0 rest

/-- Tokens without the directives of obsolete extensions. -/
def prune (policy : ExtensionPolicy) (tokens : List Token) : List Token :=
  policy.pruneAfter 0 tokens

/-- The obsolete extensions that tokens name, in their order. -/
def pruned (policy : ExtensionPolicy) (tokens : List Token) : List String :=
  (extensionsIn tokens).filter fun name => name ∈ policy.obsolete

end ShaderUplift.ExtensionPolicy
