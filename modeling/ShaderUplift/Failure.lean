/-! The causes for which a shader cannot be upgraded, and their wording.
A cause becomes a diagnostic, which may also carry the place it was found at.
-/

namespace ShaderUplift

/-- A place in a text, with lines and columns counted from zero. -/
structure Location where
  line : Int
  column : Int
deriving DecidableEq, Repr

/-- A message, with the place it is about if there is one. -/
structure Diagnostic where
  message : String
  location : Option Location
deriving DecidableEq, Repr

/-- The full text of a diagnostic, which counts lines and columns from one. -/
def Diagnostic.text (diagnostic : Diagnostic) : String :=
  match diagnostic.location with
  | none => diagnostic.message
  | some place =>
      diagnostic.message ++ " at line " ++ toString (place.line + 1) ++
        ", column " ++ toString (place.column + 1)

/-- Why a shader cannot be upgraded. -/
inductive Failure where
  /-- The shader declares a version that is neither supported nor the target. -/
  | unknownVersion (declared target : String)
  /-- A vertex attribute, which the host binds by name, has a reserved word as its name. -/
  | reservedAttribute (name target : String)
  /-- A precision statement is never ended. -/
  | missingSemicolon
deriving DecidableEq, Repr

namespace Failure

/-- The wording of a failure. -/
def message : Failure → String
  | unknownVersion declared target =>
      "unknown #version type: " ++ declared ++ " (expected 100, 300 es or " ++ target ++ ")"
  | reservedAttribute name target =>
      "Unable to transpile to " ++ target ++ " automatically: " ++
        "One of the vertex shader attributes is using a reserved " ++ target ++
        " keyword \"" ++ name ++ "\""
  | missingSemicolon => "precision statement not followed by any semicolons"

/-- A failure as a diagnostic, which has no place. -/
def diagnostic (failure : Failure) : Diagnostic :=
  ⟨failure.message, none⟩

/-- The attribute name that a failure is about. -/
def name? : Failure → Option String
  | reservedAttribute name _ => some name
  | _ => none

/-- The declared version that a failure is about. -/
def declared? : Failure → Option String
  | unknownVersion declared _ => some declared
  | _ => none

/-- The target version that a failure mentions. -/
def target? : Failure → Option String
  | unknownVersion _ target => some target
  | reservedAttribute _ target => some target
  | missingSemicolon => none

end Failure

/-- Outcomes can be compared when their values can. -/
instance {α : Type} [DecidableEq α] : DecidableEq (Except Failure α)
  | .ok value, .ok other => decidable_of_iff (value = other) (by simp)
  | .error failure, .error other => decidable_of_iff (failure = other) (by simp)
  | .ok _, .error _ => isFalse (by simp)
  | .error _, .ok _ => isFalse (by simp)

end ShaderUplift
