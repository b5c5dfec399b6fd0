import ShaderUplift.Name.Escape
import ShaderUplift.Output.Basic

/-! The variables that stand for fragment outputs, and their declarations.
An output is queued when it is used for the first time, and declared once.
-/

namespace ShaderUplift

/-- The tokens that declare an output variable. -/
def outDeclaration (name type : String) : List Token :=
  [ ⟨.keyword, "out"⟩, ⟨.whitespace, " "⟩, ⟨.keyword, type⟩, ⟨.whitespace, " "⟩,
    ⟨.identifier, name⟩, ⟨.operator, ";"⟩ ]

namespace FragmentOutput

/-- The name of the variable that stands for an output. -/
def variableName (output : FragmentOutput) : String :=
  Name.escape output.base

/-- The declaration of the variable that stands for an output. -/
def declaration (output : FragmentOutput) : List Token :=
  outDeclaration output.variableName output.type

/-- The queued outputs after one more token. -/
def enqueue (stage : Stage) (queued : List FragmentOutput) (token : Token)
    : List FragmentOutput :=
  match token.output? stage with
  | some output => if output ∈ queued then queued else queued ++ [output]
  | none => queued

/-- The outputs that tokens use, in the order of their first use. -/
def used (stage : Stage) (tokens : List Token) : List FragmentOutput :=
  tokens.foldl (enqueue stage) []

theorem nodup_enqueue {stage : Stage} {queued : List FragmentOutput} {token : Token}
    (nodup : queued.Nodup)
    : (enqueue stage queued token).Nodup := by
  unfold enqueue
  cases token.output? stage with
  | none => exact nodup
  | some output =>
      by_cases member : output ∈ queued
      · simpa only [member, if_true] using nodup
      · simp only [member, if_false, List.nodup_append, nodup, true_and]
        refine ⟨by simp, ?_⟩
        rintro old isOld new isNew rfl
        exact member (List.mem_singleton.mp isNew ▸ isOld)

end FragmentOutput

end ShaderUplift
