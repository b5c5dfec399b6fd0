import Mathlib.Data.List.Nodup
import ShaderUplift.Proofs.Output.Synthesized

/-! Outputs that are named and queued while tokens are rewritten.
Tokens are rewritten one after another. What is kept between them are the names that outputs were
given and the declarations in a queue, and both are told by the outputs in order of first use.
-/

namespace ShaderUplift

namespace FragmentOutput

theorem base_inj {output other : FragmentOutput}
    : output.base = other.base ↔ output = other := by
  cases output <;> cases other <;> decide

theorem declaration_inj {output other : FragmentOutput}
    : output.declaration = other.declaration ↔ output = other := by
  cases output <;> cases other <;> decide +kernel

/-- A token that stands for an output becomes the name of the output. -/
theorem modernize_output {output : FragmentOutput} {token : Token}
    (stands : token.output? .fragment = some output)
    : Builtin.modernize .fragment token = ⟨.identifier, Name.escape output.base⟩ := by
  have kind := (output?_eq_some_iff.mp stands).1
  rcases Builtin.modernize_cases .fragment kind with
    ⟨texture, -⟩ | ⟨-, ⟨other, found, same⟩ | ⟨none, -⟩⟩
  · rw [output?_eq_none_of_isTexture texture] at stands
    cases stands
  · rw [stands] at found
    cases found
    exact same
  · rw [stands] at none
    cases none

end FragmentOutput

-----------------------------------------------------------------------------------------
-- Rewriting token by token
-----------------------------------------------------------------------------------------

/-- What is kept between tokens: the name that each output was given, found by the name that the
output is known by, and the declarations that wait to be put in. -/
structure OutputTable where
  names : List (String × String)
  declarations : List (List Token)
deriving DecidableEq, Repr

namespace OutputTable

/-- Before the first token nothing is named. -/
def empty : OutputTable :=
  ⟨[], []⟩

/-- The name of an output. One without a name is given one, and its declaration is queued. -/
def nameOf (output : FragmentOutput) : StateM OutputTable String := do
  match (← get).names.lookup output.base with
  | some name => return name
  | none =>
      let name := Name.escape output.base
      modify fun table =>
        { names := table.names ++ [(output.base, name)]
          declarations := table.declarations ++ [outDeclaration name output.type] }
      return name

/-- A token with its built-in, if it is one, in the modern form. -/
def rewrite (stage : Stage) (token : Token) : StateM OutputTable Token := do
  if token.kind ≠ .builtin then return token
  else if Builtin.isTexture token.text then
    return .ofChars .builtin (Builtin.withoutSuffixes token.chars)
  else
    match token.output? stage with
    | some output => return ⟨.identifier, ← nameOf output⟩
    | none => return token

/-- The table in which given outputs are named and queued. -/
def holding (outputs : List FragmentOutput) : OutputTable where
  names := outputs.map fun output => (output.base, output.variableName)
  declarations := outputs.map FragmentOutput.declaration

theorem lookup_holding (outputs : List FragmentOutput) (output : FragmentOutput)
    : (holding outputs).names.lookup output.base
      = if output ∈ outputs then some output.variableName else none := by
  induction outputs with
  | nil => rfl
  | cons other rest ih =>
      rw [holding] at ih ⊢
      rw [List.map_cons, List.lookup_cons, ih]
      by_cases same : output = other
      · subst same
        simp
      · have apart : (output.base == other.base) = false := by
          simpa [FragmentOutput.base_inj] using same
        simp [apart, same]

/-- A step runs on from where the one before it has ended. -/
theorem run_bind_of_run {Answer Result : Type} {first : StateM OutputTable Answer}
    {next : Answer → StateM OutputTable Result} {before after : OutputTable} {answer : Answer}
    (ran : first.run before = (answer, after))
    : (first >>= next).run before = (next answer).run after := by
  rw [StateT.run_bind, ran]
  rfl

/-- Naming an output that has a name changes nothing, and a new one is put last. -/
theorem run_nameOf (outputs : List FragmentOutput) (output : FragmentOutput)
    : (nameOf output).run (holding outputs)
      = (output.variableName,
          holding (if output ∈ outputs then outputs else outputs ++ [output])) := by
  have found := lookup_holding outputs output
  have seen : (get : StateM OutputTable OutputTable).run (holding outputs)
      = (holding outputs, holding outputs) :=
    rfl
  rw [nameOf, run_bind_of_run seen]
  by_cases named : output ∈ outputs
  · rw [if_pos named] at found ⊢
    simp only [found]
    rfl
  · rw [if_neg named] at found ⊢
    simp only [found]
    rw [holding, holding, List.map_append, List.map_append]
    rfl

/-- A token is rewritten as it is on its own, and the output that it stands for is queued. -/
theorem run_rewrite (stage : Stage) (outputs : List FragmentOutput) (token : Token)
    : (rewrite stage token).run (holding outputs)
      = (Builtin.modernize stage token, holding (FragmentOutput.enqueue stage outputs token)) := by
  rw [rewrite, Builtin.modernize, FragmentOutput.enqueue]
  by_cases kind : token.kind = .builtin
  · rw [if_neg (not_not_intro kind), if_neg (not_not_intro kind)]
    cases texture : Builtin.isTexture token.text with
    | true =>
        rw [FragmentOutput.output?_eq_none_of_isTexture texture]
        rfl
    | false =>
        rw [if_neg Bool.false_ne_true, if_neg Bool.false_ne_true]
        cases token.output? stage with
        | none => rfl
        | some output => exact run_bind_of_run (run_nameOf outputs output)
  · have none : token.output? stage = none := by simp [Token.output?, kind]
    rw [if_pos kind, if_pos kind, none]
    rfl

/-- So are all tokens of a run, by induction on them. -/
theorem run_mapM_rewrite (stage : Stage) (outputs : List FragmentOutput) (tokens : List Token)
    : (tokens.mapM (rewrite stage)).run (holding outputs)
      = (tokens.map (Builtin.modernize stage),
          holding (tokens.foldl (FragmentOutput.enqueue stage) outputs)) := by
  induction tokens generalizing outputs with
  | nil => rfl
  | cons token rest ih =>
      rw [List.mapM_cons, run_bind_of_run (run_rewrite stage outputs token),
        run_bind_of_run (ih _)]
      rfl

example
    : (([⟨.builtin, "gl_FragDepthEXT"⟩, ⟨.builtin, "gl_FragColor"⟩,
          ⟨.builtin, "gl_FragDepth"⟩].mapM (rewrite .fragment)).run empty).2.names
      = [("fragDepth", "unique_fragDepth"), ("fragColor", "unique_fragColor")] := by
  decide +kernel

-----------------------------------------------------------------------------------------
-- The order of first use
-----------------------------------------------------------------------------------------

/-- The outputs that tokens stand for, each where it stands first. -/
def firstUses (tokens : List Token) : List FragmentOutput :=
  (tokens.filterMap (Token.output? .fragment)).eraseDups

/-- Outputs are queued in the order of their first use, by induction on the last token. -/
theorem used_eq_firstUses (tokens : List Token)
    : FragmentOutput.used .fragment tokens = firstUses tokens := by
  induction tokens using List.reverseRecOn with
  | nil => rfl
  | append_singleton front token ih =>
      rw [FragmentOutput.used] at ih ⊢
      rw [List.foldl_concat, ih, FragmentOutput.enqueue, firstUses, firstUses,
        List.filterMap_append, List.eraseDups_append]
      cases found : token.output? .fragment with
      | none => simp [found]
      | some output =>
          generalize front.filterMap (Token.output? .fragment) = outputs
          by_cases old : output ∈ outputs
          · simp [found, List.removeAll, old]
          · simp [found, List.removeAll, old, List.eraseDups_cons]

/-- What is kept after given tokens of a fragment shader: a name for each output that one of them
stands for, and the declarations of these outputs. Both are in order of first use. -/
structure InStep (tokens : List Token) (table : OutputTable) : Prop where
  entered
    : ∀ base,
        (∃ name, (base, name) ∈ table.names)
        ↔ ∃ output : FragmentOutput, output.base = base
            ∧ ∃ token ∈ tokens, token.kind = .builtin ∧ token.text ∈ output.builtins
  named : ∀ base name, (base, name) ∈ table.names → name = Name.escape base
  once : (table.names.map Prod.fst).Nodup
  ordered : table.names.map Prod.fst = (firstUses tokens).map FragmentOutput.base
  queued
    : table.declarations
      = (firstUses tokens).map fun output => outDeclaration (Name.escape output.base) output.type

theorem mem_firstUses {output : FragmentOutput} {tokens : List Token}
    : output ∈ firstUses tokens
      ↔ ∃ token ∈ tokens, token.kind = .builtin ∧ token.text ∈ output.builtins := by
  simp only [firstUses, List.mem_eraseDups, List.mem_filterMap, FragmentOutput.output?_eq_some_iff]

theorem nodup_firstUses (tokens : List Token)
    : (firstUses tokens).Nodup :=
  used_eq_firstUses tokens ▸ FragmentOutput.nodup_used .fragment tokens

theorem inStep_holding (tokens : List Token)
    : InStep tokens (holding (firstUses tokens)) where
  entered := by
    intro base
    simp only [holding, List.mem_map, Prod.mk.injEq, ← mem_firstUses]
    constructor
    · rintro ⟨name, output, used, same, -⟩
      exact ⟨output, same, used⟩
    · rintro ⟨output, same, used⟩
      exact ⟨output.variableName, output, used, same, rfl⟩
  named := by
    intro base name entry
    obtain ⟨output, -, same⟩ := List.mem_map.mp entry
    cases same
    rfl
  once := by
    rw [holding, List.map_map]
    exact List.Nodup.map (fun _ _ => FragmentOutput.base_inj.mp) (nodup_firstUses tokens)
  ordered := by
    rw [holding, List.map_map]
    rfl
  queued := rfl

/-- Over any run of tokens of a fragment shader the names and the queue stay in step. A token that
stands for an output is answered with a name whose declaration is in the queue by then, and the two
built-ins for the depth have one entry between them. In a vertex shader nothing is ever named. -/
theorem outputs_in_step (tokens : List Token)
    : (∃ forms table,
        (tokens.mapM (rewrite .fragment)).run empty = (forms, table)
        ∧ forms = tokens.map (Builtin.modernize .fragment)
        ∧ InStep tokens table
        ∧ (∀ last ∈ tokens.getLast?, ∀ output : FragmentOutput,
            last.kind = .builtin
            → last.text ∈ output.builtins
            → forms.getLast? = some ⟨.identifier, Name.escape output.base⟩
              ∧ outDeclaration (Name.escape output.base) output.type ∈ table.declarations)
        ∧ (⟨.builtin, "gl_FragDepth"⟩ ∈ tokens ∨ ⟨.builtin, "gl_FragDepthEXT"⟩ ∈ tokens
            → (table.names.map Prod.fst).count "fragDepth" = 1
              ∧ table.declarations.count (outDeclaration "unique_fragDepth" "float") = 1))
      ∧ (tokens.mapM (rewrite .vertex)).run empty
        = (tokens.map (Builtin.modernize .vertex), empty) := by
  have fragment := run_mapM_rewrite .fragment [] tokens
  have vertex := run_mapM_rewrite .vertex [] tokens
  have unused : FragmentOutput.used .vertex tokens = [] := by
    simp [List.eq_nil_iff_forall_not_mem, FragmentOutput.used, FragmentOutput.mem_foldl_enqueue,
      Token.output?]
  change _ = (_, holding (FragmentOutput.used .fragment tokens)) at fragment
  change _ = (_, holding (FragmentOutput.used .vertex tokens)) at vertex
  rw [used_eq_firstUses] at fragment
  rw [unused] at vertex
  refine ⟨⟨_, _, fragment, rfl, inStep_holding tokens, ?_, ?_⟩, vertex⟩
  · intro last ends output kind text
    have stands := FragmentOutput.output?_eq_some_iff.mpr ⟨kind, text⟩
    have used : output ∈ firstUses tokens :=
      mem_firstUses.mpr ⟨last, List.mem_of_getLast? ends, kind, text⟩
    refine ⟨?_, List.mem_map_of_mem used⟩
    rw [List.getLast?_map, Option.mem_def.mp ends, Option.map_some,
      FragmentOutput.modernize_output stands]
  · intro depth
    have used : .depth ∈ firstUses tokens := by
      rw [mem_firstUses]
      rcases depth with plain | extended
      · exact ⟨_, plain, rfl, by decide⟩
      · exact ⟨_, extended, rfl, by decide⟩
    have inStep := inStep_holding tokens
    have named : "fragDepth" ∈ (holding (firstUses tokens)).names.map Prod.fst :=
      inStep.ordered ▸ List.mem_map_of_mem used
    have declaredOnce : ((firstUses tokens).map FragmentOutput.declaration).Nodup :=
      List.Nodup.map (fun _ _ => FragmentOutput.declaration_inj.mp) (nodup_firstUses tokens)
    have declared : FragmentOutput.declaration .depth
        ∈ (firstUses tokens).map FragmentOutput.declaration :=
      List.mem_map_of_mem used
    exact ⟨List.count_eq_one_of_mem inStep.once named,
      List.count_eq_one_of_mem declaredOnce declared⟩

end OutputTable

end ShaderUplift
