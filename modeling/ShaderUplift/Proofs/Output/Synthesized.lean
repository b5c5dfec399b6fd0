import ShaderUplift.Proofs.Name.Merged

/-! The outputs of an upgraded fragment shader.
Every reference to an output becomes its variable, nothing else does, and an output that is
referred to is declared once.
-/

namespace ShaderUplift

namespace FragmentOutput

-----------------------------------------------------------------------------------------
-- References to outputs
-----------------------------------------------------------------------------------------

/-- The built-in variables that stand for an output. -/
def builtins : FragmentOutput → List String
  | color => ["gl_FragColor"]
  | depth => ["gl_FragDepth", "gl_FragDepthEXT"]

/-- The variable that stands for an output, as a token. -/
def reference (output : FragmentOutput) : Token :=
  ⟨.identifier, output.variableName⟩

theorem variableName_eq (output : FragmentOutput)
    : output.variableName = Name.mark ++ output.base := by
  cases output <;> decide +kernel

theorem reference_inj {output other : FragmentOutput}
    : output.reference = other.reference ↔ output = other := by
  cases output <;> cases other <;> decide +kernel

theorem output?_eq_some_iff {output : FragmentOutput} {token : Token}
    : token.output? .fragment = some output
      ↔ token.kind = .builtin ∧ token.text ∈ output.builtins := by
  cases output <;> grind [Token.output?, ofBuiltin?, builtins]

/-- The built-ins that stand for any output. -/
theorem exists_output?_iff {token : Token}
    : (∃ output, token.output? .fragment = some output)
      ↔ token.kind = .builtin
        ∧ token.text ∈ ["gl_FragColor", "gl_FragDepth", "gl_FragDepthEXT"] := by
  simp only [output?_eq_some_iff]
  constructor
  · rintro ⟨output, kind, text⟩
    refine ⟨kind, ?_⟩
    cases output with
    | color => exact List.mem_cons.mpr (Or.inl (List.mem_singleton.mp text))
    | depth => exact List.mem_cons_of_mem _ text
  · rintro ⟨kind, text⟩
    rcases List.mem_cons.mp text with color | depth
    · exact ⟨.color, kind, List.mem_singleton.mpr color⟩
    · exact ⟨.depth, kind, depth⟩

/-- No texture function stands for an output. -/
theorem output?_eq_none_of_isTexture {token : Token} (texture : Builtin.isTexture token.text = true)
    (stage : Stage)
    : token.output? stage = none := by
  cases found : token.output? stage with
  | none => rfl
  | some output =>
      cases stage with
      | vertex => simp [Token.output?] at found
      | fragment =>
          have plain : ∀ name ∈ output.builtins, Builtin.isTexture name = false := by
            cases output <;> decide +kernel
          rw [plain _ (output?_eq_some_iff.mp found).2] at texture
          cases texture

end FragmentOutput

/-- The form of a token is the variable of an output exactly if the token stands for the output,
by cases on the form. -/
theorem Recast.eq_reference_iff {token form : Token} (recast : Recast .fragment token form)
    (output : FragmentOutput)
    : form = output.reference ↔ token.output? .fragment = some output := by
  cases recast with
  | qualifier kind =>
      simp [Qualifier.modernize, kind, FragmentOutput.reference, Token.output?]
  | builtin kind =>
      simp only [Builtin.modernize]
      rw [if_neg (not_not_intro kind)]
      split
      · rename_i texture
        rw [FragmentOutput.output?_eq_none_of_isTexture texture]
        simp [Token.ofChars, FragmentOutput.reference]
      · split
        · rename_i other found
          rw [found, Option.some.injEq]
          exact FragmentOutput.reference_inj
        · rename_i none
          rw [none]
          constructor
          · intro equal
            subst equal
            cases kind
          · intro impossible
            cases impossible
  | kept kind free =>
      have none : token.output? .fragment = none := by simp [Token.output?, kind]
      rw [none]
      constructor
      · intro equal
        subst equal
        have claimed : Name.isClaimed .fragment output.variableName = true := by
          cases output <;> decide +kernel
        rw [FragmentOutput.reference, claimed] at free
        cases free
      · intro impossible
        cases impossible
  | escaped kind taken =>
      have none : token.output? .fragment = none := by simp [Token.output?, kind]
      rw [none, FragmentOutput.reference, FragmentOutput.variableName_eq, Token.mk.injEq,
        String.append_right_inj]
      constructor
      · rintro ⟨-, same⟩
        obtain ⟨unreserved, unclaimed⟩ := Name.base_free output .fragment
        rw [same, unreserved, unclaimed] at taken
        rcases taken with taken | taken <;> cases taken
      · intro impossible
        cases impossible
  | other kind =>
      have none : token.output? .fragment = none := by simp [Token.output?, kind]
      rw [none]
      constructor
      · intro equal
        subst equal
        exact absurd rfl kind.2.2
      · intro impossible
        cases impossible

namespace FragmentOutput

-----------------------------------------------------------------------------------------
-- The outputs that are used
-----------------------------------------------------------------------------------------

/-- An output is queued exactly if it is used, by induction on the tokens. -/
theorem mem_foldl_enqueue {stage : Stage} {output : FragmentOutput} {tokens : List Token}
    {queued : List FragmentOutput}
    : output ∈ tokens.foldl (enqueue stage) queued
      ↔ output ∈ queued ∨ ∃ token ∈ tokens, token.output? stage = some output := by
  induction tokens generalizing queued with
  | nil => simp
  | cons token rest ih =>
      rw [List.foldl_cons, ih]
      have first : output ∈ enqueue stage queued token
          ↔ output ∈ queued ∨ token.output? stage = some output := by
        simp only [enqueue]
        cases found : token.output? stage with
        | none => simp
        | some other =>
            by_cases old : other ∈ queued
            · simp only [old, if_true, Option.some.injEq]
              exact ⟨Or.inl, fun h => h.elim id (fun same => same ▸ old)⟩
            · simp [old, eq_comm]
      rw [first]
      simp [or_assoc]

/-- The outputs that are used can be told from the code. -/
theorem used_codeIn (stage : Stage) (tokens : List Token)
    : used stage (codeIn tokens) = used stage tokens := by
  rw [used, codeIn, List.foldl_filter, used]
  congr 1
  funext queued token
  split
  · rfl
  · rename_i notCode
    have none : token.output? stage = none := by
      have other : token.kind ≠ .builtin := by
        intro kind
        simp [Token.isCode, kind] at notCode
      simp [Token.output?, other]
    simp [enqueue, none]

/-- So the same outputs are used in what remains to be rewritten. -/
theorem used_remaining (policy : ExtensionPolicy) {target : String} {tokens : List Token}
    (isLegacy : Version.IsLegacy target tokens) (stage : Stage)
    : used stage (policy.remaining target tokens) = used stage tokens := by
  rw [← used_codeIn, codeIn_remaining policy isLegacy, used_codeIn]

theorem nodup_used (stage : Stage) (tokens : List Token)
    : (used stage tokens).Nodup := by
  have fold : ∀ queued : List FragmentOutput, queued.Nodup
      → (tokens.foldl (enqueue stage) queued).Nodup := by
    induction tokens with
    | nil => exact fun _ nodup => nodup
    | cons token rest ih => exact fun _ nodup => ih _ (nodup_enqueue nodup)
  exact fold [] List.nodup_nil

end FragmentOutput

-----------------------------------------------------------------------------------------
-- The forms and the declarations
-----------------------------------------------------------------------------------------

end ShaderUplift
