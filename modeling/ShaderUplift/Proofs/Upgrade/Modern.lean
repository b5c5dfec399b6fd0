import Mathlib.Data.List.Infix
import ShaderUplift.Proofs.Declaration.Anchored
import ShaderUplift.Proofs.Output.Synthesized
import ShaderUplift.Proofs.Upgrade.InContext

/-! What an upgraded shader no longer contains.
No qualifier, built-in or output of the legacy dialect is left. A reserved word is left only where
it calls a texture function: the declarations are put behind a directive or the end of a statement,
so they do not come between a name and its parenthesis.
-/

namespace ShaderUplift

variable {stage : Stage}

-----------------------------------------------------------------------------------------
-- The forms of single tokens
-----------------------------------------------------------------------------------------

/-- The suffixes that the texture functions of the legacy dialect carry. -/
def Builtin.suffixes : List String :=
  ["2D", "Cube", "EXT"]

/-- The built-in variables of the legacy dialect that stand for outputs. -/
def FragmentOutput.legacyNames : List String :=
  ["gl_FragColor", "gl_FragDepth", "gl_FragDepthEXT"]

theorem FragmentOutput.ofBuiltin?_eq_none_iff {name : String}
    : ofBuiltin? name = none ↔ name ∉ legacyNames := by
  unfold ofBuiltin?
  split
  · simp_all [legacyNames]
  · split <;> simp_all [legacyNames]

/-- The texture functions of the legacy dialect lose all of their suffixes, and none of them stands
for an output then. -/
theorem Builtin.withoutSuffixes_modern
    : ∀ name ∈ Vocabulary.builtins, isTexture name = true
      → (∀ suffix ∈ suffixes, ¬suffix.toList <:+: withoutSuffixes name.toList)
        ∧ String.ofList (withoutSuffixes name.toList) ∉ FragmentOutput.legacyNames := by
  decide +kernel

theorem Qualifier.ne_of_modern?_eq_none {qualifier : String}
    (none : modern? stage qualifier = none)
    : qualifier ≠ "attribute" ∧ qualifier ≠ "varying" := by
  constructor
  · intro same
    subst same
    cases none
  · intro same
    subst same
    cases stage <;> cases none

namespace Recast

variable {token form : Token}

theorem text_of_keyword (recast : Recast stage token form) (kind : form.kind = .keyword)
    : form.text ≠ "attribute" ∧ form.text ≠ "varying" := by
  obtain ⟨rfl, keyword⟩ := recast.of_keyword kind
  simp only [Qualifier.modernize, keyword, if_true]
  cases replaced : Qualifier.modern? stage token.text with
  | none => exact Qualifier.ne_of_modern?_eq_none replaced
  | some modern =>
      rcases Qualifier.eq_of_modern?_eq_some replaced with same | same
      · simp [same]
      · simp [same]

/-- A built-in among the forms is a texture function without suffixes, or was a built-in that
neither is one nor stands for an output. -/
theorem text_of_builtin (recast : Recast stage token form) (kind : form.kind = .builtin)
    : Builtin.isTexture token.text = true ∧ form.chars = Builtin.withoutSuffixes token.chars
      ∨ Builtin.isTexture token.text = false ∧ form = token ∧ token.output? stage = none := by
  obtain ⟨rfl, builtin⟩ := recast.of_builtin kind
  rcases Builtin.modernize_cases stage builtin with
    ⟨texture, same⟩ | ⟨notTexture, ⟨output, -, same⟩ | ⟨none, same⟩⟩
  · exact Or.inl ⟨texture, by rw [same, Token.chars_ofChars]⟩
  · simp [same] at kind
  · exact Or.inr ⟨notTexture, same, none⟩

end Recast

theorem FragmentOutput.isReserved_variableName (output : FragmentOutput)
    : Name.isReserved output.variableName = false := by
  rw [variableName_eq]
  exact Name.isReserved_mark_append _

/-- A reserved word among the images is a texture function that is called. -/
theorem Image.called {target : String} {before after : List Token} {token form : Token}
    (image : Image stage target before token after form) (kind : form.kind = .identifier)
    (reserved : Name.isReserved form.text = true)
    : form = token ∧ token.text ∈ Name.samplingFunctions ∧ Name.Calling after := by
  cases image with
  | qualifier keyword => simp [Qualifier.modernize, keyword] at kind
  | builtin builtin =>
      rcases Builtin.modernize_cases stage builtin with
        ⟨-, same⟩ | ⟨-, ⟨output, -, same⟩ | ⟨-, same⟩⟩
      · simp [same] at kind
      · simp [same, output.isReserved_variableName] at reserved
      · simp [same, builtin] at kind
  | name identifier legal =>
      unfold Name.legalize at legal
      rw [if_neg (not_not_intro identifier)] at legal
      split at legal
      · split at legal
        · rename_i called
          cases legal
          exact ⟨rfl, called.1, Name.inCallPosition_iff.mp called.2⟩
        · split at legal
          · cases legal
          · cases legal
            rw [(Name.free_escape token.text).1] at reserved
            cases reserved
      · rename_i tokenFree
        split at legal
        · cases legal
          rw [(Name.free_escape token.text).1] at reserved
          cases reserved
        · cases legal
          exact absurd reserved tokenFree
  | same others => exact absurd kind others.2.2

-----------------------------------------------------------------------------------------
-- Calls
-----------------------------------------------------------------------------------------

/-- Forms call what stands before them exactly if their tokens do. -/
theorem calling_forms {tokens forms : List Token}
    (recasts : List.Forall₂ (Recast stage) tokens forms)
    : Name.Calling forms ↔ Name.Calling tokens := by
  induction recasts with
  | nil => rfl
  | @cons token form tokens forms recast _ ih =>
      have shown : ∀ kind : TokenKind, kind.isWord = true
          → kind.isLayout = false ∧ kind ≠ .operator := by
        intro kind isWord
        cases kind <;> simp_all [TokenKind.isWord, TokenKind.isLayout]
      simp only [Name.Calling] at ih ⊢
      rcases recast.eq_or_isWord with rfl | ⟨isWord, formIsWord⟩
      · cases layout : form.kind.isLayout with
        | true => rw [visible_cons_of_isLayout layout, visible_cons_of_isLayout layout, ih]
        | false =>
            rw [visible_cons_of_not_isLayout layout, visible_cons_of_not_isLayout layout]
            rfl
      · obtain ⟨layout, notOperator⟩ := shown _ isWord
        obtain ⟨formLayout, formNotOperator⟩ := shown _ formIsWord
        rw [visible_cons_of_not_isLayout layout, visible_cons_of_not_isLayout formLayout]
        obtain ⟨kind, text⟩ := token
        obtain ⟨formKind, formText⟩ := form
        simp_all

/-- Between a name and a gap behind it stands at least what ends the prologue there. -/
theorem Declaration.Gap.visible_ne_nil {prologue skipped after early late : List Token}
    {name : Token} (gap : Gap prologue skipped after)
    (split : prologue ++ skipped = early ++ name :: late) (kind : name.kind = .identifier)
    : visible late ≠ [] := by
  have inPrologue : ∃ rest, prologue = early ++ name :: rest ∧ late = rest ++ skipped := by
    rcases append_eq_append_cons split with inside | ⟨rest, -, behind⟩
    · exact inside
    · have passed := gap.skips name (by simp [behind])
      simp [isSkipped, kind] at passed
  obtain ⟨rest, rfl, rfl⟩ := inPrologue
  have ends := gap.ends
  rcases List.eq_nil_or_concat rest with rfl | ⟨rest, last, rfl⟩
  · rw [List.append_assoc, List.singleton_append, List.length_append] at ends
    rcases (isAnchor_of_prologueLength ends).kind with directive | rfl
    · rw [kind] at directive
      cases directive
    · cases kind
  · have place : early ++ name :: rest.concat last = (early ++ name :: rest) ++ [last] := by
      simp
    rw [place, List.append_assoc, List.singleton_append, List.length_append] at ends
    have shown : last.kind.isLayout = false := by
      rcases (isAnchor_of_prologueLength ends).kind with directive | rfl
      · simp [directive, TokenKind.isLayout]
      · rfl
    rw [List.concat_eq_append, visible_append, visible_append,
      visible_cons_of_not_isLayout shown]
    simp

/-- What calls a name before a gap still calls it with declarations in the gap. -/
theorem Rewritten.calling {target : String} {tokens front inserted back early late : List Token}
    {name : Token} (rewritten : Rewritten stage target tokens front inserted back)
    (split : front = early ++ name :: late) (kind : name.kind = .identifier)
    (calling : Name.Calling (late ++ back))
    : Name.Calling (late ++ (inserted ++ back)) := by
  by_cases none : FragmentOutput.used stage tokens = []
  · have nothing := rewritten.inserted_eq_nil_iff.mpr none
    rwa [nothing, List.nil_append]
  · obtain ⟨prologue, skipped, rfl, gap⟩ := rewritten.behind none
    have some := gap.visible_ne_nil split kind
    rw [Name.Calling, visible_append, List.head?_append_of_ne_nil _ some] at calling ⊢
    exact calling

-----------------------------------------------------------------------------------------
-- All tokens
-----------------------------------------------------------------------------------------

/-- Tokens hold no construct of the legacy dialect. -/
structure IsModern (stage : Stage) (tokens : List Token) : Prop where
  qualifiers
    : ∀ token ∈ tokens,
        token.kind = .keyword → token.text ≠ "attribute" ∧ token.text ≠ "varying"
  functions
    : ∀ token ∈ tokens,
        token.kind = .builtin → "texture".toList <+: token.chars
        → ∀ suffix ∈ ["2D", "Cube", "EXT"], ¬suffix.toList <:+: token.chars
  outputs
    : stage = .fragment
      → ∀ token ∈ tokens,
          token.kind = .builtin → token.text ∉ ["gl_FragColor", "gl_FragDepth", "gl_FragDepthEXT"]
  names
    : ∀ before token after,
        tokens = before ++ token :: after
        → token.kind = .identifier → token.text ∈ Name.reservedWords
        → token.text ∈ Name.samplingFunctions ∧ Name.Calling after

/-- No construct of the legacy dialect is put into a gap. -/
theorem FragmentOutput.declaration_modern (output : FragmentOutput)
    : ∀ token ∈ output.declaration,
        (token.kind = .keyword → token.text ≠ "attribute" ∧ token.text ≠ "varying")
        ∧ token.kind ≠ .builtin
        ∧ (token.kind = .identifier → Name.isReserved token.text = false) := by
  cases output <;> decide +kernel

theorem Declaration.stacked_modern {outputs : List FragmentOutput} {before after : List Token}
    {token : Token}
    (member : token ∈ stacked before (outputs.map FragmentOutput.declaration) after)
    : (token.kind = .keyword → token.text ≠ "attribute" ∧ token.text ≠ "varying")
      ∧ token.kind ≠ .builtin
      ∧ (token.kind = .identifier → Name.isReserved token.text = false) := by
  rcases mem_stacked member with rfl | ⟨output, member⟩
  · decide
  · exact output.declaration_modern token member

theorem exists_recast_of_mem {tokens forms : List Token}
    (recasts : List.Forall₂ (Recast stage) tokens forms) {form : Token} (member : form ∈ forms)
    : ∃ token ∈ tokens, Recast stage token form := by
  induction recasts with
  | nil => cases member
  | cons recast _ ih =>
      rcases List.mem_cons.mp member with rfl | later
      · exact ⟨_, List.mem_cons_self, recast⟩
      · obtain ⟨token, inTokens, tokenRecast⟩ := ih later
        exact ⟨token, List.mem_cons_of_mem _ inTokens, tokenRecast⟩

/-- A token of the result is a form, or has been put into the gap. -/
theorem Rewritten.cases_of_mem {target : String} {tokens front inserted back : List Token}
    (rewritten : Rewritten stage target tokens front inserted back) {form : Token}
    (member : form ∈ front ++ inserted ++ back)
    : (∃ token ∈ tokens, Recast stage token form) ∨ form ∈ inserted := by
  have recasts := forall₂_recast rewritten.forms
  rw [List.mem_append, List.mem_append] at member
  rcases member with (early | inside) | late
  · exact Or.inl (exists_recast_of_mem recasts (List.mem_append_left _ early))
  · exact Or.inr inside
  · exact Or.inl (exists_recast_of_mem recasts (List.mem_append_right _ late))

/-- A reserved word in the result calls a texture function, by the part of the result that it
stands in. -/
theorem Rewritten.called {target : String} {tokens front inserted back : List Token}
    (rewritten : Rewritten stage target tokens front inserted back)
    {before after : List Token} {form : Token}
    (split : front ++ inserted ++ back = before ++ form :: after)
    (kind : form.kind = .identifier) (reserved : Name.isReserved form.text = true)
    : form.text ∈ Name.samplingFunctions ∧ Name.Calling after := by
  have modern := rewritten.forms
  rw [← List.reverse_nil] at modern
  rw [List.append_assoc] at split
  rcases append_eq_append_cons split with ⟨late, rfl, rfl⟩ | ⟨early, rfl, behind⟩
  · rw [List.append_assoc, List.cons_append] at modern
    obtain ⟨_, token, _, -, image, recasts⟩ := exists_origin modern
    obtain ⟨rfl, sampling, calling⟩ := image.called kind reserved
    exact ⟨sampling, rewritten.calling rfl kind ((calling_forms recasts).mpr calling)⟩
  · rcases append_eq_append_cons behind with ⟨late, rfl, -⟩ | ⟨early, rfl, rfl⟩
    · have declared := rewritten.declared
      have member : form ∈ early ++ form :: late := by simp
      rw [declared] at member
      have free := (Declaration.stacked_modern member).2.2 kind
      rw [free] at reserved
      cases reserved
    · rw [← List.append_assoc] at modern
      obtain ⟨_, token, _, -, image, recasts⟩ := exists_origin modern
      obtain ⟨rfl, sampling, calling⟩ := image.called kind reserved
      exact ⟨sampling, (calling_forms recasts).mpr calling⟩

theorem Rewritten.isModern {target : String} {tokens front inserted back : List Token}
    (rewritten : Rewritten stage target tokens front inserted back)
    (listed : ∀ token ∈ tokens, token.kind = .builtin → token.text ∈ Vocabulary.builtins)
    : IsModern stage (front ++ inserted ++ back) where
  qualifiers := by
    intro form member kind
    rcases rewritten.cases_of_mem member with ⟨token, -, recast⟩ | inside
    · exact recast.text_of_keyword kind
    · rw [rewritten.declared] at inside
      exact (Declaration.stacked_modern inside).1 kind
  functions := by
    intro form member kind texture
    rcases rewritten.cases_of_mem member with ⟨token, inTokens, recast⟩ | inside
    · rcases recast.text_of_builtin kind with ⟨isTexture, chars⟩ | ⟨notTexture, rfl, -⟩
      · rw [chars]
        have builtin := (recast.of_builtin kind).2
        exact (Builtin.withoutSuffixes_modern _ (listed token inTokens builtin) isTexture).1
      · have isTexture : Builtin.isTexture form.text = true :=
          List.isPrefixOf_iff_prefix.mpr texture
        rw [isTexture] at notTexture
        cases notTexture
    · rw [rewritten.declared] at inside
      exact absurd kind (Declaration.stacked_modern inside).2.1
  outputs := by
    rintro rfl form member kind
    rcases rewritten.cases_of_mem member with ⟨token, inTokens, recast⟩ | inside
    · have builtin := (recast.of_builtin kind).2
      rcases recast.text_of_builtin kind with ⟨isTexture, chars⟩ | ⟨-, rfl, none⟩
      · obtain ⟨-, plain⟩ :=
          Builtin.withoutSuffixes_modern _ (listed token inTokens builtin) isTexture
        rw [← Token.chars, ← chars, Token.chars, String.ofList_toList] at plain
        exact plain
      · rw [Token.output?, if_pos ⟨rfl, kind⟩] at none
        exact FragmentOutput.ofBuiltin?_eq_none_iff.mp none
    · rw [rewritten.declared] at inside
      exact absurd kind (Declaration.stacked_modern inside).2.1
  names := by
    intro before form after split kind reserved
    exact rewritten.called split kind (decide_eq_true reserved)

/-- The built-ins that remain of a text are those that are listed. -/
theorem builtin_listed {policy : ExtensionPolicy} {source target : String}
    (isLegacy : Version.IsLegacy target (lex source))
    : ∀ token ∈ policy.remaining target (lex source),
        token.kind = .builtin → token.text ∈ Vocabulary.builtins := by
  intro token member kind
  have code : token ∈ codeIn (policy.remaining target (lex source)) :=
    List.mem_filter.mpr ⟨member, by simp [Token.isCode, kind]⟩
  rw [codeIn_remaining policy isLegacy] at code
  have each : ∀ token ∈ lex source, token.kind = .builtin → token.text ∈ Vocabulary.builtins :=
    forall_mem_lexFrom (fun c rest => (Lexeme.front_shape c rest).mem_builtins) source.toList
  exact each token (List.mem_filter.mp code).1 kind

/-- An upgraded legacy shader holds no construct of the legacy dialect. -/
theorem upgraded_isModern {policy : ExtensionPolicy} {source target : String}
    {result : List Token} (isLegacy : Version.IsLegacy target (lex source))
    (upgraded : upgradeTokens policy target stage (lex source) = .ok result)
    : IsModern stage result := by
  obtain ⟨front, inserted, back, rewritten, rfl⟩ := exists_rewritten isLegacy upgraded
  exact rewritten.isModern (builtin_listed isLegacy)

/-- The texture function that is called stays, although a variable is called like it. -/
theorem upgraded_isModern_texture
    : Version.declaredIn (lex "varying vec2 texture;\ngl_FragColor = texture/**/(texture);") = none
      ∧ ∃ result,
          upgradeTokens .standard "150" .fragment
              (lex "varying vec2 texture;\ngl_FragColor = texture/**/(texture);")
            = .ok result
          ∧ IsModern .fragment result := by
  have read : lex "varying vec2 texture;\ngl_FragColor = texture/**/(texture);"
      = [ ⟨.keyword, "varying"⟩, ⟨.whitespace, " "⟩, ⟨.keyword, "vec2"⟩, ⟨.whitespace, " "⟩,
          ⟨.identifier, "texture"⟩, ⟨.operator, ";"⟩, .newline, ⟨.builtin, "gl_FragColor"⟩,
          ⟨.whitespace, " "⟩, ⟨.operator, "="⟩, ⟨.whitespace, " "⟩, ⟨.identifier, "texture"⟩,
          ⟨.blockComment, "/**/"⟩, ⟨.operator, "("⟩, ⟨.identifier, "texture"⟩, ⟨.operator, ")"⟩,
          ⟨.operator, ";"⟩ ] := by
    decide +kernel
  have unversioned
      : Version.declaredIn (lex "varying vec2 texture;\ngl_FragColor = texture/**/(texture);")
        = none := by
    rw [read]
    decide
  have upgraded
      : upgradeTokens .standard "150" .fragment
          (lex "varying vec2 texture;\ngl_FragColor = texture/**/(texture);")
        = .ok
            (Version.declaring "150" :: ExtensionPolicy.block ["GL_ARB_separate_shader_objects"]
              ++ outDeclaration "unique_fragColor" "vec4"
              ++ [ .newline, ⟨.keyword, "in"⟩, ⟨.whitespace, " "⟩, ⟨.keyword, "vec2"⟩,
                ⟨.whitespace, " "⟩, ⟨.identifier, "unique_texture"⟩, ⟨.operator, ";"⟩, .newline,
                ⟨.identifier, "unique_fragColor"⟩, ⟨.whitespace, " "⟩, ⟨.operator, "="⟩,
                ⟨.whitespace, " "⟩, ⟨.identifier, "texture"⟩, ⟨.blockComment, "/**/"⟩,
                ⟨.operator, "("⟩, ⟨.identifier, "unique_texture"⟩, ⟨.operator, ")"⟩,
                ⟨.operator, ";"⟩ ]) := by
    rw [read]
    decide +kernel
  exact ⟨unversioned, _, upgraded, upgraded_isModern (Or.inl unversioned) upgraded⟩

end ShaderUplift
