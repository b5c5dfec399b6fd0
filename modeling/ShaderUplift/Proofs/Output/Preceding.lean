import Mathlib.Order.Nat
import ShaderUplift.Proofs.Declaration.Sited
import ShaderUplift.Proofs.Upgrade.Failing
import ShaderUplift.Proofs.Upgrade.Ordered

/-! Declarations and the references to what they declare.
All declarations stand at one site, behind the last anchor. So they come too late for a reference
exactly if an anchor stands behind that, as a late precision statement does.
-/

namespace ShaderUplift

variable {target : String} {tokens front inserted back : List Token}

-----------------------------------------------------------------------------------------
-- References
-----------------------------------------------------------------------------------------

/-- An output is referred to at a place among tokens. -/
def ReferenceAt (tokens : List Token) (place : Nat) : Prop :=
  ∃ output, tokens[place]? = some (FragmentOutput.reference output)

/-- Among forms the outputs are referred to where their built-ins stood, by induction on the tokens.
-/
theorem referenceAt_iff {forms : List Token}
    (recasts : List.Forall₂ (Recast .fragment) tokens forms) (place : Nat)
    : ReferenceAt forms place
      ↔ ∃ token,
          tokens[place]? = some token ∧ token.kind = .builtin
          ∧ token.text ∈ ["gl_FragColor", "gl_FragDepth", "gl_FragDepthEXT"] := by
  induction recasts generalizing place with
  | nil => simp [ReferenceAt]
  | @cons token form tokens forms recast later ih =>
      cases place with
      | zero =>
          simp only [ReferenceAt, List.getElem?_cons_zero, Option.some.injEq, exists_eq_left',
            recast.eq_reference_iff, FragmentOutput.exists_output?_iff]
      | succ place => exact ih place

/-- What is put in changes nothing in front of it. -/
theorem referenceAt_inserted_iff {place : Nat} (early : place < front.length)
    : ReferenceAt (front ++ inserted ++ back) place ↔ ReferenceAt (front ++ back) place := by
  simp only [ReferenceAt, List.append_assoc, List.getElem?_append_left early]

/-- No anchor is a reference. -/
theorem Declaration.AnchorAt.not_referenceAt {place : Nat} (anchored : AnchorAt tokens place)
    : ¬ReferenceAt tokens place := by
  obtain ⟨before, anchor, after, rfl, rfl, isAnchor⟩ := anchored
  rintro ⟨output, found⟩
  have here : (before ++ anchor :: after)[before.length]? = some anchor := by simp
  rw [here, Option.some.injEq] at found
  rcases isAnchor.kind with kind | same
  · rw [found] at kind
    cases kind
  · rw [found] at same
    cases congrArg Token.kind same

-----------------------------------------------------------------------------------------
-- References in front of a gap
-----------------------------------------------------------------------------------------

/-- What is skipped behind the prologue refers to nothing. -/
theorem Declaration.Gap.lt_prologue {prologue skipped : List Token}
    (gap : Gap prologue skipped back) {place : Nat}
    (referred : ReferenceAt (prologue ++ skipped ++ back) place)
    (early : place < (prologue ++ skipped).length)
    : place < prologue.length := by
  by_contra late
  obtain ⟨output, found⟩ := referred
  rw [List.getElem?_append_left early, List.getElem?_append_right (Nat.le_of_not_lt late)] at found
  rcases isSkipped_iff.mp (gap.skips _ (List.mem_of_getElem? found)) with kind | kind
  · cases kind
  · cases kind

/-- No reference stands in front of a gap exactly if no anchor stands behind the first one, because
the prologue ends with an anchor. -/
theorem Declaration.Gap.no_reference_iff {prologue skipped : List Token}
    (gap : Gap prologue skipped back) {first : Nat}
    (isFirst : IsLeast {place | ReferenceAt (prologue ++ skipped ++ back) place} first)
    : (∀ place, ReferenceAt (prologue ++ skipped ++ back) place
          → (prologue ++ skipped).length ≤ place)
      ↔ ∀ place, AnchorAt (prologue ++ skipped ++ back) place → ¬first < place := by
  have ends := gap.ends
  rw [← List.append_assoc] at ends
  constructor
  · intro none place anchored later
    have inside := anchored.lt_prologueLength ends
    have outside := none first isFirst.1
    rw [List.length_append] at outside
    omega
  · intro last place referred
    by_contra early
    have least : first ≤ place := isFirst.2 referred
    have inside := gap.lt_prologue referred (Nat.lt_of_not_le early)
    -- The prologue is not empty, so that its last token is an anchor.
    obtain ⟨length, whole⟩ : ∃ length, prologue.length = length + 1 :=
      Nat.exists_eq_succ_of_ne_zero (by omega)
    rw [whole] at ends
    have anchored := anchorAt_of_prologueLength ends
    rcases Nat.lt_or_ge first length with later | same
    · exact last length anchored later
    · obtain rfl : length = place := by omega
      exact anchored.not_referenceAt referred

-----------------------------------------------------------------------------------------
-- Declarations in front of references
-----------------------------------------------------------------------------------------

/-- Every declaration that is put in ends before every reference begins. The declarations stand
between `front` and `back`, which hold the references.
-/
def DeclaredFirst (front inserted back : List Token) : Prop :=
  ∀ before output after,
    inserted = before ++ (FragmentOutput.declaration output ++ after)
    → ∀ place,
        ReferenceAt (front ++ inserted ++ back) place
        → place < front.length ∨ (front ++ inserted).length ≤ place
        → (front ++ before ++ output.declaration).length ≤ place

/-- Declarations come first exactly if no reference stands in front of where they are put in. -/
theorem Rewritten.declaredFirst_iff
    (rewritten : Rewritten .fragment target tokens front inserted back) (some : inserted ≠ [])
    : DeclaredFirst front inserted back
      ↔ ∀ place, ReferenceAt (front ++ back) place → front.length ≤ place := by
  constructor
  · intro declared place referred
    by_contra early
    obtain ⟨lead, output, rest, begins, -⟩ := rewritten.exists_declaration some
    have inFront := Nat.lt_of_not_le early
    have bound := declared lead output rest begins place
      ((referenceAt_inserted_iff inFront).mpr referred) (Or.inl inFront)
    simp only [List.length_append] at bound
    omega
  · intro none before output after split place referred outside
    rcases outside with inFront | behind
    · have late := none place ((referenceAt_inserted_iff inFront).mp referred)
      exact absurd late (Nat.not_le_of_lt inFront)
    · rw [split] at behind
      simp only [List.length_append] at behind ⊢
      omega

/-- In an upgraded fragment shader that refers to outputs all declarations come before all
references, if and only if no directive that leads and no end of a precision statement stands behind
the first reference among the forms that the declarations are put between.
-/
theorem declaredFirst_upgraded_iff {policy : ExtensionPolicy} {result : List Token}
    (isLegacy : Version.IsLegacy target tokens)
    (upgraded : upgradeTokens policy target .fragment tokens = .ok result)
    (referring
      : ∃ token ∈ tokens,
          token.kind = .builtin
          ∧ token.text ∈ ["gl_FragColor", "gl_FragDepth", "gl_FragDepthEXT"])
    : ∃ front inserted back first,
        Rewritten .fragment target (policy.remaining target tokens) front inserted back
        ∧ result = front ++ inserted ++ back
        ∧ (∀ place,
            ReferenceAt (front ++ back) place
            ↔ ∃ token,
                (policy.remaining target tokens)[place]? = some token ∧ token.kind = .builtin
                ∧ token.text ∈ ["gl_FragColor", "gl_FragDepth", "gl_FragDepthEXT"])
        ∧ IsLeast {place | ReferenceAt (front ++ back) place} first
        ∧ (DeclaredFirst front inserted back
          ↔ ∀ place, Declaration.AnchorAt (front ++ back) place → ¬first < place) := by
  obtain ⟨front, inserted, back, rewritten, rfl⟩ := exists_rewritten isLegacy upgraded
  have references := referenceAt_iff (forall₂_recast rewritten.forms)
  have used : FragmentOutput.used .fragment (policy.remaining target tokens) ≠ [] := by
    rw [FragmentOutput.used_remaining policy isLegacy, FragmentOutput.used_ne_nil_iff]
    exact ⟨rfl, referring⟩
  obtain ⟨first, isFirst⟩
      : ∃ first, IsLeast {place | ReferenceAt (front ++ back) place} first := by
    obtain ⟨-, token, member, builtin⟩ := FragmentOutput.used_ne_nil_iff.mp used
    obtain ⟨place, inside, here⟩ := List.getElem_of_mem member
    have found : (policy.remaining target tokens)[place]? = some token := by
      rw [List.getElem?_eq_getElem inside, here]
    have some : ∃ place, ReferenceAt (front ++ back) place :=
      ⟨place, (references place).mpr ⟨token, found, builtin⟩⟩
    classical
    exact ⟨Nat.find some, Nat.isLeast_find some⟩
  obtain ⟨prologue, skipped, rfl, gap⟩ := rewritten.behind used
  refine ⟨prologue ++ skipped, inserted, back, first, rewritten, rfl, references, isFirst, ?_⟩
  rw [rewritten.declaredFirst_iff (mt rewritten.inserted_eq_nil_iff.mp used),
    gap.no_reference_iff isFirst]

/-- An output that is used in front of a precision statement is declared after it is used. -/
theorem declaredFirst_upgraded_iff_late
    : Version.IsLegacy "150" (lex "gl_FragColor;precision lowp int;")
      ∧ (∃ token ∈ lex "gl_FragColor;precision lowp int;",
          token.kind = .builtin
          ∧ token.text ∈ ["gl_FragColor", "gl_FragDepth", "gl_FragDepthEXT"])
      ∧ ∃ front inserted back first,
          upgradeTokens .standard "150" .fragment (lex "gl_FragColor;precision lowp int;")
            = .ok (front ++ inserted ++ back)
          ∧ IsLeast {place | ReferenceAt (front ++ back) place} first
          ∧ (DeclaredFirst front inserted back
            ↔ ∀ place, Declaration.AnchorAt (front ++ back) place → ¬first < place)
          ∧ ¬DeclaredFirst front inserted back := by
  have read
      : lex "gl_FragColor;precision lowp int;"
        = [ ⟨.builtin, "gl_FragColor"⟩, ⟨.operator, ";"⟩, ⟨.keyword, "precision"⟩,
          ⟨.whitespace, " "⟩, ⟨.keyword, "lowp"⟩, ⟨.whitespace, " "⟩, ⟨.keyword, "int"⟩,
          ⟨.operator, ";"⟩ ] := by
    decide +kernel
  have isLegacy : Version.IsLegacy "150" (lex "gl_FragColor;precision lowp int;") := by
    rw [read]
    exact Or.inl (by decide +kernel)
  have referring
      : ∃ token ∈ lex "gl_FragColor;precision lowp int;",
          token.kind = .builtin
          ∧ token.text ∈ ["gl_FragColor", "gl_FragDepth", "gl_FragDepthEXT"] := by
    rw [read]
    decide
  have upgraded
      : upgradeTokens .standard "150" .fragment (lex "gl_FragColor;precision lowp int;")
        = .ok
            (Version.declaring "150" :: ExtensionPolicy.block ["GL_ARB_separate_shader_objects"]
              ++ [ ⟨.identifier, "unique_fragColor"⟩, ⟨.operator, ";"⟩, ⟨.keyword, "precision"⟩,
                ⟨.whitespace, " "⟩, ⟨.keyword, "lowp"⟩, ⟨.whitespace, " "⟩, ⟨.keyword, "int"⟩,
                ⟨.operator, ";"⟩, .newline ]
              ++ FragmentOutput.declaration .color) := by
    rw [read]
    decide +kernel
  have modern
      : modernForms .fragment "150" []
          (ExtensionPolicy.standard.remaining "150" (lex "gl_FragColor;precision lowp int;"))
        = .ok
            (Version.declaring "150" :: ExtensionPolicy.block ["GL_ARB_separate_shader_objects"]
              ++ FragmentOutput.reference .color
                :: [ ⟨.operator, ";"⟩, ⟨.keyword, "precision"⟩, ⟨.whitespace, " "⟩,
                  ⟨.keyword, "lowp"⟩, ⟨.whitespace, " "⟩, ⟨.keyword, "int"⟩ ]
              ++ [⟨.operator, ";"⟩]) := by
    rw [read]
    decide +kernel
  obtain ⟨front, inserted, back, first, rewritten, whole, -, isFirst, declared⟩ :=
    declaredFirst_upgraded_iff isLegacy upgraded referring
  have forms := rewritten.forms.symm.trans modern
  rw [Except.ok.injEq] at forms
  refine
    ⟨isLegacy, referring, front, inserted, back, first, whole ▸ upgraded, isFirst, declared, ?_⟩
  rw [declared, forms]
  rw [forms] at isFirst
  intro last
  have early : first ≤ 4 := isFirst.2 ⟨.color, rfl⟩
  exact last 11 ⟨_, _, [], rfl, rfl, by decide +kernel⟩ (by omega)

end ShaderUplift
