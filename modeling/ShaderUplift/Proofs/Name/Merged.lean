import ShaderUplift.Proofs.Upgrade.Rewriting

/-! Names that become one name.
A name keeps its text or gets the mark, and names that carry the mark already are left alone
unless an output needs them. So two names are told apart afterwards, unless one is renamed to
what the other one is called.
-/

namespace ShaderUplift

namespace Name

theorem mark_append_ne (name : String)
    : mark ++ name ≠ name := by
  intro same
  have lengths := congrArg String.length same
  rw [String.length_append] at lengths
  have some : 0 < mark.length := by decide
  omega

/-- The name that the mark has been put before for an output is the plain name of the output. -/
theorem eq_base_of_isClaimed {stage : Stage} {name : String}
    (claimed : isClaimed stage (mark ++ name) = true)
    : ∃ output : FragmentOutput, name = output.base := by
  rw [isClaimed, Bool.and_eq_true, isEscapedOutput_iff] at claimed
  obtain ⟨-, output, same⟩ := claimed
  exact ⟨output, (String.append_right_inj mark).mp same⟩

/-- The plain name of an output is neither reserved nor needed for an output. -/
theorem base_free (output : FragmentOutput) (stage : Stage)
    : isReserved output.base = false ∧ isClaimed stage output.base = false := by
  cases output <;> cases stage <;> decide +kernel

/-- Of two names, one of which is the other one with the mark, only one is renamed. -/
theorem not_both_taken {stage : Stage} {name : String}
    (taken : isReserved name = true ∨ isClaimed stage name = true)
    (markTaken
      : isReserved (mark ++ name) = true ∨ isClaimed stage (mark ++ name) = true)
    : False := by
  rcases markTaken with reserved | claimed
  · rw [isReserved_mark_append] at reserved
    cases reserved
  · obtain ⟨output, rfl⟩ := eq_base_of_isClaimed claimed
    obtain ⟨unreserved, unclaimed⟩ := base_free output stage
    rw [unreserved, unclaimed] at taken
    rcases taken with taken | taken <;> cases taken

end Name

/-- An identifier is kept, or renamed with the mark before its name. -/
theorem Recast.of_identifier {stage : Stage} {token form : Token}
    (recast : Recast stage token form) (kind : token.kind = .identifier)
    : form = token
      ∨ form = ⟨.identifier, Name.mark ++ token.text⟩
        ∧ (Name.isReserved token.text = true ∨ Name.isClaimed stage token.text = true) := by
  cases recast with
  | qualifier keyword => simp [kind] at keyword
  | builtin builtin => simp [kind] at builtin
  | kept _ free => exact Or.inl rfl
  | escaped _ taken => exact Or.inr ⟨rfl, taken⟩
  | other others => exact absurd kind others.2.2

/-- Two identifiers get the same text exactly if one is renamed to the text of the other one. -/
theorem Recast.text_eq_iff {stage : Stage} {a b a' b' : Token} (recastA : Recast stage a a')
    (recastB : Recast stage b b') (kindA : a.kind = .identifier) (kindB : b.kind = .identifier)
    (different : a.text ≠ b.text)
    : a'.text = b'.text
      ↔ a'.text ≠ a.text ∧ b.text = Name.mark ++ a.text
        ∨ b'.text ≠ b.text ∧ a.text = Name.mark ++ b.text := by
  rcases recastA.of_identifier kindA with rfl | ⟨rfl, takenA⟩
  · rcases recastB.of_identifier kindB with rfl | ⟨rfl, takenB⟩
    · simp [different]
    · simp only [ne_eq, not_true_eq_false, false_and, false_or, Name.mark_append_ne,
        not_false_eq_true, true_and]
  · rcases recastB.of_identifier kindB with rfl | ⟨rfl, takenB⟩
    · rw [eq_comm]
      simp only [ne_eq, not_true_eq_false, false_and, or_false, Name.mark_append_ne,
        not_false_eq_true, true_and]
    · have notMark : ∀ name, Name.isReserved name = true ∨ Name.isClaimed stage name = true
          → ∀ other, Name.isReserved other = true ∨ Name.isClaimed stage other = true
            → other ≠ Name.mark ++ name := by
        rintro name taken other otherTaken rfl
        exact Name.not_both_taken taken otherTaken
      simp [different, notMark _ takenA _ takenB, notMark _ takenB _ takenA]

theorem upgradeTokens_texture
    : upgradeTokens .standard "150" .fragment (lex "texture unique_texture")
      = .ok
          (Version.declaring "150" :: ExtensionPolicy.block ["GL_ARB_separate_shader_objects"]
            ++ [⟨.identifier, "unique_texture"⟩, ⟨.whitespace, " "⟩,
              ⟨.identifier, "unique_texture"⟩]) := by
  decide +kernel

/-- In an upgraded legacy shader two names with different texts become one exactly if one of them
is renamed and the other one is called like that in the source. -/
theorem merged_iff_marked {source target : String} {stage : Stage} {result : List Token}
    (isLegacy : Version.IsLegacy target (lex source))
    (upgraded : upgradeTokens .standard target stage (lex source) = .ok result)
    : ∃ tokens front inserted back,
        tokens = ExtensionPolicy.standard.remaining target (lex source)
        ∧ Rewritten stage target tokens front inserted back
        ∧ codeIn tokens = codeIn (lex source)
        ∧ result = front ++ inserted ++ back
        ∧ ∀ a a' b b',
            (a, a') ∈ tokens.zip (front ++ back)
            → (b, b') ∈ tokens.zip (front ++ back)
            → a.kind = .identifier → b.kind = .identifier → a.text ≠ b.text
            → (a'.text = b'.text
                ↔ a'.text ≠ a.text ∧ b.text = Name.mark ++ a.text
                  ∨ b'.text ≠ b.text ∧ a.text = Name.mark ++ b.text) := by
  obtain ⟨front, inserted, back, rewritten, rfl⟩ := exists_rewritten isLegacy upgraded
  refine ⟨_, front, inserted, back, rfl, rewritten, codeIn_remaining .standard isLegacy, rfl, ?_⟩
  intro a a' b b' pairA pairB kindA kindB different
  have recasts := forall₂_recast rewritten.forms
  exact (List.forall₂_zip recasts pairA).text_eq_iff (List.forall₂_zip recasts pairB) kindA kindB
    different

theorem merged_iff_marked_texture
    : ∃ tokens front inserted back,
        tokens = ExtensionPolicy.standard.remaining "150" (lex "texture unique_texture")
        ∧ Rewritten .fragment "150" tokens front inserted back
        ∧ ∀ a a' b b',
            (a, a') ∈ tokens.zip (front ++ back)
            → (b, b') ∈ tokens.zip (front ++ back)
            → a.kind = .identifier → b.kind = .identifier → a.text ≠ b.text
            → (a'.text = b'.text
                ↔ a'.text ≠ a.text ∧ b.text = Name.mark ++ a.text
                  ∨ b'.text ≠ b.text ∧ a.text = Name.mark ++ b.text) := by
  have isLegacy : Version.IsLegacy "150" (lex "texture unique_texture") :=
    Or.inl (by decide +kernel)
  obtain ⟨tokens, front, inserted, back, same, rewritten, -, -, merged⟩ :=
    merged_iff_marked isLegacy upgradeTokens_texture
  exact ⟨tokens, front, inserted, back, same, rewritten, merged⟩

/-- Two names of a shader can become one. -/
theorem merged_texture
    : lex "texture unique_texture"
        = [⟨.identifier, "texture"⟩, ⟨.whitespace, " "⟩, ⟨.identifier, "unique_texture"⟩]
      ∧ Version.IsLegacy "150" (lex "texture unique_texture")
      ∧ upgradeTokens .standard "150" .fragment (lex "texture unique_texture")
        = .ok
            (Version.declaring "150" :: ExtensionPolicy.block ["GL_ARB_separate_shader_objects"]
              ++ [⟨.identifier, "unique_texture"⟩, ⟨.whitespace, " "⟩,
                ⟨.identifier, "unique_texture"⟩]) :=
  ⟨by decide +kernel, Or.inl (by decide +kernel), upgradeTokens_texture⟩

end ShaderUplift
