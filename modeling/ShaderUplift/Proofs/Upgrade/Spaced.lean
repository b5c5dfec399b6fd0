import ShaderUplift.Proofs.Declaration.Between
import ShaderUplift.Proofs.Upgrade.Remaining
import ShaderUplift.Proofs.Upgrade.Reworded
import ShaderUplift.Proofs.Upgrade.Target

/-! Legacy shaders that leave room for what an upgrade puts in and takes out.
The tokens of such a shader still stand apart when it is upgraded, so that the result is a shader
for the target when it is read again.
-/

namespace ShaderUplift
open ShaderUplift.Lexeme ShaderUplift.Text

-----------------------------------------------------------------------------------------
-- The tokens around the version directive
-----------------------------------------------------------------------------------------

namespace Version.Opening

variable {source : String} {before after : List Token}

theorem declaredIn_before {tokens : List Token} (opening : Opening tokens before after)
    : declaredIn before = none := by
  cases opening with
  | inserted none => rfl
  | replaced split first declares => exact first

theorem getLast?_after {tokens : List Token} (opening : Opening tokens before after)
    (some : after ≠ [])
    : tokens.getLast? = after.getLast? := by
  cases opening with
  | inserted none => rfl
  | replaced split first declares =>
      rw [split, List.getLast?_append, List.getLast?_cons]
      cases last : after.getLast? with
      | none => exact absurd (List.getLast?_eq_none_iff.mp last) some
      | some token => rfl

/-- What comes after the version directive is read on its own, and begins on the next line if a
directive stood there already. -/
theorem read_after (opening : Opening (lex source) before after)
    : ∃ text,
        lexFrom 0 text = after
        ∧ (declaredIn (lex source) ≠ none → text.head?.all isLineBreak = true)
        ∧ (declaredIn (lex source) = none → text = source.toList) := by
  cases opening with
  | inserted none => exact ⟨source.toList, rfl, fun some => absurd none some, fun _ => rfl⟩
  | replaced split first declares =>
      have declared := declaredIn_cons_of_some declares after
      rw [← declaredIn_append_of_none first, ← split] at declared
      obtain ⟨rest, -, backRead⟩ := lexFrom_eq_append split
      obtain ⟨c, more, text, rfl, rfl, frontSplit, afterRead⟩ := lexFrom_eq_cons backRead
      obtain ⟨-, stops⟩ := Token.front_apart frontSplit
      simp only [Token.StopsBefore, Token.kind_of_version? declares] at stops
      refine ⟨text, afterRead, fun _ => head?_isLineBreak_of_logicalLine stops, ?_⟩
      rw [declared]
      intro impossible
      cases impossible

/-- The tokens around the version directive stand apart after pruning. -/
theorem apart (opening : Opening (lex source) before after) {policy : ExtensionPolicy}
    (unjoined : policy.Unjoined (lex source))
    : (∀ line, Token.Apart (policy.pruneAfter 0 before) ('#' :: line))
      ∧ Token.Apart (policy.pruneAfter 0 after) [] := by
  have afterUnjoined : policy.Unjoined after := by
    cases opening with
    | inserted none => exact unjoined
    | replaced split first declares =>
        rw [split] at unjoined
        exact unjoined.right_of_append.tail
  constructor
  · intro line
    cases opening with
    | inserted none => trivial
    | @replaced _ _ directive split first declares =>
        have sourceApart : Token.Apart (lex source) [] := apart_lexFrom source.toList
        rw [split, Token.apart_append] at sourceApart
        have shaped := sourceApart.2.1
        simp only [Token.WellShaped, Token.kind_of_version? declares] at shaped
        obtain ⟨rest, chars, -⟩ := shaped
        rw [split] at unjoined
        refine ExtensionPolicy.apart_pruneAfter split unjoined.left_of_append (Or.inl rfl)
          (by simp) ?_
        rw [List.flatMap_cons, chars]
        exact Yields.visible (by decide) _ _
  · obtain ⟨text, afterRead, -⟩ := opening.read_after
    exact ExtensionPolicy.apart_pruneAfter (afterRead.trans (List.append_nil _).symm)
      afterUnjoined (Or.inl rfl) (by simp) (Yields.refl [])

end Version.Opening

-----------------------------------------------------------------------------------------
-- Room for directives and declarations
-----------------------------------------------------------------------------------------

/-- A text is spaced if no obsolete directive stands behind a slash, a version directive in front
of it does not run into a block that is there already, and it does not end in the middle of a
directive. -/
structure Spaced (source : String) : Prop where
  unjoined : ExtensionPolicy.standard.Unjoined (lex source)
  parted
    : Version.declaredIn (lex source) ≠ none
      ∨ "GL_ARB_separate_shader_objects" ∉ extensionsIn (lex source)
      ∨ source.toList.head?.all isLineBreak = true
  closed : ∀ token ∈ (lex source).getLast?, ¬token.IsOpen

/-- Nothing is pruned of the block. -/
theorem ExtensionPolicy.prune_missingBlock (tokens : List Token)
    : standard.prune (standard.missingBlock tokens) = standard.missingBlock tokens := by
  rw [standard_missingBlock]
  split
  · rfl
  · decide +kernel

/-- What remains of a legacy shader: the pruned tokens around the new directive and the block. -/
theorem exists_remaining {tokens : List Token}
    (isLegacy : Version.IsLegacy Version.desktop tokens)
    : ∃ before after,
        Version.Opening tokens before after
        ∧ ExtensionPolicy.standard.remaining Version.desktop tokens
          = ExtensionPolicy.standard.pruneAfter 0 before
            ++ Version.declaring Version.desktop
              :: (ExtensionPolicy.standard.missingBlock tokens
                ++ ExtensionPolicy.standard.pruneAfter 0 after) := by
  obtain ⟨before, after, opening, remaining⟩ := exists_remaining_eq .standard isLegacy
  rw [ExtensionPolicy.prune_missingBlock] at remaining
  exact ⟨before, after, opening, remaining⟩

/-- The required extension is not pruned. -/
theorem Version.Opening.required_remains {tokens before after : List Token}
    (opening : Opening tokens before after)
    (named : "GL_ARB_separate_shader_objects" ∈ ShaderUplift.extensionsIn tokens)
    : "GL_ARB_separate_shader_objects"
      ∈ ShaderUplift.extensionsIn (ExtensionPolicy.standard.pruneAfter 0 before)
        ++ ShaderUplift.extensionsIn (ExtensionPolicy.standard.pruneAfter 0 after) := by
  have plain : "GL_ARB_separate_shader_objects" ∉ ExtensionPolicy.standard.obsolete := by
    decide +kernel
  rw [opening.extensionsIn] at named
  rw [ExtensionPolicy.extensionsIn_pruneAfter, ExtensionPolicy.extensionsIn_pruneAfter,
    ← List.filter_append]
  exact List.mem_filter.mpr ⟨named, by simpa using plain⟩

/-- Where no block parts them, a line break parts the version directive from what remains. -/
theorem Spaced.parted_remaining {source : String} {before after : List Token}
    (spaced : Spaced source) (opening : Version.Opening (lex source) before after)
    (named : "GL_ARB_separate_shader_objects" ∈ extensionsIn (lex source))
    : ((ExtensionPolicy.standard.pruneAfter 0 after).flatMap Token.chars).head?.all isLineBreak
      = true := by
  obtain ⟨text, afterRead, behind, front⟩ := opening.read_after
  have broken : text.head?.all isLineBreak = true := by
    by_cases none : Version.declaredIn (lex source) = none
    · rw [front none]
      have glued := spaced.parted.resolve_left (not_not_intro none)
      exact glued.resolve_left (not_not_intro named)
    · exact behind none
  subst afterRead
  cases text with
  | nil => rfl
  | cons c text =>
      obtain ⟨token, segment, kept, first⟩ :=
        ExtensionPolicy.head?_pruneAfter_of_break .standard
          (show isLineBreak c = true from broken) text
      rw [kept, List.flatMap_cons, List.head?_append, first]
      exact broken

/-- What remains of a spaced shader stands apart and is for the target. -/
theorem Spaced.apart_remaining {source : String} (spaced : Spaced source)
    (isLegacy : Version.IsLegacy Version.desktop (lex source))
    : Token.Apart (ExtensionPolicy.standard.remaining Version.desktop (lex source)) []
      ∧ IsCurrent .standard Version.desktop
          (ExtensionPolicy.standard.remaining Version.desktop (lex source)) := by
  obtain ⟨before, after, opening, remaining⟩ := exists_remaining isLegacy
  obtain ⟨beforeApart, afterApart⟩ := opening.apart spaced.unjoined
  rw [remaining]
  refine ⟨Token.apart_version (beforeApart []) rfl Version.chars_declaring_desktop
    Version.logicalLine_declaring_desktop (by decide +kernel) afterApart ?_,
    isCurrent_version (ExtensionPolicy.declaredIn_pruneAfter opening.declaredIn_before 0)
      Version.version?_declaring_desktop (by decide) ?_⟩
  · rw [ExtensionPolicy.standard_missingBlock]
    split
    · rename_i named
      exact Or.inr ⟨rfl, spaced.parted_remaining opening named⟩
    · exact Or.inl rfl
  · intro name required
    refine Or.imp_left (fun named => ?_)
      (ExtensionPolicy.mem_extensionsIn_or_missingBlock ExtensionPolicy.isProper_standard
        (lex source) name required)
    obtain rfl := List.mem_singleton.mp required
    rw [extensionsIn_append]
    exact opening.required_remains named

/-- What remains of a legacy shader stands in it, or is put in with its version. -/
theorem mem_remaining_standard {tokens : List Token}
    (isLegacy : Version.IsLegacy Version.desktop tokens) {token : Token}
    (member : token ∈ ExtensionPolicy.standard.remaining Version.desktop tokens)
    : token ∈ tokens ∨ token = Version.declaring Version.desktop ∨ token = .newline
      ∨ token = ExtensionPolicy.enabling "GL_ARB_separate_shader_objects" := by
  rcases mem_remaining isLegacy member with inTokens | declares | rfl | ⟨name, missing, rfl⟩
  · exact Or.inl inTokens
  · exact Or.inr (Or.inl declares)
  · exact Or.inr (Or.inr (Or.inl rfl))
  · obtain rfl := List.mem_singleton.mp (List.mem_filter.mp missing).1
    exact Or.inr (Or.inr (Or.inr rfl))

theorem wordShaped_remaining {source : String}
    (isLegacy : Version.IsLegacy Version.desktop (lex source))
    : ∀ token ∈ ExtensionPolicy.standard.remaining Version.desktop (lex source),
        token.WordShaped := by
  intro token member isWord
  rcases mem_remaining_standard isLegacy member with member | rfl | rfl | rfl
  · exact wordShaped_lexFrom source.toList token member isWord
  · cases isWord
  · cases isWord
  · cases isWord

/-- What remains of a spaced shader does not end in the middle of a directive either. -/
theorem Spaced.closed_remaining {source : String} (spaced : Spaced source)
    (isLegacy : Version.IsLegacy Version.desktop (lex source))
    : ∀ token
        ∈ (ExtensionPolicy.standard.remaining Version.desktop (lex source)).getLast?,
        ¬token.IsOpen := by
  intro token last isOpen
  obtain ⟨before, after, opening, remaining⟩ := exists_remaining isLegacy
  rw [remaining, List.getLast?_append, List.getLast?_cons, List.getLast?_append] at last
  cases behind : (ExtensionPolicy.standard.pruneAfter 0 after).getLast? with
  | some survivor =>
      rw [behind] at last
      obtain rfl : survivor = token := by simpa using last
      obtain ⟨text, afterRead, -⟩ := opening.read_after
      have lastAfter := ExtensionPolicy.getLast?_pruneAfter afterRead behind isOpen.1
      have some : after ≠ [] := by
        intro equal
        subst equal
        cases lastAfter
      exact spaced.closed survivor ((opening.getLast?_after some).trans lastAfter) isOpen
  | none =>
      rw [behind, ExtensionPolicy.standard_missingBlock] at last
      split at last
      · obtain rfl : Version.declaring Version.desktop = token := by simpa using last
        rcases isOpen.2 with continued | broken
        · exact absurd continued (by decide +kernel)
        · exact absurd broken (by decide +kernel)
      · have block : ExtensionPolicy.standardBlock.getLast? = some .newline := rfl
        obtain rfl : Token.newline = token := by simpa [block] using last
        cases isOpen.1

end ShaderUplift
