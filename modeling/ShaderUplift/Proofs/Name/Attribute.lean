import ShaderUplift.Proofs.Upgrade.Failing
import ShaderUplift.Proofs.Upgrade.Remaining

/-! Declarations of several vertex attributes.
A comma parts every name but the first one from the qualifier. So a reserved word is refused only
where it is the first name of a declaration, and further names are escaped without a failure.
-/

namespace ShaderUplift

namespace Name

-----------------------------------------------------------------------------------------
-- The names of a declaration
-----------------------------------------------------------------------------------------

/-- A list of names, with commas between them. -/
def declarators (first : String) (others : List String) : List Token :=
  ⟨.identifier, first⟩ :: others.flatMap fun name => [⟨.operator, ","⟩, ⟨.identifier, name⟩]

/-- Tokens declare attributes: behind the qualifier there is a precision at most, a type, and the
names up to a semicolon. Layout may stand anywhere. -/
def DeclaresAttributes (declaration : List Token) (first : String) (others : List String) : Prop :=
  ∃ precision type rest,
    declaration = ⟨.keyword, "attribute"⟩ :: rest
    ∧ precision ∈ [[], [⟨.keyword, "lowp"⟩], [⟨.keyword, "mediump"⟩], [⟨.keyword, "highp"⟩]]
    ∧ visible rest
      = precision ++ ⟨.keyword, type⟩ :: (declarators first others ++ [⟨.operator, ";"⟩])

/-- A comma comes before every name behind the first one, by induction on the names. -/
theorem exists_comma {others : List String} {early late : List Token} {token : Token}
    (split
      : (others.flatMap fun name => [⟨.operator, ","⟩, ⟨.identifier, name⟩]) ++ [⟨.operator, ";"⟩]
        = early ++ token :: late)
    (kind : token.kind = .identifier)
    : ∃ before, early = before ++ [⟨.operator, ","⟩] := by
  induction others generalizing early with
  | nil =>
      cases early with
      | nil =>
          obtain ⟨rfl, -⟩ := List.cons.inj split
          cases kind
      | cons first early => simp at split
  | cons name others ih =>
      rw [List.flatMap_cons, List.append_assoc] at split
      rcases append_eq_append_cons split with ⟨rest, inside, -⟩ | ⟨more, rfl, behind⟩
      · cases early with
        | nil =>
            obtain ⟨rfl, -⟩ := List.cons.inj inside
            cases kind
        | cons first early =>
            cases early with
            | nil =>
                obtain ⟨rfl, -⟩ := List.cons.inj inside
                exact ⟨[], rfl⟩
            | cons second early => simp at inside
      · obtain ⟨before, rfl⟩ := ih behind
        exact ⟨[⟨.operator, ","⟩, ⟨.identifier, name⟩] ++ before, by simp⟩

section
variable {declaration : List Token} {first : String} {others : List String}

/-- What is shown of a declaration. -/
theorem DeclaresAttributes.exists_visible (declares : DeclaresAttributes declaration first others)
    : ∃ head,
        (∀ token ∈ head, token.kind = .keyword)
        ∧ visible declaration
          = (⟨.keyword, "attribute"⟩ :: head)
            ++ ⟨.identifier, first⟩
              :: ((others.flatMap fun name => [⟨.operator, ","⟩, ⟨.identifier, name⟩])
                ++ [⟨.operator, ";"⟩]) := by
  obtain ⟨precision, type, rest, rfl, listed, shown⟩ := declares
  refine ⟨precision ++ [⟨.keyword, type⟩], ?_, ?_⟩
  · intro token member
    rcases List.mem_append.mp member with member | member
    · simp only [List.mem_cons, List.not_mem_nil, or_false] at listed
      rcases listed with rfl | rfl | rfl | rfl
      all_goals simp_all
    · rw [List.mem_singleton.mp member]
  · rw [visible_cons_of_not_isLayout rfl, shown, declarators]
    simp

/-- Among the names of a declaration the first one is refused if it is reserved, and no other one
is: a comma parts those from the qualifier. -/
theorem DeclaresAttributes.refuses_iff (declares : DeclaresAttributes declaration first others)
    (before after : List Token)
    : Refuses before declaration after ↔ isReserved first = true := by
  obtain ⟨head, keywords, shown⟩ := declares.exists_visible
  constructor
  · intro given
    obtain ⟨front, token, back, rfl, refused⟩ := given
    have visibleToken : token.kind.isLayout = false := by
      rw [refused.identifier]
      rfl
    rw [visible_append, visible_cons_of_not_isLayout visibleToken] at shown
    rcases append_eq_append_cons shown.symm with ⟨rest, inside, -⟩ | ⟨early, passed, behind⟩
    · have keyword : token.kind = .keyword := by
        have member : token ∈ ⟨.keyword, "attribute"⟩ :: head := by simp [inside]
        rcases List.mem_cons.mp member with rfl | member
        · rfl
        · exact keywords token member
      rw [refused.identifier] at keyword
      cases keyword
    · cases early with
      | nil =>
          obtain ⟨rfl, -⟩ := List.cons.inj behind
          exact refused.reserved
      | cons name early =>
          obtain ⟨-, behind⟩ := List.cons.inj behind
          obtain ⟨names, rfl⟩ := exists_comma behind refused.identifier
          have attributing := refused.attributing
          rw [← attributing_visible, visible_append, passed, ← List.cons_append,
            ← List.append_assoc, ← List.append_assoc, attributing_concat] at attributing
          rcases attributing with input | ⟨parted, -⟩
          · cases input
          · cases parted
  · intro reserved
    obtain ⟨front, back, rfl, frontShown, backShown⟩ := exists_of_visible_eq shown
    refine ⟨front, _, back, rfl, rfl, reserved, ?_, ?_⟩
    · intro given
      obtain ⟨-, calling⟩ := given
      rw [Calling, visible_append, backShown] at calling
      cases others with
      | nil => simp at calling
      | cons name others => simp at calling
    · rw [← attributing_visible, visible_append, frontShown]
      refine ⟨visible before, _, head, rfl, rfl, ?_⟩
      intro token member
      simp [parts, keywords token member]

/-- No directive stands in a declaration, and it begins with its qualifier. -/
theorem DeclaresAttributes.exists_plain (declares : DeclaresAttributes declaration first others)
    : ∃ rest,
        declaration = ⟨.keyword, "attribute"⟩ :: rest
        ∧ ∀ token ∈ declaration, token.kind ≠ .directive := by
  obtain ⟨head, keywords, shown⟩ := declares.exists_visible
  obtain ⟨precision, type, rest, split, -⟩ := declares
  refine ⟨rest, split, ?_⟩
  intro token member directive
  have inShown : token ∈ visible declaration :=
    List.mem_filter.mpr ⟨member, by simp [directive, TokenKind.isLayout]⟩
  rw [shown] at inShown
  simp only [List.mem_append, List.mem_cons, List.mem_flatMap, List.not_mem_nil,
    or_false] at inShown
  rcases inShown with (rfl | inHead) | rfl | ⟨name, -, rfl | rfl⟩ | rfl
  · cases directive
  · rw [keywords token inHead] at directive
    cases directive
  · cases directive
  · cases directive
  · cases directive
  · cases directive

end

end Name

/-- A vertex shader with a declaration of attributes is refused exactly if the first name of the
declaration is reserved, or if a name outside the declaration is refused. -/
theorem refused_declaration_iff {source target : String} {before declaration after : List Token}
    {first : String} {others : List String} (isLegacy : Version.IsLegacy target (lex source))
    (read : lex source = before ++ (declaration ++ after))
    (declares : Name.DeclaresAttributes declaration first others)
    : ∃ front back,
        ExtensionPolicy.standard.remaining target (lex source) = front ++ (declaration ++ back)
        ∧ ((∃ name, upgrade source .vertex target = .error (.reservedAttribute name target))
          ↔ Name.isReserved first = true
            ∨ Name.Refuses [] front (declaration ++ back)
            ∨ Name.Refuses (front ++ declaration) back []) := by
  obtain ⟨rest, rfl, plain⟩ := declares.exists_plain
  have legacyTokens := isLegacy
  rw [read] at legacyTokens
  obtain ⟨front, back, remaining⟩ :=
    exists_remaining_append .standard legacyTokens plain (by decide)
  rw [← read] at remaining
  refine ⟨front, back, remaining, ?_⟩
  rw [upgrade_refuses_iff isLegacy, remaining, Name.refuses_append, Name.refuses_append,
    List.append_nil, List.nil_append, declares.refuses_iff]
  exact or_left_comm

/-- Neither the precision, nor a comment, nor a further name keeps the first name from being
refused. -/
theorem refused_declaration_iff_precise
    : Version.declaredIn (lex "attribute highp/**/vec2 texture, b;") = none
      ∧ Name.DeclaresAttributes (lex "attribute highp/**/vec2 texture, b;") "texture" ["b"]
      ∧ ∃ name,
          upgrade "attribute highp/**/vec2 texture, b;" .vertex "150"
          = .error (.reservedAttribute name "150") := by
  have tokens : lex "attribute highp/**/vec2 texture, b;"
      = ⟨.keyword, "attribute"⟩
        :: [ ⟨.whitespace, " "⟩, ⟨.keyword, "highp"⟩, ⟨.blockComment, "/**/"⟩, ⟨.keyword, "vec2"⟩,
          ⟨.whitespace, " "⟩, ⟨.identifier, "texture"⟩, ⟨.operator, ","⟩, ⟨.whitespace, " "⟩,
          ⟨.identifier, "b"⟩, ⟨.operator, ";"⟩ ] := by
    decide +kernel
  have unversioned : Version.declaredIn (lex "attribute highp/**/vec2 texture, b;") = none := by
    rw [tokens]
    decide
  have declares
      : Name.DeclaresAttributes (lex "attribute highp/**/vec2 texture, b;") "texture" ["b"] :=
    ⟨[⟨.keyword, "highp"⟩], "vec2", _, tokens, by simp, by decide⟩
  have read : lex "attribute highp/**/vec2 texture, b;"
      = [] ++ (lex "attribute highp/**/vec2 texture, b;" ++ []) := by
    simp
  obtain ⟨front, back, -, refused⟩ :=
    refused_declaration_iff (Or.inl unversioned) read declares
  exact ⟨unversioned, declares, refused.mpr (Or.inl (by decide +kernel))⟩

/-- A reserved word behind a comma is escaped, although the host binds it by its name. -/
theorem upgrade_second_attribute
    : Version.declaredIn (lex "attribute vec2 a, texture;") = none
      ∧ Name.DeclaresAttributes (lex "attribute vec2 a, texture;") "a" ["texture"]
      ∧ Name.isReserved "texture" = true
      ∧ upgrade "attribute vec2 a, texture;" .vertex "150"
        = .ok
            "#version 150\n#extension GL_ARB_separate_shader_objects : enable\nin vec2 a, unique_texture;" := by
  have tokens : lex "attribute vec2 a, texture;"
      = ⟨.keyword, "attribute"⟩
        :: [ ⟨.whitespace, " "⟩, ⟨.keyword, "vec2"⟩, ⟨.whitespace, " "⟩, ⟨.identifier, "a"⟩,
          ⟨.operator, ","⟩, ⟨.whitespace, " "⟩, ⟨.identifier, "texture"⟩, ⟨.operator, ";"⟩ ] := by
    decide +kernel
  refine ⟨?_, ⟨[], "vec2", _, tokens, by simp, by decide⟩, by decide +kernel, by decide +kernel⟩
  rw [tokens]
  decide

end ShaderUplift
