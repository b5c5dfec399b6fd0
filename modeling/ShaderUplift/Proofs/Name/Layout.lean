import ShaderUplift.Proofs.Name.Refused

/-! Names in tokens that differ in their layout.
What becomes of a name depends on the tokens that are shown before it and after it. So a name
becomes the same, or is refused alike, wherever whitespace and comments are put in or left out.
-/

namespace ShaderUplift.Name

-----------------------------------------------------------------------------------------
-- Places that correspond
-----------------------------------------------------------------------------------------

/-- How many tokens are shown before a place. -/
def rank (tokens : List Token) (place : Nat) : Nat :=
  (visible (tokens.take place)).length

/-- A token at a place is shown. -/
def IsShown (tokens : List Token) (place : Nat) : Prop :=
  ∃ token, tokens[place]? = some token ∧ token.kind.isLayout = false

/-- The tokens at two places are shown, behind equally many others that are shown. -/
structure Corresponding (tokens others : List Token) (place other : Nat) : Prop where
  shown : IsShown tokens place
  otherShown : IsShown others other
  rank : rank tokens place = rank others other

/-- A token that is shown counts for every place behind it. -/
theorem IsShown.rank_lt {tokens : List Token} {place later : Nat} (shown : IsShown tokens place)
    (behind : place < later)
    : rank tokens place < rank tokens later := by
  obtain ⟨token, found, visibleToken⟩ := shown
  have next : rank tokens (place + 1) = rank tokens place + 1 := by
    rw [rank, List.take_add_one, found, Option.toList_some, visible_append,
      visible_cons_of_not_isLayout visibleToken, List.length_append]
    rfl
  have monotone : rank tokens (place + 1) ≤ rank tokens later :=
    ((List.take_prefix_take_left behind).filter _).length_le
  omega

/-- So at most one token that is shown has a rank. -/
theorem IsShown.rank_inj {tokens : List Token} {place other : Nat} (shown : IsShown tokens place)
    (otherShown : IsShown tokens other) (same : rank tokens place = rank tokens other)
    : place = other := by
  rcases Nat.lt_trichotomy place other with before | equal | behind
  · exact absurd same (Nat.ne_of_lt (shown.rank_lt before))
  · exact equal
  · exact absurd same.symm (Nat.ne_of_lt (otherShown.rank_lt behind))

/-- The tokens that are shown, cut at one of them. -/
theorem visible_eq_of_getElem? {tokens : List Token} {place : Nat} {token : Token}
    (found : tokens[place]? = some token) (shown : token.kind.isLayout = false)
    : visible tokens
      = visible (tokens.take place) ++ token :: visible (tokens.drop (place + 1)) := by
  obtain ⟨inside, rfl⟩ := List.getElem?_eq_some_iff.mp found
  rw [← visible_cons_of_not_isLayout shown, ← visible_append, ← List.drop_eq_getElem_cons inside,
    List.take_append_drop]

section
variable {tokens others : List Token}

/-- Every token that is shown has one that corresponds to it. -/
theorem exists_corresponding (same : visible tokens = visible others) {place : Nat}
    (shown : IsShown tokens place)
    : ∃ other, Corresponding tokens others place other := by
  obtain ⟨token, found, visibleToken⟩ := id shown
  have cut := visible_eq_of_getElem? found visibleToken
  rw [same] at cut
  obtain ⟨front, back, rfl, frontShown, -⟩ := exists_of_visible_eq cut
  refine ⟨front.length, shown, ⟨token, by simp, visibleToken⟩, ?_⟩
  rw [rank, rank, List.take_left, frontShown]

/-- Corresponding places have the same token, with the same shown before it and after it. -/
theorem Corresponding.same (same : visible tokens = visible others) {place other : Nat}
    (corresponding : Corresponding tokens others place other)
    : tokens[place]? = others[other]?
      ∧ visible (tokens.take place) = visible (others.take other)
      ∧ visible (tokens.drop (place + 1)) = visible (others.drop (other + 1)) := by
  obtain ⟨⟨token, found, shown⟩, ⟨token', found', shown'⟩, ranks⟩ := corresponding
  have cut := visible_eq_of_getElem? found shown
  rw [same, visible_eq_of_getElem? found' shown'] at cut
  obtain ⟨front, behind⟩ := List.append_inj cut ranks.symm
  obtain ⟨rfl, back⟩ := List.cons.inj behind
  exact ⟨found.trans found'.symm, front.symm, back.symm⟩

-----------------------------------------------------------------------------------------
-- What becomes of a name
-----------------------------------------------------------------------------------------

/-- What becomes of a token depends on what is shown around it. -/
theorem legalize_eq_of_visible {before before' after after' : List Token}
    (front : visible before = visible before') (back : visible after = visible after')
    (stage : Stage) (target : String) (token : Token)
    : legalize stage target before.reverse token after
      = legalize stage target before'.reverse token after' := by
  have declared : inAttributePosition before.reverse = inAttributePosition before'.reverse := by
    rw [Bool.eq_iff_iff, inAttributePosition_reverse_iff, inAttributePosition_reverse_iff,
      ← attributing_visible, front, attributing_visible]
  have called : inCallPosition after = inCallPosition after' := by
    rw [Bool.eq_iff_iff, inCallPosition_iff, inCallPosition_iff, Calling, Calling, back]
  rw [legalize, legalize, declared, called]

theorem legalizeAt?_ofNat (stage : Stage) (target : String) (tokens : List Token) (place : Nat)
    : legalizeAt? stage target tokens place
      = tokens[place]?.map fun token =>
          legalize stage target (tokens.take place).reverse token (tokens.drop (place + 1)) := by
  rw [legalizeAt?, Position.item?, Position.offset?_ofNat]
  by_cases inside : place < tokens.length
  · have gap : Position.gap tokens.length ((place : Int) + 1) = place + 1 :=
      (Position.gap_ofNat tokens.length (place + 1)).trans (Nat.min_eq_right inside)
    rw [if_pos inside, Option.bind_some, before, after, gap, Int.toNat_natCast]
  · rw [if_neg inside, List.getElem?_eq_none (Nat.le_of_not_lt inside), Option.bind_none,
      Option.map_none, Option.map_none]

/-- Two shaders that differ in their layout have the same tokens that are shown, each behind the
same number of others. Each becomes the same in both, or is refused by its name in both. -/
theorem legalizeAt?_layout (same : visible tokens = visible others) (stage : Stage)
    (target : String)
    : (∀ place, IsShown tokens place → ∃! other, Corresponding tokens others place other)
      ∧ ∀ place other, Corresponding tokens others place other
          → ∃ token outcome,
              tokens[place]? = some token
              ∧ others[other]? = some token
              ∧ legalizeAt? stage target tokens place = some outcome
              ∧ legalizeAt? stage target others other = some outcome
              ∧ ((∃ form, outcome = .ok form)
                ∨ outcome = .error (.reservedAttribute token.text target)) := by
  constructor
  · intro place shown
    obtain ⟨other, corresponding⟩ := exists_corresponding same shown
    refine ⟨other, corresponding, fun another given => ?_⟩
    exact given.otherShown.rank_inj corresponding.otherShown
      (given.rank.symm.trans corresponding.rank)
  · intro place other corresponding
    obtain ⟨sameToken, front, back⟩ := corresponding.same same
    obtain ⟨token, found, -⟩ := corresponding.shown
    have otherFound := sameToken ▸ found
    have again := legalize_eq_of_visible front back stage target token
    refine ⟨token, legalize stage target (others.take other).reverse token
      (others.drop (other + 1)), found, otherFound, ?_, ?_, ?_⟩
    · rw [legalizeAt?_ofNat, found, Option.map_some, again]
    · rw [legalizeAt?_ofNat, otherFound, Option.map_some]
    · cases outcome : legalize stage target (others.take other).reverse token
          (others.drop (other + 1)) with
      | ok form => exact Or.inl ⟨form, rfl⟩
      | error failure =>
          obtain ⟨-, -, rfl⟩ := legalize_eq_error_iff.mp outcome
          exact Or.inr rfl

end

/-- A comment does not keep an attribute from being refused. -/
theorem legalizeAt?_layout_attribute
    : visible [⟨.keyword, "attribute"⟩, ⟨.identifier, "texture"⟩]
        = visible
            [⟨.keyword, "attribute"⟩, ⟨.blockComment, "/**/"⟩, ⟨.identifier, "texture"⟩]
      ∧ Corresponding [⟨.keyword, "attribute"⟩, ⟨.identifier, "texture"⟩]
          [⟨.keyword, "attribute"⟩, ⟨.blockComment, "/**/"⟩, ⟨.identifier, "texture"⟩] 1 2
      ∧ legalizeAt? .vertex "150" [⟨.keyword, "attribute"⟩, ⟨.identifier, "texture"⟩] 1
        = legalizeAt? .vertex "150"
            [⟨.keyword, "attribute"⟩, ⟨.blockComment, "/**/"⟩, ⟨.identifier, "texture"⟩] 2 := by
  have same : visible [⟨.keyword, "attribute"⟩, ⟨.identifier, "texture"⟩]
      = visible [⟨.keyword, "attribute"⟩, ⟨.blockComment, "/**/"⟩, ⟨.identifier, "texture"⟩] := by
    decide
  have corresponding : Corresponding [⟨.keyword, "attribute"⟩, ⟨.identifier, "texture"⟩]
      [⟨.keyword, "attribute"⟩, ⟨.blockComment, "/**/"⟩, ⟨.identifier, "texture"⟩] 1 2 :=
    ⟨⟨_, rfl, rfl⟩, ⟨_, rfl, rfl⟩, by decide⟩
  obtain ⟨token, outcome, -, -, first, second, -⟩ :=
    (legalizeAt?_layout same .vertex "150").2 1 2 corresponding
  exact ⟨same, corresponding, first.trans second.symm⟩

end ShaderUplift.Name
