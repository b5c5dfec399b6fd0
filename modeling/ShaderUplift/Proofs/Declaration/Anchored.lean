import ShaderUplift.Proofs.Declaration.Unended

/-! What declarations have to come behind, one token at a time.
The prologue ends with the last anchor: a directive that leads, or the semicolon that ends a
precision statement. Declarations bring no anchor with them, so all of them stand behind the
prologue that was there before any of them was placed.
-/

namespace ShaderUplift

theorem Token.kind_of_isLeadingDirective {token : Token}
    (leading : token.isLeadingDirective = true)
    : token.kind = .directive := by
  rw [isLeadingDirective, Bool.and_eq_true] at leading
  exact of_decide_eq_true leading.1

namespace Declaration

-----------------------------------------------------------------------------------------
-- Anchors
-----------------------------------------------------------------------------------------

/-- A token that stands behind `before` and that declarations have to come after: it leads, or it
ends a precision statement. -/
def IsAnchor (before : List Token) (token : Token) : Prop :=
  token.isLeadingDirective = true ∨ Unended before ∧ token = ⟨.operator, ";"⟩

instance (before : List Token) (token : Token) : Decidable (IsAnchor before token) :=
  inferInstanceAs (Decidable (_ ∨ _ ∧ _))

theorem IsAnchor.kind {before : List Token} {token : Token} (anchored : IsAnchor before token)
    : token.kind = .directive ∨ token = ⟨.operator, ";"⟩ :=
  anchored.imp Token.kind_of_isLeadingDirective And.right

/-- One token more in front can only be the keyword of a statement that the anchor ends. -/
theorem isAnchor_cons {first token : Token} {before : List Token}
    : IsAnchor (first :: before) token
      ↔ IsAnchor before token
        ∨ first = ⟨.keyword, "precision"⟩ ∧ ⟨.operator, ";"⟩ ∉ before
          ∧ token = ⟨.operator, ";"⟩ := by
  rw [IsAnchor, IsAnchor, unended_cons, or_and_right, and_assoc, or_assoc, or_comm (b := _ ∧ _)]

/-- The first end of a statement is a semicolon behind tokens that hold none. -/
theorem findIdx?_endsStatement_eq_some_iff {before after : List Token} {token : Token}
    : (before ++ token :: after).findIdx? endsStatement = some before.length
      ↔ ⟨.operator, ";"⟩ ∉ before ∧ token = ⟨.operator, ";"⟩ := by
  rw [List.findIdx?_append, ← findIdx?_endsStatement_eq_none_iff, ← endsStatement_iff]
  cases early : before.findIdx? endsStatement with
  | some between =>
      have inside := (List.findIdx?_eq_some_iff_findIdx_eq.mp early).1
      simp only [Option.some_or, Option.some.injEq, reduceCtorEq, false_and, iff_false]
      omega
  | none =>
      rw [Option.none_or, Option.map_eq_some_iff, List.findIdx?_cons]
      cases ends : endsStatement token with
      | true => simp
      | false =>
          -- Any end in `after` comes one token too late.
          simp only [Bool.false_eq_true, if_false, and_false, iff_false]
          rintro ⟨place, later, same⟩
          obtain ⟨between, -, rfl⟩ := Option.map_eq_some_iff.mp later
          omega

/-- A claim that reaches a later token is that of a precision keyword which the token ends. -/
theorem claim_eq_ok_iff {first token : Token} {before after : List Token}
    : claim first (before ++ token :: after) = .ok (before.length + 2)
      ↔ first = ⟨.keyword, "precision"⟩ ∧ ⟨.operator, ";"⟩ ∉ before
        ∧ token = ⟨.operator, ";"⟩ := by
  rw [← @findIdx?_endsStatement_eq_some_iff before after token]
  constructor
  · intro claimed
    unfold claim at claimed
    split at claimed
    · cases claimed
    · split at claimed
      · rename_i precision
        split at claimed
        · rename_i between ends
          obtain ⟨kind, text⟩ := first
          simp only [Token.isKeyword, Bool.and_eq_true, decide_eq_true_eq] at precision
          obtain ⟨rfl, rfl⟩ := precision
          obtain rfl : between = before.length := by simpa using claimed
          exact ⟨rfl, ends⟩
        · cases claimed
      · cases claimed
  · rintro ⟨rfl, ends⟩
    simp [claim, Token.isLeadingDirective, Token.isKeyword, ends]

theorem claim_of_leading {token : Token} (leading : token.isLeadingDirective = true)
    (rest : List Token)
    : claim token rest = .ok 1 := by
  rw [claim, if_pos leading]

/-- An anchor belongs to the prologue, by induction on the tokens before it. -/
theorem lt_prologueLength_of_isAnchor {before after : List Token} {token : Token} {length : Nat}
    (anchor : IsAnchor before token)
    (read : prologueLength (before ++ token :: after) = .ok length)
    : before.length < length := by
  induction before generalizing length with
  | nil =>
      rw [List.nil_append, prologueLength_cons_eq_ok_iff] at read
      obtain ⟨own, later, claimed, -, rfl⟩ := read
      have leading := anchor.resolve_right (by simp [Unended])
      rw [claim_of_leading leading] at claimed
      cases claimed
      exact Nat.lt_of_lt_of_le Nat.zero_lt_one (Nat.le_max_left ..)
  | cons first before ih =>
      rw [List.cons_append, prologueLength_cons_eq_ok_iff] at read
      obtain ⟨own, later, claimed, laterRead, rfl⟩ := read
      rw [List.length_cons]
      rcases isAnchor_cons.mp anchor with later | ends
      · have inside := ih later laterRead
        split <;> omega
      · rw [claim_eq_ok_iff.mpr ends] at claimed
        cases claimed
        exact Nat.lt_of_lt_of_le (Nat.lt_succ_self _) (Nat.le_max_left ..)

/-- A prologue ends with an anchor, by induction on the tokens before it. -/
theorem isAnchor_of_prologueLength {before after : List Token} {token : Token}
    (read : prologueLength (before ++ token :: after) = .ok (before.length + 1))
    : IsAnchor before token := by
  induction before with
  | nil =>
      rw [List.nil_append, prologueLength_cons_eq_ok_iff] at read
      obtain ⟨own, later, claimed, -, length⟩ := read
      obtain rfl : own = 1 := by
        simp only [List.length_nil] at length
        split at length <;> omega
      unfold claim at claimed
      split at claimed
      · rename_i leading
        exact Or.inl leading
      · split at claimed
        · split at claimed
          · cases claimed
          · cases claimed
        · cases claimed
  | cons first before ih =>
      rw [List.cons_append, prologueLength_cons_eq_ok_iff] at read
      obtain ⟨own, later, claimed, laterRead, length⟩ := read
      rw [isAnchor_cons]
      by_cases whole : later = before.length + 1
      · subst whole
        exact Or.inl (ih laterRead)
      · obtain rfl : own = before.length + 2 := by
          simp only [List.length_cons] at length
          split at length <;> omega
        exact Or.inr (claim_eq_ok_iff.mp claimed)

-----------------------------------------------------------------------------------------
-- Declarations behind the last anchor
-----------------------------------------------------------------------------------------

/-- What is inserted stands behind every anchor, and nothing but directives and whitespace parts it
from the last one. -/
structure Follows (earlier : List Token) (anchor : Token) (skipped inserted back : List Token)
    : Prop where
  ended : ¬Unended (earlier ++ anchor :: skipped ++ inserted ++ back)
  isAnchor : IsAnchor earlier anchor
  last
    : ∀ before token after,
        earlier ++ anchor :: skipped ++ inserted ++ back = before ++ token :: after
        → IsAnchor before token
        → before.length ≤ earlier.length
  skips : ∀ token ∈ skipped, isSkipped token = true

/-- A prologue is as long with free tokens in the gap behind it as it was before. -/
theorem Gap.prologueLength_inserted {prologue skipped after inserted : List Token}
    (gap : Gap prologue skipped after) (free : ∀ token ∈ inserted, IsFree token)
    : prologueLength (prologue ++ skipped ++ inserted ++ after) = .ok prologue.length := by
  have behind := prologueLength_after gap.ends (Nat.le_refl _)
  have none := prologueLength_after behind (Nat.zero_le skipped.length)
  have held := prologueLength_append behind (Nat.zero_le _)
    (prologueLength_append_of_isFree free none)
  simp only [List.append_assoc]
  exact prologueLength_append gap.ends (Nat.le_refl _) held

/-- Free tokens that are put into a gap follow the anchors, of which the last one ends the prologue.
-/
theorem Gap.follows {prologue skipped after inserted : List Token}
    (gap : Gap prologue skipped after) (some : prologue ≠ [])
    (free : ∀ token ∈ inserted, IsFree token)
    : ∃ earlier anchor,
        prologue = earlier ++ [anchor] ∧ Follows earlier anchor skipped inserted after := by
  have read := gap.prologueLength_inserted free
  obtain ⟨earlier, anchor, rfl⟩ := (List.eq_nil_or_concat prologue).resolve_left some
  refine ⟨earlier, anchor, List.concat_eq_append, ?_⟩
  have cut : earlier.concat anchor ++ skipped ++ inserted ++ after
      = earlier ++ anchor :: skipped ++ inserted ++ after := by
    simp
  rw [cut, List.length_concat] at read
  constructor
  · intro unended
    rw [prologueLength_eq_error_iff.mpr ⟨unended, rfl⟩] at read
    cases read
  · have ends := gap.ends
    rw [List.concat_eq_append, List.append_assoc, List.singleton_append, List.length_append]
      at ends
    exact isAnchor_of_prologueLength ends
  · intro before token after split anchored
    rw [split] at read
    exact Nat.lt_succ_iff.mp (lt_prologueLength_of_isAnchor anchored read)
  · exact gap.skips

/-- A leading directive among the tokens of a gap stands in its prologue. -/
theorem Gap.prologue_ne_nil {prologue skipped after : List Token} (gap : Gap prologue skipped after)
    {token : Token} (member : token ∈ prologue ++ (skipped ++ after))
    (leading : token.isLeadingDirective = true)
    : prologue ≠ [] := by
  intro none
  obtain ⟨before, behind, split⟩ := List.append_of_mem member
  have read := gap.ends
  rw [split, none] at read
  exact absurd (lt_prologueLength_of_isAnchor (Or.inl leading) read) (Nat.not_lt_zero _)

theorem isFree_of_mem_stacked {outputs : List FragmentOutput} {before after : List Token}
    {token : Token}
    (member : token ∈ stacked before (outputs.map FragmentOutput.declaration) after)
    : IsFree token := by
  rcases mem_stacked member with rfl | ⟨output, member⟩
  · exact isFree_newline
  · exact (halts_declaration output).free token member

end Declaration

end ShaderUplift
