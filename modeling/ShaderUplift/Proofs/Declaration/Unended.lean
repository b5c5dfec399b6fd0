import ShaderUplift.Proofs.Declaration.Stacked

/-! Precision statements that are never ended.
Nothing else keeps a declaration from being placed. A declaration that has been placed brings a
semicolon of its own, but by then the prologue has been found already.
-/

namespace ShaderUplift.Declaration

/-- A precision statement among tokens is never ended: no semicolon follows its keyword. -/
def Unended (tokens : List Token) : Prop :=
  ∃ before after,
    tokens = before ++ ⟨.keyword, "precision"⟩ :: after ∧ ⟨.operator, ";"⟩ ∉ after

theorem unended_cons {token : Token} {rest : List Token}
    : Unended (token :: rest)
      ↔ token = ⟨.keyword, "precision"⟩ ∧ ⟨.operator, ";"⟩ ∉ rest ∨ Unended rest := by
  constructor
  · intro given
    obtain ⟨before, after, split, unended⟩ := given
    cases before with
    | nil =>
        obtain ⟨rfl, rfl⟩ := List.cons.inj split
        exact Or.inl ⟨rfl, unended⟩
    | cons first before =>
        obtain ⟨rfl, rfl⟩ := List.cons.inj split
        exact Or.inr ⟨before, after, rfl, unended⟩
  · intro given
    rcases given with ⟨rfl, unended⟩ | ⟨before, after, rfl, unended⟩
    · exact ⟨[], rest, rfl, unended⟩
    · exact ⟨token :: before, after, rfl, unended⟩

instance decidableUnended : (tokens : List Token) → Decidable (Unended tokens)
  | [] => .isFalse (by simp [Unended])
  | token :: rest =>
      have := decidableUnended rest
      decidable_of_iff _ unended_cons.symm

/-- Only precision keywords and semicolons matter, by induction on the tokens. -/
theorem unended_filter {keep : Token → Bool} (precision : keep ⟨.keyword, "precision"⟩ = true)
    (semicolon : keep ⟨.operator, ";"⟩ = true) {tokens : List Token}
    : Unended (tokens.filter keep) ↔ Unended tokens := by
  induction tokens with
  | nil => rfl
  | cons token rest ih =>
      have same : ⟨.operator, ";"⟩ ∈ rest.filter keep ↔ ⟨.operator, ";"⟩ ∈ rest := by
        rw [List.mem_filter, and_iff_left semicolon]
      cases kept : keep token with
      | true => rw [List.filter_cons_of_pos kept, unended_cons, unended_cons, ih, same]
      | false =>
          have other : token ≠ ⟨.keyword, "precision"⟩ := by
            intro same
            subst same
            rw [precision] at kept
            cases kept
          rw [List.filter_cons_of_neg (by simp [kept]), unended_cons, ih]
          simp [other]

theorem endsStatement_iff {token : Token}
    : endsStatement token = true ↔ token = ⟨.operator, ";"⟩ := by
  obtain ⟨kind, text⟩ := token
  simp [endsStatement, Token.isOperator]

/-- No statement ends among tokens without a semicolon. -/
theorem findIdx?_endsStatement_eq_none_iff {tokens : List Token}
    : tokens.findIdx? endsStatement = none ↔ ⟨.operator, ";"⟩ ∉ tokens := by
  rw [List.findIdx?_eq_none_iff]
  constructor
  · intro none member
    exact absurd (none _ member) (by decide)
  · intro absent token member
    rw [← Bool.not_eq_true, endsStatement_iff]
    intro same
    subst same
    exact absent member

theorem claim_eq_error_iff {token : Token} {rest : List Token} {failure : Failure}
    : claim token rest = .error failure
      ↔ (token = ⟨.keyword, "precision"⟩ ∧ ⟨.operator, ";"⟩ ∉ rest)
        ∧ failure = .missingSemicolon := by
  constructor
  · intro failed
    unfold claim at failed
    split at failed
    · cases failed
    · split at failed
      · rename_i precision
        split at failed
        · cases failed
        · rename_i none
          cases failed
          obtain ⟨kind, text⟩ := token
          simp only [Token.isKeyword, Bool.and_eq_true, decide_eq_true_eq] at precision
          obtain ⟨rfl, rfl⟩ := precision
          exact ⟨⟨rfl, findIdx?_endsStatement_eq_none_iff.mp none⟩, rfl⟩
      · cases failed
  · intro given
    obtain ⟨⟨rfl, unended⟩, rfl⟩ := given
    simp [claim, Token.isLeadingDirective, Token.isKeyword,
      findIdx?_endsStatement_eq_none_iff.mpr unended]

/-- A prologue cannot be told exactly if a statement in it is never ended, by induction on the
tokens. -/
theorem prologueLength_eq_error_iff {tokens : List Token} {failure : Failure}
    : prologueLength tokens = .error failure ↔ Unended tokens ∧ failure = .missingSemicolon := by
  induction tokens with
  | nil => simp [prologueLength, Unended]
  | cons token rest ih =>
      simp only [prologueLength, bind_eq_error_iff, claim_eq_error_iff, unended_cons, ih]
      cases claimed : claim token rest with
      | error other =>
          obtain ⟨unended, -⟩ := claim_eq_error_iff.mp claimed
          simp [unended]
      | ok own =>
          have passed : ¬(token = ⟨.keyword, "precision"⟩ ∧ ⟨.operator, ";"⟩ ∉ rest) := by
            intro unended
            rw [claim_eq_error_iff.mpr ⟨unended, rfl⟩] at claimed
            cases claimed
          simp [passed, pure, Except.pure]

theorem site_eq_error_iff {tokens : List Token} {failure : Failure}
    : site tokens = .error failure ↔ Unended tokens ∧ failure = .missingSemicolon := by
  simp [site, bind_eq_error_iff, prologueLength_eq_error_iff, pure, Except.pure]

theorem exists_site_iff {tokens : List Token}
    : (∃ place, site tokens = .ok place) ↔ ¬Unended tokens := by
  constructor
  · rintro ⟨place, found⟩ unended
    rw [site_eq_error_iff.mpr ⟨unended, rfl⟩] at found
    cases found
  · intro ended
    cases found : site tokens with
    | error failure => exact absurd (site_eq_error_iff.mp found).1 ended
    | ok place => exact ⟨place, rfl⟩

/-- If the first declaration can be placed then so can those that follow, because they stand in the
same gap. -/
theorem placeAll_eq_error_iff {tokens : List Token} {declarations : List (List Token)}
    {failure : Failure} (each : ∀ declaration ∈ declarations, Halts declaration)
    : placeAll tokens declarations = .error failure
      ↔ declarations ≠ [] ∧ Unended tokens ∧ failure = .missingSemicolon := by
  rw [← site_eq_error_iff]
  cases declarations with
  | nil => simp [placeAll]
  | cons declaration declarations =>
      cases found : site tokens with
      | error other => simp [placeAll, place, found, bind, Except.bind]
      | ok length =>
          obtain ⟨prologue, skipped, after, rfl, -, gap⟩ := exists_gap found
          simp [gap.placeAll each]

end ShaderUplift.Declaration
