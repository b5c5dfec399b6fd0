import Mathlib.Order.Bounds.Defs
import ShaderUplift.Proofs.Declaration.Anchored

/-! The site that a declaration is put at.
It is the first place behind the last anchor that holds neither a directive nor whitespace, or the
end of the tokens. An anchor is found by looking at one token, or by looking ahead for the end of a
statement, but the greatest of all anchors is what counts.
-/

namespace ShaderUplift.Declaration

-----------------------------------------------------------------------------------------
-- The last anchor
-----------------------------------------------------------------------------------------

/-- An anchor stands at a place among tokens. -/
def AnchorAt (tokens : List Token) (place : Nat) : Prop :=
  ∃ before anchor after,
    tokens = before ++ anchor :: after ∧ before.length = place ∧ IsAnchor before anchor

/-- The position of the last anchor among tokens. It is the one before all of them if none is an
anchor.
-/
def IsLastAnchor (tokens : List Token) (last : Int) : Prop :=
  IsGreatest
    {position : Int | position = -1 ∨ ∃ place : Nat, AnchorAt tokens place ∧ position = place} last

theorem AnchorAt.lt_prologueLength {tokens : List Token} {place length : Nat}
    (anchored : AnchorAt tokens place) (read : prologueLength tokens = .ok length)
    : place < length := by
  obtain ⟨before, anchor, after, rfl, rfl, isAnchor⟩ := anchored
  exact lt_prologueLength_of_isAnchor isAnchor read

theorem anchorAt_of_prologueLength {tokens : List Token} {place : Nat}
    (read : prologueLength tokens = .ok (place + 1))
    : AnchorAt tokens place := by
  have inside : place < tokens.length := prologueLength_le read
  obtain ⟨before, anchor, after, rfl, rfl⟩
      : ∃ before anchor after, tokens = before ++ anchor :: after ∧ before.length = place :=
    ⟨tokens.take place, tokens[place], tokens.drop (place + 1), by simp,
      List.length_take_of_le (Nat.le_of_lt inside)⟩
  exact ⟨before, anchor, after, rfl, rfl, isAnchor_of_prologueLength read⟩

/-- The prologue ends with the last anchor. -/
theorem isLastAnchor_of_prologueLength {tokens : List Token} {length : Nat}
    (read : prologueLength tokens = .ok length)
    : IsLastAnchor tokens (length - 1) := by
  constructor
  · cases length with
    | zero => exact Or.inl rfl
    | succ place => exact Or.inr ⟨place, anchorAt_of_prologueLength read, by omega⟩
  · intro position bounded
    rcases bounded with rfl | ⟨place, anchored, rfl⟩
    · omega
    · have inside := anchored.lt_prologueLength read
      omega

-----------------------------------------------------------------------------------------
-- The place behind the last anchor
-----------------------------------------------------------------------------------------

/-- A place where the directives and whitespace tokens behind a position stop. -/
structure IsStop (tokens : List Token) (last : Int) (place : Nat) : Prop where
  behind : last < place
  skips
    : ∀ (position : Nat) (token : Token),
        last < position
        → position < place
        → tokens[position]? = some token
        → token.kind = .directive ∨ token.kind = .whitespace
  stops
    : place = tokens.length
      ∨ ∃ token,
          tokens[place]? = some token ∧ token.kind ≠ .directive ∧ token.kind ≠ .whitespace

theorem isSkipped_iff {token : Token}
    : isSkipped token = true ↔ token.kind = .directive ∨ token.kind = .whitespace := by
  simp [isSkipped]

theorem IsStop.le_length {tokens : List Token} {last : Int} {place : Nat}
    (isStop : IsStop tokens last place)
    : place ≤ tokens.length := by
  rcases isStop.stops with rfl | ⟨token, found, -⟩
  · exact Nat.le_refl _
  · exact Nat.le_of_lt (List.getElem?_eq_some_iff.mp found).1

/-- A run does not go on behind a place where it stops. -/
theorem IsStop.le {tokens : List Token} {last : Int} {place other : Nat}
    (isStop : IsStop tokens last place) (otherStop : IsStop tokens last other)
    : other ≤ place := by
  by_contra later
  have before : place < other := Nat.lt_of_not_le later
  rcases isStop.stops with rfl | ⟨token, found, notDirective, notWhitespace⟩
  · exact later otherStop.le_length
  · rcases otherStop.skips place token isStop.behind before found with kind | kind
    · exact notDirective kind
    · exact notWhitespace kind

/-- The site of a declaration is where the run behind the prologue stops. -/
theorem exists_isStop {tokens : List Token} {place : Nat} (found : site tokens = .ok place)
    : ∃ last, IsLastAnchor tokens last ∧ IsStop tokens last place := by
  obtain ⟨prologue, skipped, after, rfl, rfl, gap⟩ := exists_gap found
  refine ⟨_, isLastAnchor_of_prologueLength gap.ends, ?_, ?_, ?_⟩
  · rw [List.length_append]
    omega
  · intro position token behind before here
    rw [List.length_append] at before
    rw [List.getElem?_append_right (by omega), List.getElem?_append_left (by omega)] at here
    exact isSkipped_iff.mp (gap.skips token (List.mem_of_getElem? here))
  · rw [← List.append_assoc]
    cases after with
    | nil => exact Or.inl (by simp)
    | cons token after =>
        refine Or.inr ⟨token, by simp, ?_⟩
        rw [← not_or, ← isSkipped_iff, Bool.not_eq_true]
        exact gap.stops token rfl

/-- A site is found exactly if every precision statement is ended. It is the only place where the
directives and whitespace tokens behind the last anchor stop.
-/
theorem site_behind_last_anchor (tokens : List Token)
    : (∀ failure, site tokens = .error failure ↔ Unended tokens ∧ failure = .missingSemicolon)
      ∧ (¬Unended tokens
          → ∃ last place,
              IsLastAnchor tokens last ∧ site tokens = .ok place ∧ IsStop tokens last place
              ∧ ∀ other, IsStop tokens last other → other = place) := by
  refine ⟨fun failure => site_eq_error_iff, fun ended => ?_⟩
  obtain ⟨place, found⟩ := exists_site_iff.mpr ended
  obtain ⟨last, isLast, isStop⟩ := exists_isStop found
  refine ⟨last, place, isLast, found, isStop, fun other otherStop => ?_⟩
  exact Nat.le_antisymm (isStop.le otherStop) (otherStop.le isStop)

end ShaderUplift.Declaration
