/-! Ranges of code points, and membership in an ascending table of them.
A table is searched from its low end and the search stops at the first range above the
code point, so the characters of ordinary text cost a few comparisons.
-/

namespace ShaderUplift.Text

/-- The code points from `first` through `last`. -/
structure CodeRange where
  first : Nat
  last : Nat
deriving DecidableEq, Repr

namespace CodeRange

/-- Whether one range of an ascending table contains `code`. -/
def covers : List CodeRange → Nat → Bool
  | [], _ => false
  | range :: rest, code =>
      -- The later ranges begin higher still.
      if code < range.first then false else decide (code ≤ range.last) || covers rest code

/-- Every range is non-empty and ends before the next one begins. -/
def Ascending : List CodeRange → Prop
  | [] => True
  | [range] => range.first ≤ range.last
  | range :: next :: rest =>
      range.first ≤ range.last ∧ range.last < next.first ∧ Ascending (next :: rest)

instance decidableAscending : (table : List CodeRange) → Decidable (Ascending table)
  | [] => isTrue trivial
  | [range] => inferInstanceAs (Decidable (range.first ≤ range.last))
  | range :: next :: rest =>
      have := decidableAscending (next :: rest)
      inferInstanceAs
        (Decidable (range.first ≤ range.last ∧ range.last < next.first ∧ Ascending (next :: rest)))

/-- The number of code points in a table. -/
def count (table : List CodeRange) : Nat :=
  table.foldl (fun total range => total + (range.last + 1 - range.first)) 0

theorem Ascending.tail {range : CodeRange} {rest : List CodeRange}
    (h : Ascending (range :: rest))
    : Ascending rest := by
  cases rest with
  | nil => trivial
  | cons next rest => exact h.2.2

/-- In an ascending table the later ranges lie above the end of the first one. -/
theorem Ascending.last_lt_first {range : CodeRange} {rest : List CodeRange}
    (h : Ascending (range :: rest))
    : ∀ later ∈ rest, range.last < later.first := by
  induction rest generalizing range with
  | nil => simp
  | cons next rest ih =>
      intro later hLater
      rcases List.mem_cons.mp hLater with rfl | hLater
      · exact h.2.1
      · have hNext : next.first ≤ next.last := by
          cases rest with
          | nil => exact h.2.2
          | cons _ _ => exact h.2.2.1
        exact Nat.lt_of_lt_of_le h.2.1
          (Nat.le_of_lt (Nat.lt_of_le_of_lt hNext (ih h.2.2 later hLater)))

/-- The search that stops early answers plain membership. -/
theorem covers_iff {table : List CodeRange} {code : Nat} (h : Ascending table)
    : covers table code = true ↔ ∃ range ∈ table, range.first ≤ code ∧ code ≤ range.last := by
  induction table with
  | nil => simp [covers]
  | cons range rest ih =>
      by_cases hBelow : code < range.first
      · simp only [covers, hBelow, if_true, Bool.false_eq_true, false_iff]
        rintro ⟨other, hOther, hFirst, _⟩
        rcases List.mem_cons.mp hOther with rfl | hOther
        · omega
        · have hGap := h.last_lt_first other hOther
          have hRange : range.first ≤ range.last := by
            cases rest with
            | nil => exact h
            | cons _ _ => exact h.1
          omega
      · simp only [covers, hBelow, if_false, Bool.or_eq_true, decide_eq_true_eq, ih h.tail,
          List.mem_cons, exists_eq_or_imp]
        exact or_congr_left ⟨fun hLast => ⟨by omega, hLast⟩, And.right⟩

/-- Tables whose ranges lie apart from one another contain no code point in common. -/
theorem covers_eq_false_of_apart {table other : List CodeRange} {code : Nat}
    (ascending : Ascending table) (otherAscending : Ascending other)
    (apart
      : ∀ range ∈ table, ∀ next ∈ other, range.last < next.first ∨ next.last < range.first)
    (covered : covers table code = true)
    : covers other code = false := by
  rw [← Bool.not_eq_true, covers_iff otherAscending]
  rintro ⟨next, nextMember, nextFirst, nextLast⟩
  obtain ⟨range, member, first, last⟩ := (covers_iff ascending).mp covered
  rcases apart range member next nextMember with before | behind
  · omega
  · omega

end CodeRange

end ShaderUplift.Text
