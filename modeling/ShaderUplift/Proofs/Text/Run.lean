import Mathlib.Data.List.TakeWhile
import ShaderUplift.Text.Scan

/-! Runs: what lists begin with as long as their items belong to a class.
A list has exactly one run of a class. It ends where the list does, or at an item of another class.
-/

namespace ShaderUplift

-----------------------------------------------------------------------------------------
-- Runs of items
-----------------------------------------------------------------------------------------

section
variable {α : Type} {belongs : α → Bool} {items run rest : List α}

/-- A list is cut behind the items of a class that it begins with. -/
structure IsRun (belongs : α → Bool) (items run rest : List α) : Prop where
  split : items = run ++ rest
  within : ∀ item ∈ run, belongs item = true
  stops : ∀ item ∈ rest.head?, belongs item = false

theorem isRun_iff
    : IsRun belongs items run rest
      ↔ items.takeWhile belongs = run ∧ items.dropWhile belongs = rest := by
  constructor
  · rintro ⟨rfl, within, stops⟩
    rw [List.takeWhile_append_of_pos within, List.dropWhile_append_of_pos within]
    cases rest with
    | nil => exact ⟨List.append_nil run, rfl⟩
    | cons item rest => simp [stops item rfl]
  · rintro ⟨rfl, rfl⟩
    refine ⟨List.takeWhile_append_dropWhile.symm, fun item => List.mem_takeWhile_imp, ?_⟩
    intro item next
    have stops := List.head?_dropWhile_not belongs items
    rw [next] at stops
    exact stops

/-- The items that a list begins with are cut off as a run. -/
theorem isRun_takeWhile (belongs : α → Bool) (items : List α)
    : IsRun belongs items (items.takeWhile belongs) (items.dropWhile belongs) :=
  isRun_iff.mpr ⟨rfl, rfl⟩

theorem IsRun.takeWhile_eq (isRun : IsRun belongs items run rest)
    : items.takeWhile belongs = run :=
  (isRun_iff.mp isRun).1

/-- What is left behind the run of a list begins with an item of another class. -/
theorem stops_of_split (split : items.takeWhile belongs ++ rest = items)
    : ∀ item ∈ rest.head?, belongs item = false := by
  have left : rest = items.dropWhile belongs :=
    List.append_cancel_left (split.trans List.takeWhile_append_dropWhile.symm)
  rw [left]
  exact (isRun_takeWhile belongs items).stops

/-- A run stops where the list does. -/
theorem stops_nil (belongs : α → Bool)
    : ∀ next ∈ ([] : List α).head?, belongs next = false := by
  intro next head
  cases head

/-- A run stops at an item of another class. -/
theorem stops_cons {item : α} (other : belongs item = false) (rest : List α)
    : ∀ next ∈ (item :: rest).head?, belongs next = false := by
  intro next head
  obtain rfl : item = next := Option.some.inj head
  exact other

end

-----------------------------------------------------------------------------------------
-- Blanks in front
-----------------------------------------------------------------------------------------

namespace Text

/-- Blanks are skipped to the first character that is none. -/
theorem skipBlanks_eq_iff {text rest : List Char}
    : skipBlanks text = rest ↔ ∃ lead, IsRun isBlank text lead rest := by
  simp only [isRun_iff, skipBlanks, exists_eq_left']

theorem skipSomeBlanks?_eq_some_iff {text rest : List Char}
    : skipSomeBlanks? text = some rest
      ↔ ∃ parting, parting ≠ [] ∧ IsRun isBlank text parting rest := by
  constructor
  · intro found
    cases text with
    | nil => cases found
    | cons c text =>
        rw [skipSomeBlanks?] at found
        split at found
        · rename_i blank
          obtain ⟨lead, split, within, stops⟩ := skipBlanks_eq_iff.mp (Option.some.inj found)
          refine ⟨c :: lead, List.cons_ne_nil c lead, congrArg (c :: ·) split, ?_, stops⟩
          exact List.forall_mem_cons.mpr ⟨blank, within⟩
        · cases found
  · rintro ⟨parting, some, split, within, stops⟩
    obtain ⟨c, lead, rfl⟩ := List.exists_cons_of_ne_nil some
    obtain ⟨blank, others⟩ := List.forall_mem_cons.mp within
    rw [split, List.cons_append, skipSomeBlanks?, if_pos blank,
      skipBlanks_eq_iff.mpr ⟨lead, rfl, others, stops⟩]

end Text

end ShaderUplift
