import Mathlib.Data.Set.Operations
import ShaderUplift.Name.Legalize

/-! Names that can be restored.
Escaping puts the mark before a name at most once, and unescaping takes one mark off again. The
escaped names are told from all others by what stands behind their mark.
-/

namespace ShaderUplift.Name
open ShaderUplift.Text

-----------------------------------------------------------------------------------------
-- Names that are escaped
-----------------------------------------------------------------------------------------

/-- A name is escaped if it is reserved, an output is known by it, or it carries the mark. -/
inductive NeedsMark (name : String) : Prop
  | reserved (reserved : isReserved name = true)
  | output (base : name ∈ ["fragColor", "fragDepth"])
  | marked (marked : isMarked name = true)

theorem isOutputBase_iff {name : String}
    : isOutputBase name = true ↔ name ∈ ["fragColor", "fragDepth"] := by
  rw [isOutputBase, List.any_eq_true]
  constructor
  · rintro ⟨output, -, same⟩
    rw [← of_decide_eq_true same]
    cases output with
    | color => exact List.mem_cons_self
    | depth => exact List.mem_cons_of_mem _ List.mem_cons_self
  · intro listed
    simp only [List.mem_cons, List.not_mem_nil, or_false] at listed
    rcases listed with rfl | rfl
    · exact ⟨.color, FragmentOutput.mem_all _, decide_eq_true rfl⟩
    · exact ⟨.depth, FragmentOutput.mem_all _, decide_eq_true rfl⟩

theorem isMarked_iff {name : String}
    : isMarked name = true ↔ ∃ rest, name = mark ++ rest := by
  rw [isMarked, List.isPrefixOf_iff_prefix]
  constructor
  · rintro ⟨rest, split⟩
    exact ⟨String.ofList rest, by simp [← String.toList_inj, ← split]⟩
  · rintro ⟨rest, rfl⟩
    exact ⟨rest.toList, String.toList_append.symm⟩

theorem needsMark_iff {name : String}
    : NeedsMark name ↔ (isReserved name || isOutputBase name || isMarked name) = true := by
  rw [Bool.or_eq_true, Bool.or_eq_true, isOutputBase_iff]
  constructor
  · intro needs
    cases needs with
    | reserved reserved => exact Or.inl (Or.inl reserved)
    | output base => exact Or.inl (Or.inr base)
    | marked marked => exact Or.inr marked
  · intro given
    rcases given with (reserved | base) | marked
    · exact .reserved reserved
    · exact .output base
    · exact .marked marked

theorem escape_of_needsMark {name : String} (needs : NeedsMark name)
    : escape name = mark ++ name :=
  if_pos (needsMark_iff.mp needs)

theorem escape_of_not_needsMark {name : String} (free : ¬NeedsMark name)
    : escape name = name :=
  if_neg (mt needsMark_iff.mpr free)

/-- A name that is escaped is not empty, which the mark alone would be taken for. -/
theorem NeedsMark.ne_empty {name : String} (needs : NeedsMark name)
    : name ≠ "" := by
  rintro rfl
  have free : (isReserved "" || isOutputBase "" || isMarked "") = false := by decide +kernel
  rw [needsMark_iff, free] at needs
  cases needs

-----------------------------------------------------------------------------------------
-- Taking the mark off
-----------------------------------------------------------------------------------------

theorem unescape_mark_append {name : String} (some : name ≠ "")
    : unescape (mark ++ name) = name := by
  obtain ⟨c, rest, chars⟩ := List.exists_cons_of_ne_nil (mt String.toList_eq_nil_iff.mp some)
  have behind : after? mark.toList (mark ++ name).toList = .some (c :: rest) :=
    after?_eq_some_iff.mpr (by rw [String.toList_append, chars])
  rw [unescape, behind, ← String.toList_inj]
  exact String.toList_ofList.trans chars.symm

theorem unescape_of_not_isMarked {name : String} (plain : isMarked name = false)
    : unescape name = name := by
  cases found : after? mark.toList name.toList with
  | none => simp only [unescape, found]
  | some rest =>
      have marked : isMarked name = true :=
        List.isPrefixOf_iff_prefix.mpr ⟨rest, (after?_eq_some_iff.mp found).symm⟩
      rw [plain] at marked
      cases marked

theorem unescape_escape (name : String)
    : unescape (escape name) = name := by
  by_cases needs : NeedsMark name
  · rw [escape_of_needsMark needs, unescape_mark_append needs.ne_empty]
  · have plain : isMarked name = false := Bool.eq_false_iff.mpr fun marked => needs (.marked marked)
    rw [escape_of_not_needsMark needs, unescape_of_not_isMarked plain]

-----------------------------------------------------------------------------------------
-- The names that escaping leads to
-----------------------------------------------------------------------------------------

/-- Neither a reserved word nor what an output is known by carries the mark. -/
theorem free_of_isMarked {name : String} (marked : isMarked name = true)
    : isReserved name = false ∧ name ∉ ["fragColor", "fragDepth"] := by
  have unmarked : ∀ word ∈ reservedWords ++ ["fragColor", "fragDepth"], isMarked word = false := by
    decide +kernel
  have absent : name ∉ reservedWords ++ ["fragColor", "fragDepth"] := by
    intro listed
    rw [unmarked name listed] at marked
    cases marked
  rw [List.mem_append, not_or] at absent
  exact ⟨decide_eq_false absent.1, absent.2⟩

theorem isMarked_mark_append (name : String)
    : isMarked (mark ++ name) = true :=
  isMarked_iff.mpr ⟨name, rfl⟩

/-- No reserved word carries the mark. -/
theorem isReserved_mark_append (name : String)
    : isReserved (mark ++ name) = false :=
  (free_of_isMarked (isMarked_mark_append name)).1

/-- The names that outputs are declared under are their plain names with the mark. -/
theorem isEscapedOutput_iff {name : String}
    : isEscapedOutput name = true ↔ ∃ output : FragmentOutput, name = mark ++ output.base := by
  rw [isEscapedOutput, List.any_eq_true]
  constructor
  · rintro ⟨output, -, same⟩
    exact ⟨output, (of_decide_eq_true same).symm⟩
  · rintro ⟨output, rfl⟩
    exact ⟨output, FragmentOutput.mem_all _, decide_eq_true rfl⟩

theorem isMarked_of_isEscapedOutput {name : String} (declared : isEscapedOutput name = true)
    : isMarked name = true := by
  obtain ⟨output, rfl⟩ := isEscapedOutput_iff.mp declared
  exact isMarked_mark_append output.base

/-- An escaped name can be used as it is. -/
theorem free_escape (name : String)
    : isReserved (escape name) = false ∧ escape name ∉ ["fragColor", "fragDepth"] := by
  by_cases needs : NeedsMark name
  · rw [escape_of_needsMark needs]
    exact free_of_isMarked (isMarked_mark_append name)
  · rw [escape_of_not_needsMark needs]
    exact ⟨Bool.eq_false_iff.mpr fun reserved => needs (.reserved reserved),
      fun base => needs (.output base)⟩

/-- A name results from escaping exactly if it can be used as it is, and carries a mark only where
the name behind it needs one. -/
theorem mem_range_escape_iff {name : String}
    : name ∈ Set.range escape
      ↔ isReserved name = false ∧ name ∉ ["fragColor", "fragDepth"]
        ∧ (isMarked name = false ∨ ∃ source, name = mark ++ source ∧ NeedsMark source) := by
  constructor
  · rintro ⟨source, rfl⟩
    obtain ⟨unreserved, noBase⟩ := free_escape source
    refine ⟨unreserved, noBase, ?_⟩
    by_cases needs : NeedsMark source
    · exact Or.inr ⟨source, escape_of_needsMark needs, needs⟩
    · rw [escape_of_not_needsMark needs]
      exact Or.inl (Bool.eq_false_iff.mpr fun marked => needs (.marked marked))
  · rintro ⟨unreserved, noBase, plain | ⟨source, rfl, needs⟩⟩
    · refine ⟨name, escape_of_not_needsMark ?_⟩
      intro needs
      cases needs with
      | reserved reserved => simp [unreserved] at reserved
      | output base => exact noBase base
      | marked marked => simp [plain] at marked
    · exact ⟨source, escape_of_needsMark needs⟩

/-- Unescaping restores every name, so that escaping keeps names apart, and no escaped name has to
be escaped for itself. Escaping restores exactly the names that it can result in. -/
theorem escape_reversible
    : (∀ name, unescape (escape name) = name)
      ∧ Function.Injective escape
      ∧ (∀ name, isReserved (escape name) = false ∧ escape name ∉ ["fragColor", "fragDepth"])
      ∧ (∀ name, escape (unescape name) = name ↔ name ∈ Set.range escape)
      ∧ ∀ name,
          name ∈ Set.range escape
          ↔ isReserved name = false ∧ name ∉ ["fragColor", "fragDepth"]
            ∧ (isMarked name = false ∨ ∃ source, name = mark ++ source ∧ NeedsMark source) := by
  have restored : Function.LeftInverse unescape escape := unescape_escape
  refine ⟨restored, restored.injective, free_escape, ?_, fun name => mem_range_escape_iff⟩
  intro name
  constructor
  · intro same
    exact ⟨unescape name, same⟩
  · rintro ⟨source, rfl⟩
    exact congrArg escape (restored source)

end ShaderUplift.Name
