/-! Signed positions in a list: a negative one counts from the end.
An item is named by a position that falls inside the list, a gap between items by any position
at all, because a gap is clamped to the two ends.
-/

namespace ShaderUplift.Position

/-- The offset of the item at a signed position in a list of `length` items. -/
def offset? (length : Nat) (position : Int) : Option Nat :=
  if 0 ≤ position ∧ position < length then some position.toNat
  else if position < 0 ∧ 0 ≤ position + length then some (position + length).toNat
  else none

/-- The item at a signed position. -/
def item? {α : Type} (items : List α) (position : Int) : Option α :=
  (offset? items.length position).bind fun offset => items[offset]?

/-- The offset of the gap at a signed position, clamped to the ends of the list. -/
def gap (length : Nat) (position : Int) : Nat :=
  min length (if position < 0 then position + length else position).toNat

/-- The signed positions from `start` up to the end, unless `start` lies before the first item. -/
def from? (length : Nat) (start : Int) : Option (List Int) :=
  if start + length < 0 then none
  else some ((List.range (length - start).toNat).map fun (step : Nat) => start + step)

theorem offset?_lt {length : Nat} {position : Int} {offset : Nat}
    (h : offset? length position = some offset)
    : offset < length := by
  unfold offset? at h
  split at h
  · cases h
    omega
  · split at h
    · cases h
      omega
    · cases h

/-- A position inside a list names an item, from whichever end it counts. -/
theorem exists_item? {α : Type} {items : List α} {position : Int}
    (inside : -(items.length : Int) ≤ position ∧ position < items.length)
    : ∃ item, item? items position = some item := by
  have hOffset : ∃ offset, offset? items.length position = some offset := by
    unfold offset?
    by_cases hSign : 0 ≤ position
    · exact ⟨_, if_pos ⟨hSign, inside.2⟩⟩
    · have hBound : position < 0 ∧ 0 ≤ position + items.length := by omega
      exact ⟨_, (if_neg fun h => hSign h.1).trans (if_pos hBound)⟩
  obtain ⟨offset, found⟩ := hOffset
  have hLt := offset?_lt found
  exact ⟨items[offset], by rw [item?, found, Option.bind_some, List.getElem?_eq_getElem hLt]⟩

@[simp] theorem offset?_ofNat (length : Nat) (n : Nat)
    : offset? length n = if n < length then some n else none := by
  by_cases h : n < length
  · simp [offset?, h]
  · have hBound : ¬((n : Int) < 0 ∧ 0 ≤ (n : Int) + length) := by omega
    simp [offset?, h, hBound]

theorem gap_le (length : Nat) (position : Int)
    : gap length position ≤ length :=
  Nat.min_le_left ..

@[simp] theorem gap_ofNat (length : Nat) (n : Nat)
    : gap length n = min length n := by
  have hSign : ¬(n : Int) < 0 := by omega
  simp [gap, hSign]

end ShaderUplift.Position
