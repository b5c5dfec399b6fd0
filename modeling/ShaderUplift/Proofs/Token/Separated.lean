import Mathlib.Data.List.Find
import ShaderUplift.Proofs.Text.Run
import ShaderUplift.Proofs.Token.Neighbours

/-! Text behind a separator.
Blanks, number signs and semicolons belong to no number and no word, and to no operator behind its
first character. So the readers of those never look past a separator, and the token in front of it
is the same one whatever text comes there.
-/

namespace ShaderUplift.Lexeme
open ShaderUplift.Text

-----------------------------------------------------------------------------------------
-- Separators and the classes of characters
-----------------------------------------------------------------------------------------

/-- Whether a character ends every number, word and operator that stands before it. -/
def isSeparator (c : Char) : Bool :=
  isBlank c || c == '#' || c == ';'

/-- A class of characters holds no separator. -/
def Unseparated (belongs : Char → Bool) : Prop :=
  ∀ c, isSeparator c = true → belongs c = false

theorem unseparated_isWordChar
    : Unseparated isWordChar := by
  intro c separates
  simp only [isSeparator, Bool.or_eq_true, beq_iff_eq] at separates
  rcases separates with (blank | rfl) | rfl
  · exact isWordChar_of_isBlank blank
  · decide +kernel
  · decide +kernel

/-- A class of word characters holds no separator. -/
theorem unseparated_of_isWordChar {belongs : Char → Bool}
    (each : ∀ c, belongs c = true → isWordChar c = true)
    : Unseparated belongs := by
  intro c separates
  cases holds : belongs c with
  | false => rfl
  | true => rw [← unseparated_isWordChar c separates, each c holds]

theorem unseparated_isDecimalDigit
    : Unseparated isDecimalDigit :=
  unseparated_of_isWordChar fun c digit => by simp [isWordChar, digit]

theorem isWordChar_of_isHexDigit {c : Char} (figure : isHexDigit c = true)
    : isWordChar c = true := by
  simp only [isHexDigit, Bool.or_eq_true, Bool.and_eq_true, decide_eq_true_eq] at figure
  rcases figure with (digit | ⟨low, high⟩) | ⟨low, high⟩
  · have bounds : 0x30 ≤ c.toNat ∧ c.toNat ≤ 0x39 := by
      simpa [Char.isDigit, UInt32.le_iff_toNat_le] using digit
    have covered : isDecimalDigit c = true :=
      (CodeRange.covers_iff (by decide +kernel)).mpr ⟨_, List.mem_cons_self, bounds⟩
    simp [isWordChar, covered]
  · have letter : c.isAlpha = true :=
      isAlpha_iff.mpr (Or.inr ⟨low, Nat.le_trans high (by decide)⟩)
    exact isWordChar_of_isWordStart (by simp [isWordStart, letter])
  · have letter : c.isAlpha = true :=
      isAlpha_iff.mpr (Or.inl ⟨low, Nat.le_trans high (by decide)⟩)
    exact isWordChar_of_isWordStart (by simp [isWordStart, letter])

/-- A class of two characters holds no separator if neither is one. -/
theorem unseparated_pair (one other : Char) (first : isSeparator one = false)
    (second : isSeparator other = false)
    : Unseparated fun c => c == one || c == other := by
  intro c separates
  rw [Bool.or_eq_false_iff, beq_eq_false_iff_ne, beq_eq_false_iff_ne]
  constructor
  · rintro rfl
    rw [first] at separates
    cases separates
  · rintro rfl
    rw [second] at separates
    cases separates

-----------------------------------------------------------------------------------------
-- The readers of numbers, words and operators
-----------------------------------------------------------------------------------------

section
variable {after : List Char}

theorem drop_append {taken text : List Char} (isFront : taken <+: text)
    : (text ++ after).drop taken.length = text.drop taken.length ++ after :=
  List.drop_append_of_le_length isFront.length_le

variable (parted : after.head?.all isSeparator = true)
include parted

theorem stops_of_unseparated {belongs : Char → Bool} (unseparated : Unseparated belongs)
    : ∀ c ∈ after.head?, belongs c = false :=
  fun c head => unseparated c ((Option.all_eq_true ..).mp parted c head)

theorem isRun_append {belongs : Char → Bool} (unseparated : Unseparated belongs)
    (text : List Char)
    : IsRun belongs (text ++ after) (text.takeWhile belongs) (text.dropWhile belongs ++ after) := by
  obtain ⟨split, within, stops⟩ := isRun_takeWhile belongs text
  refine ⟨?_, within, ?_⟩
  · rw [← List.append_assoc, ← split]
  · cases left : text.dropWhile belongs with
    | nil => exact stops_of_unseparated parted unseparated
    | cons c rest =>
        rw [left] at stops
        exact stops

theorem takeWhile_append {belongs : Char → Bool} (unseparated : Unseparated belongs)
    (text : List Char)
    : (text ++ after).takeWhile belongs = text.takeWhile belongs :=
  (isRun_append parted unseparated text).takeWhile_eq

theorem takeOne_append {belongs : Char → Bool} (unseparated : Unseparated belongs)
    (text : List Char)
    : takeOne belongs (text ++ after) = takeOne belongs text := by
  cases text with
  | cons c rest => rfl
  | nil =>
      cases after with
      | nil => rfl
      | cons c after => simp [takeOne, stops_of_unseparated parted unseparated c rfl]

theorem digits_append (text : List Char)
    : digits (text ++ after) = digits text :=
  takeWhile_append parted unseparated_isDecimalDigit text

theorem head?_ne {c : Char} (other : isSeparator c = false)
    : after.head? ≠ some c := by
  intro head
  have separates := (Option.all_eq_true ..).mp parted c head
  rw [other] at separates
  cases separates

theorem pointed_append (text : List Char)
    : pointed (text ++ after) = pointed text := by
  have left : (text ++ after).dropWhile isDecimalDigit
      = text.dropWhile isDecimalDigit ++ after :=
    (isRun_iff.mp (isRun_append parted unseparated_isDecimalDigit text)).2
  unfold pointed
  rw [left, digits_append parted]
  cases text.dropWhile isDecimalDigit with
  | nil =>
      have noPoint := head?_ne parted (c := '.') (by decide)
      cases after with
      | nil => rfl
      | cons c after =>
          have other : '.' ≠ c := fun same => noPoint (by rw [List.head?_cons, same])
          simp [after?, other]
  | cons c rest =>
      by_cases point : '.' = c
      · subst point
        simp [after?, digits_append parted]
      · simp [after?, point]

theorem exponent_append (text : List Char)
    : exponent (text ++ after) = exponent text := by
  cases text with
  | nil =>
      have small := head?_ne parted (c := 'e') (by decide)
      have capital := head?_ne parted (c := 'E') (by decide)
      cases after with
      | nil => rfl
      | cons c after => simp_all [exponent]
  | cons mark rest =>
      have sign := takeOne_append parted (unseparated_pair '+' '-' rfl rfl) rest
      simp only [List.cons_append, exponent, sign]
      rw [drop_append (takeOne_isPrefix _ rest), digits_append parted]

theorem mantissa_append (text : List Char)
    : mantissa (text ++ after) = mantissa text := by
  rw [mantissa, mantissa, pointed_append parted, digits_append parted]

theorem power_append (text : List Char)
    : power (text ++ after) = power text := by
  rw [power, mantissa_append parted, drop_append (mantissa_isPrefix text),
    exponent_append parted, power]

theorem float_append (text : List Char)
    : float (text ++ after) = float text := by
  have taken : mantissa text ++ power text <+: text :=
    append_isPrefix (mantissa_isPrefix text) (exponent_isPrefix _)
  simp only [float, mantissa_append parted, pointed_append parted, power_append parted]
  rw [drop_append taken,
    takeOne_append parted (unseparated_pair 'f' 'F' rfl rfl)]

theorem hexadecimal_append (text : List Char)
    : hexadecimal (text ++ after) = hexadecimal text := by
  match text with
  | [] =>
      have zero := head?_ne parted (c := '0') (by decide)
      match after with
      | [] | [_] => rfl
      | first :: mark :: rest => simp_all [hexadecimal]
  | [first] =>
      have small := head?_ne parted (c := 'x') (by decide)
      have capital := head?_ne parted (c := 'X') (by decide)
      cases after with
      | nil => rfl
      | cons mark rest => simp_all [hexadecimal]
  | first :: mark :: rest =>
      simp only [List.cons_append, hexadecimal,
        takeWhile_append parted (unseparated_of_isWordChar fun _ => isWordChar_of_isHexDigit)]

theorem magnitude_append (text : List Char)
    : magnitude (text ++ after) = magnitude text := by
  rw [magnitude, magnitude, hexadecimal_append parted, digits_append parted]

theorem integer_append (text : List Char)
    : integer (text ++ after) = integer text := by
  rw [integer, integer, magnitude_append parted, drop_append (magnitude_isPrefix text),
    takeOne_append parted (unseparated_pair 'u' 'U' rfl rfl)]

theorem word_append (c : Char) (rest : List Char)
    : word (c :: (rest ++ after)) = word (c :: rest) := by
  rw [word, word, takeWhile_append parted unseparated_isWordChar]

/-- A text without separators is in front of a separator if it is in front at all, by induction on
what stands before the separator. -/
theorem prefix_append_iff {front : List Char} (unseparated : ∀ c ∈ front, isSeparator c = false)
    (text : List Char)
    : front <+: text ++ after ↔ front <+: text := by
  induction text generalizing front with
  | nil =>
      cases front with
      | nil => simp
      | cons c front =>
          have other := head?_ne parted (unseparated c List.mem_cons_self)
          cases after with
          | nil => rfl
          | cons d after =>
              have apart : c ≠ d := fun same => other (by rw [List.head?_cons, same])
              simp [apart]
  | cons d text ih =>
      cases front with
      | nil => simp
      | cons c front =>
          rw [List.cons_append, List.cons_prefix_cons, List.cons_prefix_cons,
            ih fun e member => unseparated e (List.mem_cons_of_mem c member)]

/-- Only the first character of an operator can be a separator. -/
theorem operator_append (c : Char) (rest : List Char)
    : operator (c :: (rest ++ after)) = operator (c :: rest) := by
  have unseparated : ∀ op ∈ Vocabulary.operators, op.toList.tail.any isSeparator = false := by
    decide +kernel
  have fits : ∀ op ∈ Vocabulary.operators,
      op.toList.isPrefixOf (c :: (rest ++ after)) = op.toList.isPrefixOf (c :: rest) := by
    intro op member
    rw [Bool.eq_iff_iff, List.isPrefixOf_iff_prefix, List.isPrefixOf_iff_prefix]
    have tail : ∀ d ∈ op.toList.tail, isSeparator d = false := by
      simpa using unseparated op member
    cases chars : op.toList with
    | nil => simp
    | cons first back =>
        rw [chars, List.tail_cons] at tail
        rw [List.cons_prefix_cons, List.cons_prefix_cons, prefix_append_iff parted tail]
  rw [operator, operator, List.find?_congr fits]

/-- No separator opens a comment behind a slash. -/
theorem opens_append {c : Char} {rest : List Char} (closed : opens (c :: rest) = false)
    : opens (c :: (rest ++ after)) = false := by
  have star := head?_ne parted (c := '*') (by decide)
  have slash := head?_ne parted (c := '/') (by decide)
  rw [← Bool.not_eq_true, opens_cons] at closed ⊢
  cases rest with
  | cons next rest => exact closed
  | nil => simp_all

/-- The token in front of a separator does not depend on what comes there. -/
theorem front_append {c : Char} {rest : List Char} (closed : opens (c :: rest) = false)
    (visible : isBlank c = false)
    : front c (rest ++ after) = front c rest := by
  obtain ⟨noBlock, noLine, noDirective⟩ := readers_of_closed closed
  obtain ⟨stillNoBlock, stillNoLine, stillNoDirective⟩ :=
    readers_of_closed (opens_append parted closed)
  have float := float_append parted (c :: rest)
  have integer := integer_append parted (c :: rest)
  rw [List.cons_append] at float integer
  simp [front, classed?, noBlock, noLine, noDirective, stillNoBlock, stillNoLine, stillNoDirective,
    blanks, visible, float, integer, word_append parted, operator_append parted]

end

end ShaderUplift.Lexeme
