import Mathlib.Data.List.TakeWhile
import ShaderUplift.Token.Extent

/-! The shapes of the tokens that are read from a text.
Only a directive, a block comment or a line comment may hold a number sign, or a slash behind
its first character. So a text is cut at its directives in the same way whatever happens to the
words and operators between them.
-/

namespace ShaderUplift.Lexeme
open ShaderUplift.Text

/-- Whether a text begins with a directive or a comment. -/
def opens (text : List Char) : Bool :=
  ['#'].isPrefixOf text || ['/', '*'].isPrefixOf text || ['/', '/'].isPrefixOf text

/-- No character begins a directive or a comment. -/
def Unmarked (chars : List Char) : Prop :=
  ∀ c ∈ chars, c ≠ '/' ∧ c ≠ '#'

instance (chars : List Char) : Decidable (Unmarked chars) :=
  List.decidableBAll (fun c => c ≠ '/' ∧ c ≠ '#') chars

/-- The token at the front of `c :: rest`, by the class that it is of. -/
inductive Front (c : Char) (rest : List Char) : Token → Prop
  | directive (opened : c = '#')
    : Front c rest (.ofChars .directive (directive (c :: rest)))
  | blockComment (opened : c = '/') {back} (marked : rest = '*' :: back)
    : Front c rest (.ofChars .blockComment (blockComment (c :: rest)))
  | lineComment (opened : c = '/') {back} (marked : rest = '/' :: back)
    : Front c rest (.ofChars .lineComment (lineComment (c :: rest)))
  | whitespace (closed : opens (c :: rest) = false) (blank : isBlank c = true)
    : Front c rest (.ofChars .whitespace (blanks (c :: rest)))
  | float (closed : opens (c :: rest) = false)
    : Front c rest (.ofChars .float (float (c :: rest)))
  | integer (closed : opens (c :: rest) = false)
    : Front c rest (.ofChars .integer (integer (c :: rest)))
  | word (closed : opens (c :: rest) = false) (start : isWordStart c = true)
    : Front c rest
        (.ofChars (Vocabulary.classify (String.ofList (word (c :: rest)))) (word (c :: rest)))
  | operator (closed : opens (c :: rest) = false)
    : Front c rest (.ofChars .operator (operator (c :: rest)))
  | other (closed : opens (c :: rest) = false)
    : Front c rest (.ofChars .operator [c])

theorem opens_cons (c : Char) (rest : List Char)
    : opens (c :: rest) = true
      ↔ c = '#' ∨ c = '/' ∧ (rest.head? = some '*' ∨ rest.head? = some '/') := by
  cases rest with
  | nil => simp [opens, eq_comm (a := '#')]
  | cons next rest =>
      simp [opens, eq_comm (a := '#'), eq_comm (a := '/'), eq_comm (a := '*'), and_or_left,
        or_assoc]

/-- A text that begins with neither a directive nor a comment leaves their readers idle. -/
theorem readers_of_closed {c : Char} {rest : List Char} (closed : opens (c :: rest) = false)
    : blockComment (c :: rest) = [] ∧ lineComment (c :: rest) = []
      ∧ directive (c :: rest) = [] := by
  simp only [opens, Bool.or_eq_false_iff] at closed
  obtain ⟨⟨notDirective, notBlock⟩, notLine⟩ := closed
  refine ⟨?_, ?_, ?_⟩
  · simp only [blockComment]
    cases opened : after? ['/', '*'] (c :: rest) with
    | none => rfl
    | some back => simp [after?_eq_some_iff.mp opened] at notBlock
  · simp only [lineComment]
    cases opened : after? ['/', '/'] (c :: rest) with
    | none => rfl
    | some back => simp [after?_eq_some_iff.mp opened] at notLine
  · have different : c ≠ '#' := by
      intro equal
      subst equal
      simp at notDirective
    simp [directive, different]

theorem front_directive (rest : List Char)
    : front '#' rest = .ofChars .directive (directive ('#' :: rest)) := by
  simp [front, classed?, token?, blockComment, lineComment, after?, directive]

theorem front_blockComment (back : List Char)
    : front '/' ('*' :: back) = .ofChars .blockComment (blockComment ('/' :: '*' :: back)) := by
  simp [front, classed?, token?, blockComment, after?]

theorem front_lineComment (back : List Char)
    : front '/' ('/' :: back) = .ofChars .lineComment (lineComment ('/' :: '/' :: back)) := by
  simp [front, classed?, token?, blockComment, lineComment, after?]

/-- The token at the front is of the class that its first characters ask for. -/
theorem front_shape (c : Char) (rest : List Char)
    : Front c rest (front c rest) := by
  cases opened : opens (c :: rest) with
  | true =>
      rcases (opens_cons c rest).mp opened with rfl | ⟨rfl, marked⟩
      · exact front_directive rest ▸ .directive rfl
      · cases rest with
        | nil => simp at marked
        | cons next back =>
            simp only [List.head?_cons, Option.some.injEq] at marked
            rcases marked with rfl | rfl
            · exact front_blockComment back ▸ .blockComment rfl rfl
            · exact front_lineComment back ▸ .lineComment rfl rfl
  | false =>
      obtain ⟨noBlock, noLine, noDirective⟩ := readers_of_closed opened
      simp only [front]
      cases found : classed? (c :: rest) with
      | none => exact .other opened
      | some token =>
          simp only [classed?, noBlock, noLine, noDirective, token?_eq_some_iff, ne_eq,
            not_true_eq_false, false_and, Option.orElse_eq_orElse, Option.orElse_eq_or,
            Option.or_eq_some_iff, false_or] at found
          obtain ⟨-, -, -, read⟩ := found
          rcases read with ⟨isSome, rfl⟩ | ⟨_, ⟨isSome, rfl⟩ | ⟨_, ⟨isSome, rfl⟩ |
            ⟨_, ⟨isSome, rfl⟩ | ⟨_, isSome, rfl⟩⟩⟩⟩
          · apply Front.whitespace opened
            cases blank : isBlank c with
            | true => rfl
            | false => exact absurd (by simp [blanks, blank]) isSome
          · exact .float opened
          · exact .integer opened
          · apply Front.word opened
            cases start : isWordStart c with
            | true => rfl
            | false => exact absurd (by simp [word, start]) isSome
          · exact .operator opened

-----------------------------------------------------------------------------------------
-- Readers that never take a mark behind their first character
-----------------------------------------------------------------------------------------

theorem Unmarked.append {front back : List Char} (hf : Unmarked front) (hb : Unmarked back)
    : Unmarked (front ++ back) := by
  intro c member
  rcases List.mem_append.mp member with member | member
  · exact hf c member
  · exact hb c member

theorem Unmarked.tail {chars : List Char} (h : Unmarked chars)
    : Unmarked chars.tail :=
  fun c member => h c (List.mem_of_mem_tail member)

/-- A run of characters of a class holds no mark that is not of the class. -/
theorem unmarked_takeWhile {belongs : Char → Bool} (text : List Char)
    (slash : belongs '/' = false) (sign : belongs '#' = false)
    : Unmarked (text.takeWhile belongs) := by
  intro c member
  have belongs := List.mem_takeWhile_imp member
  constructor
  · intro equal
    subst equal
    simp [slash] at belongs
  · intro equal
    subst equal
    simp [sign] at belongs

theorem unmarked_takeOne {belongs : Char → Bool} (text : List Char)
    (slash : belongs '/' = false) (sign : belongs '#' = false)
    : Unmarked (takeOne belongs text) := by
  intro c member
  cases text with
  | nil => cases member
  | cons d rest =>
      rw [takeOne] at member
      split at member
      · rename_i holds
        obtain rfl := List.mem_singleton.mp member
        constructor
        · intro equal
          subst equal
          simp [slash] at holds
        · intro equal
          subst equal
          simp [sign] at holds
      · cases member

theorem unmarked_blanks (text : List Char)
    : Unmarked (blanks text) :=
  unmarked_takeWhile text (by decide) (by decide)

theorem unmarked_digits (text : List Char)
    : Unmarked (digits text) :=
  unmarked_takeWhile text (by decide +kernel) (by decide +kernel)

theorem unmarked_pointed (text : List Char)
    : Unmarked (pointed text) := by
  simp only [pointed]
  split
  · split
    · simp [Unmarked]
    · apply (unmarked_digits text).append
      intro c member
      rcases List.mem_cons.mp member with rfl | member
      · decide
      · exact unmarked_digits _ c member
  · simp [Unmarked]

theorem unmarked_exponent (text : List Char)
    : Unmarked (exponent text) := by
  cases text with
  | nil => simp [Unmarked, exponent]
  | cons mark rest =>
      rw [exponent]
      split
      · rename_i taken
        intro c member
        rcases List.mem_cons.mp member with rfl | member
        · rcases taken.1 with rfl | rfl <;> decide
        · exact (unmarked_takeOne rest (by decide) (by decide)).append (unmarked_digits _) c member
      · simp [Unmarked]

theorem unmarked_float (text : List Char)
    : Unmarked (float text) := by
  have unmarkedMantissa : Unmarked (mantissa text) := by
    simp only [mantissa]
    split
    · exact unmarked_digits text
    · exact unmarked_pointed text
  simp only [float]
  split
  · simp [Unmarked]
  · exact (unmarkedMantissa.append (unmarked_exponent _)).append
      (unmarked_takeOne _ (by decide) (by decide))

theorem unmarked_integer (text : List Char)
    : Unmarked (integer text) := by
  have unmarkedMagnitude : Unmarked (magnitude text) := by
    simp only [magnitude]
    split
    · exact unmarked_digits text
    · unfold hexadecimal
      split
      · rename_i zero mark rest _
        dsimp only
        split
        · rename_i taken
          obtain ⟨rfl, marked, _⟩ := taken
          intro c member
          simp only [List.mem_cons] at member
          rcases member with rfl | rfl | member
          · decide
          · rcases marked with rfl | rfl <;> decide
          · exact unmarked_takeWhile rest (by decide) (by decide) c member
        · simp [Unmarked]
      · simp [Unmarked]
  simp only [integer]
  split
  · simp [Unmarked]
  · exact unmarkedMagnitude.append (unmarked_takeOne _ (by decide) (by decide))

theorem unmarked_word (text : List Char)
    : Unmarked (word text) := by
  cases text with
  | nil => simp [Unmarked, word]
  | cons c rest =>
      rw [word]
      split
      · rename_i start
        intro d member
        rcases List.mem_cons.mp member with rfl | member
        · constructor <;> rintro rfl <;> exact absurd start (by decide)
        · exact unmarked_takeWhile rest (by decide +kernel) (by decide +kernel) d member
      · simp [Unmarked]

theorem unmarked_operator_tail (text : List Char)
    : Unmarked (operator text).tail := by
  simp only [operator]
  split
  · rename_i op found
    have member := List.mem_of_find?_eq_some found
    have all : ∀ op ∈ Vocabulary.operators, Unmarked op.toList.tail := by
      decide +kernel
    exact all op member
  · simp [Unmarked]

/-- The token at the front begins with the first character. -/
theorem chars_front_cons (c : Char) (rest : List Char)
    : ∃ tail, (front c rest).chars = c :: tail := by
  obtain ⟨isSome, isFront⟩ := chars_front c rest
  cases chars : (front c rest).chars with
  | nil => exact absurd chars isSome
  | cons first tail =>
      rw [chars] at isFront
      obtain ⟨rfl, -⟩ := List.cons_prefix_cons.mp isFront
      exact ⟨tail, rfl⟩

end ShaderUplift.Lexeme

namespace ShaderUplift

/-- Kinds of tokens that begin with a mark and run up to an end of their own. -/
def TokenKind.isSpan : TokenKind → Bool
  | directive | lineComment | blockComment => true
  | _ => false

theorem Vocabulary.isSpan_classify (word : String)
    : (classify word).isSpan = false := by
  simp only [classify]
  split
  · rfl
  · split <;> rfl

namespace Lexeme

/-- Behind its first character a token of another kind than directives and comments holds no
mark, by cases on its class. -/
theorem Front.unmarked_tail {c : Char} {rest : List Char} {token : Token}
    (shape : Front c rest token) (closed : opens (c :: rest) = false)
    : token.kind.isSpan = false ∧ Unmarked token.chars.tail := by
  cases shape with
  | directive opened => simp [opens, opened] at closed
  | blockComment opened marked => simp [opens, opened, marked] at closed
  | lineComment opened marked => simp [opens, opened, marked] at closed
  | whitespace => exact ⟨rfl, by simpa using (unmarked_blanks _).tail⟩
  | float => exact ⟨rfl, by simpa using (unmarked_float _).tail⟩
  | integer => exact ⟨rfl, by simpa using (unmarked_integer _).tail⟩
  | word => exact ⟨Vocabulary.isSpan_classify _, by simpa using (unmarked_word _).tail⟩
  | operator => exact ⟨rfl, by simpa using unmarked_operator_tail _⟩
  | other => exact ⟨rfl, by simp [Unmarked]⟩

end Lexeme

end ShaderUplift
