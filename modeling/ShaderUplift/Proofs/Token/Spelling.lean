import ShaderUplift.Proofs.Token.Shape

/-! What the readers of a text spell.
A directive goes on over a line break only behind a backslash, and a block comment ends at its
first end mark. The two kinds of numbers are told apart by their characters. An operator is the
longest one that fits, and a character that no reader takes begins nothing.
-/

namespace ShaderUplift.Lexeme
open ShaderUplift.Text

-----------------------------------------------------------------------------------------
-- Directives and comments
-----------------------------------------------------------------------------------------

/-- A text holds line breaks only behind a backslash, each of which is a line feed or a carriage
return with a line feed.
-/
inductive Continued : List Char → Prop
  | nil
    : Continued []
  | visible {c : Char} {rest : List Char} (unbroken : isLineBreak c = false)
    (later : Continued rest)
    : Continued (c :: rest)
  | feed {rest : List Char} (later : Continued rest)
    : Continued ('\\' :: '\n' :: rest)
  | carriage {rest : List Char} (later : Continued rest)
    : Continued ('\\' :: '\r' :: '\n' :: rest)

/-- The only end mark in the body of a comment is the one at its end. -/
def ClosesOnce (body : List Char) : Prop :=
  ['*', '/'] <:+ body ∧ ∀ front back, body = front ++ '*' :: '/' :: back → back = []

theorem Continued.of_feed {rest : List Char} (continued : Continued ('\\' :: '\n' :: rest))
    : Continued rest := by
  cases continued with
  | feed later => exact later
  | visible _ later =>
      cases later with
      | visible unbroken => cases unbroken

/-- A whole logical line holds continued line breaks only, by induction on the line. A line that
is continued when it begins stands behind a backslash.
-/
theorem continued_of_logicalLine {continued : Bool} {line : List Char}
    (whole : logicalLine continued line = line)
    : Continued (if continued then '\\' :: line else line) := by
  induction line generalizing continued with
  | nil =>
      cases continued with
      | false => exact .nil
      | true => exact .visible rfl .nil
  | cons c rest ih =>
      rw [logicalLine] at whole
      by_cases feed : c = '\n'
      · subst feed
        cases continued with
        | false => simp at whole
        | true =>
            have later : logicalLine false rest = rest := by simpa using whole
            exact .feed (ih later)
      · by_cases carriage : c = '\r'
        · subst carriage
          obtain ⟨⟨rfl, next⟩, later⟩
              : (continued = true ∧ rest.head? = some '\n') ∧ logicalLine true rest = rest := by
            simpa [feed, ite_eq_iff] using whole
          obtain ⟨back, rfl⟩ := List.head?_eq_some_iff.mp next
          exact .carriage (ih later).of_feed
        · have unbroken : isLineBreak c = false := by simp [isLineBreak, feed, carriage]
          have goesOn : logicalLine (c == '\\') rest = rest := by
            simpa [feed, carriage] using whole
          have later : Continued (c :: rest) := by
            by_cases slash : c = '\\'
            · simpa [slash] using ih goesOn
            · exact .visible unbroken (by simpa [slash] using ih goesOn)
          cases continued with
          | false => exact later
          | true => exact .visible rfl later

/-- The part through the first end mark holds no other one, by induction on the text. -/
theorem eq_nil_of_throughEndMark {text front back : List Char}
    (split : throughEndMark text = front ++ '*' :: '/' :: back)
    : back = [] := by
  induction text generalizing front with
  | nil => simp [throughEndMark] at split
  | cons c rest ih =>
      rw [throughEndMark] at split
      split at split
      · have length := congrArg List.length split
        simp only [List.length_append, List.length_cons, List.length_nil] at length
        exact List.length_eq_zero_iff.mp (by omega)
      · rename_i stillOpen
        cases front with
        | cons d front => exact ih (List.cons.inj split).2
        | nil =>
            obtain ⟨rfl, later⟩ := List.cons.inj split
            have isFront := throughEndMark_isPrefix rest
            rw [later] at isFront
            obtain ⟨more, rfl⟩ := isFront
            simp at stillOpen

-----------------------------------------------------------------------------------------
-- Numbers
-----------------------------------------------------------------------------------------

/-- A number is spelled with a point, or with an exponent mark that is no hexadecimal digit. -/
def SpellsFloat (number : List Char) : Prop :=
  '.' ∈ number
  ∨ ('e' ∈ number ∨ 'E' ∈ number) ∧ ¬(['0', 'x'] <+: number ∨ ['0', 'X'] <+: number)

theorem belongs_of_mem_takeOne {belongs : Char → Bool} {text : List Char} {c : Char}
    (member : c ∈ takeOne belongs text)
    : belongs c = true := by
  cases text with
  | nil => cases member
  | cons first rest =>
      rw [takeOne] at member
      split at member
      · rename_i holds
        rwa [List.mem_singleton.mp member]
      · cases member

/-- A character of another class is none of those that all belong to a class. -/
theorem not_mem_of_forall {belongs : Char → Bool} {chars : List Char} {c : Char}
    (other : belongs c = false) (each : ∀ d ∈ chars, belongs d = true)
    : c ∉ chars := by
  intro member
  rw [each c member] at other
  cases other

/-- A hexadecimal mark is neither a digit nor a point nor an exponent, so no floating point number
begins with it.
-/
theorem float_of_hexadecimal {mark : Char} (isMark : mark = 'x' ∨ mark = 'X')
    (rest : List Char)
    : float ('0' :: mark :: rest) = [] := by
  have zero : isDecimalDigit '0' = true := by decide +kernel
  have digit : isDecimalDigit mark = false := by
    rcases isMark with rfl | rfl <;> decide +kernel
  have point : '.' ≠ mark := by rcases isMark with rfl | rfl <;> decide
  have exponentMark : ¬(mark = 'e' ∨ mark = 'E') := by
    rcases isMark with rfl | rfl <;> decide
  have whole : digits ('0' :: mark :: rest) = ['0'] := by simp [digits, zero, digit]
  have noPoint : pointed ('0' :: mark :: rest) = [] := by
    simp [pointed, zero, digit, after?, point]
  have noPower : power ('0' :: mark :: rest) = [] := by
    simp [power, mantissa, noPoint, whole, exponent, exponentMark]
  simp [float, noPoint, noPower]

theorem point_mem_pointed {text : List Char} (some : pointed text ≠ [])
    : '.' ∈ pointed text := by
  unfold pointed at some ⊢
  split at some
  · split at some
    · exact absurd rfl some
    · simp [*]
  · exact absurd rfl some

theorem mark_mem_exponent {text : List Char} (some : exponent text ≠ [])
    : 'e' ∈ exponent text ∨ 'E' ∈ exponent text := by
  cases text with
  | nil => exact absurd rfl some
  | cons mark rest =>
      rw [exponent] at some ⊢
      split at some
      · rename_i taken
        rw [if_pos taken]
        rcases taken.1 with rfl | rfl
        · exact Or.inl List.mem_cons_self
        · exact Or.inr List.mem_cons_self
      · exact absurd rfl some

theorem spellsFloat_float {text : List Char} (some : float text ≠ [])
    : SpellsFloat (float text) := by
  have noMark : ¬(['0', 'x'] <+: float text ∨ ['0', 'X'] <+: float text) := by
    rintro (marked | marked)
    · obtain ⟨rest, rfl⟩ := marked.trans (float_isPrefix text)
      exact some (float_of_hexadecimal (Or.inl rfl) rest)
    · obtain ⟨rest, rfl⟩ := marked.trans (float_isPrefix text)
      exact some (float_of_hexadecimal (Or.inr rfl) rest)
  have taken : ¬(mantissa text = [] ∨ pointed text = [] ∧ power text = []) := by
    intro idle
    exact some (by rw [float, if_pos idle])
  have read : float text
      = mantissa text ++ power text
        ++ takeOne (fun c => c == 'f' || c == 'F')
          (text.drop (mantissa text ++ power text).length) := by
    rw [float, if_neg taken]
  by_cases noPoint : pointed text = []
  · have marked : 'e' ∈ power text ∨ 'E' ∈ power text :=
      mark_mem_exponent fun noPower => taken (Or.inr ⟨noPoint, noPower⟩)
    refine Or.inr ⟨?_, noMark⟩
    rw [read]
    simp only [List.mem_append]
    exact marked.imp (fun e => Or.inl (Or.inr e)) (fun e => Or.inl (Or.inr e))
  · refine Or.inl ?_
    rw [read, mantissa, if_neg noPoint]
    simp [point_mem_pointed noPoint]

/-- A hexadecimal number begins with its mark and goes on with hexadecimal digits. -/
theorem exists_of_hexadecimal {text : List Char} (some : hexadecimal text ≠ [])
    : ∃ mark figures,
        hexadecimal text = '0' :: mark :: figures ∧ (mark = 'x' ∨ mark = 'X')
        ∧ ∀ c ∈ figures, isHexDigit c = true := by
  match text with
  | [] | [_] => exact absurd rfl some
  | zero :: mark :: rest =>
      rw [hexadecimal] at some ⊢
      split at some
      · rename_i taken
        rw [if_pos taken]
        obtain ⟨rfl, marked, -⟩ := taken
        exact ⟨mark, _, rfl, marked, fun c => List.mem_takeWhile_imp⟩
      · exact absurd rfl some

/-- An integer holds no point. It may hold an exponent mark as a hexadecimal digit, and then begins
with a hexadecimal mark.
-/
theorem not_spellsFloat_integer (text : List Char)
    : ¬SpellsFloat (integer text) := by
  have notSuffix : ∀ c ∈ ['.', 'e', 'E'], (c == 'u' || c == 'U') = false := by simp
  have notDigit : ∀ c ∈ ['.', 'e', 'E'], isDecimalDigit c = false := by
    have none : ['.', 'e', 'E'].any isDecimalDigit = false := by decide +kernel
    simpa using none
  by_cases idle : magnitude text = []
  · simp [integer, idle, SpellsFloat]
  · have noSuffix : ∀ c ∈ ['.', 'e', 'E'], ∀ more,
        c ∉ takeOne (fun c => c == 'u' || c == 'U') more :=
      fun c mark more => not_mem_of_forall (notSuffix c mark) fun d => belongs_of_mem_takeOne
    rw [integer, if_neg idle]
    by_cases plain : hexadecimal text = []
    · have noDigit : ∀ c ∈ ['.', 'e', 'E'], c ∉ digits text :=
        fun c mark => not_mem_of_forall (notDigit c mark) fun d => List.mem_takeWhile_imp
      simp only [List.forall_mem_cons] at noSuffix noDigit
      obtain ⟨point, exponent, capital, -⟩ := noSuffix
      simp [magnitude, plain, SpellsFloat, noDigit, point, exponent, capital]
    · obtain ⟨mark, figures, read, marked, each⟩ := exists_of_hexadecimal plain
      have noFigure : '.' ∉ figures := not_mem_of_forall (by decide) each
      have noMark : '.' ≠ mark := by rcases marked with rfl | rfl <;> decide
      have noPoint := noSuffix '.' List.mem_cons_self
      rw [magnitude, if_neg plain, read]
      rintro (point | ⟨-, unmarked⟩)
      · simp [noFigure, noMark, noPoint] at point
      · apply unmarked
        exact marked.imp (fun same => by simp [same]) (fun same => by simp [same])

-----------------------------------------------------------------------------------------
-- Operators
-----------------------------------------------------------------------------------------

/-- Nothing but the character itself begins with it, whatever follows. Comments and numbers that
begin with a point begin with an operator.
-/
structure BeginsNothing (c : Char) : Prop where
  directive : c ≠ '#'
  whitespace : isBlank c = false
  number : isDecimalDigit c = false
  word : isWordStart c = false
  operator : ∀ op ∈ Vocabulary.operators, op.toList.head? ≠ some c

theorem token?_eq_none_iff {kind : TokenKind} {taken : List Char}
    : token? kind taken = none ↔ taken = [] := by
  unfold token?
  split <;> simp_all

/-- Longer operators are tried first, so none that fits is longer than the one that is read. -/
theorem length_le_of_operator {text : List Char} {op : String}
    (read : operator text = op.toList) (some : operator text ≠ [])
    : op ∈ Vocabulary.operators
      ∧ ∀ other ∈ Vocabulary.operators, other.toList <+: text → other.length ≤ op.length := by
  have ordered : Vocabulary.operators.Pairwise fun op next => next.length ≤ op.length := by
    decide +kernel
  unfold operator at read some
  cases found : Vocabulary.operators.find? fun op => op.toList.isPrefixOf text with
  | none => simp [found] at some
  | some first =>
      rw [found] at read
      obtain rfl : first = op := String.toList_inj.mp read
      obtain ⟨-, before, after, split, passed⟩ := List.find?_eq_some_iff_append.mp found
      refine ⟨List.mem_of_find?_eq_some found, ?_⟩
      intro other member fits
      rw [split] at member ordered
      rcases List.mem_append.mp member with early | late
      · have tried := passed other early
        rw [List.isPrefixOf_iff_prefix.mpr fits] at tried
        cases tried
      · rcases List.mem_cons.mp late with rfl | late
        · exact Nat.le_refl _
        · have later := (List.pairwise_append.mp ordered).2.1
          exact (List.pairwise_cons.mp later).1 other late

theorem operator_eq_nil_iff {text : List Char}
    : operator text = [] ↔ ∀ op ∈ Vocabulary.operators, ¬op.toList <+: text := by
  have some : ∀ op ∈ Vocabulary.operators, op.toList ≠ [] := by decide +kernel
  unfold operator
  cases found : Vocabulary.operators.find? fun op => op.toList.isPrefixOf text with
  | none => simpa [List.isPrefixOf_iff_prefix] using found
  | some op =>
      have member := List.mem_of_find?_eq_some found
      have fits := List.find?_some found
      constructor
      · exact fun empty => absurd empty (some op member)
      · exact fun idle => absurd (List.isPrefixOf_iff_prefix.mp fits) (idle op member)

theorem digits_eq_nil_of_integer {text : List Char} (unread : integer text = [])
    : digits text = [] := by
  have idle : magnitude text = [] := by
    by_contra some
    simp [integer, some] at unread
  rw [magnitude] at idle
  split at idle
  · exact idle
  · contradiction

theorem readers_of_unread {text : List Char} (unread : classed? text = none)
    : directive text = [] ∧ blanks text = [] ∧ digits text = [] ∧ word text = []
      ∧ operator text = [] := by
  simp only [classed?, Option.orElse_eq_orElse, Option.orElse_eq_or, Option.or_eq_none_iff,
    token?_eq_none_iff] at unread
  obtain ⟨-, -, noDirective, noBlank, -, noInteger, noWord, noOperator⟩ := unread
  exact ⟨noDirective, noBlank, digits_eq_nil_of_integer noInteger, noWord, noOperator⟩

/-- A character that no reader takes begins nothing, because every class is told by the first
character or begins with an operator of one character.
-/
theorem beginsNothing_of_unread {c : Char} {rest : List Char}
    (unread : classed? (c :: rest) = none)
    : BeginsNothing c := by
  obtain ⟨noDirective, noBlank, noDigits, noWord, noOperator⟩ := readers_of_unread unread
  refine ⟨?_, ?_, ?_, ?_, ?_⟩
  · rintro rfl
    simp [directive] at noDirective
  · cases blank : isBlank c with
    | false => rfl
    | true => simp [blanks, blank] at noBlank
  · cases digit : isDecimalDigit c with
    | false => rfl
    | true => simp [digits, digit] at noDigits
  · cases start : isWordStart c with
    | false => rfl
    | true => simp [word, start] at noWord
  · have short : ∀ op ∈ Vocabulary.operators,
        (op.toList.head?.all fun d => String.singleton d ∈ Vocabulary.operators) = true := by
      decide +kernel
    intro op member head
    have single := short op member
    rw [head, Option.all_some, decide_eq_true_iff] at single
    have fits := operator_eq_nil_iff.mp noOperator _ single
    simp at fits

end ShaderUplift.Lexeme
