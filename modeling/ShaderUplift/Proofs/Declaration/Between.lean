import ShaderUplift.Proofs.Declaration.Anchored
import ShaderUplift.Proofs.Token.Neighbours

/-! Declarations between tokens that stand apart.
A declaration is put behind whitespace, behind the end of a statement, or behind a directive that
nothing follows. Only such a directive may go on over it.
-/

namespace ShaderUplift
open ShaderUplift.Lexeme ShaderUplift.Text

/-- A directive that goes on over whatever is put behind it. -/
def Token.IsOpen (token : Token) : Prop :=
  token.kind = .directive
    ∧ (token.chars.getLast? = some '\\' ∨ token.endsWithBreak = true)

namespace Declaration

/-- The tokens of a declaration stand apart from whatever follows. -/
theorem apart_declaration (output : FragmentOutput)
    : ∀ token ∈ output.declaration, ∀ after, Token.Apart [token] after := by
  intro token member after
  have plain : ∀ token ∈ output.declaration,
      token.kind.isSpan = false ∧ token.chars ≠ []
      ∧ Unmarked token.chars := by
    cases output <;> decide +kernel
  obtain ⟨span, some, unmarked⟩ := plain token member
  obtain ⟨c, tail, chars⟩ := List.exists_cons_of_ne_nil some
  rw [chars] at unmarked
  exact Token.apart_singleton span chars (unmarked c (by simp))
    (fun d member => unmarked d (List.mem_cons_of_mem _ member)) after

/-- What stands in a gap before a declaration can end there. -/
theorem Gap.last {prologue skipped after : List Token} (gap : Gap prologue skipped after)
    {token : Token} (ends : (prologue ++ skipped).getLast? = some token)
    : isSkipped token = true ∨ endsStatement token = true := by
  rw [List.getLast?_append] at ends
  cases last : skipped.getLast? with
  | some final =>
      obtain rfl : final = token := by simpa [last] using ends
      exact Or.inl (gap.skips final (List.mem_of_getLast? last))
  | none =>
      rw [last, Option.none_or] at ends
      obtain ⟨before, rfl⟩ := List.getLast?_eq_some_iff.mp ends
      have read := gap.ends
      rw [List.append_assoc, List.length_append] at read
      rcases (isAnchor_of_prologueLength read).kind with kind | ended
      · exact Or.inl (by simp [isSkipped, kind])
      · exact Or.inr (endsStatement_iff.mpr ended)

/-- The tokens in a gap stand apart from whatever follows. -/
theorem apart_stacked {outputs : List FragmentOutput} (before after : List Token)
    (text : List Char)
    : Token.Apart (stacked before (outputs.map FragmentOutput.declaration) after) text := by
  refine Token.apart_of_forall ?_ text
  intro token member next
  rcases mem_stacked member with rfl | ⟨output, member⟩
  · exact Token.apart_newline next
  · exact apart_declaration output token member next

end Declaration

/-- A gap is behind the whitespace that follows a directive, unless the text ends there. -/
theorem Declaration.Gap.eq_nil_of_directive {prologue skipped back : List Token}
    (gap : Gap prologue skipped back) (apart : Token.Apart (prologue ++ skipped ++ back) [])
    (blank : ∀ token ∈ back, token.BlankShaped) {token : Token}
    (last : (prologue ++ skipped).getLast? = some token) (kind : token.kind = .directive)
    : back = [] := by
  cases back with
  | nil => rfl
  | cons follower back =>
      obtain ⟨frontApart, backApart⟩ := Token.apart_append.mp apart
      obtain ⟨-, stops⟩ := frontApart.getLast? last
      simp only [Token.StopsBefore, kind, List.append_nil] at stops
      have nextLine := head?_isLineBreak_of_logicalLine stops
      obtain ⟨c, tail, chars⟩ := List.exists_cons_of_ne_nil backApart.1.chars_ne_nil
      rw [List.flatMap_cons, chars, List.cons_append, List.head?_cons, Option.all_some] at nextLine
      have whitespace : follower.kind = .whitespace := by
        apply (blank follower (by simp)).mpr
        rw [chars, List.head?_cons, Option.any_some, isBlank_of_isLineBreak nextLine]
      have visible := gap.stops follower rfl
      simp [isSkipped, whitespace] at visible

/-- Whitespace and the end of a statement stop before anything. -/
theorem Declaration.Gap.stopsBefore_of_ne {prologue skipped back : List Token}
    (gap : Gap prologue skipped back) {token : Token} (shaped : token.WellShaped)
    (blank : token.BlankShaped) (last : (prologue ++ skipped).getLast? = some token)
    (other : token.kind ≠ .directive) (text : List Char)
    : token.StopsBefore text := by
  have plain : ∃ c tail, token.chars = c :: tail ∧ c ≠ '/' ∧ c ≠ '#'
      ∧ token.kind.isSpan = false := by
    rcases gap.last last with skips | ends
    · have whitespace : token.kind = .whitespace := by simpa [isSkipped, other] using skips
      obtain ⟨c, tail, chars⟩ := List.exists_cons_of_ne_nil shaped.chars_ne_nil
      have isBlank := blank.mp whitespace
      rw [chars, List.head?_cons, Option.any_some] at isBlank
      refine ⟨c, tail, chars, ?_, ?_, by simp [whitespace, TokenKind.isSpan]⟩
      · intro slash
        subst slash
        exact absurd isBlank (by decide)
      · intro sign
        subst sign
        exact absurd isBlank (by decide)
    · simp only [endsStatement, Token.isOperator, Bool.and_eq_true, decide_eq_true_eq] at ends
      refine ⟨';', [], ?_, by decide, by decide, by simp [ends.1, TokenKind.isSpan]⟩
      rw [Token.chars, ends.2]
      decide +kernel
  obtain ⟨c, tail, chars, notSlash, notSign, span⟩ := plain
  rw [Token.stopsBefore_iff_of_not_isSpan span, chars, ← Bool.not_eq_true, List.cons_append,
    opens_cons]
  simp [notSlash, notSign]

/-- A token before a gap stops before the declarations that are put there. -/
theorem Declaration.Gap.stopsBefore {prologue skipped back : List Token}
    (gap : Gap prologue skipped back) (apart : Token.Apart (prologue ++ skipped ++ back) [])
    (blank : ∀ token ∈ prologue ++ skipped ++ back, token.BlankShaped) {token : Token}
    (last : (prologue ++ skipped).getLast? = some token) (closed : back = [] → ¬token.IsOpen)
    (rest : List Char)
    : token.StopsBefore
        ((leadingBreak (prologue ++ skipped)).flatMap Token.chars ++ 'o' :: rest) := by
  by_cases kind : token.kind = .directive
  · have atEnd := gap.eq_nil_of_directive apart
      (fun token member => blank token (List.mem_append_right _ member)) last kind
    have notOpen := closed atEnd
    simp only [Token.IsOpen, kind, true_and, not_or, Bool.not_eq_true] at notOpen
    obtain ⟨notContinued, unbroken⟩ := notOpen
    have breaks : leadingBreak (prologue ++ skipped) = [.newline] := by
      simp [leadingBreak, last, unbroken]
    have ends : continues false token.chars = false := by
      rw [continues]
      cases final : token.chars.getLast? with
      | none => rfl
      | some c => simpa [final] using notContinued
    simp only [Token.StopsBefore, kind, ends, breaks]
    exact logicalLine_false_eq_nil.mpr rfl
  · obtain ⟨shaped, -⟩ := (Token.apart_append.mp apart).1.getLast? last
    have tokenBlank := blank token (List.mem_append_left _ (List.mem_of_getLast? last))
    exact gap.stopsBefore_of_ne shaped tokenBlank last kind _

/-- The tokens before a gap still stand apart when a declaration is put there. -/
theorem Declaration.Gap.apart_before {prologue skipped back : List Token}
    (gap : Gap prologue skipped back) (apart : Token.Apart (prologue ++ skipped ++ back) [])
    (blank : ∀ token ∈ prologue ++ skipped ++ back, token.BlankShaped)
    (closed : back = [] → ∀ token ∈ (prologue ++ skipped).getLast?, ¬token.IsOpen)
    (rest : List Char)
    : Token.Apart (prologue ++ skipped)
        ((leadingBreak (prologue ++ skipped)).flatMap Token.chars ++ 'o' :: rest) := by
  obtain ⟨frontApart, -⟩ := Token.apart_append.mp apart
  refine frontApart.replace ?_ fun token last =>
    gap.stopsBefore apart blank last (fun atEnd => closed atEnd token last) rest
  intro feed token last _
  cases unbroken : token.endsWithBreak with
  | false => rfl
  | true =>
      have noBreak : leadingBreak (prologue ++ skipped) = [] := by
        simp [leadingBreak, Option.mem_def.mp last, unbroken]
      rw [noBreak] at feed
      cases feed

end ShaderUplift
