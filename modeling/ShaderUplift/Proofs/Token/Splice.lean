import ShaderUplift.Proofs.Token.Apart

/-! Changing the text behind tokens that stand apart.
A token looks only at the first characters behind it: whether they end its line, and whether they
turn a slash into the mark of a comment. Text that is no worse in this respect can take the
place of what followed before.
-/

namespace ShaderUplift
open ShaderUplift.Lexeme ShaderUplift.Text

/-- Every token that stops before `after` also stops before `next`. -/
structure Yields (after next : List Char) : Prop where
  line : ∀ continued, logicalLine continued after = [] → logicalLine continued next = []
  ending : after = [] → next = []
  slash : opens ('/' :: next) = true → opens ('/' :: after) = true
  feed : next.head? = some '\n' → after.head? = some '\n'

theorem logicalLine_cons_eq_nil {continued : Bool} {c : Char} {rest : List Char}
    : logicalLine continued (c :: rest) = []
      ↔ c = '\n' ∧ continued = false
        ∨ c = '\r' ∧ ¬(continued = true ∧ rest.head? = some '\n') := by
  by_cases feed : c = '\n'
  · subst feed
    cases continued <;> simp [logicalLine]
  · by_cases carriage : c = '\r'
    · subst carriage
      simp [logicalLine, not_and]
    · simp [logicalLine, feed, carriage]

theorem logicalLine_false_eq_nil {after : List Char}
    : logicalLine false after = [] ↔ after.head?.all isLineBreak = true := by
  cases after with
  | nil => simp [logicalLine]
  | cons c rest => simp [logicalLine_cons_eq_nil, isLineBreak]

/-- A text that ends any line begins with a line break. -/
theorem head?_isLineBreak_of_logicalLine {continued : Bool} {after : List Char}
    (stops : logicalLine continued after = [])
    : after.head?.all isLineBreak = true := by
  cases after with
  | nil => rfl
  | cons c rest =>
      rcases logicalLine_cons_eq_nil.mp stops with ⟨rfl, -⟩ | ⟨rfl, -⟩ <;> rfl

theorem Yields.refl (after : List Char)
    : Yields after after :=
  ⟨fun _ => id, id, id, id⟩

theorem Yields.trans {after next last : List Char} (first : Yields after next)
    (second : Yields next last)
    : Yields after last where
  line := fun continued stops => second.line continued (first.line continued stops)
  ending := fun empty => second.ending (first.ending empty)
  slash := fun opened => first.slash (second.slash opened)
  feed := fun fed => first.feed (second.feed fed)

/-- Behind the same character only a line feed matters. -/
theorem Yields.cons {after next : List Char} (c : Char)
    (feed : next.head? = some '\n' → after.head? = some '\n')
    : Yields (c :: after) (c :: next) where
  line := by
    intro continued stops
    rw [logicalLine_cons_eq_nil] at stops ⊢
    exact stops.imp_right (fun ⟨carriage, ends⟩ => ⟨carriage, fun ⟨h, fed⟩ => ends ⟨h, feed fed⟩⟩)
  ending := by simp
  slash := by simp [opens_cons]
  feed := by simp

theorem Yields.append {after next : List Char} (yields : Yields after next) (front : List Char)
    : Yields (front ++ after) (front ++ next) := by
  induction front with
  | nil => exact yields
  | cons c front ih => exact .cons c ih.feed

/-- Behind the same visible character nothing matters. -/
theorem Yields.visible {c : Char} (unbroken : isLineBreak c = false) (after next : List Char)
    : Yields (c :: after) (c :: next) where
  line := by
    intro continued stops
    have broken := head?_isLineBreak_of_logicalLine stops
    rw [List.head?_cons, Option.all_some, unbroken] at broken
    cases broken
  ending := by simp
  slash := by simp [opens_cons]
  feed := by simp

namespace Token

theorem StopsBefore.yields {token : Token} {after next : List Char} (shaped : token.WellShaped)
    (stops : token.StopsBefore after) (yields : Yields after next)
    : token.StopsBefore next := by
  cases span : token.kind.isSpan with
  | false =>
      obtain ⟨c, tail, chars, notSign, -⟩ := (wellShaped_iff_of_not_isSpan span).mp shaped
      rw [stopsBefore_iff_of_not_isSpan span, chars, List.cons_append] at stops ⊢
      cases tail with
      | cons d tail =>
          simpa only [← Bool.not_eq_true, opens_cons, List.cons_append, List.head?_cons]
            using stops
      | nil =>
          rw [← Bool.not_eq_true, List.nil_append] at stops ⊢
          intro opened
          rcases (opens_cons c next).mp opened with rfl | ⟨rfl, -⟩
          · exact notSign rfl
          · exact stops (yields.slash opened)
  | true =>
      cases kind : token.kind with
      | directive =>
          simp only [StopsBefore, kind] at stops ⊢
          exact yields.line _ stops
      | blockComment =>
          simp only [StopsBefore, kind] at stops ⊢
          exact stops.imp_left yields.ending
      | lineComment =>
          simp only [StopsBefore, kind] at stops ⊢
          rw [← logicalLine_false_eq_nil] at stops ⊢
          exact yields.line false stops
      | keyword | builtin | identifier | operator | whitespace | integer | float | other name =>
          simp [kind, TokenKind.isSpan] at span

/-- A token that stops before a number sign stops before every text, unless it is a slash. -/
theorem StopsBefore.of_sign {token : Token} {after : List Char} (shaped : token.WellShaped)
    (stops : token.StopsBefore ('#' :: after)) (notSlash : token.chars ≠ ['/'])
    (next : List Char)
    : token.StopsBefore next := by
  cases span : token.kind.isSpan with
  | false =>
      obtain ⟨c, tail, chars, notSign, -⟩ := (wellShaped_iff_of_not_isSpan span).mp shaped
      rw [stopsBefore_iff_of_not_isSpan span, chars, List.cons_append] at stops ⊢
      cases tail with
      | cons d tail =>
          simpa only [← Bool.not_eq_true, opens_cons, List.cons_append, List.head?_cons]
            using stops
      | nil =>
          rw [← Bool.not_eq_true, opens_cons]
          rintro (rfl | ⟨rfl, -⟩)
          · exact notSign rfl
          · exact notSlash chars
  | true =>
      cases kind : token.kind with
      | directive =>
          simp only [StopsBefore, kind] at stops
          simp [logicalLine_cons_eq_nil] at stops
      | blockComment =>
          simp only [StopsBefore, kind] at stops ⊢
          exact Or.inr (stops.resolve_left (by simp))
      | lineComment =>
          simp only [StopsBefore, kind] at stops
          cases stops
      | keyword | builtin | identifier | operator | whitespace | integer | float | other name =>
          simp [kind, TokenKind.isSpan] at span

/-- Tokens that stand apart stay so before a text that yields, by induction on the tokens. -/
theorem Apart.yields {tokens : List Token} {after next : List Char}
    (apart : Apart tokens after) (yields : Yields after next)
    : Apart tokens next := by
  induction tokens with
  | nil => trivial
  | cons token rest ih =>
      obtain ⟨shaped, stops, restApart⟩ := apart
      exact ⟨shaped, stops.yields shaped (yields.append _), ih restApart⟩

theorem WellShaped.chars_ne_nil {token : Token} (shaped : token.WellShaped)
    : token.chars ≠ [] := by
  unfold WellShaped at shaped
  split at shaped
  · obtain ⟨line, chars, -⟩ := shaped
    simp [chars]
  · obtain ⟨line, chars, -⟩ := shaped
    simp [chars]
  · obtain ⟨body, chars, -⟩ := shaped
    simp [chars]
  · obtain ⟨c, tail, chars, -⟩ := shaped
    simp [chars]

theorem Apart.getLast? {tokens : List Token} {after : List Char} (apart : Apart tokens after)
    {token : Token} (last : tokens.getLast? = some token)
    : token.WellShaped ∧ token.StopsBefore after := by
  obtain ⟨init, rfl⟩ := List.getLast?_eq_some_iff.mp last
  obtain ⟨-, shaped, stops, -⟩ := apart_append.mp apart
  exact ⟨shaped, stops⟩

/-- Only the last token looks at what follows tokens, unless it is a line break that a line feed
completes. By induction on the tokens. -/
theorem Apart.replace {tokens : List Token} {after next : List Char}
    (apart : Apart tokens after)
    (feed
      : next.head? = some '\n'
        → ∀ token ∈ tokens.getLast?,
            token.startsWithBreak = true → token.endsWithBreak = false)
    (last : ∀ token ∈ tokens.getLast?, token.StopsBefore next)
    : Apart tokens next := by
  induction tokens with
  | nil => trivial
  | cons token rest ih =>
      obtain ⟨shaped, stops, restApart⟩ := apart
      cases rest with
      | nil => exact ⟨shaped, last token rfl, trivial⟩
      | cons follower rest =>
          rw [List.getLast?_cons_cons] at feed last
          refine ⟨shaped, stops.yields shaped ?_, ih restApart feed last⟩
          obtain ⟨final, ends⟩ : ∃ final, (follower :: rest).getLast? = some final :=
            ⟨_, List.getLast?_eq_some_getLast (List.cons_ne_nil follower rest)⟩
          obtain ⟨init, split⟩ := List.getLast?_eq_some_iff.mp ends
          rw [split] at restApart ⊢
          obtain ⟨-, finalShaped, -⟩ := apart_append.mp restApart
          simp only [List.flatMap_append, List.flatMap_cons, List.flatMap_nil, List.append_nil,
            List.append_assoc]
          apply Yields.append
          obtain ⟨d, more, begins⟩ := List.exists_cons_of_ne_nil finalShaped.chars_ne_nil
          cases lineBreak : isLineBreak d with
          | false =>
              rw [begins]
              exact Yields.visible lineBreak (more ++ after) (more ++ next)
          | true =>
              have starts : final.startsWithBreak = true := by
                rw [startsWithBreak, begins, List.head?_cons, Option.any_some, lineBreak]
              obtain ⟨c, charEnds⟩ : ∃ c, final.chars.getLast? = some c :=
                ⟨_, List.getLast?_eq_some_getLast finalShaped.chars_ne_nil⟩
              obtain ⟨front, chars⟩ := List.getLast?_eq_some_iff.mp charEnds
              rw [chars, List.append_assoc, List.append_assoc]
              apply Yields.append
              cases broken : isLineBreak c with
              | false => exact Yields.visible broken after next
              | true =>
                  refine Yields.cons c fun fed => ?_
                  have unbroken := feed fed final ends starts
                  rw [endsWithBreak, charEnds, Option.any_some, broken] at unbroken
                  cases unbroken

-----------------------------------------------------------------------------------------
-- Tokens that stand apart from whatever follows
-----------------------------------------------------------------------------------------

/-- A token whose first character neither begins nor can begin a comment stops everywhere. -/
theorem apart_singleton {token : Token} {c : Char} {tail : List Char}
    (span : token.kind.isSpan = false) (chars : token.chars = c :: tail)
    (plain : c ≠ '/' ∧ c ≠ '#') (unmarked : Unmarked tail) (after : List Char)
    : Apart [token] after := by
  refine ⟨(wellShaped_iff_of_not_isSpan span).mpr ⟨c, tail, chars, plain.2, unmarked⟩, ?_,
    trivial⟩
  rw [stopsBefore_iff_of_not_isSpan span, chars, ← Bool.not_eq_true, List.cons_append, opens_cons]
  simp [plain.1, plain.2]

theorem apart_of_forall {tokens : List Token}
    (each : ∀ token ∈ tokens, ∀ after, Apart [token] after) (after : List Char)
    : Apart tokens after := by
  induction tokens with
  | nil => trivial
  | cons token rest ih =>
      obtain ⟨shaped, stops, -⟩ := each token (by simp) (rest.flatMap chars ++ after)
      exact ⟨shaped, stops, ih fun other member => each other (List.mem_cons_of_mem _ member)⟩

theorem apart_newline (after : List Char)
    : Apart [newline] after :=
  apart_singleton rfl rfl (by decide) (by simp [Unmarked]) after

/-- A directive whose line is not continued stands apart from every text on the next line. -/
theorem apart_directive {token : Token} {line after : List Char}
    (kind : token.kind = .directive) (chars : token.chars = '#' :: line)
    (whole : logicalLine false line = line) (ended : line.getLast? ≠ some '\\')
    (nextLine : after.head?.all isLineBreak = true)
    : Apart [token] after := by
  have shaped : token.WellShaped := by
    simp only [WellShaped, kind]
    exact ⟨line, chars, whole⟩
  refine ⟨shaped, ?_, trivial⟩
  have notContinued : continues false token.chars = false := by
    rw [chars, continues_cons, continues]
    cases last : line.getLast? with
    | none => rfl
    | some c => simpa [last] using ended
  simp only [StopsBefore, kind, notContinued, List.flatMap_nil, List.nil_append]
  exact logicalLine_false_eq_nil.mpr nextLine

end Token

end ShaderUplift
