import ShaderUplift.Proofs.Declaration.Between
import ShaderUplift.Proofs.Declaration.Placed
import ShaderUplift.Proofs.Declaration.Sited
import ShaderUplift.Proofs.Token.Legible

/-! Reading a shader again after a declaration has been put into it.
The declaration and the tokens around it are found in the text again, with runs of whitespace
joined. The one exception is a directive at the end of the shader that goes on over the declaration.
-/

namespace ShaderUplift
open ShaderUplift.Lexeme ShaderUplift.Text

-----------------------------------------------------------------------------------------
-- Words
-----------------------------------------------------------------------------------------

/-- A text is a word: it starts with a letter or an underscore and goes on with word characters. -/
def IsWord (word : String) : Prop :=
  ∃ c tail, word.toList = c :: tail ∧ isWordStart c = true ∧ ∀ d ∈ tail, isWordChar d = true

namespace Lexeme

/-- What starts a word is no decimal digit. -/
theorem isDecimalDigit_of_isWordStart {c : Char} (start : isWordStart c = true)
    : isDecimalDigit c = false := by
  simp only [isWordStart, Bool.or_eq_true, beq_iff_eq] at start
  rcases start with alpha | rfl
  · have covered : CodeRange.covers [⟨0x41, 0x5A⟩, ⟨0x61, 0x7A⟩] c.toNat = true := by
      rw [CodeRange.covers_iff (by decide)]
      simpa using isAlpha_iff.mp alpha
    exact CodeRange.covers_eq_false_of_apart (by decide) (by decide +kernel) (by decide +kernel)
      covered
  · decide +kernel

/-- A text that begins like a word begins with one. -/
theorem front_word {c : Char} (start : isWordStart c = true) (rest : List Char)
    : front c rest
      = .ofChars (Vocabulary.classify (String.ofList (word (c :: rest)))) (word (c :: rest)) := by
  have digit := isDecimalDigit_of_isWordStart start
  have blank := isBlank_of_isWordStart start
  have closed : opens (c :: rest) = false := by
    rw [← Bool.not_eq_true, opens_cons]
    rintro (rfl | ⟨rfl, -⟩) <;> exact absurd start (by decide)
  obtain ⟨noBlock, noLine, noDirective⟩ := readers_of_closed closed
  have point : '.' ≠ c := by
    rintro rfl
    exact absurd start (by decide)
  have zero : c ≠ '0' := by
    rintro rfl
    exact absurd start (by decide)
  have noPoint : pointed (c :: rest) = [] := by simp [pointed, digit, after?, point]
  have noDigits : digits (c :: rest) = [] := by simp [digits, digit]
  have float : float (c :: rest) = [] := by simp [float, mantissa, noPoint, noDigits]
  have noFigures : hexadecimal (c :: rest) = [] := by cases rest <;> simp [hexadecimal, zero]
  have integer : integer (c :: rest) = [] := by simp [integer, magnitude, noFigures, noDigits]
  have some : word (c :: rest) ≠ [] := by simp [word, start]
  simp [front, classed?, noBlock, noLine, noDirective, token?, blanks, blank, float, integer, some]

end Lexeme

/-- A word is read again before a text that does not begin with a word character. -/
theorem IsWord.readBefore {word : String} (isWord : IsWord word) (after : List Char)
    (stops : ∀ c ∈ after.head?, isWordChar c = false)
    : Token.ReadBefore ⟨Vocabulary.classify word, word⟩ after := by
  obtain ⟨c, tail, chars, start, others⟩ := isWord
  have read : Lexeme.word (c :: (tail ++ after)) = word.toList := by
    rw [Lexeme.word, if_pos start, IsRun.takeWhile_eq ⟨rfl, others, stops⟩, chars]
  have same : front c (tail ++ after) = ⟨Vocabulary.classify word, word⟩ := by
    rw [front_word start, read, String.ofList_toList]
    simp [Token.ofChars]
  refine ⟨?_, ?_, fun _ => ?_⟩
  · simp [Token.chars, chars]
  · exact fun kind => absurd kind (Vocabulary.classify_ne rfl word)
  · change lexFrom 0 (word.toList ++ after) = _
    rw [chars, lexFrom_append (by rw [same]; exact chars), same]

-----------------------------------------------------------------------------------------
-- The tokens of a declaration
-----------------------------------------------------------------------------------------

/-- A name that a variable can have: a word that is neither a keyword nor a built-in. -/
structure IsVariable (name : String) : Prop where
  word : IsWord name
  notKeyword : name ∉ Vocabulary.keywords
  notBuiltin : name ∉ Vocabulary.builtins

theorem isWord_of_mem_keywords {word : String} (listed : word ∈ Vocabulary.keywords)
    : IsWord word := by
  have spelled : ∀ word ∈ Vocabulary.keywords,
      word.toList.head?.any isWordStart = true ∧ word.toList.tail.all isWordChar = true := by
    decide +kernel
  obtain ⟨start, others⟩ := spelled word listed
  cases chars : word.toList with
  | nil =>
      rw [chars] at start
      cases start
  | cons c tail =>
      rw [chars] at start others
      exact ⟨c, tail, chars, start, by simpa using others⟩

theorem Token.readBefore_of_blank {token : Token} (kind : token.kind = .whitespace)
    (some : token.chars ≠ []) (blank : token.chars.all isBlank = true) (after : List Char)
    : token.ReadBefore after :=
  ⟨some, fun _ => List.all_eq_true.mp blank, fun visible => absurd kind visible⟩

/-- Line breaks that are put in are read again, by induction on them. -/
theorem legible_of_newline {tokens : List Token} (each : ∀ token ∈ tokens, token = .newline)
    (after : List Char)
    : Legible tokens after := by
  induction tokens with
  | nil => trivial
  | cons token rest ih =>
      obtain ⟨rfl, restEach⟩ := List.forall_mem_cons.mp each
      exact ⟨Token.readBefore_of_blank rfl (by decide) (by decide) _, ih restEach⟩

theorem Token.readBefore_semicolon {after : List Char}
    (parted : after.head?.all isSeparator = true)
    : ReadBefore ⟨.operator, ";"⟩ after := by
  have alone : front ';' [] = ⟨.operator, ";"⟩ := by decide +kernel
  have read : front ';' ([] ++ after) = front ';' [] := front_append parted rfl (by decide)
  refine ⟨by decide, nofun, fun _ => ?_⟩
  change lexFrom 0 ([';'] ++ after) = _
  rw [lexFrom_append (by rw [read, alone]; decide), read, alone]

/-- Every token of a declaration is read again, whatever is put on the next line. -/
theorem legible_outDeclaration {name type : String} (isVariable : IsVariable name)
    (listed : type ∈ Vocabulary.keywords) {after : List Char}
    (parted : after.head?.all isSeparator = true)
    : Legible (outDeclaration name type) after := by
  have outWord : IsWord "out" := isWord_of_mem_keywords (by decide)
  have out := outWord.readBefore (' ' :: (type.toList ++ ' ' :: (name.toList ++ ';' :: after)))
    (stops_cons (by decide +kernel) _)
  have keyword := (isWord_of_mem_keywords listed).readBefore (' ' :: (name.toList ++ ';' :: after))
    (stops_cons (by decide +kernel) _)
  have named := isVariable.word.readBefore (';' :: after) (stops_cons (by decide +kernel) _)
  have outKind : Vocabulary.classify "out" = .keyword := by decide
  have typeKind : Vocabulary.classify type = .keyword := by simp [Vocabulary.classify, listed]
  have nameKind : Vocabulary.classify name = .identifier := by
    simp [Vocabulary.classify, isVariable.notKeyword, isVariable.notBuiltin]
  have space : ∀ after, Token.ReadBefore ⟨.whitespace, " "⟩ after :=
    Token.readBefore_of_blank rfl (by decide) (by decide)
  rw [outKind] at out
  rw [typeKind] at keyword
  rw [nameKind] at named
  refine ⟨?_, space _, ?_, space _, ?_, Token.readBefore_semicolon (by simpa using parted), trivial⟩
  · simpa [Token.chars] using out
  · simpa [Token.chars] using keyword
  · simpa [Token.chars] using named

-----------------------------------------------------------------------------------------
-- The tokens around a declaration
-----------------------------------------------------------------------------------------

/-- Tokens that begin with a line break begin with a separator. -/
theorem parted_of_startsWithBreak {tokens : List Token}
    (begun : ∀ token ∈ tokens.head?, token.startsWithBreak = true)
    : (tokens.flatMap Token.chars).head?.all isSeparator = true := by
  cases tokens with
  | nil => rfl
  | cons token rest =>
      have broken := begun token rfl
      rw [Token.startsWithBreak] at broken
      rw [List.flatMap_cons]
      cases chars : token.chars with
      | nil =>
          rw [chars] at broken
          cases broken
      | cons c tail =>
          rw [chars, List.head?_cons, Option.any_some] at broken
          simp [isSeparator, isBlank_of_isLineBreak broken]

/-- Only the last token decides what can be put behind legible tokens, if it begins with a
separator. -/
theorem Legible.replace_last {init : List Token} {last : Token} {after next : List Char}
    (legible : Legible (init ++ [last]) after) (apart : Token.Apart (init ++ [last]) next)
    (separates : last.chars.head?.any isSeparator = true) (read : last.ReadBefore next)
    : Legible (init ++ [last]) next := by
  obtain ⟨c, tail, chars⟩ := List.exists_cons_of_ne_nil read.some
  have parted : ∀ text : List Char, (last.chars ++ text).head?.all isSeparator = true := by
    intro text
    rw [chars] at separates ⊢
    exact separates
  rw [legible_append, List.flatMap_singleton] at legible ⊢
  rw [Token.apart_append, List.flatMap_singleton] at apart
  exact ⟨legible.1.replace apart.1 (parted after) (parted next), read, trivial⟩

namespace Declaration

/-- What stands directly before a declaration begins with a separator and is read again. -/
theorem Gap.readBefore_last {prologue skipped after : List Token} {text rest : List Char}
    (gap : Gap prologue skipped after) {token : Token}
    (ends : (prologue ++ skipped).getLast? = some token) (shaped : token.WellShaped)
    (blankShaped : token.BlankShaped) (read : token.ReadBefore text)
    (stops
      : token.StopsBefore
          ((leadingBreak (prologue ++ skipped)).flatMap Token.chars ++ 'o' :: rest))
    : token.chars.head?.any isSeparator = true
      ∧ token.ReadBefore
          ((leadingBreak (prologue ++ skipped)).flatMap Token.chars ++ 'o' :: rest) := by
  rcases gap.last ends with skips | ended
  · rcases isSkipped_iff.mp skips with kind | kind
    · refine ⟨?_, read.some, read.blank, fun _ => ?_⟩
      · simp only [Token.WellShaped, kind] at shaped
        obtain ⟨line, chars, -⟩ := shaped
        rw [chars]
        rfl
      · exact Token.lexFrom_span (by rw [kind]; rfl) shaped stops
    · refine ⟨?_, Token.readBefore_of_blank kind read.some
        (List.all_eq_true.mpr (read.blank kind)) _⟩
      obtain ⟨c, tail, chars⟩ := List.exists_cons_of_ne_nil read.some
      have blank := blankShaped.mp kind
      rw [chars, List.head?_cons, Option.any_some] at blank ⊢
      simp [isSeparator, blank]
  · obtain rfl := endsStatement_iff.mp ended
    have breaks : leadingBreak (prologue ++ skipped) = [.newline] := by
      rw [leadingBreak, ends]
      rfl
    rw [breaks]
    exact ⟨rfl, Token.readBefore_semicolon rfl⟩

/-- The tokens before a declaration are read again, unless one of them is open. -/
theorem Gap.legible_before {prologue skipped back : List Token} {text : List Char}
    (gap : Gap prologue skipped back) (read : lexFrom 0 text = prologue ++ skipped ++ back)
    (closed : back = [] → ∀ token ∈ (prologue ++ skipped).getLast?, ¬token.IsOpen)
    (rest : List Char)
    : Legible (prologue ++ skipped)
        ((leadingBreak (prologue ++ skipped)).flatMap Token.chars ++ 'o' :: rest) := by
  have apart : Token.Apart (prologue ++ skipped ++ back) [] := read ▸ apart_lexFrom text
  have blankShaped : ∀ token ∈ prologue ++ skipped ++ back, token.BlankShaped :=
    read ▸ blankShaped_lexFrom text
  have legible : Legible (prologue ++ skipped ++ back) [] := read ▸ legible_lexFrom text
  have beforeApart := gap.apart_before apart blankShaped closed rest
  have before := (legible_append.mp legible).1
  rcases List.eq_nil_or_concat (prologue ++ skipped) with none | ⟨init, last, split⟩
  · rw [none]
    trivial
  · rw [List.concat_eq_append] at split
    have ends : (prologue ++ skipped).getLast? = some last := by
      rw [split, List.getLast?_concat]
    obtain ⟨shaped, stops⟩ := beforeApart.getLast? ends
    have lastRead := before
    rw [split, legible_append] at lastRead
    obtain ⟨separates, again⟩ :=
      gap.readBefore_last ends shaped
        (blankShaped last (List.mem_append_left _ (List.mem_of_getLast? ends))) lastRead.2.1 stops
    generalize (leadingBreak (prologue ++ skipped)).flatMap Token.chars ++ 'o' :: rest = next
      at beforeApart again ⊢
    rw [split] at before beforeApart ⊢
    exact before.replace_last beforeApart separates again

end Declaration

/-- A directive goes on over a declaration that is put behind it if it is open. -/
theorem Token.IsOpen.not_stopsBefore {before : List Token} {token : Token} (isOpen : token.IsOpen)
    (last : before.getLast? = some token) (rest : List Char)
    : ¬token.StopsBefore ((Declaration.leadingBreak before).flatMap chars ++ 'o' :: rest) := by
  obtain ⟨kind, ending⟩ := isOpen
  simp only [StopsBefore, kind]
  rcases ending with slash | broken
  · have breaks : Declaration.leadingBreak before = [.newline] := by
      simp [Declaration.leadingBreak, last, endsWithBreak, slash, isLineBreak]
    have continued : continues false token.chars = true := by simp [continues, slash]
    simp only [breaks, continued, List.flatMap_singleton]
    change ¬logicalLine true ('\n' :: 'o' :: rest) = []
    simp [logicalLine_cons_eq_nil]
  · have none : Declaration.leadingBreak before = [] := by
      simp [Declaration.leadingBreak, last, broken]
    simp [none, logicalLine_cons_eq_nil]

/-- A declaration is read again where it is put, and so is everything around it. -/
theorem Declaration.Gap.legible {prologue skipped after : List Token} {text : List Char}
    (gap : Gap prologue skipped after) (read : lexFrom 0 text = prologue ++ skipped ++ after)
    (closed : after = [] → ∀ token ∈ (prologue ++ skipped).getLast?, ¬token.IsOpen)
    {name type : String} (isVariable : IsVariable name) (listed : type ∈ Vocabulary.keywords)
    : Legible (between (prologue ++ skipped) (outDeclaration name type) after).tokens [] := by
  have later : Legible after [] := (legible_append.mp (read ▸ legible_lexFrom text)).2
  have begun := (onOwnLine_breaks (prologue ++ skipped) after).begun
  have before := gap.legible_before read closed
  generalize prologue ++ skipped = front at before begun ⊢
  simp only [between, legible_append, and_assoc]
  refine ⟨before _, legible_of_newline (fun _ => eq_newline_of_mem_leadingBreak) _,
    legible_outDeclaration isVariable listed ?_,
    legible_of_newline (fun _ => eq_newline_of_mem_trailingBreak) _, later⟩
  simpa using parted_of_startsWithBreak begun

/-- So such a declaration does not stand apart from what is before it. -/
theorem Token.IsOpen.not_apart {before : List Token} {token : Token} (isOpen : token.IsOpen)
    (last : before.getLast? = some token) (name type : String)
    : ¬Apart (joinBlanks (Declaration.between before (outDeclaration name type) []).tokens) [] := by
  have visible : token.kind ≠ .whitespace := by simp [isOpen.1]
  have notStopped := isOpen.not_stopsBefore last
  obtain ⟨init, rfl⟩ := List.getLast?_eq_some_iff.mp last
  intro apart
  simp only [Declaration.between, List.append_assoc, List.cons_append, List.nil_append,
    joinBlanks_append_cons visible] at apart
  obtain ⟨-, -, stops, -⟩ := Token.apart_append.mp apart
  rw [flatMap_chars_joinBlanks, List.append_nil, List.flatMap_append] at stops
  exact notStopped _ stops

-----------------------------------------------------------------------------------------
-- Reading a shader again
-----------------------------------------------------------------------------------------

/-- A shader with a declaration put in is cut into its tokens again, with runs of whitespace joined,
exactly if the declaration does not come behind an open directive at the end of the shader. A
directive that ends in a continued line break is open: the line break counts as the end of its line
when the declaration is put in, and is part of its line when the text is read.
-/
theorem lex_placed_iff {source name type : String} {placement : Declaration.Placement}
    (isVariable : IsVariable name) (listed : type ∈ Vocabulary.keywords)
    (placed : Declaration.place (lex source) (outDeclaration name type) = .ok placement)
    : lex (Token.render placement.tokens) = joinBlanks placement.tokens
      ↔ (Declaration.site (lex source) = .ok (lex source).length
          → ∀ last ∈ (lex source).getLast?, ¬last.IsOpen) := by
  rw [Declaration.place, bind_eq_ok_iff] at placed
  obtain ⟨site, found, result⟩ := placed
  obtain ⟨prologue, skipped, after, read, rfl, gap⟩ := Declaration.exists_gap found
  rw [← List.append_assoc] at read
  rw [read, List.take_left, List.drop_left] at result
  cases result
  have atEnd : Declaration.site (lex source) = .ok (lex source).length ↔ after = [] := by
    rw [found, read, Except.ok.injEq, List.length_append]
    simp
  rw [atEnd, lex, Token.toList_render]
  constructor
  · rintro same rfl last ends isOpen
    rw [List.append_nil] at read
    have ends := read ▸ Option.mem_def.mp ends
    exact isOpen.not_apart ends name type (same ▸ apart_lexFrom _)
  · intro closed
    have before : after = [] → ∀ last ∈ (prologue ++ skipped).getLast?, ¬last.IsOpen := by
      rintro rfl
      rw [← List.append_nil (prologue ++ skipped), ← read]
      exact closed rfl
    have again := (gap.legible read before isVariable listed).lexFrom
    rwa [List.append_nil] at again

/-- A line is ended behind blanks, and the line break is read together with them. -/
theorem lex_placed_behind_blanks
    : ∃ placement,
        IsVariable "unique_fragColor" ∧ "vec4" ∈ Vocabulary.keywords
        ∧ Declaration.place (lex "#version 100 \n  a") (outDeclaration "unique_fragColor" "vec4")
          = .ok placement
        ∧ Declaration.site (lex "#version 100 \n  a") = .ok 2
        ∧ lex (Token.render placement.tokens) = joinBlanks placement.tokens := by
  have isVariable : IsVariable "unique_fragColor" :=
    ⟨⟨'u', _, rfl, by decide, List.all_eq_true.mp (by decide)⟩, by decide, by decide⟩
  have listed : "vec4" ∈ Vocabulary.keywords := by decide
  have read : lex "#version 100 \n  a"
      = [.directive "#version 100 ", ⟨.whitespace, "\n  "⟩, ⟨.identifier, "a"⟩] := by
    decide +kernel
  have found : Declaration.site (lex "#version 100 \n  a") = .ok 2 := by
    rw [read]
    decide
  have placed
      : Declaration.place (lex "#version 100 \n  a") (outDeclaration "unique_fragColor" "vec4")
        = .ok (Declaration.between [.directive "#version 100 ", ⟨.whitespace, "\n  "⟩]
            (outDeclaration "unique_fragColor" "vec4") [⟨.identifier, "a"⟩]) := by
    rw [read]
    decide +kernel
  refine ⟨_, isVariable, listed, placed, found, (lex_placed_iff isVariable listed placed).mpr ?_⟩
  rw [found, read]
  nofun

/-- The line break of a directive that is continued at the end of the shader takes the declaration
in, although the directive does not end in a backslash. -/
theorem lex_placed_swallowed
    : ¬∀ (source name type : String) (placement : Declaration.Placement),
        (∀ last ∈ (lex source).getLast?,
          ¬(last.kind = .directive ∧ last.chars.getLast? = some '\\'))
        → IsVariable name
        → type ∈ Vocabulary.keywords
        → Declaration.place (lex source) (outDeclaration name type) = .ok placement
        → lex (Token.render placement.tokens) = joinBlanks placement.tokens := by
  intro survives
  have read : lex "#version 100\\\n" = [.directive "#version 100\\\n"] := by decide +kernel
  have isVariable : IsVariable "unique_fragColor" :=
    ⟨⟨'u', _, rfl, by decide, List.all_eq_true.mp (by decide)⟩, by decide, by decide⟩
  have placed
      : Declaration.place (lex "#version 100\\\n") (outDeclaration "unique_fragColor" "vec4")
        = .ok ⟨.directive "#version 100\\\n" :: outDeclaration "unique_fragColor" "vec4", 1⟩ := by
    rw [read]
    decide +kernel
  have again := survives "#version 100\\\n" "unique_fragColor" "vec4" _
    (by rw [read]; decide +kernel) isVariable (by decide) placed
  revert again
  decide +kernel

end ShaderUplift
