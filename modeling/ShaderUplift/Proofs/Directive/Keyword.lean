import ShaderUplift.Proofs.Extension.Pruned

/-! The keyword of a directive: the word behind its number sign.
The directives that lead a shader are told by their keyword alone, and no directive has two. In
particular every directive that declares a version or names an extension leads.
-/

namespace ShaderUplift

-----------------------------------------------------------------------------------------
-- The keyword in the text of a directive
-----------------------------------------------------------------------------------------

namespace Directive
open ShaderUplift.Text

/-- The word that follows the number sign of a directive, which blanks may part from it. -/
def keyword? (text : List Char) : Option String :=
  (after? ['#'] text).map fun rest => String.ofList ((skipBlanks rest).takeWhile isWordChar)

theorem endsWord_iff {text : List Char}
    : endsWord text = true ↔ ∀ c ∈ text.head?, isWordChar c = false := by
  cases text with
  | nil => simp [endsWord]
  | cons c rest => simp [endsWord]

/-- A text goes on after a word without a word character exactly if it begins with the word and
with no longer one. -/
theorem any_endsWord_iff {word text : List Char} (chars : word.all isWordChar = true)
    : (after? word text).any endsWord = true ↔ text.takeWhile isWordChar = word := by
  constructor
  · intro ended
    obtain ⟨rest, found, ends⟩ := (Option.any_eq_true ..).mp ended
    exact IsRun.takeWhile_eq
      ⟨after?_eq_some_iff.mp found, List.all_eq_true.mp chars, endsWord_iff.mp ends⟩
  · intro read
    obtain ⟨split, -, stops⟩ := isRun_iff.mpr ⟨read, rfl⟩
    rw [after?_eq_some_iff.mpr split, Option.any_some]
    exact endsWord_iff.mpr stops

theorem afterKeyword?_any_iff {keyword : String} {text : List Char}
    (chars : keyword.toList.all isWordChar = true)
    : (afterKeyword? keyword text).any endsWord = true ↔ keyword? text = some keyword := by
  rw [afterKeyword?, keyword?]
  cases after? ['#'] text with
  | none => simp
  | some rest =>
      rw [Option.bind_some, any_endsWord_iff chars, Option.map_some, Option.some.injEq,
        ← String.toList_inj, String.toList_ofList]

theorem isLeading_iff {text : List Char}
    : isLeading text = true
      ↔ keyword? text = some "extension" ∨ keyword? text = some "version" := by
  rw [isLeading, Bool.or_eq_true, afterKeyword?_any_iff (by decide +kernel),
    afterKeyword?_any_iff (by decide +kernel)]

/-- Blanks end a keyword. -/
theorem keyword?_of_skipSomeBlanks? {keyword : String} {text rest : List Char}
    (chars : keyword.toList.all isWordChar = true)
    (parted : (afterKeyword? keyword text).bind skipSomeBlanks? = some rest)
    : keyword? text = some keyword := by
  obtain ⟨behind, found, skipped⟩ := Option.bind_eq_some_iff.mp parted
  rw [← afterKeyword?_any_iff chars, found, Option.any_some]
  cases behind with
  | nil => cases skipped
  | cons c behind =>
      rw [skipSomeBlanks?] at skipped
      split at skipped
      · rename_i blank
        simp [endsWord, isWordChar_of_isBlank blank]
      · cases skipped

theorem keyword?_of_extension? {text : List Char} {name : String}
    (named : extension? text = some name)
    : keyword? text = some "extension" := by
  obtain ⟨rest, parted, -⟩ := Option.bind_eq_some_iff.mp named
  exact keyword?_of_skipSomeBlanks? (by decide +kernel) parted

theorem keyword?_of_version? {text : List Char} {version : String}
    (declares : version? text = some version)
    : keyword? (skipBlanks text) = some "version" := by
  obtain ⟨rest, parted, -⟩ := Option.bind_eq_some_iff.mp declares
  exact keyword?_of_skipSomeBlanks? (by decide +kernel) parted

/-- Blanks in front of a keyword are passed over. -/
theorem afterKeyword?_append_blanks {keyword : String} {gap : List Char}
    (blank : ∀ c ∈ gap, isBlank c = true) (rest : List Char)
    (stops : ∀ c ∈ (keyword.toList ++ rest).head?, isBlank c = false)
    : afterKeyword? keyword ('#' :: (gap ++ (keyword.toList ++ rest))) = some rest := by
  have worded : skipBlanks (gap ++ (keyword.toList ++ rest)) = keyword.toList ++ rest :=
    skipBlanks_eq_iff.mpr ⟨gap, rfl, blank, stops⟩
  refine Option.bind_eq_some_iff.mpr ⟨gap ++ (keyword.toList ++ rest), ?_, ?_⟩
  · exact after?_eq_some_iff.mpr rfl
  · rw [worded]
    exact after?_eq_some_iff.mpr rfl

/-- A keyword that is spelled directly behind the number sign is read there. -/
theorem afterKeyword?_append {keyword : String}
    (chars : keyword.toList.all isWordChar = true) (some : keyword ≠ "") (rest : List Char)
    : afterKeyword? keyword ('#' :: (keyword.toList ++ rest)) = .some rest := by
  obtain ⟨first, word, cons⟩ := List.exists_cons_of_ne_nil (mt String.toList_eq_nil_iff.mp some)
  have visible : isBlank first = false := by
    cases blank : isBlank first with
    | false => rfl
    | true =>
        have inWord := List.all_eq_true.mp chars first (by simp [cons])
        rw [isWordChar_of_isBlank blank] at inWord
        cases inWord
  have stops : ∀ c ∈ (keyword.toList ++ rest).head?, isBlank c = false := by
    rw [cons]
    exact stops_cons visible _
  exact afterKeyword?_append_blanks (List.forall_mem_nil _) rest stops

/-- A text that spells a number sign, a keyword and a blank has that keyword. -/
theorem keyword?_append {keyword : String} (chars : keyword.toList.all isWordChar = true)
    (some : keyword ≠ "") (rest : List Char)
    : keyword? ('#' :: (keyword.toList ++ ' ' :: rest)) = .some keyword := by
  have space : isWordChar ' ' = false := isWordChar_of_isBlank (by decide)
  rw [← afterKeyword?_any_iff chars, afterKeyword?_append chars some, Option.any_some]
  simp [endsWord, space]

end Directive

-----------------------------------------------------------------------------------------
-- The keyword of a token
-----------------------------------------------------------------------------------------

namespace Token

/-- The keyword of a token, if it is a directive. -/
def keyword? (token : Token) : Option String :=
  if token.kind = .directive then Directive.keyword? token.chars else none

/-- A directive begins with its number sign. -/
def Signed (token : Token) : Prop :=
  token.kind = .directive → token.chars.head? = some '#'

theorem kind_of_keyword? {token : Token} {keyword : String}
    (found : token.keyword? = some keyword)
    : token.kind = .directive := by
  unfold keyword? at found
  split at found
  · assumption
  · cases found

/-- Only a directive that begins with its number sign has a keyword. -/
theorem signed_of_keyword? {token : Token} {keyword : String}
    (found : token.keyword? = some keyword)
    : token.Signed := by
  intro kind
  rw [keyword?, if_pos kind, Directive.keyword?, Option.map_eq_some_iff] at found
  obtain ⟨rest, signed, -⟩ := found
  rw [Text.after?_eq_some_iff.mp signed]
  rfl

theorem isLeadingDirective_iff {token : Token}
    : token.isLeadingDirective = true
      ↔ token.keyword? = some "extension" ∨ token.keyword? = some "version" := by
  rw [isLeadingDirective, keyword?, Bool.and_eq_true, decide_eq_true_eq, Directive.isLeading_iff]
  by_cases kind : token.kind = .directive <;> simp [kind]

theorem keyword?_of_extension? {token : Token} {name : String}
    (named : token.extension? = some name)
    : token.keyword? = some "extension" := by
  unfold extension? at named
  split at named
  · rename_i kind
    rw [keyword?, if_pos kind, Directive.keyword?_of_extension? named]
  · cases named

theorem keyword?_of_version? {token : Token} {version : String} (signed : token.Signed)
    (declares : token.version? = some version)
    : token.keyword? = some "version" := by
  have kind := kind_of_version? declares
  have unmoved : Text.skipBlanks token.chars = token.chars := by
    obtain ⟨rest, chars⟩ := List.head?_eq_some_iff.mp (signed kind)
    rw [chars]
    rfl
  rw [version?, if_pos kind] at declares
  rw [keyword?, if_pos kind, ← unmoved, Directive.keyword?_of_version? declares]

/-- Every directive that is read from a text begins with its number sign. -/
theorem signed_lexFrom (text : List Char)
    : ∀ token ∈ lexFrom 0 text, token.Signed := by
  apply forall_mem_lexFrom
  intro c rest kind
  obtain ⟨tail, chars⟩ := Lexeme.chars_front_cons c rest
  obtain ⟨-, rfl⟩ := (Lexeme.front_shape c rest).sign_of_kind kind
  rw [chars, List.head?_cons]

end Token

theorem Version.keyword?_declaring (target : String)
    : (declaring target).keyword? = some "version" := by
  have chars : (declaring target).chars = '#' :: ("version".toList ++ ' ' :: target.toList) := by
    simp only [declaring, Token.directive, Token.chars, String.toList_append]
    rfl
  have kind : (declaring target).kind = .directive := rfl
  rw [Token.keyword?, if_pos kind, chars]
  exact Directive.keyword?_append (by decide +kernel) (by decide) _

/-- A version directive names no extension, whatever version it declares. -/
theorem Version.extension?_declaring (target : String)
    : (declaring target).extension? = none := by
  rw [Option.eq_none_iff_forall_ne_some]
  intro name named
  have keyword := Token.keyword?_of_extension? named
  rw [keyword?_declaring] at keyword
  exact absurd keyword (by decide)

theorem ExtensionPolicy.keyword?_enabling (name : String)
    : (enabling name).keyword? = some "extension" := by
  have chars : (enabling name).chars
      = '#' :: ("extension".toList ++ ' ' :: (name ++ " : enable").toList) := by
    simp only [enabling, Token.directive, Token.chars, String.toList_append]
    rfl
  have kind : (enabling name).kind = .directive := rfl
  rw [Token.keyword?, if_pos kind, chars]
  exact Directive.keyword?_append (by decide +kernel) (by decide) _

end ShaderUplift
