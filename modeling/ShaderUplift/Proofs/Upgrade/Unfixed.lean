import Mathlib.Data.List.Infix
import ShaderUplift.Proofs.Name.Merged
import ShaderUplift.Proofs.Upgrade.Reworded
import ShaderUplift.Proofs.Upgrade.Target

/-! Legacy texts change when they are upgraded.
The first place where the upgraded text departs from the old one is a word that takes another
form, a directive that is dropped, or the version directive. What comes behind it cannot make up
for the difference.
-/

namespace ShaderUplift
open ShaderUplift.Lexeme ShaderUplift.Text ShaderUplift.Directive

-----------------------------------------------------------------------------------------
-- The line of the new version directive
-----------------------------------------------------------------------------------------

theorem desktop_eq_cons (line : List Char)
    : "#version 150".toList ++ line = '#' :: ("version 150".toList ++ line) :=
  rfl

/-- A directive that goes on from the one for the desktop version declares another version than
the legacy one. -/
theorem Directive.version?_desktop (line : List Char)
    : ∃ version,
        Directive.version? ("#version 150".toList ++ line) = some version
        ∧ version ≠ Version.legacy := by
  have literal : "#version 150".toList ++ line
      = '#' :: ("version".toList ++ ' ' :: '1' :: '5' :: '0' :: line) := rfl
  have keyword : afterKeyword? "version" (skipBlanks ("#version 150".toList ++ line))
      = some (' ' :: '1' :: '5' :: '0' :: line) := by
    have sign : skipBlanks ('#' :: ("version".toList ++ ' ' :: '1' :: '5' :: '0' :: line))
        = '#' :: ("version".toList ++ ' ' :: '1' :: '5' :: '0' :: line) := by
      simp [skipBlanks, show isBlank '#' = false by decide]
    have word : skipBlanks ("version".toList ++ ' ' :: '1' :: '5' :: '0' :: line)
        = "version".toList ++ ' ' :: '1' :: '5' :: '0' :: line := by
      rw [show "version".toList = 'v' :: "ersion".toList from rfl, List.cons_append, skipBlanks,
        List.dropWhile_cons, show isBlank 'v' = false by decide]
      rfl
    rw [literal, sign, afterKeyword?, after?, if_pos rfl, after?, Option.bind_some, word]
    exact after?_eq_some_iff.mpr rfl
  have blanks : skipSomeBlanks? (' ' :: '1' :: '5' :: '0' :: line)
      = some ('1' :: '5' :: '0' :: line) := by
    simp [skipSomeBlanks?, skipBlanks, show isBlank ' ' = true by decide,
      show isBlank '1' = false by decide]
  have other : ∀ back : List Char, String.ofList ('1' :: '5' :: back) ≠ Version.legacy := by
    intro back same
    have chars := congrArg String.toList same
    rw [String.toList_ofList] at chars
    cases chars
  rw [version?, keyword, Option.bind_some, blanks, Option.bind_some, numberWithProfile?]
  simp only [List.takeWhile_cons, show Char.isDigit '1' = true by decide,
    show Char.isDigit '5' = true by decide, show Char.isDigit '0' = true by decide, if_true,
    List.cons_ne_nil, if_false]
  split
  · exact ⟨_, rfl, other _⟩
  · exact ⟨_, rfl, other _⟩

theorem directive_desktop (text : List Char)
    : Lexeme.directive ("#version 150".toList ++ text)
      = "#version 150".toList ++ logicalLine false text := by
  rw [desktop_eq_cons, Lexeme.directive, if_pos rfl,
    logicalLine_append Version.logicalLine_declaring_desktop]
  rfl

/-- What begins with the new version directive is read as a directive that declares a version. -/
theorem version?_of_front {text : List Char} {token : Token} {tokens : List Token}
    (read : lexFrom 0 ("#version 150".toList ++ text) = token :: tokens)
    : ∃ version, token.version? = some version ∧ version ≠ Version.legacy := by
  obtain ⟨c, rest, after, same, rfl, -, -⟩ := lexFrom_eq_cons read
  obtain ⟨rfl, rfl⟩ := List.cons.inj ((desktop_eq_cons text).symm.trans same)
  rw [front_directive, ← desktop_eq_cons, directive_desktop, Token.version?,
    if_pos (Token.kind_ofChars ..), Token.chars_ofChars]
  exact version?_desktop _

-----------------------------------------------------------------------------------------
-- A directive that is dropped is not spelled again
-----------------------------------------------------------------------------------------

/-- Only a directive holds a number sign that no slash comes before. -/
theorem kind_of_sign {c : Char} {rest : List Char} {before after : List Char}
    (unmarked : Unmarked before) (holds : (front c rest).chars = before ++ '#' :: after)
    : before = [] ∧ (front c rest).kind = .directive := by
  obtain ⟨tail, chars⟩ := chars_front_cons c rest
  have shape := front_shape c rest
  cases opened : opens (c :: rest) with
  | false =>
      obtain ⟨-, tailUnmarked⟩ := shape.unmarked_tail opened
      rw [chars, List.tail_cons] at tailUnmarked
      rw [chars] at holds
      have member : '#' ∈ c :: tail := by
        rw [holds]
        simp
      rcases List.mem_cons.mp member with rfl | member
      · simp [opens] at opened
      · exact absurd rfl (tailUnmarked '#' member).2
  | true =>
      have first : c ≠ '/' := by
        intro equal
        subst equal
        rw [chars] at holds
        cases before with
        | nil => cases holds
        | cons d before =>
            obtain ⟨rfl, -⟩ := List.cons.inj holds
            exact absurd rfl (unmarked '/' (by simp)).1
      rcases (opens_cons c rest).mp opened with rfl | ⟨rfl, -⟩
      · refine ⟨?_, by rw [front_directive]; rfl⟩
        cases before with
        | nil => rfl
        | cons d before =>
            rw [chars] at holds
            obtain ⟨rfl, -⟩ := List.cons.inj holds
            exact absurd rfl (unmarked '#' (by simp)).2
      · exact absurd rfl first

/-- The line break behind a directive that stays is still there in what is left of the text. -/
theorem stopsBefore_forms {policy : ExtensionPolicy} {stage : Stage} {c : Char}
    {rest after : List Char} {version : Token} {segment forms back : List Token}
    (split : (front c rest).chars ++ after = c :: rest)
    (kind : (front c rest).kind = .directive) (isVersion : version.kind = .directive)
    (read : lexFrom 0 after = segment ++ version :: back)
    (recasts : List.Forall₂ (Recast stage) (policy.pruneAfter 0 segment) forms)
    (next : List Char) (nextPlain : next.head? ≠ some '\n')
    : (front c rest).StopsBefore (forms.flatMap Token.chars ++ next) := by
  obtain ⟨shaped, stops⟩ := Token.front_apart split
  have broken := stops
  simp only [Token.StopsBefore, kind] at broken
  have nextLine := head?_isLineBreak_of_logicalLine broken
  apply stops.yields shaped
  cases segment with
  | nil =>
      obtain ⟨d, more, -, rfl, rfl, -, -⟩ := lexFrom_eq_cons read
      obtain ⟨-, rfl⟩ := (front_shape d more).sign_of_kind isVersion
      cases nextLine
  | cons follower segment =>
      have words : ∀ token ∈ policy.pruneAfter 0 (follower :: segment), token.WordShaped := by
        intro token member
        apply wordShaped_lexFrom after token
        rw [read]
        exact List.mem_append_left _ ((ExtensionPolicy.pruneAfter_sublist 0 _).subset member)
      have stays := yields_forms recasts words (Yields.refl next)
      have kept : policy.pruneAfter 0 (follower :: segment)
          = follower :: policy.pruneAfter 0 segment := by
        obtain ⟨d, more, -, rfl, rfl, -, -⟩ := lexFrom_eq_cons read
        have notObsolete : policy.isObsolete (front d more) = false := by
          rw [front_blank (isBlank_of_isLineBreak nextLine)]
          rfl
        simp [ExtensionPolicy.pruneAfter_cons, notObsolete]
      rw [kept, List.flatMap_cons, List.append_assoc] at stays
      exact (ExtensionPolicy.yields_pruneAfter read nextPlain).trans stays

theorem Token.eq_of_chars {token other : Token} (kind : token.kind = other.kind)
    (chars : token.chars = other.chars)
    : token = other := by
  rw [← Token.ofChars_chars token, ← Token.ofChars_chars other, kind, chars]

/-- No form of a token that stays holds the number sign of an obsolete directive: it would be a
directive, and the same one. -/
theorem Recast.not_holds {policy : ExtensionPolicy} {stage : Stage} {version dropped form : Token}
    {c : Char} {more after rest held : List Char} {segment forms back : List Token}
    (recast : Recast stage (front c more) form)
    (split : (front c more).chars ++ after = c :: more)
    (stays : policy.isObsolete (front c more) ≠ true) (isVersion : version.kind = .directive)
    (obsolete : policy.isObsolete dropped = true) {later next : List Char}
    (whole : Lexeme.directive (dropped.chars ++ later) = dropped.chars)
    (laterRead : lexFrom 0 after = segment ++ version :: back)
    (recasts : List.Forall₂ (Recast stage) (policy.pruneAfter 0 segment) forms)
    (nextPlain : next.head? ≠ some '\n') (unmarked : Unmarked rest)
    (holds : form.chars = rest ++ '#' :: held)
    (same : form.chars ++ (forms.flatMap Token.chars ++ next) = rest ++ (dropped.chars ++ later))
    : False := by
  have words := wordShaped_front c more
  rcases recast.eq_or_words words with rfl | ⟨-, -, -, spells⟩
  · obtain ⟨rfl, kind⟩ := kind_of_sign unmarked holds
    obtain ⟨shaped, -⟩ := Token.front_apart split
    have stops := stopsBefore_forms split kind isVersion laterRead recasts next nextPlain
    have sameDirective := stops.directive shaped kind
    rw [same, List.nil_append, whole] at sameDirective
    have sameKind := kind.trans (ExtensionPolicy.kind_of_isObsolete obsolete).symm
    have sameToken := Token.eq_of_chars sameKind sameDirective.symm
    exact stays (sameToken ▸ obsolete)
  · have notSign := (spells.unmarked '#' (by simp [holds])).2
    exact absurd rfl notSign

/-- What is left of a legacy text behind an obsolete directive does not spell the directive, by
induction on the tokens up to the version directive. -/
theorem not_respelled {stage : Stage} {version dropped : Token} {back : List Token}
    (isVersion : version.kind = .directive)
    (obsolete : ExtensionPolicy.standard.isObsolete dropped = true) {line later next : List Char}
    (sign : dropped.chars = '#' :: line)
    (whole : Lexeme.directive (dropped.chars ++ later) = dropped.chars)
    {segment forms : List Token} {owed : Nat} {text rest : List Char}
    (read : lexFrom 0 text = segment ++ version :: back)
    (recasts
      : List.Forall₂ (Recast stage) (ExtensionPolicy.standard.pruneAfter owed segment) forms)
    (unmarked : Unmarked rest)
    (same
      : forms.flatMap Token.chars ++ ("#version 150".toList ++ next)
        = rest ++ (dropped.chars ++ later))
    : False := by
  have droppedKind := ExtensionPolicy.kind_of_isObsolete obsolete
  induction segment generalizing owed text rest forms with
  | nil =>
      cases recasts
      obtain rfl : rest = [] := by
        cases rest with
        | nil => rfl
        | cons c rest =>
            obtain ⟨rfl, -⟩ := List.cons.inj ((desktop_eq_cons next).symm.trans same)
            exact absurd rfl (unmarked '#' (by simp)).2
      rw [List.nil_append, List.flatMap_nil, List.nil_append] at same
      rw [← same, directive_desktop] at whole
      obtain ⟨declared, declares, -⟩ := version?_desktop (logicalLine false next)
      rw [whole] at declares
      have none : dropped.extension? = .none := by
        rw [Token.extension?, if_pos droppedKind, extension?_eq_none declares]
      rw [ExtensionPolicy.isObsolete, none] at obsolete
      cases obsolete
  | cons token segment ih =>
      obtain ⟨c, more, after, rfl, rfl, split, laterRead⟩ := lexFrom_eq_cons read
      rw [ExtensionPolicy.pruneAfter_cons] at recasts
      split at recasts
      · exact ih laterRead recasts unmarked same
      · rename_i notObsolete
        split at recasts
        · exact ih laterRead recasts unmarked same
        · obtain ⟨form, laterForms, recast, laterRecasts, rfl⟩ :=
            List.forall₂_cons_left_iff.mp recasts
          rw [List.flatMap_cons, List.append_assoc] at same
          -- The form ends before the number sign of the directive, or it holds it.
          rcases List.append_eq_append_iff.mp same with
            ⟨more, rfl, laterSame⟩ | ⟨held, formChars, droppedSame⟩
          · refine ih laterRead laterRecasts ?_ laterSame
            exact fun d member => unmarked d (List.mem_append_right _ member)
          · cases held with
            | nil =>
                have respelled
                    : laterForms.flatMap Token.chars ++ ("#version 150".toList ++ next)
                      = [] ++ (dropped.chars ++ later) := droppedSame.symm
                exact ih laterRead laterRecasts (by simp [Unmarked]) respelled
            | cons d held =>
                rw [sign, List.cons_append, List.cons_append, List.cons.injEq] at droppedSame
                obtain ⟨rfl, -⟩ := droppedSame
                exact recast.not_holds split notObsolete isVersion obsolete whole laterRead
                  laterRecasts (by simp) unmarked formChars same

/-- So an obsolete directive at the front is not made up for by what is left behind it. -/
theorem not_dropped {stage : Stage} {version : Token} {back : List Token}
    (isVersion : version.kind = .directive) {c : Char} {rest after next before : List Char}
    (split : (front c rest).chars ++ after = c :: rest)
    (obsolete : ExtensionPolicy.standard.isObsolete (front c rest) = true)
    {segment forms : List Token} {owed : Nat}
    (laterRead : lexFrom 0 after = segment ++ version :: back)
    (recasts
      : List.Forall₂ (Recast stage)
          (ExtensionPolicy.standard.pruneAfter owed (front c rest :: segment)) forms)
    (unmarked : Unmarked before)
    (same : forms.flatMap Token.chars ++ ("#version 150".toList ++ next) = before ++ c :: rest)
    : False := by
  have kind := ExtensionPolicy.kind_of_isObsolete obsolete
  obtain ⟨shaped, stops⟩ := Token.front_apart split
  obtain ⟨rfl, -⟩ := ExtensionPolicy.around_obsolete split obsolete
  obtain ⟨tail, chars⟩ := chars_front_cons '#' rest
  rw [ExtensionPolicy.pruneAfter_cons, if_pos obsolete] at recasts
  rw [← split] at same
  exact not_respelled isVersion obsolete chars (stops.directive shaped kind) laterRead recasts
    unmarked same

-----------------------------------------------------------------------------------------
-- Words that take another form
-----------------------------------------------------------------------------------------

/-- Two texts have different characters somewhere, before either ends. -/
def Departs (form word : List Char) : Prop :=
  form.isPrefixOf word = false ∧ word.isPrefixOf form = false

instance (form word : List Char) : Decidable (Departs form word) :=
  inferInstanceAs (Decidable (_ ∧ _))

/-- Texts that depart do not become the same whatever comes behind them. -/
theorem Departs.append_ne {form word : List Char} (departs : Departs form word)
    (next after : List Char)
    : form ++ next ≠ word ++ after := by
  intro same
  have isFront : word <+: form ++ next := same ▸ List.prefix_append word after
  rcases List.prefix_or_prefix_of_prefix (List.prefix_append form next) isFront with
    isFront | isFront
  · have forward := departs.1
    rw [List.isPrefixOf_iff_prefix.mpr isFront] at forward
    cases forward
  · have backward := departs.2
    rw [List.isPrefixOf_iff_prefix.mpr isFront] at backward
    cases backward

theorem Qualifier.modern?_departs {stage : Stage} {qualifier modern : String}
    (replaced : modern? stage qualifier = some modern)
    : Departs modern.toList qualifier.toList := by
  unfold modern? at replaced
  split at replaced
  · rename_i legacy
    cases replaced
    rw [legacy]
    decide +kernel
  · split at replaced
    · rename_i legacy
      rw [legacy]
      cases stage with
      | vertex | fragment =>
          cases replaced
          decide +kernel
    · cases replaced

/-- A texture function keeps its name, loses the end of it, or departs from it earlier. -/
theorem Builtin.withoutSuffixes_cases
    : ∀ name ∈ Vocabulary.builtins,
        isTexture name = true
        → withoutSuffixes name.toList = name.toList
          ∨ name.toList = withoutSuffixes name.toList ++ ['2', 'D']
          ∨ name.toList = withoutSuffixes name.toList ++ ['C', 'u', 'b', 'e']
          ∨ Departs (withoutSuffixes name.toList) name.toList := by
  decide +kernel

theorem FragmentOutput.variableName_departs
    : ∀ name ∈ Vocabulary.builtins, ∀ output : FragmentOutput,
        ofBuiltin? name = some output → Departs output.variableName.toList name.toList := by
  intro name _ output found
  unfold ofBuiltin? at found
  split at found
  · rename_i named
    cases found
    rw [named]
    decide +kernel
  · split at found
    · rename_i named
      cases found
      rcases named with rfl | rfl <;> decide +kernel
    · cases found

/-- A reserved word neither carries the mark nor is a part of it. -/
theorem Name.mark_departs {name : String} (reserved : isReserved name = true)
    : Departs (mark.toList ++ name.toList) name.toList := by
  have noPart : ∀ chars ∈ mark.toList.inits, isReserved (String.ofList chars) = false := by
    decide +kernel
  have neither : ¬name.toList <+: mark.toList ∧ ¬mark.toList <+: name.toList := by
    constructor
    · intro isPart
      have free := noPart _ ((List.mem_inits _ _).mpr isPart)
      rw [String.ofList_toList, reserved] at free
      cases free
    · rintro ⟨rest, marked⟩
      have same : name = mark ++ String.ofList rest := by
        rw [← String.toList_inj, String.toList_append, String.toList_ofList, marked]
      rw [same, isReserved_mark_append] at reserved
      cases reserved
  have markFirst : mark.toList <+: mark.toList ++ name.toList := List.prefix_append ..
  constructor
  · rw [← Bool.not_eq_true, List.isPrefixOf_iff_prefix]
    exact fun isFront => neither.2 (markFirst.trans isFront)
  · rw [← Bool.not_eq_true, List.isPrefixOf_iff_prefix]
    intro isFront
    rcases List.prefix_or_prefix_of_prefix isFront markFirst with isPart | marked
    · exact neither.1 isPart
    · exact neither.2 marked

theorem Name.mark_departs_of_isClaimed {stage : Stage} {name : String}
    (claimed : isClaimed stage name = true)
    : Departs (mark.toList ++ name.toList) name.toList := by
  rw [isClaimed, Bool.and_eq_true, isEscapedOutput_iff] at claimed
  obtain ⟨-, output, rfl⟩ := claimed
  cases output <;> decide +kernel

/-- Where the form of a word does not depart from the word, it is the word without a suffix that
names a type of sampler. -/
theorem Recast.eq_or_suffix {stage : Stage} {token form : Token}
    (recast : Recast stage token form)
    (listed : token.kind = .builtin → token.text ∈ Vocabulary.builtins) {next after : List Char}
    (same : form.chars ++ next = token.chars ++ after)
    : form.chars = token.chars
      ∨ ∃ c suffix,
          token.chars = form.chars ++ c :: suffix ∧ isWordChar c = true
          ∧ Unmarked (c :: suffix) := by
  cases recast with
  | qualifier kind =>
      simp only [Qualifier.modernize] at same ⊢
      rw [if_pos kind] at same ⊢
      cases replaced : Qualifier.modern? stage token.text with
      | none => exact Or.inl rfl
      | some modern =>
          rw [replaced] at same
          exact absurd same ((Qualifier.modern?_departs replaced).append_ne _ _)
  | builtin kind =>
      simp only [Builtin.modernize] at same ⊢
      rw [if_neg (not_not_intro kind)] at same ⊢
      split at same
      · rename_i texture
        rw [if_pos texture, Token.chars_ofChars] at *
        rcases Builtin.withoutSuffixes_cases _ (listed kind) texture with
          kept | shorter | shorter | departs
        · exact Or.inl kept
        · exact Or.inr ⟨_, _, shorter, by decide +kernel, by decide⟩
        · exact Or.inr ⟨_, _, shorter, by decide +kernel, by decide⟩
        · exact absurd same (departs.append_ne _ _)
      · rename_i other
        rw [if_neg other]
        cases found : token.output? stage with
        | none => exact Or.inl rfl
        | some output =>
            rw [found] at same
            have named : FragmentOutput.ofBuiltin? token.text = some output := by
              unfold Token.output? at found
              split at found
              · exact found
              · cases found
            have departs := FragmentOutput.variableName_departs _ (listed kind) output named
            exact absurd same (departs.append_ne _ _)
  | kept kind free => exact Or.inl rfl
  | escaped kind taken =>
      have departs : Departs (Name.mark.toList ++ token.text.toList) token.text.toList := by
        rcases taken with reserved | claimed
        · exact Name.mark_departs reserved
        · exact Name.mark_departs_of_isClaimed claimed
      have formChars : Token.chars ⟨.identifier, Name.mark ++ token.text⟩
          = Name.mark.toList ++ token.text.toList := String.toList_append
      rw [formChars] at same
      exact absurd same (departs.append_ne _ _)
  | other kind => exact Or.inl rfl

-----------------------------------------------------------------------------------------
-- The first difference
-----------------------------------------------------------------------------------------

/-- Behind a word that lost its end, what is left of the text does not begin with that end: no
token that stays begins with a word character, and a directive that goes is not spelled again. -/
theorem not_restored {stage : Stage} {version : Token} {back : List Token}
    (isVersion : version.kind = .directive) {c : Char} {suffix : List Char}
    (wordChar : isWordChar c = true) (unmarked : Unmarked (c :: suffix))
    {segment forms : List Token} {text next : List Char}
    (apart : ∀ d ∈ text.head?, isWordChar d = false)
    (read : lexFrom 0 text = segment ++ version :: back)
    (recasts
      : List.Forall₂ (Recast stage) (ExtensionPolicy.standard.pruneAfter 0 segment) forms)
    (same
      : forms.flatMap Token.chars ++ ("#version 150".toList ++ next) = c :: suffix ++ text)
    : False := by
  cases segment with
  | nil =>
      cases recasts
      obtain ⟨rfl, -⟩ := List.cons.inj ((desktop_eq_cons next).symm.trans same)
      exact absurd rfl (unmarked '#' (by simp)).2
  | cons token segment =>
      obtain ⟨d, rest, after, rfl, rfl, split, laterRead⟩ := lexFrom_eq_cons read
      obtain ⟨tail, chars⟩ := chars_front_cons d rest
      have notWordChar : isWordChar d = false := apart d rfl
      by_cases obsolete : ExtensionPolicy.standard.isObsolete (front d rest) = true
      · exact not_dropped isVersion split obsolete laterRead recasts unmarked same
      · rw [ExtensionPolicy.pruneAfter_cons, if_neg obsolete, if_neg (by simp)] at recasts
        obtain ⟨form, laterForms, recast, -, rfl⟩ := List.forall₂_cons_left_iff.mp recasts
        have words := wordShaped_front d rest
        rcases recast.eq_or_words words with rfl | ⟨-, -, ⟨e, eTail, eChars, start, -⟩, -⟩
        · rw [List.flatMap_cons, chars] at same
          obtain ⟨rfl, -⟩ := List.cons.inj same
          rw [wordChar] at notWordChar
          cases notWordChar
        · obtain ⟨rfl, -⟩ := List.cons.inj (chars.symm.trans eChars)
          rw [isWordChar_of_isWordStart start] at notWordChar
          cases notWordChar

/-- A legacy text up to its version directive differs from what becomes of it, by induction on the
tokens before the directive. -/
theorem not_fixed {stage : Stage} {version : Token} {back : List Token}
    (declares : version.version? = some Version.legacy) {segment forms : List Token}
    {text next : List Char} (read : lexFrom 0 text = segment ++ version :: back)
    (recasts
      : List.Forall₂ (Recast stage) (ExtensionPolicy.standard.pruneAfter 0 segment) forms)
    (same : forms.flatMap Token.chars ++ ("#version 150".toList ++ next) = text)
    : False := by
  induction segment generalizing text forms with
  | nil =>
      cases recasts
      rw [← same] at read
      obtain ⟨declared, other, different⟩ := version?_of_front read
      rw [declares] at other
      exact different (Option.some.inj other).symm
  | cons token segment ih =>
      obtain ⟨c, rest, after, rfl, rfl, split, laterRead⟩ := lexFrom_eq_cons read
      have isVersion := Token.kind_of_version? declares
      by_cases obsolete : ExtensionPolicy.standard.isObsolete (front c rest) = true
      · have unmarked : Unmarked [] := by simp [Unmarked]
        exact not_dropped isVersion split obsolete laterRead recasts unmarked same
      · rw [← split] at same
        rw [ExtensionPolicy.pruneAfter_cons, if_neg obsolete, if_neg (by simp)] at recasts
        obtain ⟨form, laterForms, recast, laterRecasts, rfl⟩ :=
          List.forall₂_cons_left_iff.mp recasts
        rw [List.flatMap_cons, List.append_assoc] at same
        have listed := (front_shape c rest).mem_builtins
        rcases recast.eq_or_suffix listed same with
          kept | ⟨d, suffix, shorter, wordChar, unmarked⟩
        · rw [kept] at same
          exact ih laterRead laterRecasts (List.append_cancel_left same)
        · have words := wordShaped_front c rest
          have isWord : (front c rest).kind.isWord = true := by
            rcases recast.eq_or_words words with rfl | ⟨isWord, -⟩
            · simp at shorter
            · exact isWord
          rw [shorter, List.append_assoc] at same
          exact not_restored isVersion wordChar unmarked (after_word split isWord) laterRead
            laterRecasts (List.append_cancel_left same)

end ShaderUplift
