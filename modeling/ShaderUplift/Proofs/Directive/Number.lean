import ShaderUplift.Proofs.Text.Run
import ShaderUplift.Proofs.Version.Declared

/-! What a version directive looks like, and which version it declares.
A directive is read exactly as it is spelled, whatever blanks part its words, and its version always
has the form in which versions are written. So a directive that is written for such a version is
read back with it.
-/

namespace ShaderUplift

/-- No ASCII digit is blank. -/
theorem Text.isBlank_of_isDigit {c : Char} (digit : c.isDigit = true)
    : isBlank c = false := by
  have bounds : 0x30 ≤ c.toNat ∧ c.toNat ≤ 0x39 := by
    simpa [Char.isDigit, UInt32.le_iff_toNat_le] using digit
  have covered : CodeRange.covers [⟨0x30, 0x39⟩] c.toNat = true := by
    rw [CodeRange.covers_iff (by decide)]
    exact ⟨_, List.mem_cons_self, bounds⟩
  exact CodeRange.covers_eq_false_of_apart (by decide) (by decide) (by decide) covered

-----------------------------------------------------------------------------------------
-- The texts of version directives
-----------------------------------------------------------------------------------------

namespace Directive
open ShaderUplift.Text

/-- A text spells a version directive up to the last digit of its number. Blanks may stand in front
of the number sign and of the keyword, and have to stand in front of the number. -/
structure Opens (text number rest : List Char) : Prop where
  spelled
    : ∃ lead gap parting,
        text = lead ++ '#' :: (gap ++ ("version".toList ++ (parting ++ (number ++ rest))))
        ∧ parting ≠ [] ∧ ∀ c ∈ lead ++ gap ++ parting, isBlank c = true
  some : number ≠ []
  digits : ∀ c ∈ number, c.isDigit = true
  stops : ∀ c ∈ rest.head?, c.isDigit = false

/-- A text begins with a profile: with letters that blanks part from what comes before. -/
structure HasProfile (text profile : List Char) : Prop where
  spelled
    : ∃ parting rest,
        text = parting ++ (profile ++ rest)
        ∧ parting ≠ [] ∧ (∀ c ∈ parting, isBlank c = true)
        ∧ ∀ c ∈ rest.head?, c.isAlpha = false
  some : profile ≠ []
  letters : ∀ c ∈ profile, c.isAlpha = true

/-- The version that the text of a directive declares: the number, and the profile behind it if
there is one. Nothing that follows is looked at. -/
inductive Declares (text : List Char) : (version : String) → Prop
  | number {number rest : List Char} (opens : Opens text number rest)
    (bare : ∀ profile, ¬HasProfile rest profile)
    : Declares text (String.ofList number)
  | profile {number rest profile : List Char} (opens : Opens text number rest)
    (profiled : HasProfile rest profile)
    : Declares text (String.ofList (number ++ ' ' :: profile))

theorem stops_of_isDigit {text : List Char} (digits : ∀ c ∈ text, c.isDigit = true)
    (some : text ≠ []) (rest : List Char)
    : ∀ c ∈ (text ++ rest).head?, isBlank c = false := by
  obtain ⟨first, text, rfl⟩ := List.exists_cons_of_ne_nil some
  exact stops_cons (isBlank_of_isDigit (digits first List.mem_cons_self)) (text ++ rest)

theorem stops_of_isAlpha {text : List Char} (letters : ∀ c ∈ text, c.isAlpha = true)
    (some : text ≠ []) (rest : List Char)
    : ∀ c ∈ (text ++ rest).head?, isBlank c = false := by
  obtain ⟨first, text, rfl⟩ := List.exists_cons_of_ne_nil some
  have letter := letters first List.mem_cons_self
  exact stops_cons (isBlank_of_isWordStart (by simp [isWordStart, letter])) (text ++ rest)

theorem hasProfile_iff {text letters : List Char}
    : HasProfile text letters ↔ letters ≠ [] ∧ profile text = letters := by
  constructor
  · rintro ⟨⟨parting, rest, rfl, parted, blank, stops⟩, some, letters⟩
    have behind : skipSomeBlanks? (parting ++ (_ ++ rest)) = .some (_ ++ rest) :=
      skipSomeBlanks?_eq_some_iff.mpr
        ⟨parting, parted, rfl, blank, stops_of_isAlpha letters some rest⟩
    refine ⟨some, ?_⟩
    rw [profile, behind, Option.getD_some]
    exact (isRun_iff.mp ⟨rfl, letters, stops⟩).1
  · rintro ⟨some, same⟩
    rw [profile] at same
    cases behind : skipSomeBlanks? text with
    | none => exact absurd (by simpa [behind] using same.symm) some
    | some lettered =>
        rw [behind, Option.getD_some] at same
        obtain ⟨parting, parted, rfl, blank, -⟩ := skipSomeBlanks?_eq_some_iff.mp behind
        obtain ⟨split, within, stops⟩ := isRun_iff.mpr ⟨same, rfl⟩
        exact ⟨⟨parting, _, congrArg (parting ++ ·) split, parted, blank, stops⟩, some, within⟩

/-- Behind the keyword and blanks there is what the number is read from. -/
theorem opens_iff {text number rest : List Char}
    : Opens text number rest
      ↔ ∃ numbered,
          (afterKeyword? "version" (skipBlanks text)).bind skipSomeBlanks? = some numbered
          ∧ IsRun Char.isDigit numbered number rest ∧ number ≠ [] := by
  constructor
  · rintro ⟨⟨lead, gap, parting, rfl, parted, blank⟩, some, digits, stops⟩
    simp only [List.forall_mem_append] at blank
    obtain ⟨⟨leadBlank, gapBlank⟩, partingBlank⟩ := blank
    refine ⟨number ++ rest, ?_, ⟨rfl, digits, stops⟩, some⟩
    have signed
        : skipBlanks (lead ++ '#' :: (gap ++ ("version".toList ++ (parting ++ (number ++ rest)))))
          = '#' :: (gap ++ ("version".toList ++ (parting ++ (number ++ rest)))) :=
      skipBlanks_eq_iff.mpr ⟨lead, rfl, leadBlank, stops_cons (by decide) _⟩
    have worded
        : skipBlanks (gap ++ ("version".toList ++ (parting ++ (number ++ rest))))
          = "version".toList ++ (parting ++ (number ++ rest)) :=
      skipBlanks_eq_iff.mpr ⟨gap, rfl, gapBlank, stops_cons (by decide) _⟩
    have keyword
        : afterKeyword? "version"
            ('#' :: (gap ++ ("version".toList ++ (parting ++ (number ++ rest)))))
          = .some (parting ++ (number ++ rest)) := by
      refine Option.bind_eq_some_iff.mpr
        ⟨gap ++ ("version".toList ++ (parting ++ (number ++ rest))),
          after?_eq_some_iff.mpr rfl, ?_⟩
      rw [worded]
      exact after?_eq_some_iff.mpr rfl
    rw [signed, keyword, Option.bind_some]
    exact skipSomeBlanks?_eq_some_iff.mpr
      ⟨parting, parted, rfl, partingBlank, stops_of_isDigit digits some rest⟩
  · rintro ⟨numbered, found, ⟨split, digits, stops⟩, some⟩
    refine ⟨?_, some, digits, stops⟩
    obtain ⟨line, keyword, blanks⟩ := Option.bind_eq_some_iff.mp found
    obtain ⟨signed, sign, word⟩ := Option.bind_eq_some_iff.mp keyword
    obtain ⟨lead, leadSplit, leadBlank, -⟩ := skipBlanks_eq_iff.mp (after?_eq_some_iff.mp sign)
    obtain ⟨gap, gapSplit, gapBlank, -⟩ := skipBlanks_eq_iff.mp (after?_eq_some_iff.mp word)
    obtain ⟨parting, parted, partingSplit, partingBlank, -⟩ :=
      skipSomeBlanks?_eq_some_iff.mp blanks
    refine ⟨lead, gap, parting, ?_, parted, ?_⟩
    · rw [leadSplit, gapSplit, partingSplit, split]
      rfl
    · simp only [List.forall_mem_append]
      exact ⟨⟨leadBlank, gapBlank⟩, partingBlank⟩

/-- A directive is read exactly as it is spelled. -/
theorem version?_eq_some_iff {text : List Char} {version : String}
    : version? text = some version ↔ Declares text version := by
  constructor
  · intro found
    obtain ⟨numbered, opened, read⟩ := Option.bind_eq_some_iff.mp found
    simp only [numberWithProfile?] at read
    split at read
    · cases read
    · rename_i some
      have opens
          : Opens text (numbered.takeWhile Char.isDigit) (numbered.dropWhile Char.isDigit) :=
        opens_iff.mpr ⟨numbered, opened, isRun_iff.mpr ⟨rfl, rfl⟩, some⟩
      split at read
      · rename_i bare
        rw [← Option.some.inj read]
        refine .number opens ?_
        intro letters profiled
        obtain ⟨some, same⟩ := hasProfile_iff.mp profiled
        exact some (same.symm.trans bare)
      · rename_i profiled
        rw [← Option.some.inj read]
        exact .profile opens (hasProfile_iff.mpr ⟨profiled, rfl⟩)
  · intro declares
    cases declares with
    | number opens bare =>
        obtain ⟨numbered, opened, run, some⟩ := opens_iff.mp opens
        obtain ⟨taken, left⟩ := isRun_iff.mp run
        have none : profile (numbered.dropWhile Char.isDigit) = [] := by
          by_contra profiled
          exact bare _ (hasProfile_iff.mpr ⟨profiled, congrArg profile left.symm⟩)
        rw [version?, opened, Option.bind_some, numberWithProfile?]
        simp only [taken, none, if_neg some, if_true]
    | profile opens profiled =>
        obtain ⟨numbered, opened, run, some⟩ := opens_iff.mp opens
        obtain ⟨taken, rfl⟩ := isRun_iff.mp run
        obtain ⟨lettered, same⟩ := hasProfile_iff.mp profiled
        rw [version?, opened, Option.bind_some, numberWithProfile?]
        simp only [taken, same, if_neg some, if_neg lettered]

-----------------------------------------------------------------------------------------
-- The versions that directives declare
-----------------------------------------------------------------------------------------

/-- A version as it is written: a number, or a number and a profile with one space between them. -/
inductive IsVersion : (version : String) → Prop
  | number {number : List Char} (some : number ≠ []) (digits : ∀ c ∈ number, c.isDigit = true)
    : IsVersion (String.ofList number)
  | profile {number profile : List Char} (some : number ≠ [])
    (digits : ∀ c ∈ number, c.isDigit = true) (lettered : profile ≠ [])
    (letters : ∀ c ∈ profile, c.isAlpha = true)
    : IsVersion (String.ofList (number ++ ' ' :: profile))

/-- Whatever blanks a directive is spelled with, its version is as versions are written. -/
theorem Declares.isVersion {text : List Char} {version : String} (declares : Declares text version)
    : IsVersion version := by
  cases declares with
  | number opens bare => exact .number opens.some opens.digits
  | profile opens profiled =>
      exact .profile opens.some opens.digits profiled.some profiled.letters

/-- What is written for a version spells its number. -/
theorem opens_written {number : List Char} (some : number ≠ [])
    (digits : ∀ c ∈ number, c.isDigit = true) (rest : List Char)
    (stops : ∀ c ∈ rest.head?, c.isDigit = false)
    : Opens ("#version ".toList ++ (number ++ rest)) number rest :=
  ⟨⟨[], [], [' '], rfl, by decide, List.forall_mem_singleton.mpr (by decide)⟩, some, digits, stops⟩

/-- A directive that is written for a version declares it. -/
theorem IsVersion.declares {version : String} (isVersion : IsVersion version)
    : Declares ("#version ".toList ++ version.toList) version := by
  cases isVersion with
  | @number number some digits =>
      have chars : (String.ofList number).toList = number := String.toList_ofList
      have opens := opens_written some digits [] (stops_nil _)
      rw [List.append_nil] at opens
      rw [chars]
      refine .number opens ?_
      rintro profile ⟨⟨parting, rest, split, parted, -⟩, -⟩
      simp [parted] at split
  | @profile number profile some digits lettered letters =>
      have chars : (String.ofList (number ++ ' ' :: profile)).toList = number ++ ' ' :: profile :=
        String.toList_ofList
      have opens := opens_written some digits (' ' :: profile) (stops_cons (by decide) profile)
      have profiled : HasProfile (' ' :: profile) profile :=
        ⟨⟨[' '], [], by simp, by decide, List.forall_mem_singleton.mpr (by decide), stops_nil _⟩,
          lettered, letters⟩
      rw [chars]
      exact .profile opens profiled

end Directive

/-- A directive is read back with the version that it is written for. -/
theorem Version.version?_declaring {target : String} (isVersion : Directive.IsVersion target)
    : (declaring target).version? = some target := by
  have kind : (declaring target).kind = .directive := rfl
  have chars : (declaring target).chars = "#version ".toList ++ target.toList :=
    String.toList_append
  rw [Token.version?, if_pos kind, chars]
  exact Directive.version?_eq_some_iff.mpr isVersion.declares

end ShaderUplift
