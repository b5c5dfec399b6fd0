import ShaderUplift.Proofs.Directive.Named

/-! The directives that enable extensions.
A directive that is put in is read back with the name that it was printed for. So tokens that get
the block that they lack name all that is required.
-/

namespace ShaderUplift

-----------------------------------------------------------------------------------------
-- The directives that are put in
-----------------------------------------------------------------------------------------

namespace ExtensionPolicy
open ShaderUplift.Text

/-- A name that a directive can be printed for: it fits on a line and has no blanks around it. -/
structure IsProper (name : String) : Prop where
  some : name ≠ ""
  trimmed : trim name.toList = name.toList
  oneLine : '\n' ∉ name.toList

/-- The standard policy requires proper names. -/
theorem isProper_standard
    : ∀ name ∈ standard.required, IsProper name := by
  intro name member
  obtain rfl := List.mem_singleton.mp member
  constructor <;> decide +kernel

/-- The standard policy requires nothing that it drops. -/
theorem current_standard
    : ∀ name ∈ standard.required, name ∉ standard.obsolete := by
  decide +kernel

/-- A printed directive is read back with its name. Its last colon is the one that it is printed
with, even if the name has colons of its own. -/
theorem extension?_enabling {name : String} (proper : IsProper name)
    : (enabling name).extension? = some name := by
  have kind : (enabling name).kind = .directive := rfl
  have chars : (enabling name).chars
      = '#' :: ([] ++ ("extension".toList
        ++ ([' '] ++ (name.toList ++ ([' '] ++ ':' :: " enable".toList))))) := by
    simp only [enabling, Token.directive, Token.chars, String.toList_append]
    simp
  have oneLine : '\n' ∉ name.toList ++ ([' '] ++ " enable".toList) := by
    have others : '\n' ∉ [' '] ++ " enable".toList := by decide +kernel
    rw [List.mem_append]
    exact fun member => member.elim proper.oneLine others
  have names : Directive.Names (enabling name).chars name.toList [' '] " enable".toList :=
    ⟨⟨[], [' '], chars, by decide, List.all_eq_true.mp (by decide)⟩,
      mt String.toList_eq_nil_iff.mp proper.some, proper.trimmed,
      List.all_eq_true.mp (by decide), oneLine⟩
  rw [Token.extension?, if_pos kind, names.extension?_eq,
    Directive.surplus_eq_nil (by decide +kernel), List.append_nil, String.ofList_toList]

/-- A block declares the names that it was made for, by induction on the names. -/
theorem extensionsIn_block {names : List String} (proper : ∀ name ∈ names, IsProper name)
    : extensionsIn (block names) = names := by
  have newline : Token.extension? .newline = none := Token.extension?_eq_none_of_kind (by decide)
  have lines : extensionsIn (names.flatMap fun name => [enabling name, .newline]) = names := by
    induction names with
    | nil => rfl
    | cons name names ih =>
        have later := ih fun other member => proper other (List.mem_cons_of_mem _ member)
        rw [List.flatMap_cons, extensionsIn_append, later]
        simp [extensionsIn, newline, extension?_enabling (proper name List.mem_cons_self)]
  cases names with
  | nil => rfl
  | cons name names =>
      simp only [block]
      rw [extensionsIn_cons_of_none newline, lines]

/-- The block that tokens lack declares the names that they are missing. -/
theorem extensionsIn_missingBlock {policy : ExtensionPolicy}
    (proper : ∀ name ∈ policy.required, IsProper name) (tokens : List Token)
    : extensionsIn (policy.missingBlock tokens) = policy.missing tokens :=
  extensionsIn_block fun name member => proper name (List.mem_filter.mp member).1

/-- What is required is named by tokens or by the block that they lack. -/
theorem mem_extensionsIn_or_missingBlock {policy : ExtensionPolicy}
    (proper : ∀ name ∈ policy.required, IsProper name) (tokens : List Token)
    : ∀ name ∈ policy.required,
        name ∈ extensionsIn tokens ∨ name ∈ extensionsIn (policy.missingBlock tokens) := by
  intro name required
  by_cases named : name ∈ extensionsIn tokens
  · exact Or.inl named
  · right
    rw [extensionsIn_missingBlock proper]
    exact List.mem_filter.mpr ⟨required, decide_eq_true named⟩

end ExtensionPolicy

end ShaderUplift
