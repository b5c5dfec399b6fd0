import ShaderUplift.Proofs.Directive.Keyword

/-! The name in an extension directive.
The name is read up to the last colon of its line. What stands behind the colon that the name is
written before therefore belongs to the name as soon as it holds a colon of its own.
-/

namespace ShaderUplift

-----------------------------------------------------------------------------------------
-- Trimmed texts and colons
-----------------------------------------------------------------------------------------

namespace Text

theorem trimEnd_isPrefix (text : List Char)
    : trimEnd text <+: text := by
  induction text with
  | nil => exact List.prefix_rfl
  | cons c rest ih =>
      rw [trimEnd]
      split
      · exact List.nil_prefix
      · exact List.cons_prefix_cons.mpr ⟨rfl, ih⟩

/-- A trimmed text has no blanks at either end: nothing is taken off it at the front, because what
is left could not grow again at the back. -/
theorem trim_eq_self_iff {text : List Char}
    : trim text = text ↔ skipBlanks text = text ∧ trimEnd text = text := by
  constructor
  · intro trimmed
    have shorter := (trimEnd_isPrefix (skipBlanks text)).length_le
    rw [← trim, trimmed] at shorter
    have suffix : skipBlanks text <:+ text := List.dropWhile_suffix _
    have unmoved : skipBlanks text = text :=
      suffix.eq_of_length (Nat.le_antisymm suffix.length_le shorter)
    rw [trim, unmoved] at trimmed
    exact ⟨unmoved, trimmed⟩
  · rintro ⟨unmoved, whole⟩
    rw [trim, unmoved, whole]

/-- A text that begins with no blank goes on beginning with none. -/
theorem skipBlanks_append {text : List Char} (unmoved : skipBlanks text = text)
    (some : text ≠ []) (rest : List Char)
    : skipBlanks (text ++ rest) = text ++ rest := by
  obtain ⟨lead, isRun⟩ := skipBlanks_eq_iff.mp unmoved
  obtain ⟨c, text, rfl⟩ := List.exists_cons_of_ne_nil some
  exact skipBlanks_eq_iff.mpr ⟨[], rfl, List.forall_mem_nil _, isRun.stops⟩

theorem trimEnd_eq_nil {text : List Char} (blank : ∀ c ∈ text, isBlank c = true)
    : trimEnd text = [] := by
  induction text with
  | nil => rfl
  | cons c rest ih =>
      obtain ⟨first, later⟩ := List.forall_mem_cons.mp blank
      rw [trimEnd, ih later]
      simp [first]

/-- Only what follows a visible character is trimmed, by induction on the characters before it. -/
theorem trimEnd_append_cons (front : List Char) {c : Char} (visible : isBlank c = false)
    (back : List Char)
    : trimEnd (front ++ c :: back) = front ++ c :: trimEnd back := by
  induction front with
  | nil => simp [trimEnd, visible]
  | cons first front ih => simp [trimEnd, ih]

/-- A text that ends in no blank is not shortened by what is trimmed behind it. -/
theorem trimEnd_append {text : List Char} (whole : trimEnd text = text) (back : List Char)
    : trimEnd (text ++ back) = text ++ trimEnd back := by
  induction text with
  | nil => rfl
  | cons c rest ih =>
      rw [trimEnd] at whole
      split at whole
      · cases whole
      · rename_i shown
        have later : trimEnd rest = rest := (List.cons.inj whole).2
        rw [later] at shown
        have kept : ¬(rest ++ trimEnd back = [] ∧ isBlank c = true) := by
          rw [List.append_eq_nil_iff]
          exact fun ⟨⟨empty, _⟩, blank⟩ => shown ⟨empty, blank⟩
        rw [List.cons_append, trimEnd, ih later, if_neg kept, List.cons_append]

/-- The last colon of a text is the last colon of its back part, if that has one. -/
theorem beforeLastColon?_append_of_some {back rest : List Char}
    (found : beforeLastColon? back = some rest) (front : List Char)
    : beforeLastColon? (front ++ back) = some (front ++ rest) := by
  induction front with
  | nil => exact found
  | cons c front ih => simp [beforeLastColon?, ih]

end Text

-----------------------------------------------------------------------------------------
-- Directives that are written with a name
-----------------------------------------------------------------------------------------

namespace Directive
open ShaderUplift.Text

/-- A text spells an extension directive with a name, and goes on with a tail behind the colon that
the name is written before. Blanks may stand in front of the keyword, and have to stand in front
of the name, which has none around it. From the name on the text is one line.
-/
structure Names (text name padding tail : List Char) : Prop where
  spelled
    : ∃ gap parting,
        text
          = '#' :: (gap ++ ("extension".toList
            ++ (parting ++ (name ++ (padding ++ ':' :: tail)))))
        ∧ parting ≠ []
        ∧ ∀ c ∈ gap ++ parting, isBlank c = true
  some : name ≠ []
  trimmed : trim name = name
  padded : ∀ c ∈ padding, isBlank c = true
  oneLine : '\n' ∉ name ++ (padding ++ tail)

/-- What is read behind a name, besides the name: all up to the last colon of the line, unless that
is the colon that the name is written before.
-/
def surplus (padding tail : List Char) : List Char :=
  match beforeLastColon? tail with
  | none => []
  | some front => padding ++ ':' :: trimEnd front

theorem surplus_eq_nil {padding tail : List Char} (single : ':' ∉ tail)
    : surplus padding tail = [] := by
  rw [surplus, beforeLastColon?_eq_none_iff.mpr single]

theorem colon_mem_surplus {padding tail : List Char} (further : ':' ∈ tail)
    : ':' ∈ surplus padding tail := by
  cases found : beforeLastColon? tail with
  | none => exact absurd further (beforeLastColon?_eq_none_iff.mp found)
  | some front => simp [surplus, found]

namespace Names
variable {text name padding tail : List Char}

theorem skipBlanks_append (names : Names text name padding tail) (back : List Char)
    : skipBlanks (name ++ back) = name ++ back :=
  Text.skipBlanks_append (trim_eq_self_iff.mp names.trimmed).1 names.some back

theorem extension?_eq_nameBeforeColon? (names : Names text name padding tail)
    : extension? text = nameBeforeColon? (name ++ (padding ++ ':' :: tail)) := by
  obtain ⟨gap, parting, rfl, parted, blank⟩ := names.spelled
  obtain ⟨gapBlank, partingBlank⟩ := List.forall_mem_append.mp blank
  obtain ⟨-, -, -, stops⟩ := skipBlanks_eq_iff.mp (names.skipBlanks_append (padding ++ ':' :: tail))
  have behind : skipSomeBlanks? (parting ++ (name ++ (padding ++ ':' :: tail)))
      = .some (name ++ (padding ++ ':' :: tail)) :=
    skipSomeBlanks?_eq_some_iff.mpr ⟨parting, parted, rfl, partingBlank, stops⟩
  rw [extension?, afterKeyword?_append_blanks gapBlank _ (stops_cons (by decide) _),
    Option.bind_some, behind, Option.bind_some]

/-- Only what stands behind a name is trimmed. -/
theorem trim_append (names : Names text name padding tail) (back : List Char)
    : trim (name ++ back) = name ++ trimEnd back := by
  rw [trim, names.skipBlanks_append]
  exact trimEnd_append (trim_eq_self_iff.mp names.trimmed).2 back

/-- The text before the last colon begins with the name and holds what is read beyond it. -/
theorem trim_beforeLastColon (names : Names text name padding tail)
    : (beforeLastColon? (name ++ (padding ++ ':' :: tail))).map trim
      = .some (name ++ surplus padding tail) := by
  rw [← List.append_assoc]
  cases found : beforeLastColon? tail with
  | none =>
      have single : ':' ∉ tail := beforeLastColon?_eq_none_iff.mp found
      rw [beforeLastColon?_append single, Option.map_some, names.trim_append,
        trimEnd_eq_nil names.padded, surplus_eq_nil single]
  | some front =>
      have later : beforeLastColon? (':' :: tail) = .some (':' :: front) := by
        simp [beforeLastColon?, found]
      rw [beforeLastColon?_append_of_some later, Option.map_some, List.append_assoc,
        names.trim_append, trimEnd_append_cons padding (by decide)]
      simp [surplus, found]

/-- A directive is read with its name and with what stands between that and the last colon. -/
theorem extension?_eq (names : Names text name padding tail)
    : extension? text = .some (String.ofList (name ++ surplus padding tail)) := by
  have oneLine : '\n' ∉ name ++ (padding ++ ':' :: tail) := by
    simpa using names.oneLine
  have line : (name ++ (padding ++ ':' :: tail)).takeWhile (fun c => c != '\n')
      = name ++ (padding ++ ':' :: tail) := by
    rw [List.takeWhile_eq_self_iff]
    intro c member
    exact bne_iff_ne.mpr (ne_of_mem_of_not_mem member oneLine)
  obtain ⟨front, found, trimmed⟩ := Option.map_eq_some_iff.mp names.trim_beforeLastColon
  rw [names.extension?_eq_nameBeforeColon?, nameBeforeColon?, line, found, Option.bind_some,
    trimmed, if_neg (List.append_ne_nil_of_left_ne_nil names.some _)]

end Names

end Directive

-----------------------------------------------------------------------------------------
-- Tokens that are written with a name
-----------------------------------------------------------------------------------------

/-- A directive that is written with a name is read with that name exactly if no further colon
stands behind it. With a further one it counts as the declaration of another extension, whose name
has a colon, so that a policy of names without colons does not drop it.
-/
theorem extension?_named_iff {token : Token} {name padding tail : List Char}
    (kind : token.kind = .directive)
    (names : Directive.Names token.chars name padding tail)
    : token.extension? = some (String.ofList (name ++ Directive.surplus padding tail))
      ∧ (token.extension? = some (String.ofList name) ↔ ':' ∉ tail)
      ∧ (∀ before after,
          extensionsIn (before ++ token :: after)
            = extensionsIn before ++ String.ofList name :: extensionsIn after
          ↔ ':' ∉ tail)
      ∧ ∀ policy : ExtensionPolicy,
          (∀ obsolete ∈ policy.obsolete, ':' ∉ obsolete.toList) →
          (policy.isObsolete token = true
            ↔ String.ofList name ∈ policy.obsolete ∧ ':' ∉ tail) := by
  have read : token.extension?
      = some (String.ofList (name ++ Directive.surplus padding tail)) := by
    rw [Token.extension?, if_pos kind, names.extension?_eq]
  have same : String.ofList (name ++ Directive.surplus padding tail) = String.ofList name
      ↔ ':' ∉ tail := by
    rw [String.ofList_inj, List.append_right_eq_self]
    constructor
    · intro bare further
      exact List.not_mem_nil (bare ▸ Directive.colon_mem_surplus further)
    · exact Directive.surplus_eq_nil
  refine ⟨read, ?_, ?_, ?_⟩
  · rw [read, Option.some.injEq, same]
  · intro before after
    rw [extensionsIn_append, List.append_cancel_left_eq, extensionsIn, List.filterMap_cons, read]
    rw [List.cons.injEq, same]
    exact and_iff_left rfl
  · intro policy plain
    rw [ExtensionPolicy.isObsolete, read, Option.any_some, decide_eq_true_iff]
    by_cases further : ':' ∈ tail
    · have foreign : String.ofList (name ++ Directive.surplus padding tail) ∉ policy.obsolete := by
        intro member
        have bare := plain _ member
        rw [String.toList_ofList, List.mem_append, not_or] at bare
        exact bare.2 (Directive.colon_mem_surplus further)
      exact iff_of_false foreign fun named => named.2 further
    · rw [same.mpr further]
      exact (and_iff_left further).symm

theorem extension?_named_iff_of_enable
    : let token := Token.directive "#  extension GL_EXT_frag_depth :enable"
      token.kind = .directive
      ∧ Directive.Names token.chars "GL_EXT_frag_depth".toList [' '] "enable".toList
      ∧ token.extension? = some "GL_EXT_frag_depth"
      ∧ ExtensionPolicy.standard.isObsolete token = true := by
  have names : Directive.Names (Token.directive "#  extension GL_EXT_frag_depth :enable").chars
      "GL_EXT_frag_depth".toList [' '] "enable".toList :=
    ⟨⟨[' ', ' '], [' '], by decide +kernel, by decide, List.all_eq_true.mp (by decide)⟩,
      by decide +kernel, by decide +kernel, List.all_eq_true.mp (by decide), by decide +kernel⟩
  obtain ⟨-, named, -, obsolete⟩ := extension?_named_iff rfl names
  have single : ':' ∉ "enable".toList := by decide +kernel
  refine ⟨rfl, names, ?_, ?_⟩
  · rw [named.mpr single, String.ofList_toList]
  · rw [obsolete ExtensionPolicy.standard (by decide +kernel), String.ofList_toList]
    exact ⟨by decide, single⟩

/-- A colon in a comment keeps an obsolete extension in the shader. -/
theorem extension?_commented
    : let token := Token.directive "#extension GL_EXT_frag_depth : enable // now core: drop it"
      Directive.Names token.chars "GL_EXT_frag_depth".toList [' ']
        " enable // now core: drop it".toList
      ∧ "GL_EXT_frag_depth".toList.all (fun c => !Text.isBlank c && c != ':') = true
      ∧ lex token.text = [token]
      ∧ "GL_EXT_frag_depth" ∈ ExtensionPolicy.standard.obsolete
      ∧ token.extension? = some "GL_EXT_frag_depth : enable // now core"
      ∧ ExtensionPolicy.standard.prune [token] = [token] := by
  refine ⟨⟨⟨[], [' '], ?_, by decide, List.all_eq_true.mp (by decide)⟩, ?_, ?_,
    List.all_eq_true.mp (by decide), ?_⟩, ?_, ?_, by decide, ?_, ?_⟩
  all_goals decide +kernel

end ShaderUplift
