import Mathlib.Data.List.Infix
import ShaderUplift.Proofs.Upgrade.Failing
import ShaderUplift.Proofs.Upgrade.Ordered

/-! Conditional blocks around the declarations of an upgraded shader.
No anchor comes to stand in a block when a shader is upgraded. So the declarations stand in those
blocks that are opened in the run of directives and whitespace between the last anchor and them.
-/

namespace ShaderUplift

-----------------------------------------------------------------------------------------
-- Conditional blocks
-----------------------------------------------------------------------------------------

namespace Token

/-- Whether a directive opens a conditional block. -/
def opensBlock (token : Token) : Bool :=
  token.keyword? = some "if" || token.keyword? = some "ifdef" || token.keyword? = some "ifndef"

/-- Whether a directive closes a conditional block. -/
def closesBlock (token : Token) : Bool :=
  token.keyword? = some "endif"

/-- Whether a directive opens or closes a conditional block. -/
def isConditional (token : Token) : Bool :=
  token.opensBlock || token.closesBlock

theorem isConditional_iff {token : Token}
    : token.isConditional = true
      ↔ ∃ keyword ∈ ["if", "ifdef", "ifndef", "endif"], token.keyword? = some keyword := by
  simp [isConditional, opensBlock, closesBlock, or_assoc]

theorem isConditional_eq_false_of_keyword? {token : Token} {keyword : String}
    (found : token.keyword? = some keyword)
    (other : keyword ∉ ["if", "ifdef", "ifndef", "endif"])
    : token.isConditional = false := by
  rw [← Bool.not_eq_true, isConditional_iff, found]
  rintro ⟨conditional, member, same⟩
  obtain rfl := Option.some.inj same
  exact other member

theorem kind_of_isConditional {token : Token} (conditional : token.isConditional = true)
    : token.kind = .directive := by
  obtain ⟨keyword, -, found⟩ := isConditional_iff.mp conditional
  exact kind_of_keyword? found

/-- No directive that leads opens or closes a block. -/
theorem isConditional_eq_false_of_isLeadingDirective {token : Token}
    (leading : token.isLeadingDirective = true)
    : token.isConditional = false := by
  rcases isLeadingDirective_iff.mp leading with found | found
  · exact isConditional_eq_false_of_keyword? found (by decide)
  · exact isConditional_eq_false_of_keyword? found (by decide)

end Token

/-- How many conditional blocks are open behind tokens. -/
def depth (tokens : List Token) : Int :=
  tokens.countP Token.opensBlock - tokens.countP Token.closesBlock

/-- Every conditional block that is closed was opened before, and every one is closed. -/
structure Balanced (tokens : List Token) : Prop where
  opened : ∀ front, front <+: tokens → 0 ≤ depth front
  closed : depth tokens = 0

instance (tokens : List Token) : Decidable (Balanced tokens) :=
  decidable_of_iff ((∀ front ∈ tokens.inits, 0 ≤ depth front) ∧ depth tokens = 0) <| by
    simp only [List.mem_inits]
    exact ⟨fun balanced => ⟨balanced.1, balanced.2⟩,
      fun balanced => ⟨balanced.opened, balanced.closed⟩⟩

theorem depth_append (front back : List Token)
    : depth (front ++ back) = depth front + depth back := by
  simp only [depth, List.countP_append]
  omega

section
variable {keep : Token → Bool}

theorem countP_filter_of_imp {counted : Token → Bool}
    (kept : ∀ token, counted token = true → keep token = true) (tokens : List Token)
    : (tokens.filter keep).countP counted = tokens.countP counted := by
  rw [List.countP_filter]
  apply List.countP_congr
  intro token _
  rw [Bool.and_eq_true]
  exact and_iff_left_of_imp (kept token)

/-- Only conditional directives matter for the depth. -/
theorem depth_filter (kept : ∀ token : Token, token.isConditional = true → keep token = true)
    (tokens : List Token)
    : depth (tokens.filter keep) = depth tokens := by
  have opens : ∀ token : Token, token.opensBlock = true → keep token = true :=
    fun token opens => kept token (by rw [Token.isConditional, opens, Bool.true_or])
  have closes : ∀ token : Token, token.closesBlock = true → keep token = true :=
    fun token closes => kept token (by rw [Token.isConditional, closes, Bool.or_true])
  rw [depth, countP_filter_of_imp opens, countP_filter_of_imp closes, depth]

/-- So they alone matter for whether blocks are balanced. -/
theorem balanced_filter (kept : ∀ token : Token, token.isConditional = true → keep token = true)
    {tokens : List Token}
    : Balanced (tokens.filter keep) ↔ Balanced tokens := by
  constructor
  · intro balanced
    constructor
    · intro front early
      rw [← depth_filter kept]
      exact balanced.opened _ (early.filter keep)
    · rw [← depth_filter kept]
      exact balanced.closed
  · intro balanced
    constructor
    · intro front early
      obtain ⟨whole, isFront, rfl⟩ := List.prefix_filter_iff.mp early
      rw [depth_filter kept]
      exact balanced.opened whole isFront
    · rw [depth_filter kept]
      exact balanced.closed

end

theorem depth_of_plain {tokens : List Token}
    (plain : ∀ token ∈ tokens, token.isConditional = false)
    : depth tokens = 0 := by
  have none : tokens.filter Token.isConditional = [] := by
    rw [List.filter_eq_nil_iff]
    intro token member
    simp [plain token member]
  rw [← depth_filter fun _ conditional => conditional, none]
  rfl

theorem depth_directivesIn (tokens : List Token)
    : depth (directivesIn tokens) = depth tokens :=
  depth_filter (fun _ conditional => decide_eq_true (Token.kind_of_isConditional conditional)) _

theorem balanced_directivesIn {tokens : List Token}
    : Balanced (directivesIn tokens) ↔ Balanced tokens :=
  balanced_filter fun _ conditional => decide_eq_true (Token.kind_of_isConditional conditional)

-----------------------------------------------------------------------------------------
-- Anchors outside of conditional blocks
-----------------------------------------------------------------------------------------

/-- No anchor stands in a conditional block. -/
def Sheltered (tokens : List Token) : Prop :=
  ∀ before anchor after,
    tokens = before ++ anchor :: after
    → Declaration.IsAnchor before anchor
    → depth before = 0

instance (tokens : List Token) : Decidable (Sheltered tokens) :=
  decidable_of_iff
    (∀ place : Fin tokens.length,
      Declaration.IsAnchor (tokens.take place) tokens[place] → depth (tokens.take place) = 0) <| by
    constructor
    · intro each before anchor after split anchored
      subst split
      simpa using each ⟨before.length, by simp⟩ (by simpa using anchored)
    · intro sheltered place anchored
      exact sheltered _ _ (tokens.drop (place + 1)) (by simp) anchored

theorem Declaration.IsAnchor.isConditional {before : List Token} {anchor : Token}
    (anchored : IsAnchor before anchor)
    : anchor.isConditional = false := by
  rcases anchored with leading | ⟨-, rfl⟩
  · exact Token.isConditional_eq_false_of_isLeadingDirective leading
  · rfl

/-- Settling and pruning neither put in nor take out a directive that opens or closes a block. -/
theorem Token.IsSettled.isConditional {token : Token} (settled : token.IsSettled)
    : token.isConditional = false := by
  cases settled with
  | whitespace kind =>
      rw [← Bool.not_eq_true]
      intro conditional
      rw [kind_of_isConditional conditional] at kind
      cases kind
  | version declares =>
      rw [← Bool.not_eq_true]
      intro conditional
      obtain ⟨keyword, member, found⟩ := isConditional_iff.mp conditional
      have versioned := keyword?_of_version? (signed_of_keyword? found) declares
      rw [isConditional_eq_false_of_keyword? versioned (by decide)] at conditional
      cases conditional
  | extension named =>
      exact isConditional_eq_false_of_keyword? (keyword?_of_extension? named) (by decide)
  | declaring target =>
      exact isConditional_eq_false_of_keyword? (Version.keyword?_declaring target) (by decide)
  | enabling name =>
      exact isConditional_eq_false_of_keyword? (ExtensionPolicy.keyword?_enabling name) (by decide)

/-- Whether a token is code, or a directive that opens or closes a block. Settling and pruning leave
such tokens alone, and no others matter for what is an anchor and how deep it stands. -/
def Token.isLasting (token : Token) : Bool :=
  token.isCode || token.isConditional

theorem Token.IsSettled.isLasting {token : Token} (settled : token.IsSettled)
    : token.isLasting = false := by
  rw [Token.isLasting, settled.isCode, settled.isConditional]
  rfl

theorem Token.isLasting_of_isConditional {token : Token}
    (conditional : token.isConditional = true)
    : token.isLasting = true := by
  rw [isLasting, conditional, Bool.or_true]

theorem filter_isLasting_eq_nil {tokens : List Token}
    (settled : ∀ token ∈ tokens, token.IsSettled)
    : tokens.filter Token.isLasting = [] := by
  rw [List.filter_eq_nil_iff]
  intro token member
  simp [(settled token member).isLasting]

/-- A token that would be an anchor behind other tokens is no deeper behind those, if they differ in
nothing that matters. -/
theorem Sheltered.depth_eq_zero {tokens before other after : List Token} {anchor : Token}
    (sheltered : Sheltered tokens) (split : tokens = before ++ anchor :: after)
    (same : other.filter Token.isLasting = before.filter Token.isLasting)
    (anchored : Declaration.IsAnchor other anchor)
    : depth other = 0 := by
  have lasting : ∀ tokens,
      Declaration.Unended (tokens.filter Token.isLasting) ↔ Declaration.Unended tokens :=
    fun _ => Declaration.unended_filter rfl rfl
  have inTokens : Declaration.IsAnchor before anchor := by
    apply anchored.imp_right
    rw [← lasting other, same, lasting before]
    exact id
  rw [← depth_filter fun _ => Token.isLasting_of_isConditional, same,
    depth_filter fun _ => Token.isLasting_of_isConditional]
  exact sheltered before anchor after split inTokens

/-- No anchor gets into a block when settled tokens are put in place of others outside of all
blocks. -/
theorem Sheltered.replace {before old middle after : List Token}
    (sheltered : Sheltered (before ++ (old ++ after))) (outside : depth before = 0)
    (oldSettled : ∀ token ∈ old, token.IsSettled)
    (middleSettled : ∀ token ∈ middle, token.IsSettled)
    : Sheltered (before ++ (middle ++ after)) := by
  intro front anchor back split anchored
  rcases append_eq_append_cons split with ⟨late, rfl, -⟩ | ⟨early, rfl, behind⟩
  · exact sheltered front anchor (late ++ (old ++ after)) (by simp) anchored
  · rcases append_eq_append_cons behind with ⟨late, rfl, -⟩ | ⟨later, rfl, rfl⟩
    · have plain : depth early = 0 :=
        depth_of_plain fun token member =>
          (middleSettled token (List.mem_append_left _ member)).isConditional
      rw [depth_append, outside, plain]
      rfl
    · have whole : before ++ (old ++ (later ++ anchor :: back))
          = before ++ (old ++ later) ++ anchor :: back := by
        simp
      apply sheltered.depth_eq_zero whole _ anchored
      simp only [List.filter_append, filter_isLasting_eq_nil oldSettled,
        filter_isLasting_eq_nil middleSettled]

theorem Sheltered.prune {policy : ExtensionPolicy} {tokens : List Token}
    (sheltered : Sheltered tokens)
    : Sheltered (policy.prune tokens) := by
  intro before anchor after split anchored
  obtain ⟨early, late, rfl, rfl⟩ := ExtensionPolicy.exists_of_pruneAfter_eq_append split
  exact sheltered.depth_eq_zero rfl
    (ExtensionPolicy.filter_pruneAfter (fun _ settled => settled.isLasting) policy 0 early)
    anchored

theorem Balanced.remaining {target : String} {tokens : List Token} (balanced : Balanced tokens)
    (policy : ExtensionPolicy) (isLegacy : Version.IsLegacy target tokens)
    : Balanced (policy.remaining target tokens) := by
  have lasting : ∀ tokens, Balanced (tokens.filter Token.isLasting) ↔ Balanced tokens :=
    fun _ => balanced_filter fun _ => Token.isLasting_of_isConditional
  rw [← lasting, filter_remaining (fun _ settled => settled.isLasting) policy isLegacy, lasting]
  exact balanced

/-- The version directive that is replaced is an anchor itself, so the new one is outside of all
blocks where that was. -/
theorem Sheltered.remaining {target : String} {tokens : List Token}
    (sheltered : Sheltered tokens) (signed : ∀ token ∈ tokens, token.Signed)
    (policy : ExtensionPolicy) (isLegacy : Version.IsLegacy target tokens)
    : Sheltered (policy.remaining target tokens) := by
  obtain ⟨before, after, declared, opening, -, settled⟩ :=
    Version.settle_of_isLegacy policy isLegacy
  have middleSettled
      : ∀ token ∈ Version.declaring target :: policy.missingBlock tokens, token.IsSettled := by
    intro token member
    rcases List.mem_cons.mp member with rfl | inBlock
    · exact .declaring target
    · rcases ExtensionPolicy.mem_block inBlock with rfl | ⟨name, -, rfl⟩
      · exact .whitespace rfl
      · exact .enabling name
  have replaced
      : Sheltered
          (before ++ (Version.declaring target :: policy.missingBlock tokens ++ after)) := by
    cases opening with
    | inserted none =>
        have pieces : Sheltered ([] ++ ([] ++ tokens)) := sheltered
        exact pieces.replace rfl (by simp) middleSettled
    | @replaced _ _ directive split first declares =>
        have leading : directive.isLeadingDirective = true := by
          apply Token.isLeadingDirective_of_declares (signed directive _) (Or.inl _)
          · rw [split]
            exact List.mem_append_right before List.mem_cons_self
          · rw [declares]
            exact Option.some_ne_none _
        have outside := sheltered before directive after split (Or.inl leading)
        have pieces : Sheltered (before ++ ([directive] ++ after)) := by
          rw [split] at sheltered
          exact sheltered
        apply pieces.replace outside _ middleSettled
        intro token member
        rw [List.mem_singleton.mp member]
        exact .version declares
  rw [ExtensionPolicy.remaining, settled]
  exact replaced.prune

/-- Forms are anchors where their tokens are, and as deep. -/
theorem Sheltered.forms {stage : Stage} {tokens forms : List Token} (sheltered : Sheltered tokens)
    (recasts : List.Forall₂ (Recast stage) tokens forms)
    : Sheltered forms := by
  intro before anchor after split anchored
  subst split
  have early := List.forall₂_take_append _ _ _ recasts
  have late := List.forall₂_drop_append _ _ _ recasts
  obtain ⟨token, rest, recast, -, dropped⟩ := List.forall₂_cons_right_iff.mp late
  have same : anchor = token := by
    rcases recast.eq_or_isWord with same | ⟨-, isWord⟩
    · exact same
    · rcases anchored.kind with kind | rfl
      · rw [kind] at isWord
        cases isWord
      · cases isWord
  have whole : tokens = tokens.take before.length ++ anchor :: rest := by
    rw [same, ← dropped, List.take_append_drop]
  have inTokens : Declaration.IsAnchor (tokens.take before.length) anchor :=
    anchored.imp_right (And.imp_left (unended_forms early).mp)
  rw [← depth_directivesIn, directivesIn_eq_of_forall₂ early, depth_directivesIn]
  exact sheltered _ anchor rest whole inTokens

-----------------------------------------------------------------------------------------
-- The declarations of an upgraded shader
-----------------------------------------------------------------------------------------

/-- Nothing that is put into a gap opens or closes a block. -/
theorem Rewritten.depth_eq_zero {stage : Stage} {target : String}
    {tokens front inserted back before after : List Token}
    (rewritten : Rewritten stage target tokens front inserted back)
    (split : inserted = before ++ after)
    : depth before = 0 := by
  have none := rewritten.directivesIn_inserted
  rw [split, directivesIn_append, List.append_eq_nil_iff] at none
  rw [← depth_directivesIn, none.1]
  rfl

/-- The conditional blocks of a shader that is upgraded stay balanced. If no anchor stands in one
then the declarations are as deep in such blocks as the run of directives and whitespace that they
skip behind the last anchor leads. -/
theorem depth_declarations_upgraded {policy : ExtensionPolicy} {target source : String}
    {result : List Token} (isLegacy : Version.IsLegacy target (lex source))
    (balanced : Balanced (lex source)) (sheltered : Sheltered (lex source))
    (upgraded : upgradeTokens policy target .fragment (lex source) = .ok result)
    : Balanced result
      ∧ ∃ front inserted back,
          Rewritten .fragment target (policy.remaining target (lex source)) front inserted back
          ∧ result = front ++ inserted ++ back
          ∧ (inserted ≠ []
              → ∃ earlier anchor skipped,
                  front = earlier ++ anchor :: skipped
                  ∧ Declaration.Follows earlier anchor skipped inserted back
                  ∧ ∀ before output after,
                      inserted = before ++ (FragmentOutput.declaration output ++ after)
                      → depth (front ++ before) = depth skipped) := by
  obtain ⟨front, inserted, back, rewritten, rfl⟩ := exists_rewritten isLegacy upgraded
  have remaining := sheltered.remaining (Token.signed_lexFrom source.toList) policy isLegacy
  have forms : Sheltered (front ++ back) := remaining.forms (forall₂_recast rewritten.forms)
  constructor
  · rw [← balanced_directivesIn, rewritten.directivesIn_eq, balanced_directivesIn]
    exact balanced.remaining policy isLegacy
  · refine ⟨front, inserted, back, rewritten, rfl, fun some => ?_⟩
    obtain ⟨earlier, anchor, skipped, rfl, follows⟩ :=
      rewritten.exists_follows some (declaring_mem_remaining isLegacy)
        (Version.isLeadingDirective_declaring target)
    refine ⟨earlier, anchor, skipped, rfl, follows, ?_⟩
    intro before output after split
    have outside : depth earlier = 0 :=
      forms earlier anchor (skipped ++ back) (by simp) follows.isAnchor
    have flat : depth [anchor] = 0 := by
      apply depth_of_plain
      intro token member
      rw [List.mem_singleton.mp member]
      exact follows.isAnchor.isConditional
    calc
      depth (earlier ++ anchor :: skipped ++ before)
      _ = depth earlier + (depth [anchor] + depth skipped) + depth before := by
          rw [← depth_append, List.singleton_append, ← depth_append, ← depth_append]
      _ = depth skipped := by
          rw [outside, flat, rewritten.depth_eq_zero split]
          omega

/-- A declaration that skips a block as a whole is outside of all blocks. -/
theorem depth_declarations_upgraded_behind_block
    : Version.IsLegacy "150" (lex "#if 0\n#endif\ngl_FragColor;")
      ∧ Balanced (lex "#if 0\n#endif\ngl_FragColor;")
      ∧ Sheltered (lex "#if 0\n#endif\ngl_FragColor;")
      ∧ ∃ front inserted back,
          upgradeTokens .standard "150" .fragment (lex "#if 0\n#endif\ngl_FragColor;")
            = .ok (front ++ inserted ++ back)
          ∧ ∃ earlier anchor skipped,
              front = earlier ++ anchor :: skipped
              ∧ Declaration.Follows earlier anchor skipped inserted back
              ∧ ∀ before output after,
                  inserted = before ++ (FragmentOutput.declaration output ++ after)
                  → depth (front ++ before) = depth skipped := by
  have read
      : lex "#if 0\n#endif\ngl_FragColor;"
        = [ .directive "#if 0", .newline, .directive "#endif", .newline,
          ⟨.builtin, "gl_FragColor"⟩, ⟨.operator, ";"⟩ ] := by
    decide +kernel
  have isLegacy : Version.IsLegacy "150" (lex "#if 0\n#endif\ngl_FragColor;") := by
    rw [read]
    exact Or.inl (by decide +kernel)
  have balanced : Balanced (lex "#if 0\n#endif\ngl_FragColor;") := by
    rw [read]
    decide +kernel
  have sheltered : Sheltered (lex "#if 0\n#endif\ngl_FragColor;") := by
    rw [read]
    decide +kernel
  have upgraded
      : upgradeTokens .standard "150" .fragment (lex "#if 0\n#endif\ngl_FragColor;")
        = .ok
            (Version.declaring "150" :: ExtensionPolicy.block ["GL_ARB_separate_shader_objects"]
              ++ [.directive "#if 0", .newline, .directive "#endif", .newline]
              ++ FragmentOutput.declaration .color
              ++ [.newline, ⟨.identifier, "unique_fragColor"⟩, ⟨.operator, ";"⟩]) := by
    rw [read]
    decide +kernel
  have used
      : FragmentOutput.used .fragment
          (ExtensionPolicy.standard.remaining "150" (lex "#if 0\n#endif\ngl_FragColor;"))
        ≠ [] := by
    rw [read]
    decide +kernel
  obtain ⟨-, front, inserted, back, rewritten, whole, deep⟩ :=
    depth_declarations_upgraded isLegacy balanced sheltered upgraded
  have some := mt rewritten.inserted_eq_nil_iff.mp used
  exact ⟨isLegacy, balanced, sheltered, front, inserted, back, whole ▸ upgraded, deep some⟩

/-- A declaration that skips the directive that opens a block, but not the one that closes it,
stands in the block. -/
theorem depth_declarations_upgraded_in_block
    : ∃ before after,
        Version.IsLegacy "150" (lex "#ifdef A\nfloat x;\n#endif\ngl_FragColor;")
        ∧ Balanced (lex "#ifdef A\nfloat x;\n#endif\ngl_FragColor;")
        ∧ Sheltered (lex "#ifdef A\nfloat x;\n#endif\ngl_FragColor;")
        ∧ upgradeTokens .standard "150" .fragment
            (lex "#ifdef A\nfloat x;\n#endif\ngl_FragColor;")
          = .ok (before ++ FragmentOutput.declaration .color ++ after)
        ∧ depth before ≠ 0 := by
  have read
      : lex "#ifdef A\nfloat x;\n#endif\ngl_FragColor;"
        = [ .directive "#ifdef A", .newline, ⟨.keyword, "float"⟩, ⟨.whitespace, " "⟩,
          ⟨.identifier, "x"⟩, ⟨.operator, ";"⟩, .newline, .directive "#endif", .newline,
          ⟨.builtin, "gl_FragColor"⟩, ⟨.operator, ";"⟩ ] := by
    decide +kernel
  rw [read]
  refine
    ⟨Version.declaring "150" :: ExtensionPolicy.block ["GL_ARB_separate_shader_objects"]
        ++ [.directive "#ifdef A", .newline],
      [ .newline, ⟨.keyword, "float"⟩, ⟨.whitespace, " "⟩, ⟨.identifier, "x"⟩, ⟨.operator, ";"⟩,
        .newline, .directive "#endif", .newline, ⟨.identifier, "unique_fragColor"⟩,
        ⟨.operator, ";"⟩ ],
      Or.inl ?_, ?_, ?_, ?_, ?_⟩
  all_goals decide +kernel

end ShaderUplift
