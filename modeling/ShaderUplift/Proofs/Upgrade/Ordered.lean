import ShaderUplift.Proofs.Declaration.Anchored
import ShaderUplift.Proofs.Upgrade.Remaining

/-! The order of directives, precision statements and declarations in an upgraded shader.
The version directive that is put in leads, so the declarations always have an anchor to follow.
Directives that lead are anchors even where they declare no version and name no extension.
-/

namespace ShaderUplift

variable {policy : ExtensionPolicy} {target : String}

-----------------------------------------------------------------------------------------
-- Directives that begin with their number sign
-----------------------------------------------------------------------------------------

theorem Version.signed_declaring (target : String)
    : (declaring target).Signed := by
  intro kind
  simp [declaring, Token.directive, Token.chars]

theorem ExtensionPolicy.signed_enabling (name : String)
    : (enabling name).Signed := by
  intro kind
  simp [enabling, Token.directive, Token.chars]

theorem signed_remaining {source : String} (isLegacy : Version.IsLegacy target (lex source))
    : ∀ token ∈ policy.remaining target (lex source), token.Signed := by
  intro token member
  rcases mem_remaining isLegacy member with inSource | rfl | rfl | ⟨name, -, rfl⟩
  · exact Token.signed_lexFrom source.toList token inSource
  · exact Version.signed_declaring target
  · intro kind
    cases kind
  · exact ExtensionPolicy.signed_enabling name

-----------------------------------------------------------------------------------------
-- Directives of the result
-----------------------------------------------------------------------------------------

namespace Rewritten

variable {stage : Stage} {tokens front inserted back : List Token}

/-- Every directive of the result was there before. -/
theorem mem_of_directive (rewritten : Rewritten stage target tokens front inserted back)
    {token : Token} (member : token ∈ front ++ inserted ++ back) (kind : token.kind = .directive)
    : token ∈ tokens := by
  have among : token ∈ directivesIn (front ++ inserted ++ back) :=
    List.mem_filter.mpr ⟨member, by simpa using kind⟩
  rw [rewritten.directivesIn_eq] at among
  exact (List.mem_filter.mp among).1

/-- Declarations follow the last anchor, if there is a directive that leads. -/
theorem exists_follows (rewritten : Rewritten stage target tokens front inserted back)
    (some : inserted ≠ []) {directive : Token} (member : directive ∈ tokens)
    (leading : directive.isLeadingDirective = true)
    : ∃ earlier anchor skipped,
        front = earlier ++ anchor :: skipped
        ∧ Declaration.Follows earlier anchor skipped inserted back := by
  obtain ⟨prologue, skipped, rfl, gap⟩ :=
    rewritten.behind (mt rewritten.inserted_eq_nil_iff.mpr some)
  have among : directive ∈ directivesIn tokens :=
    List.mem_filter.mpr ⟨member, decide_eq_true (Token.kind_of_isLeadingDirective leading)⟩
  rw [← rewritten.directivesIn_forms, List.append_assoc] at among
  have led := gap.prologue_ne_nil (List.mem_filter.mp among).1 leading
  have free : ∀ token ∈ inserted, Declaration.IsFree token := by
    rw [rewritten.declared]
    exact fun token => Declaration.isFree_of_mem_stacked
  obtain ⟨earlier, anchor, rfl, follows⟩ := gap.follows led free
  exact ⟨earlier, anchor, skipped, by simp, follows⟩

/-- The first declaration has nothing but whitespace before it. -/
theorem exists_declaration (rewritten : Rewritten stage target tokens front inserted back)
    (some : inserted ≠ [])
    : ∃ (lead : List Token) (output : FragmentOutput) (rest : List Token),
        inserted = lead ++ (output.declaration ++ rest)
        ∧ ∀ token ∈ lead, token.kind = .whitespace := by
  obtain ⟨output, rest, begins⟩ :=
    Declaration.exists_stacked_eq (mt rewritten.inserted_eq_nil_iff.mpr some) front back
  refine ⟨_, output, rest, rewritten.declared.trans begins, ?_⟩
  intro token member
  rw [Declaration.eq_newline_of_mem_leadingBreak member]
  rfl

end Rewritten

-----------------------------------------------------------------------------------------
-- The order of an upgraded shader
-----------------------------------------------------------------------------------------

theorem declaring_mem_remaining {tokens : List Token} (isLegacy : Version.IsLegacy target tokens)
    : Version.declaring target ∈ policy.remaining target tokens := by
  obtain ⟨before, after, -, remaining⟩ := exists_remaining_eq policy isLegacy
  rw [remaining]
  simp

theorem Version.isLeadingDirective_declaring (target : String)
    : (declaring target).isLeadingDirective = true :=
  Token.isLeadingDirective_iff.mpr (Or.inr (keyword?_declaring target))

/-- Directives that declare a version or name an extension are anchors. -/
theorem Token.isLeadingDirective_of_declares {token : Token} (signed : token.Signed)
    (declares : token.version? ≠ none ∨ token.extension? ≠ none)
    : token.isLeadingDirective = true := by
  rw [isLeadingDirective_iff]
  rcases declares with versioned | named
  · obtain ⟨version, versioned⟩ := Option.ne_none_iff_exists'.mp versioned
    exact Or.inr (keyword?_of_version? signed versioned)
  · obtain ⟨name, named⟩ := Option.ne_none_iff_exists'.mp named
    exact Or.inl (keyword?_of_extension? named)

/-- The declarations of an upgraded shader stand behind every directive that declares a version or
names an extension, and behind the end of every precision statement. Nothing but directives and
whitespace parts the first of them from the last anchor. -/
theorem declarations_upgraded {source : String} {result : List Token}
    (isLegacy : Version.IsLegacy target (lex source))
    (upgraded : upgradeTokens policy target .fragment (lex source) = .ok result)
    : ∃ front inserted back,
        Rewritten .fragment target (policy.remaining target (lex source)) front inserted back
        ∧ result = front ++ inserted ++ back
        ∧ (inserted ≠ []
            → (∀ before token after,
                result = before ++ token :: after
                → token.version? ≠ none ∨ token.extension? ≠ none
                  ∨ Declaration.Unended before ∧ token = ⟨.operator, ";"⟩
                → ∃ rest, front = before ++ token :: rest)
              ∧ ∃ earlier anchor skipped lead output rest,
                  front = earlier ++ anchor :: skipped
                  ∧ Declaration.Follows earlier anchor skipped inserted back
                  ∧ inserted = lead ++ (FragmentOutput.declaration output ++ rest)
                  ∧ ∀ token ∈ lead, token.kind = .whitespace) := by
  obtain ⟨front, inserted, back, rewritten, rfl⟩ := exists_rewritten isLegacy upgraded
  refine ⟨front, inserted, back, rewritten, rfl, fun some => ?_⟩
  obtain ⟨earlier, anchor, skipped, rfl, follows⟩ :=
    rewritten.exists_follows some (declaring_mem_remaining isLegacy)
      (Version.isLeadingDirective_declaring target)
  obtain ⟨lead, output, rest, begins, blank⟩ := rewritten.exists_declaration some
  refine ⟨?_, earlier, anchor, skipped, lead, output, rest, rfl, follows, begins, blank⟩
  intro before token after split ordered
  have anchored : Declaration.IsAnchor before token := by
    rw [← or_assoc] at ordered
    apply ordered.imp_left
    intro declares
    have kind : token.kind = .directive := by
      by_contra other
      simp [Token.version?, Token.extension?, other] at declares
    have member : token ∈ earlier ++ anchor :: skipped ++ inserted ++ back := by
      rw [split]
      exact List.mem_append_right before List.mem_cons_self
    exact Token.isLeadingDirective_of_declares
      (signed_remaining isLegacy token (rewritten.mem_of_directive member kind)) declares
  have inside := follows.last before token after split anchored
  rw [List.append_assoc] at split
  rcases append_eq_append_cons split with ⟨rest, early, -⟩ | ⟨late, rfl, -⟩
  · exact ⟨rest, early⟩
  · simp only [List.length_append, List.length_cons] at inside
    omega

/-- The declaration of an output behind a precision statement and a directive. -/
theorem declarations_upgraded_behind_precision
    : Version.IsLegacy "150" (lex "precision lowp int;\n#define A\ngl_FragColor;")
      ∧ ∃ front inserted back,
          upgradeTokens .standard "150" .fragment
              (lex "precision lowp int;\n#define A\ngl_FragColor;")
            = .ok (front ++ inserted ++ back)
          ∧ (∀ before token after,
              front ++ inserted ++ back = before ++ token :: after
              → token.version? ≠ none ∨ token.extension? ≠ none
                ∨ Declaration.Unended before ∧ token = ⟨.operator, ";"⟩
              → ∃ rest, front = before ++ token :: rest)
          ∧ ∃ earlier anchor skipped lead output rest,
              front = earlier ++ anchor :: skipped
              ∧ Declaration.Follows earlier anchor skipped inserted back
              ∧ inserted = lead ++ (FragmentOutput.declaration output ++ rest)
              ∧ ∀ token ∈ lead, token.kind = .whitespace := by
  have read
      : lex "precision lowp int;\n#define A\ngl_FragColor;"
        = [ ⟨.keyword, "precision"⟩, ⟨.whitespace, " "⟩, ⟨.keyword, "lowp"⟩, ⟨.whitespace, " "⟩,
          ⟨.keyword, "int"⟩, ⟨.operator, ";"⟩, .newline, .directive "#define A", .newline,
          ⟨.builtin, "gl_FragColor"⟩, ⟨.operator, ";"⟩ ] := by
    decide +kernel
  have isLegacy
      : Version.IsLegacy "150" (lex "precision lowp int;\n#define A\ngl_FragColor;") := by
    rw [read]
    exact Or.inl (by decide +kernel)
  have upgraded
      : upgradeTokens .standard "150" .fragment
          (lex "precision lowp int;\n#define A\ngl_FragColor;")
        = .ok
            (Version.declaring "150" :: ExtensionPolicy.block ["GL_ARB_separate_shader_objects"]
              ++ [ ⟨.keyword, "precision"⟩, ⟨.whitespace, " "⟩, ⟨.keyword, "lowp"⟩,
                ⟨.whitespace, " "⟩, ⟨.keyword, "int"⟩, ⟨.operator, ";"⟩, .newline,
                .directive "#define A", .newline ]
              ++ FragmentOutput.declaration .color
              ++ [.newline, ⟨.identifier, "unique_fragColor"⟩, ⟨.operator, ";"⟩]) := by
    rw [read]
    decide +kernel
  have used
      : FragmentOutput.used .fragment
          (ExtensionPolicy.standard.remaining "150"
            (lex "precision lowp int;\n#define A\ngl_FragColor;"))
        ≠ [] := by
    rw [read]
    decide +kernel
  obtain ⟨front, inserted, back, rewritten, whole, ordered⟩ :=
    declarations_upgraded isLegacy upgraded
  have some := mt rewritten.inserted_eq_nil_iff.mp used
  rw [whole] at upgraded ordered
  exact ⟨isLegacy, front, inserted, back, upgraded, ordered some⟩

/-- A directive with the keyword of an extension directive is an anchor even if it names no
extension. So code comes between the last directive that declares or names anything and the
declaration. -/
theorem declarations_upgraded_behind_nameless
    : ∃ front code,
        Version.IsLegacy "150" (lex "gl_FragColor;\n#extension all")
        ∧ upgradeTokens .standard "150" .fragment (lex "gl_FragColor;\n#extension all")
          = .ok (front ++ code ++ FragmentOutput.declaration .color)
        ∧ (∃ token ∈ front, token.version? ≠ none)
        ∧ (∀ token ∈ code ++ FragmentOutput.declaration .color,
            token.version? = none ∧ token.extension? = none)
        ∧ ⟨.keyword, "precision"⟩ ∉ front ++ code ++ FragmentOutput.declaration .color
        ∧ ∃ token ∈ code, token.kind ≠ .directive ∧ token.kind ≠ .whitespace := by
  have read
      : lex "gl_FragColor;\n#extension all"
        = [ ⟨.builtin, "gl_FragColor"⟩, ⟨.operator, ";"⟩, .newline,
          .directive "#extension all" ] := by
    decide +kernel
  rw [read]
  refine
    ⟨Version.declaring "150" :: ExtensionPolicy.block ["GL_ARB_separate_shader_objects"],
      [ ⟨.identifier, "unique_fragColor"⟩, ⟨.operator, ";"⟩, .newline,
        .directive "#extension all", .newline ],
      Or.inl ?_, ?_, ?_, ?_, ?_, ?_⟩
  all_goals decide +kernel

end ShaderUplift
