import ShaderUplift.Proofs.Directive.Keyword
import ShaderUplift.Proofs.Upgrade.Rewriting

/-! What remains of a legacy shader before its tokens are rewritten.
The new version directive and the end of the block part what is pruned on their two sides. So the
tokens of the shader are pruned as they would be without what is put in, and a stretch of them that
holds no directive stays in one piece.
-/

namespace ShaderUplift

variable {policy : ExtensionPolicy}

-----------------------------------------------------------------------------------------
-- Pruning around a directive and a block
-----------------------------------------------------------------------------------------

namespace ExtensionPolicy

theorem isObsolete_of_ne {token : Token} (other : token.kind ≠ .directive)
    : policy.isObsolete token = false := by
  simp [isObsolete, Token.extension?_eq_none_of_kind other]

theorem isObsolete_declaring (policy : ExtensionPolicy) (target : String)
    : policy.isObsolete (Version.declaring target) = false := by
  simp [isObsolete, Version.extension?_declaring]

/-- Directives on lines of their own are pruned together with those, by induction on the names. -/
theorem pruneAfter_lines (names : List String) (after : List Token)
    : policy.pruneAfter 0 ((names.flatMap fun name => [enabling name, .newline]) ++ after)
      = policy.pruneAfter 0 (names.flatMap fun name => [enabling name, .newline])
        ++ policy.pruneAfter 0 after := by
  have newline : policy.isObsolete .newline = false := isObsolete_of_ne (by decide)
  have whitespace : Token.newline.kind = .whitespace := rfl
  have visible : ∀ name, (enabling name).kind ≠ .whitespace := fun name => by
    simp [enabling, Token.directive]
  induction names with
  | nil => rfl
  | cons name names ih =>
      rw [List.flatMap_cons, List.append_assoc, List.cons_append, List.singleton_append,
        List.cons_append, List.singleton_append, pruneAfter_cons,
        pruneAfter_cons policy 0 (enabling name)]
      split
      · simp [pruneAfter_cons, newline, whitespace, ih]
      · simp [pruneAfter_cons, newline, visible, ih]

/-- What comes behind a block is pruned on its own. -/
theorem pruneAfter_block (names : List String) (after : List Token)
    : policy.pruneAfter 0 (block names ++ after)
      = policy.prune (block names) ++ policy.prune after := by
  have newline : policy.isObsolete .newline = false := isObsolete_of_ne (by decide)
  cases names with
  | nil => rfl
  | cons name names =>
      simp only [block, prune, List.cons_append]
      rw [pruneAfter_cons, pruneAfter_cons policy 0 .newline, pruneAfter_lines]
      simp [newline]

/-- A stretch of tokens that holds no directive and begins with a visible token is not pruned. -/
theorem pruneAfter_append_segment {token : Token} {segment : List Token}
    (plain : ∀ other ∈ token :: segment, other.kind ≠ .directive)
    (visible : token.kind ≠ .whitespace) (owed : Nat) (before after : List Token)
    : policy.pruneAfter owed (before ++ (token :: segment ++ after))
      = policy.pruneAfter owed before ++ (token :: segment ++ policy.pruneAfter 0 after) := by
  have kept : policy.isObsolete token = false := isObsolete_of_ne (plain token List.mem_cons_self)
  rw [List.cons_append, pruneAfter_append_cons kept visible, List.cons_append]
  have rest : policy.pruneAfter 0 (segment ++ after) = segment ++ policy.pruneAfter 0 after := by
    have others : ∀ other ∈ segment, policy.isObsolete other = false :=
      fun other member => isObsolete_of_ne (plain other (List.mem_cons_of_mem _ member))
    clear plain
    induction segment with
    | nil => rfl
    | cons other segment ih =>
        have later := ih fun next member => others next (List.mem_cons_of_mem _ member)
        simp [pruneAfter_cons, others other List.mem_cons_self, later]
  rw [rest]

end ExtensionPolicy

-----------------------------------------------------------------------------------------
-- What remains
-----------------------------------------------------------------------------------------

/-- What remains of a legacy shader: its pruned tokens around the new version directive, and what
pruning leaves of the block behind the directive. -/
theorem exists_remaining_eq (policy : ExtensionPolicy) {target : String} {tokens : List Token}
    (isLegacy : Version.IsLegacy target tokens)
    : ∃ before after,
        Version.Opening tokens before after
        ∧ policy.remaining target tokens
          = policy.prune before
            ++ Version.declaring target
              :: (policy.prune (policy.missingBlock tokens) ++ policy.prune after) := by
  obtain ⟨before, after, declared, opening, -, settled⟩ :=
    Version.settle_of_isLegacy policy isLegacy
  refine ⟨before, after, opening, ?_⟩
  rw [ExtensionPolicy.remaining, settled, ExtensionPolicy.prune,
    ExtensionPolicy.pruneAfter_append_cons (policy.isObsolete_declaring target)
      (by simp [Version.declaring, Token.directive]),
    ExtensionPolicy.missingBlock, ExtensionPolicy.pruneAfter_block]
  rfl

theorem Version.Opening.subset {tokens before after : List Token}
    (opening : Opening tokens before after)
    : ∀ token ∈ before ++ after, token ∈ tokens := by
  intro token member
  cases opening with
  | inserted none => simpa using member
  | replaced split first declares =>
      rw [split, List.mem_append, List.mem_cons]
      rcases List.mem_append.mp member with member | member
      · exact Or.inl member
      · exact Or.inr (Or.inr member)

/-- What remains of a legacy shader stands in it, is its new version directive, or belongs to the
block of the extensions that it lacks. -/
theorem mem_remaining {target : String} {tokens : List Token}
    (isLegacy : Version.IsLegacy target tokens) {token : Token}
    (member : token ∈ policy.remaining target tokens)
    : token ∈ tokens ∨ token = Version.declaring target ∨ token = .newline
      ∨ ∃ name ∈ policy.missing tokens, token = ExtensionPolicy.enabling name := by
  have subset : ∀ {others}, token ∈ policy.prune others → token ∈ others :=
    fun kept => (ExtensionPolicy.pruneAfter_sublist 0 _).subset kept
  obtain ⟨before, after, opening, remaining⟩ := exists_remaining_eq policy isLegacy
  rw [remaining, List.mem_append, List.mem_cons, List.mem_append] at member
  rcases member with early | declares | inBlock | late
  · exact Or.inl (opening.subset token (List.mem_append_left _ (subset early)))
  · exact Or.inr (Or.inl declares)
  · exact Or.inr (Or.inr (ExtensionPolicy.mem_block (subset inBlock)))
  · exact Or.inl (opening.subset token (List.mem_append_right _ (subset late)))

/-- The version directive parts the tokens that are kept as it parts all of them. -/
theorem Version.Opening.prune {tokens before after : List Token}
    (opening : Opening tokens before after) (policy : ExtensionPolicy)
    : Opening (policy.prune tokens) (policy.prune before) (policy.prune after) := by
  cases opening with
  | inserted none => exact .inserted (ExtensionPolicy.declaredIn_pruneAfter none 0)
  | @replaced _ _ directive split first declares =>
      have current : policy.isObsolete directive = false := by
        simp [ExtensionPolicy.isObsolete, Token.extension?_eq_none_of_version? declares]
      have visible : directive.kind ≠ .whitespace := by
        simp [Token.kind_of_version? declares]
      refine .replaced ?_ (ExtensionPolicy.declaredIn_pruneAfter first 0) declares
      rw [split, ExtensionPolicy.prune, ExtensionPolicy.pruneAfter_append_cons current visible]
      rfl

/-- A stretch of tokens without directives lies on one side of the version directive. -/
theorem Version.Opening.segment {before segment after front back : List Token}
    (opening : Opening (before ++ (segment ++ after)) front back)
    (plain : ∀ token ∈ segment, token.kind ≠ .directive)
    : (∃ rest, back = rest ++ (segment ++ after))
      ∨ ∃ rest, front = before ++ (segment ++ rest) := by
  cases opening with
  | inserted none => exact Or.inl ⟨before, rfl⟩
  | replaced split first declares =>
      rcases append_eq_append_cons split with ⟨rest, -, rfl⟩ | ⟨early, rfl, behind⟩
      · exact Or.inl ⟨rest, rfl⟩
      · rcases append_eq_append_cons behind with ⟨rest, rfl, -⟩ | ⟨rest, rfl, -⟩
        · exact absurd (Token.kind_of_version? declares) (plain _ (by simp))
        · exact Or.inr ⟨rest, rfl⟩

/-- A stretch of tokens without directives stays in one piece until the tokens are rewritten. -/
theorem exists_remaining_append (policy : ExtensionPolicy) {target : String}
    {before segment after : List Token} {token : Token}
    (isLegacy : Version.IsLegacy target (before ++ (token :: segment ++ after)))
    (plain : ∀ other ∈ token :: segment, other.kind ≠ .directive)
    (visible : token.kind ≠ .whitespace)
    : ∃ front back,
        policy.remaining target (before ++ (token :: segment ++ after))
        = front ++ (token :: segment ++ back) := by
  obtain ⟨front, back, opening, remaining⟩ := exists_remaining_eq policy isLegacy
  have whole : ∀ early late,
      policy.prune (early ++ (token :: segment ++ late))
      = policy.prune early ++ (token :: segment ++ policy.prune late) :=
    ExtensionPolicy.pruneAfter_append_segment plain visible 0
  rw [remaining]
  rcases opening.segment plain with ⟨rest, rfl⟩ | ⟨rest, rfl⟩
  · refine ⟨policy.prune front ++ Version.declaring target
      :: (policy.prune (policy.missingBlock (before ++ (token :: segment ++ after)))
        ++ policy.prune rest), policy.prune after, ?_⟩
    rw [whole]
    simp
  · refine ⟨policy.prune before, policy.prune rest ++ Version.declaring target
      :: (policy.prune (policy.missingBlock (before ++ (token :: segment ++ after)))
        ++ policy.prune back), ?_⟩
    rw [whole]
    simp

end ShaderUplift
