import ShaderUplift.Proofs.Extension.Printed

/-! Declaring the extensions that tokens lack.
The block of what is missing goes into a gap, which any signed position names. Each name that a
directive can be printed for is declared afterwards, so that nothing is put in a second time.
-/

namespace ShaderUplift

-----------------------------------------------------------------------------------------
-- Cuts at signed positions
-----------------------------------------------------------------------------------------

/-- A list is cut at a signed position. A negative one counts from the end, and one that lies
outside the list means the nearer end.
-/
structure Position.IsCut {α : Type} (items : List α) (position : Int) (before after : List α)
    : Prop where
  whole : before ++ after = items
  place
    : (before.length : Int)
      = max 0
          (min (items.length : Int)
            (if position < 0 then position + items.length else position))

theorem Position.isCut_gap {α : Type} (items : List α) (position : Int)
    : IsCut items position (items.take (gap items.length position))
        (items.drop (gap items.length position)) := by
  refine ⟨List.take_append_drop .., ?_⟩
  rw [List.length_take, Nat.min_eq_left (gap_le items.length position), gap]
  split <;> omega

namespace ExtensionPolicy

-----------------------------------------------------------------------------------------
-- The block that is put in
-----------------------------------------------------------------------------------------

theorem length_block (names : List String)
    : (block names).length = if names = [] then 0 else 2 * names.length + 1 := by
  have lines : (names.flatMap fun name => [enabling name, .newline]).length = 2 * names.length := by
    induction names with
    | nil => rfl
    | cons name names ih =>
        rw [List.flatMap_cons, List.length_append, ih, List.length_cons, List.length_cons,
          List.length_cons, List.length_nil]
        omega
  cases names with
  | nil => rfl
  | cons name names => simp only [block, List.length_cons, reduceCtorEq, if_false, lines]

/-- A block declares each of its names that a directive can be printed for, whatever the others
are.
-/
theorem mem_extensionsIn_block {names : List String} {name : String} (member : name ∈ names)
    (proper : IsProper name)
    : name ∈ extensionsIn (block names) := by
  have line : enabling name ∈ names.flatMap fun name => [enabling name, .newline] :=
    List.mem_flatMap.mpr ⟨name, member, List.mem_cons_self⟩
  refine List.mem_filterMap.mpr ⟨enabling name, ?_, extension?_enabling proper⟩
  cases names with
  | nil => cases member
  | cons first names => exact List.mem_cons_of_mem _ line

theorem missing_eq_nil_iff {policy : ExtensionPolicy} {tokens : List Token}
    : policy.missing tokens = [] ↔ ∀ name ∈ policy.required, name ∈ extensionsIn tokens := by
  simp [missing, List.filter_eq_nil_iff]

-----------------------------------------------------------------------------------------
-- Putting in the block
-----------------------------------------------------------------------------------------

theorem declareAt_of_missing_eq_nil {policy : ExtensionPolicy} {tokens : List Token}
    (complete : policy.missing tokens = []) (position : Int)
    : policy.declareAt tokens position = tokens := by
  simp [declareAt, missingBlock, complete, block]

/-- A required name is declared afterwards if a directive can be printed for it. It was declared
already, or stands in the block.
-/
theorem mem_extensionsIn_declareAt {policy : ExtensionPolicy} {tokens : List Token}
    {name : String} (required : name ∈ policy.required) (proper : IsProper name)
    (position : Int)
    : name ∈ extensionsIn (policy.declareAt tokens position) := by
  have parted : extensionsIn tokens
      = extensionsIn (tokens.take (Position.gap tokens.length position))
        ++ extensionsIn (tokens.drop (Position.gap tokens.length position)) := by
    rw [← extensionsIn_append, List.take_append_drop]
  rw [declareAt, extensionsIn_append, extensionsIn_append]
  by_cases named : name ∈ extensionsIn tokens
  · rw [parted, List.mem_append] at named
    simp only [List.mem_append]
    exact named.imp_left Or.inl
  · have lacking : name ∈ policy.missing tokens :=
      List.mem_filter.mpr ⟨required, decide_eq_true named⟩
    have printed : name ∈ extensionsIn (policy.missingBlock tokens) :=
      mem_extensionsIn_block lacking proper
    simp [printed]

/-- Declaring extensions puts a line break and one line for each required name that tokens lack, in
their order, into the gap at a position, and does nothing if they lack none. Every required name
that a directive can be printed for is declared then. If all of them are such, nothing is put in
again, wherever it is tried.
-/
theorem declareAt_inserts (policy : ExtensionPolicy) (tokens : List Token) (position : Int)
    : ∃ before after missing,
        Position.IsCut tokens position before after
        ∧ missing = policy.required.filter (fun name => name ∉ extensionsIn tokens)
        ∧ (missing = []
            → policy.declareAt tokens position = tokens
              ∧ (policy.missingBlock tokens).length = 0)
        ∧ (missing ≠ []
            → policy.declareAt tokens position
                = before
                  ++ Token.newline
                    :: (missing.flatMap fun name =>
                      [.directive ("#extension " ++ name ++ " : enable"), .newline])
                  ++ after
              ∧ (policy.missingBlock tokens).length = 2 * missing.length + 1)
        ∧ (∀ name ∈ policy.required,
            IsProper name → name ∈ extensionsIn (policy.declareAt tokens position))
        ∧ ((∀ name ∈ policy.required, IsProper name)
            → ∀ other,
                policy.declareAt (policy.declareAt tokens position) other
                  = policy.declareAt tokens position
                ∧ (policy.missingBlock (policy.declareAt tokens position)).length = 0) := by
  refine ⟨_, _, policy.missing tokens, Position.isCut_gap tokens position, rfl, ?_, ?_, ?_, ?_⟩
  · intro complete
    exact ⟨declareAt_of_missing_eq_nil complete position,
      by rw [missingBlock, complete, length_block, if_pos rfl]⟩
  · intro lacking
    obtain ⟨first, others, names⟩ := List.exists_cons_of_ne_nil lacking
    refine ⟨?_, by rw [missingBlock, length_block, if_neg lacking]⟩
    rw [declareAt, missingBlock, names]
    rfl
  · exact fun name required proper => mem_extensionsIn_declareAt required proper position
  · intro proper other
    have complete : policy.missing (policy.declareAt tokens position) = [] :=
      missing_eq_nil_iff.mpr fun name required =>
        mem_extensionsIn_declareAt required (proper name required) position
    exact ⟨declareAt_of_missing_eq_nil complete other,
      by rw [missingBlock, complete, length_block, if_pos rfl]⟩

end ExtensionPolicy

end ShaderUplift
