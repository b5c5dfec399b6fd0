import ShaderUplift.Proofs.Name.Refused
import ShaderUplift.Proofs.Name.Restored

/-! Names that both stages of a program share.
The two stages link by the names that they have in common, so that both have to rename them alike.
A vertex shader refuses some names that a fragment shader renames. Only the names that the outputs
are declared under are renamed in one stage and kept in the other one.
-/

namespace ShaderUplift.Name

/-- The names that the outputs of a fragment shader are declared under. -/
def outputVariables : List Token :=
  [⟨.identifier, "unique_fragColor"⟩, ⟨.identifier, "unique_fragDepth"⟩]

theorem mem_outputVariables_iff {token : Token}
    : token ∈ outputVariables ↔ token.kind = .identifier ∧ isEscapedOutput token.text = true := by
  constructor
  · intro listed
    simp only [outputVariables, List.mem_cons, List.not_mem_nil, or_false] at listed
    rcases listed with rfl | rfl
    · exact ⟨rfl, by decide⟩
    · exact ⟨rfl, by decide⟩
  · obtain ⟨kind, text⟩ := token
    rintro ⟨rfl, declared⟩
    obtain ⟨output, rfl⟩ := isEscapedOutput_iff.mp declared
    cases output with
    | color => exact List.mem_cons_self
    | depth => exact List.mem_cons_of_mem _ List.mem_cons_self

section
variable {target : String} {before after : List Token} {token : Token}

/-- No name is refused in a fragment shader. -/
theorem exists_legalize_fragment (target : String) (before : List Token) (token : Token)
    (after : List Token)
    : ∃ form, legalize .fragment target before.reverse token after = .ok form := by
  cases legal : legalize .fragment target before.reverse token after with
  | ok form => exact ⟨form, rfl⟩
  | error failure =>
      obtain ⟨vertex, -⟩ := legalize_eq_error_iff.mp legal
      cases vertex

/-- A name that a vertex shader does not refuse has one form in both stages, unless it is needed for
an output. -/
theorem legalize_vertex_eq (shared : token ∉ outputVariables)
    (accepted : ¬IsRefused before token after)
    : legalize .vertex target before.reverse token after
      = legalize .fragment target before.reverse token after := by
  rw [mem_outputVariables_iff] at shared
  unfold legalize
  split
  · rfl
  · rename_i identifier
    have kind : token.kind = .identifier := Decidable.of_not_not identifier
    split
    · rename_i reserved
      split
      · rfl
      · rename_i uncalled
        have place : ¬inAttributePosition before.reverse = true := by
          intro attributing
          rw [inCallPosition_iff] at uncalled
          exact accepted
            ⟨kind, reserved, uncalled, inAttributePosition_reverse_iff.mp attributing⟩
        rw [if_neg fun given => place given.2, if_neg fun given => place given.2]
    · have unclaimed : ¬isEscapedOutput token.text = true := fun declared => shared ⟨kind, declared⟩
      rw [if_neg fun given => unclaimed given.2, if_neg fun given => unclaimed given.2]

/-- A name that an output is declared under is kept in a vertex shader, and gives way to the output
in a fragment shader. -/
theorem legalize_outputVariable (listed : token ∈ outputVariables)
    : legalize .vertex target before.reverse token after = .ok token
      ∧ legalize .fragment target before.reverse token after
        = .ok ⟨.identifier, escape token.text⟩ := by
  obtain ⟨kind, declared⟩ := mem_outputVariables_iff.mp listed
  have unreserved : ¬isReserved token.text = true := by
    rw [(free_of_isMarked (isMarked_of_isEscapedOutput declared)).1]
    exact Bool.false_ne_true
  have other : ¬(Stage.vertex = .fragment ∧ isEscapedOutput token.text = true) :=
    fun given => nomatch given.1
  constructor
  · rw [legalize, if_neg (not_not_intro kind), if_neg unreserved, if_neg other]
  · rw [legalize, if_neg (not_not_intro kind), if_neg unreserved, if_pos ⟨rfl, declared⟩]

end

/-- The stages agree on every name of a shader: a fragment shader always gives it a form, and a
vertex shader gives it the same one or refuses it. The names that the outputs are declared under
are the only exception. -/
theorem legalizeAt?_stages (target : String) {tokens : List Token} {position : Int}
    (inside : -(tokens.length : Int) ≤ position ∧ position < tokens.length)
    : ∃ token form,
        Position.item? tokens position = some token
        ∧ legalizeAt? .fragment target tokens position = some (.ok form)
        ∧ (token ∉ outputVariables
            → IsRefused (tokens.take position.toNat) token (after tokens position)
                ∧ legalizeAt? .vertex target tokens position
                  = some (.error (.reservedAttribute token.text target))
              ∨ ¬IsRefused (tokens.take position.toNat) token (after tokens position)
                ∧ legalizeAt? .vertex target tokens position = some (.ok form))
        ∧ (token ∈ outputVariables
            → legalizeAt? .vertex target tokens position = some (.ok token)
              ∧ form = ⟨.identifier, escape token.text⟩) := by
  obtain ⟨token, found⟩ := Position.exists_item? inside
  have legal : ∀ stage,
      legalizeAt? stage target tokens position
      = some
          (legalize stage target (tokens.take position.toNat).reverse token
            (after tokens position)) := by
    intro stage
    rw [legalizeAt?, found, Option.map_some, before]
  obtain ⟨form, fragment⟩ :=
    exists_legalize_fragment target (tokens.take position.toNat) token (after tokens position)
  refine ⟨token, form, found, by rw [legal, fragment], ?_, ?_⟩
  · intro shared
    by_cases refused : IsRefused (tokens.take position.toNat) token (after tokens position)
    · refine Or.inl ⟨refused, ?_⟩
      rw [legal, legalize_eq_error_iff.mpr ⟨rfl, refused, rfl⟩]
    · refine Or.inr ⟨refused, ?_⟩
      rw [legal, legalize_vertex_eq shared refused, fragment]
  · intro listed
    obtain ⟨kept, escaped⟩ := legalize_outputVariable listed
    rw [fragment, Except.ok.injEq] at escaped
    exact ⟨by rw [legal, kept], escaped⟩

/-- A reserved name that the stages share is renamed alike in both. -/
theorem legalizeAt?_stages_varying
    : legalizeAt? .vertex "150" [⟨.keyword, "varying"⟩, ⟨.identifier, "texture"⟩] 1
      = legalizeAt? .fragment "150" [⟨.keyword, "varying"⟩, ⟨.identifier, "texture"⟩] 1 := by
  have inside
      : -(([⟨.keyword, "varying"⟩, ⟨.identifier, "texture"⟩] : List Token).length : Int) ≤ 1
        ∧ 1 < (([⟨.keyword, "varying"⟩, ⟨.identifier, "texture"⟩] : List Token).length : Int) := by
    decide
  obtain ⟨token, form, found, fragment, shared, -⟩ := legalizeAt?_stages "150" inside
  obtain rfl : token = ⟨.identifier, "texture"⟩ := (Option.some.inj found).symm
  rcases shared (by decide) with ⟨refused, -⟩ | ⟨-, vertex⟩
  · have place := inAttributePosition_reverse_iff.mpr refused.attributing
    cases place
  · rw [vertex, fragment]

end ShaderUplift.Name
