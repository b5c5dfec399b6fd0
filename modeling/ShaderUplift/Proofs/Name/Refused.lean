import Mathlib.Data.List.Induction
import ShaderUplift.Name.Legalize
import ShaderUplift.Proofs.Declaration.Stacked

/-! Names that are refused.
The tokens before a name make it an attribute if they lead back to a qualifier for inputs past
nothing but layout, directives and other keywords. A reserved word in such a place is refused in a
vertex shader, unless it is a texture function that the tokens after it call.
-/

namespace ShaderUplift

/-- Tokens without the layout between them. -/
def visible (tokens : List Token) : List Token :=
  tokens.filter fun token => !token.kind.isLayout

theorem visible_append (front back : List Token)
    : visible (front ++ back) = visible front ++ visible back :=
  List.filter_append ..

theorem visible_cons_of_isLayout {token : Token} (layout : token.kind.isLayout = true)
    (rest : List Token)
    : visible (token :: rest) = visible rest := by
  simp [visible, layout]

theorem visible_cons_of_not_isLayout {token : Token} (shown : token.kind.isLayout = false)
    (rest : List Token)
    : visible (token :: rest) = token :: visible rest := by
  simp [visible, shown]

/-- A token that is shown stands among all tokens, with what is shown around it. -/
theorem exists_of_visible_eq {tokens before after : List Token} {token : Token}
    (shown : visible tokens = before ++ token :: after)
    : ∃ front back,
        tokens = front ++ token :: back ∧ visible front = before ∧ visible back = after := by
  rw [visible, List.filter_eq_append_iff] at shown
  obtain ⟨front, behind, rfl, frontShown, behindShown⟩ := shown
  rw [List.filter_eq_cons_iff] at behindShown
  obtain ⟨layout, back, rfl, hidden, -, backShown⟩ := behindShown
  refine ⟨front ++ layout, back, by simp, ?_, backShown⟩
  have nothing : visible layout = [] := List.filter_eq_nil_iff.mpr hidden
  rw [visible_append, nothing, List.append_nil]
  exact frontShown

namespace Name

-----------------------------------------------------------------------------------------
-- The tokens before a name
-----------------------------------------------------------------------------------------

/-- Whether a token is a qualifier for inputs. -/
def isInput (token : Token) : Bool :=
  token.isKeyword "attribute" || token.isKeyword "in"

/-- Whether a token parts a name from the qualifiers before it: an operator, a name or a literal. -/
def parts (token : Token) : Bool :=
  token.kind ∈ [TokenKind.operator, .integer, .float, .identifier, .builtin]

/-- Tokens declare the name behind them as an attribute: there is a qualifier for inputs among them
that nothing parts from the name. -/
def Attributing (before : List Token) : Prop :=
  ∃ far qualifier near,
    before = far ++ qualifier :: near ∧ isInput qualifier = true
    ∧ ∀ token ∈ near, parts token = false

theorem not_attributing_nil
    : ¬Attributing [] := by
  intro given
  obtain ⟨far, qualifier, near, split, -⟩ := given
  simp at split

/-- The token directly before a name is a qualifier, or else it lets those before it count. -/
theorem attributing_concat {before : List Token} {token : Token}
    : Attributing (before ++ [token])
      ↔ isInput token = true ∨ parts token = false ∧ Attributing before := by
  constructor
  · intro given
    obtain ⟨far, qualifier, near, split, input, passed⟩ := given
    rcases List.eq_nil_or_concat near with rfl | ⟨near, last, rfl⟩
    · obtain ⟨-, same⟩ := List.append_inj' split rfl
      obtain rfl : token = qualifier := by simpa using same
      exact Or.inl input
    · rw [List.concat_eq_append, ← List.cons_append, ← List.append_assoc] at split
      obtain ⟨rfl, same⟩ := List.append_inj' split rfl
      obtain rfl : token = last := by simpa using same
      exact Or.inr ⟨passed token (by simp),
        far, qualifier, near, rfl, input, fun other member => passed other (by simp [member])⟩
  · intro given
    rcases given with input | ⟨passed, far, qualifier, near, rfl, input, others⟩
    · exact ⟨before, token, [], rfl, input, by simp⟩
    · refine ⟨far, qualifier, near ++ [token], by simp, input, ?_⟩
      intro other member
      rcases List.mem_append.mp member with member | member
      · exact others other member
      · rwa [List.mem_singleton.mp member]

theorem inAttributePosition_cons (token : Token) (before : List Token)
    : inAttributePosition (token :: before)
      = (isInput token || !parts token && inAttributePosition before) := by
  obtain ⟨kind, text⟩ := token
  cases kind <;> simp [inAttributePosition, isInput, parts, Token.isKeyword]

/-- The search from the nearest token on finds what makes an attribute, by induction from the
farthest one. -/
theorem inAttributePosition_reverse_iff {before : List Token}
    : inAttributePosition before.reverse = true ↔ Attributing before := by
  induction before using List.reverseRecOn with
  | nil => simp [inAttributePosition, not_attributing_nil]
  | append_singleton before token ih =>
      rw [List.reverse_concat, inAttributePosition_cons, attributing_concat, ← ih]
      simp

/-- Layout does not matter for attributes. -/
theorem attributing_visible {before : List Token}
    : Attributing (visible before) ↔ Attributing before := by
  induction before using List.reverseRecOn with
  | nil => rfl
  | append_singleton before token ih =>
      rw [visible_append, attributing_concat, ← ih]
      obtain ⟨kind, text⟩ := token
      cases layout : kind.isLayout with
      | false =>
          have shown : visible [⟨kind, text⟩] = [⟨kind, text⟩] :=
            visible_cons_of_not_isLayout layout []
          rw [shown, attributing_concat]
      | true =>
          have hidden : visible [⟨kind, text⟩] = [] := visible_cons_of_isLayout layout []
          rw [hidden, List.append_nil]
          cases kind <;> simp_all [isInput, parts, Token.isKeyword, TokenKind.isLayout]

-----------------------------------------------------------------------------------------
-- The tokens after a name
-----------------------------------------------------------------------------------------

/-- Tokens call the name before them: apart from layout they begin with a parenthesis. -/
def Calling (after : List Token) : Prop :=
  (visible after).head? = some ⟨.operator, "("⟩

theorem inCallPosition_iff {after : List Token}
    : inCallPosition after = true ↔ Calling after := by
  induction after with
  | nil => simp [inCallPosition, Calling, visible]
  | cons token after ih =>
      cases layout : token.kind.isLayout with
      | true =>
          rw [inCallPosition, if_pos layout, ih, Calling, Calling, visible_cons_of_isLayout layout]
      | false =>
          rw [inCallPosition, if_neg (by simp [layout]), Calling,
            visible_cons_of_not_isLayout layout]
          obtain ⟨kind, text⟩ := token
          simp [Token.isOperator]

-----------------------------------------------------------------------------------------
-- The name itself
-----------------------------------------------------------------------------------------

/-- A token that stands between others is refused in a vertex shader. -/
structure IsRefused (before : List Token) (token : Token) (after : List Token) : Prop where
  identifier : token.kind = .identifier
  reserved : isReserved token.text = true
  uncalled : ¬(token.text ∈ samplingFunctions ∧ Calling after)
  attributing : Attributing before

/-- A name has no legal form exactly if it is refused and the shader is a vertex shader. -/
theorem legalize_eq_error_iff {stage : Stage} {target : String} {before after : List Token}
    {token : Token} {failure : Failure}
    : legalize stage target before.reverse token after = .error failure
      ↔ stage = .vertex ∧ IsRefused before token after
        ∧ failure = .reservedAttribute token.text target := by
  constructor
  · intro refused
    unfold legalize at refused
    split at refused
    · cases refused
    · rename_i identifier
      split at refused
      · rename_i reserved
        split at refused
        · cases refused
        · rename_i uncalled
          rw [inCallPosition_iff] at uncalled
          split at refused
          · rename_i place
            rw [inAttributePosition_reverse_iff] at place
            cases refused
            exact ⟨place.1,
              ⟨Decidable.of_not_not identifier, reserved, uncalled, place.2⟩, rfl⟩
          · cases refused
      · split at refused
        · cases refused
        · cases refused
  · intro given
    obtain ⟨vertex, ⟨identifier, reserved, uncalled, attributing⟩, rfl⟩ := given
    rw [legalize, if_neg (not_not_intro identifier), if_pos reserved, if_neg,
      if_pos ⟨vertex, inAttributePosition_reverse_iff.mpr attributing⟩]
    rwa [inCallPosition_iff]

-----------------------------------------------------------------------------------------
-- The names of a segment
-----------------------------------------------------------------------------------------

/-- A name of a segment that stands between other tokens is refused in a vertex shader. -/
def Refuses (before segment after : List Token) : Prop :=
  ∃ front token back,
    segment = front ++ token :: back ∧ IsRefused (before ++ front) token (back ++ after)

theorem refuses_append {before front back after : List Token}
    : Refuses before (front ++ back) after
      ↔ Refuses before front (back ++ after) ∨ Refuses (before ++ front) back after := by
  constructor
  · intro given
    obtain ⟨early, token, late, split, refused⟩ := given
    rcases append_eq_append_cons split with ⟨rest, rfl, rfl⟩ | ⟨rest, rfl, rfl⟩
    · rw [List.append_assoc] at refused
      exact Or.inl ⟨early, token, rest, rfl, refused⟩
    · rw [← List.append_assoc] at refused
      exact Or.inr ⟨rest, token, late, rfl, refused⟩
  · intro given
    rcases given with ⟨early, token, late, rfl, refused⟩ | ⟨early, token, late, rfl, refused⟩
    · refine ⟨early, token, late ++ back, by simp, ?_⟩
      rwa [List.append_assoc]
    · refine ⟨front ++ early, token, late, by simp, ?_⟩
      rwa [← List.append_assoc]

theorem refuses_cons {before rest after : List Token} {token : Token}
    : Refuses before (token :: rest) after
      ↔ IsRefused before token (rest ++ after) ∨ Refuses (before ++ [token]) rest after := by
  have single
      : Refuses before [token] (rest ++ after) ↔ IsRefused before token (rest ++ after) := by
    constructor
    · intro given
      obtain ⟨front, other, back, split, refused⟩ := given
      obtain ⟨rfl, rfl, rfl⟩ : front = [] ∧ other = token ∧ back = [] := by
        cases front with
        | nil => simpa [eq_comm] using split
        | cons first front => simp at split
      simpa using refused
    · intro refused
      exact ⟨[], token, [], rfl, by simpa using refused⟩
  rw [← List.singleton_append, refuses_append, single]

end Name

end ShaderUplift
