import ShaderUplift.Proofs.Name.Refused
import ShaderUplift.Proofs.Upgrade.Rewriting

/-! The images of tokens in their context.
Every token is judged by the tokens around it as they were before any of them changed. So each image
can be told on its own, and rewriting fails with the first token that has none.
-/

namespace ShaderUplift

variable {stage : Stage} {target : String}

-----------------------------------------------------------------------------------------
-- Single tokens
-----------------------------------------------------------------------------------------

/-- The image of a token that stands between others. Qualifiers, built-ins and names have their own
rules; every other token is its own image. -/
inductive Image (stage : Stage) (target : String) (before : List Token) (token : Token)
    (after : List Token)
    : Token → Prop
  | qualifier (kind : token.kind = .keyword)
    : Image stage target before token after (Qualifier.modernize stage token)
  | builtin (kind : token.kind = .builtin)
    : Image stage target before token after (Builtin.modernize stage token)
  | name {form : Token} (kind : token.kind = .identifier)
    (legal : Name.legalize stage target before.reverse token after = .ok form)
    : Image stage target before token after form
  | same (kind : token.kind ≠ .keyword ∧ token.kind ≠ .builtin ∧ token.kind ≠ .identifier)
    : Image stage target before token after token

theorem modernForm_eq_ok_iff {before after : List Token} {token form : Token}
    : modernForm stage target before.reverse token after = .ok form
      ↔ Image stage target before token after form := by
  constructor
  · intro modern
    unfold modernForm at modern
    split at modern
    · rename_i kind
      cases modern
      exact .qualifier kind
    · rename_i kind
      cases modern
      exact .builtin kind
    · rename_i kind
      exact .name kind modern
    · rename_i notKeyword notBuiltin notIdentifier
      cases modern
      exact .same ⟨notKeyword, notBuiltin, notIdentifier⟩
  · intro image
    cases image with
    | qualifier kind => simp [modernForm, kind]
    | builtin kind => simp [modernForm, kind]
    | name kind legal => simpa [modernForm, kind] using legal
    | same kind =>
        unfold modernForm
        split
        · exact absurd ‹_› kind.1
        · exact absurd ‹_› kind.2.1
        · exact absurd ‹_› kind.2.2
        · rfl

/-- Only a name that is refused in a vertex shader has no image. -/
theorem modernForm_eq_error_iff {before after : List Token} {token : Token} {failure : Failure}
    : modernForm stage target before.reverse token after = .error failure
      ↔ stage = .vertex ∧ Name.IsRefused before token after
        ∧ failure = .reservedAttribute token.text target := by
  rw [← Name.legalize_eq_error_iff]
  by_cases kind : token.kind = .identifier
  · simp [modernForm, kind]
  · have kept : Name.legalize stage target before.reverse token after = .ok token := by
      rw [Name.legalize, if_pos kind]
    rw [kept]
    unfold modernForm
    split <;> simp_all

-----------------------------------------------------------------------------------------
-- All tokens
-----------------------------------------------------------------------------------------

/-- The image of a token among others stands among the images of those, at the same place. -/
theorem exists_image {before front back forms : List Token} {token : Token}
    (modern : modernForms stage target before.reverse (front ++ token :: back) = .ok forms)
    : ∃ early form late,
        forms = early ++ form :: late ∧ early.length = front.length
        ∧ Image stage target (before ++ front) token back form := by
  induction front generalizing before forms with
  | nil =>
      rw [List.nil_append, modernForms_cons_eq_ok_iff] at modern
      obtain ⟨form, later, formModern, -, rfl⟩ := modern
      rw [List.append_nil]
      exact ⟨[], form, later, rfl, rfl, modernForm_eq_ok_iff.mp formModern⟩
  | cons first front ih =>
      rw [List.cons_append, modernForms_cons_eq_ok_iff] at modern
      obtain ⟨firstForm, later, -, laterModern, rfl⟩ := modern
      rw [← List.reverse_concat] at laterModern
      obtain ⟨early, form, late, rfl, length, image⟩ := ih laterModern
      refine ⟨firstForm :: early, form, late, rfl, by simp [length], ?_⟩
      rwa [List.append_assoc, List.singleton_append] at image

/-- Tokens take their images, each in the context of all of them. -/
structure Images (stage : Stage) (target : String) (tokens forms : List Token) : Prop where
  length : forms.length = tokens.length
  image
    : ∀ before token after,
        tokens = before ++ token :: after
        → ∃ form, forms[before.length]? = some form ∧ Image stage target before token after form

theorem images_of_modernForms {tokens forms : List Token}
    (modern : modernForms stage target [] tokens = .ok forms)
    : Images stage target tokens forms where
  length := (forall₂_recast modern).length_eq.symm
  image := by
    rintro before token after rfl
    rw [← List.reverse_nil] at modern
    obtain ⟨early, form, late, rfl, length, image⟩ := exists_image modern
    exact ⟨form, by simp [← length], image⟩

/-- Every image is that of the token at the same place, and what comes behind the one comes from
what comes behind the other. -/
theorem exists_origin {before tokens early late : List Token} {form : Token}
    (modern : modernForms stage target before.reverse tokens = .ok (early ++ form :: late))
    : ∃ front token back,
        tokens = front ++ token :: back
        ∧ Image stage target (before ++ front) token back form
        ∧ List.Forall₂ (Recast stage) back late := by
  induction early generalizing before tokens with
  | nil =>
      cases tokens with
      | nil => cases modern
      | cons token back =>
          rw [modernForms_cons_eq_ok_iff] at modern
          obtain ⟨_, _, formModern, lateModern, same⟩ := modern
          obtain ⟨rfl, rfl⟩ := List.cons.inj same
          refine ⟨[], token, back, rfl, ?_, forall₂_recast lateModern⟩
          rw [List.append_nil]
          exact modernForm_eq_ok_iff.mp formModern
  | cons firstForm early ih =>
      cases tokens with
      | nil => cases modern
      | cons first tokens =>
          rw [modernForms_cons_eq_ok_iff] at modern
          obtain ⟨_, _, -, laterModern, same⟩ := modern
          obtain ⟨rfl, rfl⟩ := List.cons.inj same
          rw [← List.reverse_concat] at laterModern
          obtain ⟨front, token, back, rfl, image, recasts⟩ := ih laterModern
          refine ⟨first :: front, token, back, rfl, ?_, recasts⟩
          rwa [List.append_assoc, List.singleton_append] at image

-----------------------------------------------------------------------------------------
-- The first name that is refused
-----------------------------------------------------------------------------------------

namespace Name

/-- A name is the first one among tokens that is refused. -/
def FirstRefused (before tokens : List Token) (name : String) : Prop :=
  ∃ front token back,
    tokens = front ++ token :: back ∧ IsRefused (before ++ front) token back ∧ token.text = name
    ∧ ∀ early other late,
        front = early ++ other :: late
        → ¬IsRefused (before ++ early) other (late ++ token :: back)

/-- The first token is refused, or it is passed and another one is the first. -/
theorem firstRefused_cons {before after : List Token} {token : Token} {name : String}
    : FirstRefused before (token :: after) name
      ↔ IsRefused before token after ∧ token.text = name
        ∨ ¬IsRefused before token after ∧ FirstRefused (before ++ [token]) after name := by
  constructor
  · intro given
    obtain ⟨front, found, back, split, refused, same, first⟩ := given
    cases front with
    | nil =>
        obtain ⟨rfl, rfl⟩ := List.cons.inj split
        rw [List.append_nil] at refused
        exact Or.inl ⟨refused, same⟩
    | cons other front =>
        obtain ⟨rfl, rfl⟩ := List.cons.inj split
        have passed := first [] token front rfl
        rw [List.append_nil] at passed
        refine Or.inr ⟨passed, front, found, back, rfl, ?_, same, ?_⟩
        · rwa [List.append_assoc, List.singleton_append]
        · rintro early other late rfl
          rw [List.append_assoc, List.singleton_append]
          exact first (token :: early) other late rfl
  · intro given
    rcases given with ⟨refused, same⟩ | ⟨passed, front, found, back, rfl, refused, same, first⟩
    · refine ⟨[], token, after, rfl, by rwa [List.append_nil], same, ?_⟩
      intro early other late split
      simp at split
    · rw [List.append_assoc, List.singleton_append] at refused
      refine ⟨token :: front, found, back, rfl, refused, same, ?_⟩
      intro early other late split
      cases early with
      | nil =>
          obtain ⟨rfl, rfl⟩ := List.cons.inj split
          rwa [List.append_nil]
      | cons next early =>
          obtain ⟨rfl, rfl⟩ := List.cons.inj split
          have later := first early other late rfl
          rwa [List.append_assoc, List.singleton_append] at later

/-- Some name is the first one that is refused exactly if any is, by induction on the tokens. -/
theorem exists_firstRefused_iff {before tokens : List Token}
    : (∃ name, FirstRefused before tokens name) ↔ Refuses before tokens [] := by
  induction tokens generalizing before with
  | nil => simp [FirstRefused, Refuses]
  | cons token after ih =>
      simp only [firstRefused_cons, exists_or, exists_and_left, exists_eq', and_true]
      rw [ih, refuses_cons, List.append_nil]
      tauto

end Name

/-- Tokens have no images exactly if the first name that is refused stops a vertex shader, by
induction on the tokens. -/
theorem modernForms_eq_error_iff {before tokens : List Token} {failure : Failure}
    : modernForms stage target before.reverse tokens = .error failure
      ↔ stage = .vertex
        ∧ ∃ name, Name.FirstRefused before tokens name
          ∧ failure = .reservedAttribute name target := by
  induction tokens generalizing before with
  | nil => simp [modernForms, Name.FirstRefused]
  | cons token after ih =>
      simp only [modernForms, bind_eq_error_iff, modernForm_eq_error_iff, Name.firstRefused_cons]
      rw [← List.reverse_concat, ih]
      cases modern : modernForm stage target before.reverse token after with
      | error other =>
          obtain ⟨vertex, refused, -⟩ := modernForm_eq_error_iff.mp modern
          simp [vertex, refused]
      | ok form =>
          have passed : stage = .vertex → ¬Name.IsRefused before token after := by
            intro vertex refused
            rw [modernForm_eq_error_iff.mpr ⟨vertex, refused, rfl⟩] at modern
            cases modern
          constructor
          · intro given
            rcases given with ⟨vertex, refused, -⟩ | ⟨_, -, later | ⟨_, -, impossible⟩⟩
            · exact absurd refused (passed vertex)
            · obtain ⟨vertex, name, first, same⟩ := later
              exact ⟨vertex, name, Or.inr ⟨passed vertex, first⟩, same⟩
            · cases impossible
          · intro given
            obtain ⟨vertex, name, ⟨refused, -⟩ | ⟨-, first⟩, same⟩ := given
            · exact absurd refused (passed vertex)
            · exact Or.inr ⟨form, rfl, Or.inl ⟨vertex, name, first, same⟩⟩

end ShaderUplift
