import Mathlib.Data.List.Forall2
import ShaderUplift.Proofs.Declaration.Stacked
import ShaderUplift.Proofs.Extension.Pruned
import ShaderUplift.Proofs.Name.Restored
import ShaderUplift.Proofs.Version.Settled
import ShaderUplift.Upgrade

/-! How legacy tokens are rewritten.
Settling and pruning concern directives and whitespace only. Every token that remains takes a
form of its own, and the outputs are declared in one gap between the forms.
-/

namespace ShaderUplift

-----------------------------------------------------------------------------------------
-- Settling and pruning legacy tokens
-----------------------------------------------------------------------------------------

namespace Version

/-- Tokens are upgraded as legacy ones if they declare no version, or the legacy version while
another one is the target. -/
def IsLegacy (target : String) (tokens : List Token) : Prop :=
  declaredIn tokens = none ∨ declaredIn tokens = some legacy ∧ target ≠ legacy

/-- Where legacy tokens get the version directive of the target: in front of them, or in place of
the one that they have. -/
inductive Opening (tokens : List Token) : (before after : List Token) → Prop
  | inserted (none : declaredIn tokens = none)
    : Opening tokens [] tokens
  | replaced {before after : List Token} {directive : Token}
    (split : tokens = before ++ directive :: after) (first : declaredIn before = none)
    (declares : directive.version? = some legacy)
    : Opening tokens before after

/-- Legacy tokens get the version directive of the target and the block that they lack, and are
not taken for tokens of the target. -/
theorem settle_of_isLegacy (policy : ExtensionPolicy) {target : String} {tokens : List Token}
    (isLegacy : IsLegacy target tokens)
    : ∃ before after declared,
        Opening tokens before after ∧ declared ≠ some target
        ∧ settle policy target tokens
          = ⟨before ++ declaring target :: (policy.missingBlock tokens ++ after),
              .ok declared⟩ := by
  rcases isLegacy with none | ⟨declared, other⟩
  · refine ⟨[], tokens, .none, .inserted none, by simp, ?_⟩
    exact settle_of_none none
  · rw [← map_declared_site?, Option.map_eq_some_iff] at declared
    obtain ⟨site, found, declared⟩ := declared
    obtain ⟨split, first, declares⟩ := site?_eq_some_iff.mp found
    rw [declared] at declares
    refine ⟨site.before, site.after, some legacy, .replaced split first declares,
      fun same => other (Option.some.inj same).symm, ?_⟩
    have counts : countsAs site.declared = legacy := countsAs_eq_legacy_iff.mpr declared
    exact settle_of_legacy found (by rw [counts]; exact other.symm) counts

end Version

namespace ExtensionPolicy

/-- The tokens of a shader with its version settled and its obsolete extensions dropped. -/
def remaining (policy : ExtensionPolicy) (target : String) (tokens : List Token) : List Token :=
  policy.prune (Version.settle policy target tokens).tokens

end ExtensionPolicy

theorem upgradeTokens_of_isLegacy (policy : ExtensionPolicy) {target : String}
    {tokens : List Token} (isLegacy : Version.IsLegacy target tokens) (stage : Stage)
    : upgradeTokens policy target stage tokens
      = modernize stage target (policy.remaining target tokens) := by
  obtain ⟨before, after, declared, -, other, settled⟩ :=
    Version.settle_of_isLegacy policy isLegacy
  simp [upgradeTokens, settled, bind, Except.bind, other, ExtensionPolicy.remaining]

-----------------------------------------------------------------------------------------
-- What settling and pruning leave alone
-----------------------------------------------------------------------------------------

/-- A block consists of line breaks and directives. -/
theorem ExtensionPolicy.mem_block {names : List String} {token : Token}
    (member : token ∈ block names)
    : token = .newline ∨ ∃ name ∈ names, token = enabling name := by
  unfold block at member
  split at member
  · cases member
  · simp only [List.mem_cons, List.mem_flatMap, List.not_mem_nil, or_false] at member
    rcases member with rfl | ⟨name, named, rfl | rfl⟩
    · exact Or.inl rfl
    · exact Or.inr ⟨name, by simpa using named, rfl⟩
    · exact Or.inl rfl

theorem Version.Opening.extensionsIn {tokens before after : List Token}
    (opening : Opening tokens before after)
    : ShaderUplift.extensionsIn tokens
      = ShaderUplift.extensionsIn before ++ ShaderUplift.extensionsIn after := by
  cases opening with
  | inserted none => rfl
  | replaced split first declares =>
      rw [split, extensionsIn_append,
        extensionsIn_cons_of_none (Token.extension?_eq_none_of_version? declares)]

/-- The tokens that settling and pruning put in or take out. -/
inductive Token.IsSettled : Token → Prop
  | whitespace {token : Token} (kind : token.kind = .whitespace)
    : IsSettled token
  | version {token : Token} {version : String} (declares : token.version? = some version)
    : IsSettled token
  | extension {token : Token} {name : String} (named : token.extension? = some name)
    : IsSettled token
  | declaring (target : String)
    : IsSettled (Version.declaring target)
  | enabling (name : String)
    : IsSettled (ExtensionPolicy.enabling name)

section
variable {keep : Token → Bool}

theorem ExtensionPolicy.filter_block
    (dropped : ∀ token : Token, token.IsSettled → keep token = false) (names : List String)
    : (block names).filter keep = [] := by
  rw [List.filter_eq_nil_iff]
  intro token member
  rw [Bool.not_eq_true]
  rcases mem_block member with rfl | ⟨name, -, rfl⟩
  · exact dropped _ (.whitespace rfl)
  · exact dropped _ (.enabling name)

theorem Version.Opening.filter (dropped : ∀ token : Token, token.IsSettled → keep token = false)
    {tokens before after : List Token} (opening : Opening tokens before after)
    : before.filter keep ++ after.filter keep = tokens.filter keep := by
  cases opening with
  | inserted none => rfl
  | replaced split first declares =>
      rw [split, List.filter_append, List.filter_cons, dropped _ (.version declares)]
      rfl

/-- Directives that name an extension and whitespace are all that is pruned, by induction on the
tokens. -/
theorem ExtensionPolicy.filter_pruneAfter
    (dropped : ∀ token : Token, token.IsSettled → keep token = false) (policy : ExtensionPolicy)
    (owed : Nat) (tokens : List Token)
    : (policy.pruneAfter owed tokens).filter keep = tokens.filter keep := by
  induction tokens generalizing owed with
  | nil => rfl
  | cons token rest ih =>
      rw [pruneAfter_cons, List.filter_cons]
      split
      · rename_i obsolete
        obtain ⟨name, named, -⟩ := (Option.any_eq_true ..).mp obsolete
        rw [dropped token (.extension named), ih]
        rfl
      · split
        · rename_i taken
          rw [dropped token (.whitespace taken.1), ih]
          rfl
        · rw [List.filter_cons, ih]

/-- What settling and pruning leave alone remains to be rewritten. -/
theorem filter_remaining (dropped : ∀ token : Token, token.IsSettled → keep token = false)
    (policy : ExtensionPolicy) {target : String} {tokens : List Token}
    (isLegacy : Version.IsLegacy target tokens)
    : (policy.remaining target tokens).filter keep = tokens.filter keep := by
  obtain ⟨before, after, declared, opening, -, settled⟩ :=
    Version.settle_of_isLegacy policy isLegacy
  rw [ExtensionPolicy.remaining, ExtensionPolicy.prune, ExtensionPolicy.filter_pruneAfter dropped,
    settled]
  dsimp only
  rw [List.filter_append, List.filter_cons, dropped _ (.declaring target), List.filter_append,
    ExtensionPolicy.missingBlock, ExtensionPolicy.filter_block dropped, List.nil_append,
    ← opening.filter dropped]
  rfl

end

/-- Whether a token is neither a directive nor whitespace. -/
def Token.isCode (token : Token) : Bool :=
  token.kind ≠ .directive && token.kind ≠ .whitespace

/-- The code among tokens. -/
def codeIn (tokens : List Token) : List Token :=
  tokens.filter Token.isCode

theorem Token.IsSettled.isCode {token : Token} (settled : token.IsSettled)
    : token.isCode = false := by
  cases settled with
  | whitespace kind => simp [Token.isCode, kind]
  | version declares => simp [Token.isCode, kind_of_version? declares]
  | extension named => simp [Token.isCode, kind_of_extension? named]
  | declaring target => rfl
  | enabling name => rfl

/-- The code of a shader is what remains to be rewritten. -/
theorem codeIn_remaining (policy : ExtensionPolicy) {target : String} {tokens : List Token}
    (isLegacy : Version.IsLegacy target tokens)
    : codeIn (policy.remaining target tokens) = codeIn tokens :=
  filter_remaining (fun _ settled => settled.isCode) policy isLegacy

-----------------------------------------------------------------------------------------
-- The forms of single tokens
-----------------------------------------------------------------------------------------

namespace Name

/-- Whether a fragment shader needs a name for one of its outputs. -/
def isClaimed (stage : Stage) (name : String) : Bool :=
  stage = .fragment && isEscapedOutput name

end Name

/-- The forms that a token may take, each for its kind. -/
inductive Recast (stage : Stage) (token : Token) : Token → Prop
  | qualifier (kind : token.kind = .keyword)
    : Recast stage token (Qualifier.modernize stage token)
  | builtin (kind : token.kind = .builtin)
    : Recast stage token (Builtin.modernize stage token)
  | kept (kind : token.kind = .identifier) (free : Name.isClaimed stage token.text = false)
    : Recast stage token token
  | escaped (kind : token.kind = .identifier)
    (taken : Name.isReserved token.text = true ∨ Name.isClaimed stage token.text = true)
    : Recast stage token ⟨.identifier, Name.mark ++ token.text⟩
  | other
    (kind : token.kind ≠ .keyword ∧ token.kind ≠ .builtin ∧ token.kind ≠ .identifier)
    : Recast stage token token

theorem Name.recast_of_legalize {stage : Stage} {target : String} {before after : List Token}
    {token form : Token} (kind : token.kind = .identifier)
    (legal : legalize stage target before token after = .ok form)
    : Recast stage token form := by
  unfold legalize at legal
  rw [if_neg (not_not_intro kind)] at legal
  split at legal
  · rename_i reserved
    have free : isClaimed stage token.text = false := by
      rw [isClaimed, Bool.and_eq_false_iff, ← Bool.not_eq_true (isEscapedOutput _)]
      right
      intro output
      rw [(free_of_isMarked (isMarked_of_isEscapedOutput output)).1] at reserved
      cases reserved
    split at legal
    · cases legal
      exact .kept kind free
    · split at legal
      · cases legal
      · cases legal
        rw [escape_of_needsMark (.reserved reserved)]
        exact .escaped kind (Or.inl reserved)
  · split at legal
    · rename_i claimed
      cases legal
      rw [escape_of_needsMark (.marked (isMarked_of_isEscapedOutput claimed.2))]
      exact .escaped kind (Or.inr (by simp [isClaimed, claimed]))
    · rename_i unclaimed
      cases legal
      exact .kept kind (by simpa [isClaimed] using unclaimed)

/-- A modern form is one that the kind of the token allows. -/
theorem recast_of_modernForm {stage : Stage} {target : String} {before after : List Token}
    {token form : Token} (modern : modernForm stage target before token after = .ok form)
    : Recast stage token form := by
  unfold modernForm at modern
  split at modern
  · rename_i kind
    cases modern
    exact .qualifier kind
  · rename_i kind
    cases modern
    exact .builtin kind
  · rename_i kind
    exact Name.recast_of_legalize kind modern
  · rename_i notKeyword notBuiltin notIdentifier
    cases modern
    exact .other ⟨notKeyword, notBuiltin, notIdentifier⟩

theorem modernForms_cons_eq_ok_iff {stage : Stage} {target : String} {before after : List Token}
    {token : Token} {forms : List Token}
    : modernForms stage target before (token :: after) = .ok forms
      ↔ ∃ form later,
          modernForm stage target before token after = .ok form
          ∧ modernForms stage target (token :: before) after = .ok later
          ∧ forms = form :: later := by
  simp only [modernForms, bind_eq_ok_iff]
  constructor
  · rintro ⟨form, modern, later, laterModern, result⟩
    cases result
    exact ⟨form, later, modern, laterModern, rfl⟩
  · rintro ⟨form, later, modern, laterModern, rfl⟩
    exact ⟨form, modern, later, laterModern, rfl⟩

/-- Tokens and their modern forms correspond one to one, by induction on the tokens. -/
theorem forall₂_recast {stage : Stage} {target : String} {before tokens forms : List Token}
    (modern : modernForms stage target before tokens = .ok forms)
    : List.Forall₂ (Recast stage) tokens forms := by
  induction tokens generalizing before forms with
  | nil =>
      cases modern
      exact .nil
  | cons token after ih =>
      rw [modernForms_cons_eq_ok_iff] at modern
      obtain ⟨form, later, formModern, laterModern, rfl⟩ := modern
      exact .cons (recast_of_modernForm formModern) (ih laterModern)

theorem Qualifier.eq_of_modern?_eq_some {stage : Stage} {qualifier modern : String}
    (replaced : modern? stage qualifier = some modern)
    : modern = "in" ∨ modern = "out" := by
  unfold modern? at replaced
  split at replaced
  · cases replaced
    exact Or.inl rfl
  · split at replaced
    · cases stage <;> cases replaced <;> simp
    · cases replaced

/-- A built-in becomes a texture function without suffixes, or the variable of an output, or it
stays. -/
theorem Builtin.modernize_cases (stage : Stage) {token : Token} (kind : token.kind = .builtin)
    : isTexture token.text = true
        ∧ modernize stage token = .ofChars .builtin (withoutSuffixes token.chars)
      ∨ isTexture token.text = false
        ∧ ((∃ output : FragmentOutput,
              token.output? stage = some output
              ∧ modernize stage token = ⟨.identifier, output.variableName⟩)
          ∨ token.output? stage = none ∧ modernize stage token = token) := by
  simp only [modernize, kind, ne_eq, not_true_eq_false, if_false]
  cases texture : isTexture token.text with
  | true => simp
  | false =>
      cases found : token.output? stage with
      | none => simp
      | some output => simp

theorem Recast.of_keyword {stage : Stage} {token form : Token} (recast : Recast stage token form)
    (kind : form.kind = .keyword)
    : form = Qualifier.modernize stage token ∧ token.kind = .keyword := by
  cases recast with
  | qualifier keyword => exact ⟨rfl, keyword⟩
  | builtin builtin =>
      rcases Builtin.modernize_cases stage builtin with
        ⟨-, same⟩ | ⟨-, ⟨output, -, same⟩ | ⟨-, same⟩⟩
      · simp [same] at kind
      · simp [same] at kind
      · simp [same, builtin] at kind
  | kept identifier free => simp [identifier] at kind
  | escaped identifier taken => cases kind
  | other others => exact absurd kind others.1

theorem Recast.of_builtin {stage : Stage} {token form : Token} (recast : Recast stage token form)
    (kind : form.kind = .builtin)
    : form = Builtin.modernize stage token ∧ token.kind = .builtin := by
  cases recast with
  | qualifier keyword => simp [Qualifier.modernize, keyword] at kind
  | builtin builtin => exact ⟨rfl, builtin⟩
  | kept identifier free => simp [identifier] at kind
  | escaped identifier taken => cases kind
  | other others => exact absurd kind others.2.1

/-- A token that is no word is its own form, and the form of a word is a word. -/
theorem Recast.eq_or_isWord {stage : Stage} {token form : Token}
    (recast : Recast stage token form)
    : form = token ∨ token.kind.isWord = true ∧ form.kind.isWord = true := by
  cases recast with
  | qualifier kind => simp [Qualifier.modernize, kind, TokenKind.isWord]
  | builtin kind =>
      refine Or.inr ⟨by simp [kind, TokenKind.isWord], ?_⟩
      rcases Builtin.modernize_cases stage kind with
        ⟨-, same⟩ | ⟨-, ⟨output, -, same⟩ | ⟨-, same⟩⟩
      · simp [same, TokenKind.isWord]
      · simp [same, TokenKind.isWord]
      · simp [same, kind, TokenKind.isWord]
  | kept kind free => exact Or.inl rfl
  | escaped kind taken => exact Or.inr ⟨by simp [kind, TokenKind.isWord], rfl⟩
  | other kind => exact Or.inl rfl

/-- What is no word stands among the forms as it does among the tokens. -/
theorem filter_forms {stage : Stage} {keep : Token → Bool}
    (plain : ∀ token : Token, token.kind.isWord = true → keep token = false)
    {tokens forms : List Token} (recasts : List.Forall₂ (Recast stage) tokens forms)
    : forms.filter keep = tokens.filter keep := by
  induction recasts with
  | nil => rfl
  | cons recast _ ih =>
      rcases recast.eq_or_isWord with rfl | ⟨isWord, formIsWord⟩
      · rw [List.filter_cons, List.filter_cons, ih]
      · simp [plain _ isWord, plain _ formIsWord, ih]

theorem Token.decide_kind_eq_false {token : Token} {kind : TokenKind}
    (plain : kind.isWord = false) (isWord : token.kind.isWord = true)
    : decide (token.kind = kind) = false := by
  rw [decide_eq_false_iff_not]
  intro same
  rw [same, plain] at isWord
  cases isWord

/-- A directive is its own form. -/
theorem directivesIn_eq_of_forall₂ {stage : Stage} {tokens forms : List Token}
    (recasts : List.Forall₂ (Recast stage) tokens forms)
    : directivesIn forms = directivesIn tokens :=
  filter_forms (fun _ => Token.decide_kind_eq_false rfl) recasts

/-- Tokens in front that are no words stand in front of the forms as well. -/
theorem exists_forms_behind {stage : Stage} {kept after forms : List Token}
    (plain : ∀ token ∈ kept, token.kind.isWord = false)
    (recasts : List.Forall₂ (Recast stage) (kept ++ after) forms)
    : ∃ back, forms = kept ++ back ∧ List.Forall₂ (Recast stage) after back := by
  induction kept generalizing forms with
  | nil => exact ⟨forms, rfl, recasts⟩
  | cons token kept ih =>
      obtain ⟨form, later, recast, laterRecasts, rfl⟩ := List.forall₂_cons_left_iff.mp recasts
      obtain ⟨back, rfl, backRecasts⟩ :=
        ih (fun other member => plain other (List.mem_cons_of_mem _ member)) laterRecasts
      rcases recast.eq_or_isWord with rfl | ⟨isWord, -⟩
      · exact ⟨back, rfl, backRecasts⟩
      · rw [plain token List.mem_cons_self] at isWord
        cases isWord

/-- Tokens among others that are no words stand among the forms of those as well. -/
theorem exists_forms {stage : Stage} {before kept after forms : List Token}
    (plain : ∀ token ∈ kept, token.kind.isWord = false)
    (recasts : List.Forall₂ (Recast stage) (before ++ (kept ++ after)) forms)
    : ∃ front back,
        forms = front ++ (kept ++ back)
        ∧ List.Forall₂ (Recast stage) before front ∧ List.Forall₂ (Recast stage) after back := by
  induction before generalizing forms with
  | nil =>
      obtain ⟨back, same, backRecasts⟩ := exists_forms_behind plain recasts
      exact ⟨[], back, same, .nil, backRecasts⟩
  | cons token before ih =>
      obtain ⟨form, later, recast, laterRecasts, rfl⟩ := List.forall₂_cons_left_iff.mp recasts
      obtain ⟨front, back, rfl, frontRecasts, backRecasts⟩ := ih laterRecasts
      exact ⟨form :: front, back, rfl, .cons recast frontRecasts, backRecasts⟩

-----------------------------------------------------------------------------------------
-- The result of a rewriting
-----------------------------------------------------------------------------------------

/-- Tokens are rewritten to their forms, `front` and `back`, with the declarations of the outputs
that they use put between those. -/
structure Rewritten (stage : Stage) (target : String) (tokens front inserted back : List Token)
    : Prop where
  forms : modernForms stage target [] tokens = .ok (front ++ back)
  declared
    : inserted
      = Declaration.stacked front
          ((FragmentOutput.used stage tokens).map FragmentOutput.declaration) back
  behind
    : FragmentOutput.used stage tokens ≠ []
      → ∃ prologue skipped,
          front = prologue ++ skipped ∧ Declaration.Gap prologue skipped back

/-- The result of upgrading legacy tokens consists of forms and declarations. -/
theorem exists_rewritten {policy : ExtensionPolicy} {stage : Stage} {target : String}
    {tokens result : List Token} (isLegacy : Version.IsLegacy target tokens)
    (upgraded : upgradeTokens policy target stage tokens = .ok result)
    : ∃ front inserted back,
        Rewritten stage target (policy.remaining target tokens) front inserted back
        ∧ result = front ++ inserted ++ back := by
  rw [upgradeTokens_of_isLegacy policy isLegacy, modernize, bind_eq_ok_iff] at upgraded
  obtain ⟨forms, modern, placed⟩ := upgraded
  obtain ⟨front, back, rfl, rfl, behind⟩ :=
    Declaration.exists_stacked (Declaration.halts_declarations _) placed
  exact ⟨front, _, back, ⟨modern, rfl, fun some => behind (by simpa using some)⟩, rfl⟩

namespace Rewritten

variable {stage : Stage} {target : String} {tokens front inserted back : List Token}

/-- Declarations are put in exactly if outputs are used. -/
theorem inserted_eq_nil_iff (rewritten : Rewritten stage target tokens front inserted back)
    : inserted = [] ↔ FragmentOutput.used stage tokens = [] := by
  rw [rewritten.declared]
  constructor
  · intro nothing
    by_contra used
    obtain ⟨output, rest, begins⟩ := Declaration.exists_stacked_eq used front back
    rw [begins] at nothing
    cases (List.append_eq_nil_iff.mp nothing).2
  · intro none
    rw [none]
    rfl

theorem directivesIn_forms (rewritten : Rewritten stage target tokens front inserted back)
    : directivesIn (front ++ back) = directivesIn tokens :=
  directivesIn_eq_of_forall₂ (forall₂_recast rewritten.forms)

theorem directivesIn_inserted (rewritten : Rewritten stage target tokens front inserted back)
    : directivesIn inserted = [] := by
  rw [rewritten.declared, directivesIn, Declaration.filter_stacked (by decide),
    List.filter_eq_nil_iff]
  intro token member
  obtain ⟨declaration, isDeclaration, inDeclaration⟩ := List.mem_flatten.mp member
  obtain ⟨output, -, rfl⟩ := List.mem_map.mp (List.mem_reverse.mp isDeclaration)
  have others : ∀ token ∈ output.declaration, token.kind ≠ .directive := by
    cases output <;> decide +kernel
  simpa using others token inDeclaration

/-- Rewriting neither changes a directive nor puts one in. -/
theorem directivesIn_eq (rewritten : Rewritten stage target tokens front inserted back)
    : directivesIn (front ++ inserted ++ back) = directivesIn tokens := by
  rw [directivesIn_append, directivesIn_append, rewritten.directivesIn_inserted, List.append_nil,
    ← directivesIn_append, rewritten.directivesIn_forms]

end Rewritten

end ShaderUplift
