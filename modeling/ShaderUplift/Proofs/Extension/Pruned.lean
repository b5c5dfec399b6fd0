import Mathlib.Data.List.Chain
import ShaderUplift.Extension.Prune
import ShaderUplift.Proofs.Token.Neighbours
import ShaderUplift.Proofs.Version.Declared

/-! What pruning leaves of a text.
A directive that is dropped stood at the start of a line, and takes the line break behind it along.
What follows moves up to the token before, which only a slash can join to a comment.
-/

namespace ShaderUplift.ExtensionPolicy
open ShaderUplift.Lexeme ShaderUplift.Text

variable {policy : ExtensionPolicy}

/-- Obsolete directives owe a whitespace token each, which is taken along if it comes before
anything else. -/
theorem pruneAfter_cons (policy : ExtensionPolicy) (owed : Nat) (token : Token)
    (rest : List Token)
    : policy.pruneAfter owed (token :: rest)
      = if policy.isObsolete token then policy.pruneAfter (owed + 1) rest
        else if token.kind = .whitespace ∧ owed ≠ 0 then policy.pruneAfter (owed - 1) rest
        else token :: policy.pruneAfter 0 rest := by
  cases owed with
  | zero => simp [pruneAfter]
  | succ owed => simp [pruneAfter]

theorem kind_of_isObsolete {token : Token} (obsolete : policy.isObsolete token = true)
    : token.kind = .directive := by
  obtain ⟨name, named, -⟩ := (Option.any_eq_true ..).mp obsolete
  exact Token.kind_of_extension? named

/-- A visible token that stays parts what is pruned before it from what is pruned behind it. -/
theorem pruneAfter_append_cons {token : Token} (kept : policy.isObsolete token = false)
    (visible : token.kind ≠ .whitespace) (owed : Nat) (before after : List Token)
    : policy.pruneAfter owed (before ++ token :: after)
      = policy.pruneAfter owed before ++ token :: policy.pruneAfter 0 after := by
  induction before generalizing owed with
  | nil => simp [pruneAfter_cons, kept, visible, pruneAfter]
  | cons other before ih =>
      rw [List.cons_append, pruneAfter_cons, pruneAfter_cons]
      split
      · exact ih _
      · split
        · exact ih _
        · rw [ih, List.cons_append]

theorem pruneAfter_sublist (owed : Nat) (tokens : List Token)
    : (policy.pruneAfter owed tokens).Sublist tokens := by
  induction tokens generalizing owed with
  | nil => exact List.Sublist.slnil
  | cons token rest ih =>
      rw [pruneAfter_cons]
      split
      · exact (ih _).cons token
      · split
        · exact (ih _).cons token
        · exact (ih _).cons_cons token

/-- A token that is kept stood behind what its predecessors are pruned from, by induction on the
tokens. -/
theorem exists_of_pruneAfter_eq_append {owed : Nat} {tokens before after : List Token}
    {token : Token} (kept : policy.pruneAfter owed tokens = before ++ token :: after)
    : ∃ early late, tokens = early ++ token :: late ∧ policy.pruneAfter owed early = before := by
  induction tokens generalizing owed before with
  | nil => simp [pruneAfter] at kept
  | cons first rest ih =>
      rw [pruneAfter_cons] at kept
      split at kept
      · rename_i obsolete
        obtain ⟨early, late, rfl, pruned⟩ := ih kept
        exact ⟨first :: early, late, rfl, by rw [pruneAfter_cons, if_pos obsolete, pruned]⟩
      · rename_i current
        split at kept
        · rename_i taken
          obtain ⟨early, late, rfl, pruned⟩ := ih kept
          exact ⟨first :: early, late, rfl,
            by rw [pruneAfter_cons, if_neg current, if_pos taken, pruned]⟩
        · rename_i stays
          cases before with
          | nil =>
              obtain ⟨rfl, -⟩ := List.cons.inj kept
              exact ⟨[], rest, rfl, rfl⟩
          | cons other before =>
              obtain ⟨rfl, later⟩ := List.cons.inj kept
              obtain ⟨early, late, rfl, pruned⟩ := ih later
              exact ⟨first :: early, late, rfl,
                by rw [pruneAfter_cons, if_neg current, if_neg stays, pruned]⟩

/-- Pruned tokens name the extensions that are not obsolete. -/
theorem extensionsIn_pruneAfter (owed : Nat) (tokens : List Token)
    : extensionsIn (policy.pruneAfter owed tokens)
      = (extensionsIn tokens).filter fun name => name ∉ policy.obsolete := by
  induction tokens generalizing owed with
  | nil => rfl
  | cons token rest ih =>
      rw [pruneAfter_cons]
      cases named : token.extension? with
      | none =>
          have kept : policy.isObsolete token = false := by simp [isObsolete, named]
          rw [kept, extensionsIn_cons_of_none named]
          simp only [Bool.false_eq_true, if_false]
          split
          · exact ih _
          · rw [extensionsIn_cons_of_none named, ih]
      | some name =>
          have visible : token.kind ≠ .whitespace := by
            intro kind
            rw [Token.extension?_eq_none_of_kind (by simp [kind])] at named
            cases named
          have cons : ∀ others, extensionsIn (token :: others) = name :: extensionsIn others :=
            fun others => List.filterMap_cons_some named
          by_cases obsolete : name ∈ policy.obsolete
          · simp [isObsolete, named, obsolete, cons, ih]
          · simp [isObsolete, named, obsolete, cons, ih, visible]

theorem declaredIn_pruneAfter {tokens : List Token} (none : Version.declaredIn tokens = none)
    (owed : Nat)
    : Version.declaredIn (policy.pruneAfter owed tokens) = .none := by
  simp only [Version.declaredIn] at none ⊢
  rw [List.findSome?_eq_none_iff] at none ⊢
  intro token member
  exact none token ((pruneAfter_sublist owed tokens).subset member)

-----------------------------------------------------------------------------------------
-- What pruning takes along
-----------------------------------------------------------------------------------------

/-- What is kept of tokens. A directive of an obsolete extension goes, together with the whitespace
token that is directly behind it once the obsolete directives behind it are gone. -/
inductive IsPruned (policy : ExtensionPolicy) : (tokens kept : List Token) → Prop
  | nil
    : IsPruned policy [] []
  | kept {token : Token} {tokens kept : List Token} (current : policy.isObsolete token = false)
    (later : IsPruned policy tokens kept)
    : IsPruned policy (token :: tokens) (token :: kept)
  | taken {directive whitespace : Token} {tokens kept : List Token}
    (obsolete : policy.isObsolete directive = true) (kind : whitespace.kind = .whitespace)
    (later : IsPruned policy tokens (whitespace :: kept))
    : IsPruned policy (directive :: tokens) kept
  | alone {directive : Token} {tokens kept : List Token}
    (obsolete : policy.isObsolete directive = true)
    (visible : ∀ token ∈ kept.head?, token.kind ≠ .whitespace)
    (later : IsPruned policy tokens kept)
    : IsPruned policy (directive :: tokens) kept

/-- Tokens without the whitespace token that they may begin with. -/
def behindWhitespace : List Token → List Token
  | [] => []
  | token :: rest => if token.kind = .whitespace then rest else token :: rest

/-- One more directive that owes a whitespace token takes the first one that is left, by induction
on the tokens. -/
theorem pruneAfter_succ (owed : Nat) (tokens : List Token)
    : policy.pruneAfter (owed + 1) tokens = behindWhitespace (policy.pruneAfter owed tokens) := by
  induction tokens generalizing owed with
  | nil => rfl
  | cons token rest ih =>
      rw [pruneAfter_cons, pruneAfter_cons policy owed]
      split
      · exact ih (owed + 1)
      · by_cases whitespace : token.kind = .whitespace
        · cases owed with
          | zero => simp [whitespace, behindWhitespace]
          | succ owed => simp [whitespace, ih]
        · simp [whitespace, behindWhitespace]

theorem prune_cons_of_current {token : Token} (current : policy.isObsolete token = false)
    (rest : List Token)
    : policy.prune (token :: rest) = token :: policy.prune rest := by
  simp [prune, pruneAfter_cons, current]

theorem prune_cons_of_obsolete {token : Token} (obsolete : policy.isObsolete token = true)
    (rest : List Token)
    : policy.prune (token :: rest) = behindWhitespace (policy.prune rest) := by
  rw [prune, pruneAfter_cons, if_pos obsolete, pruneAfter_succ, ← prune]

/-- Pruning keeps exactly what is to be kept, by induction on the tokens and on how they are
pruned. -/
theorem isPruned_iff {tokens kept : List Token}
    : IsPruned policy tokens kept ↔ kept = policy.prune tokens := by
  constructor
  · intro pruned
    induction pruned with
    | nil => rfl
    | kept current later ih => rw [prune_cons_of_current current, ih]
    | taken obsolete kind later ih =>
        rw [prune_cons_of_obsolete obsolete, ← ih, behindWhitespace, if_pos kind]
    | @alone _ _ kept obsolete visible later ih =>
        rw [prune_cons_of_obsolete obsolete, ← ih]
        cases kept with
        | nil => rfl
        | cons token kept => rw [behindWhitespace, if_neg (visible token rfl)]
  · intro same
    subst same
    induction tokens with
    | nil => exact .nil
    | cons token rest ih =>
        cases obsolete : policy.isObsolete token with
        | false =>
            rw [prune_cons_of_current obsolete]
            exact .kept obsolete ih
        | true =>
            rw [prune_cons_of_obsolete obsolete]
            cases left : policy.prune rest with
            | nil =>
                rw [left] at ih
                exact .alone obsolete (by simp [behindWhitespace]) ih
            | cons next kept =>
                rw [left] at ih
                rw [behindWhitespace]
                split
                · rename_i whitespace
                  exact .taken obsolete whitespace ih
                · rename_i visible
                  exact .alone obsolete (by simpa using visible) ih

-----------------------------------------------------------------------------------------
-- Pruning the tokens of a text
-----------------------------------------------------------------------------------------

/-- A directive is followed by a line break, and an obsolete one begins with a number sign. -/
theorem around_obsolete {c : Char} {rest after : List Char}
    (split : (front c rest).chars ++ after = c :: rest)
    (obsolete : policy.isObsolete (front c rest) = true)
    : c = '#' ∧ after.head?.all isLineBreak = true := by
  have kind := kind_of_isObsolete obsolete
  refine ⟨((front_shape c rest).sign_of_kind kind).2, ?_⟩
  obtain ⟨-, stops⟩ := Token.front_apart split
  simp only [Token.StopsBefore, kind] at stops
  exact head?_isLineBreak_of_logicalLine stops

/-- Pruning never brings a line feed to the front: directives that go owe the line break behind
them, and no other whitespace follows that. By induction on the tokens, of which one directive
at most has gone without its line break. -/
theorem feed_pruneAfter {owed : Nat} {text next : List Char} {segment back : List Token}
    (read : lexFrom 0 text = segment ++ back)
    (start : owed = 0 ∨ owed = 1 ∧ text.head?.all isLineBreak = true)
    (nextPlain : next.head? ≠ some '\n')
    (feed : ((policy.pruneAfter owed segment).flatMap Token.chars ++ next).head? = some '\n')
    : owed = 0 ∧ text.head? = some '\n' := by
  induction segment generalizing owed text with
  | nil => exact absurd feed nextPlain
  | cons token segment ih =>
      obtain ⟨c, rest, after, rfl, rfl, split, laterRead⟩ := lexFrom_eq_cons read
      rw [pruneAfter_cons] at feed
      split at feed
      · rename_i obsolete
        obtain ⟨rfl, nextLine⟩ := around_obsolete split obsolete
        obtain rfl : owed = 0 := by
          rcases start with start | ⟨-, broken⟩
          · exact start
          · cases broken
        obtain ⟨impossible, -⟩ := ih laterRead (Or.inr ⟨rfl, nextLine⟩) feed
        cases impossible
      · split at feed
        · rename_i taken
          obtain rfl : owed = 1 := (start.resolve_left taken.2).1
          obtain ⟨-, fed⟩ := ih laterRead (Or.inl rfl) feed
          have blank := after_whitespace split taken.1 '\n' fed
          cases blank
        · rename_i kept
          obtain ⟨tail, chars⟩ := chars_front_cons c rest
          rw [List.flatMap_cons, chars] at feed
          obtain rfl : c = '\n' := by simpa using feed
          refine ⟨?_, rfl⟩
          have kind : (front '\n' rest).kind = .whitespace := by
            rw [front_blank (by decide)]
            rfl
          by_contra owes
          exact kept ⟨kind, owes⟩

/-- What is left of a text whose first token is kept yields to the tokens before it. -/
theorem yields_pruneAfter {text next : List Char} {token : Token} {segment back : List Token}
    (read : lexFrom 0 text = token :: segment ++ back) (nextPlain : next.head? ≠ some '\n')
    : Yields text (token.chars ++ ((policy.pruneAfter 0 segment).flatMap Token.chars ++ next)) := by
  obtain ⟨c, rest, after, rfl, rfl, split, laterRead⟩ := lexFrom_eq_cons read
  obtain ⟨tail, chars⟩ := chars_front_cons c rest
  rw [chars, List.cons_append] at split ⊢
  rw [← split]
  refine Yields.cons c ?_
  intro feed
  cases tail with
  | cons d tail => exact feed
  | nil => exact (feed_pruneAfter laterRead (Or.inl rfl) nextPlain feed).2

/-- No obsolete directive stands directly behind a slash, which would join what follows. -/
def Unjoined (policy : ExtensionPolicy) (tokens : List Token) : Prop :=
  tokens.IsChain fun token next => token.text = "/" → policy.isObsolete next = false

/-- The tokens of a text stand apart after pruning, by induction on the tokens. -/
theorem apart_pruneAfter {owed : Nat} {text next : List Char} {segment back : List Token}
    (read : lexFrom 0 text = segment ++ back) (unjoined : policy.Unjoined segment)
    (start : owed = 0 ∨ owed = 1 ∧ text.head?.all isLineBreak = true)
    (nextPlain : next.head? ≠ some '\n') (yields : Yields (back.flatMap Token.chars) next)
    : Token.Apart (policy.pruneAfter owed segment) next := by
  induction segment generalizing owed text with
  | nil => trivial
  | cons token segment ih =>
      obtain ⟨c, rest, after, rfl, rfl, split, laterRead⟩ := lexFrom_eq_cons read
      have laterUnjoined : policy.Unjoined segment := unjoined.tail
      rw [pruneAfter_cons]
      split
      · rename_i obsolete
        obtain ⟨rfl, nextLine⟩ := around_obsolete split obsolete
        obtain rfl : owed = 0 := by
          rcases start with start | ⟨-, broken⟩
          · exact start
          · cases broken
        exact ih laterRead laterUnjoined (Or.inr ⟨rfl, nextLine⟩)
      · split
        · rename_i taken
          obtain rfl : owed = 1 := (start.resolve_left taken.2).1
          exact ih laterRead laterUnjoined (Or.inl rfl)
        · obtain ⟨shaped, stops⟩ := Token.front_apart split
          refine ⟨shaped, ?_, ih laterRead laterUnjoined (Or.inl rfl)⟩
          cases segment with
          | nil =>
              change lexFrom 0 after = back at laterRead
              have behind : after = back.flatMap Token.chars := by
                rw [← laterRead, flatMap_chars_lexFrom, List.drop_zero]
              rw [behind] at stops
              exact stops.yields shaped yields
          | cons follower segment =>
              by_cases obsolete : policy.isObsolete follower = true
              · obtain ⟨d, more, behind, rfl, rfl, followerSplit, -⟩ := lexFrom_eq_cons laterRead
                obtain ⟨rfl, -⟩ := around_obsolete followerSplit obsolete
                refine stops.of_sign shaped ?_ _
                intro slash
                have text : (front c rest).text = "/" := String.toList_inj.mp slash
                have notObsolete := (List.isChain_cons_cons.mp unjoined).1 text
                rw [obsolete] at notObsolete
                cases notObsolete
              · have kept : policy.pruneAfter 0 (follower :: segment)
                    = follower :: policy.pruneAfter 0 segment := by
                  simp [pruneAfter_cons, obsolete]
                rw [kept, List.flatMap_cons, List.append_assoc]
                exact stops.yields shaped (yields_pruneAfter laterRead nextPlain)

/-- A line break at the front of a text stays there. -/
theorem head?_pruneAfter_of_break (policy : ExtensionPolicy) {c : Char}
    (broken : isLineBreak c = true) (rest : List Char)
    : ∃ token segment,
        policy.pruneAfter 0 (lexFrom 0 (c :: rest)) = token :: segment
        ∧ token.chars.head? = some c := by
  obtain ⟨tail, chars⟩ := chars_front_cons c rest
  have kind : (front c rest).kind = .whitespace := by
    rw [front_blank (isBlank_of_isLineBreak broken)]
    rfl
  have kept : policy.isObsolete (front c rest) = false := by
    cases obsolete : policy.isObsolete (front c rest) with
    | false => rfl
    | true =>
        rw [kind_of_isObsolete obsolete] at kind
        cases kind
  rw [lexFrom_cons, pruneAfter_cons, kept]
  simp only [Bool.false_eq_true, ne_eq, not_true_eq_false, and_false, if_false]
  exact ⟨_, _, rfl, by rw [chars, List.head?_cons]⟩

/-- A directive that is the last token after pruning was the last one before, because another
one is followed by a line break that stays. By induction on the tokens. -/
theorem getLast?_pruneAfter {owed : Nat} {text : List Char} {segment : List Token}
    {token : Token} (read : lexFrom 0 text = segment)
    (last : (policy.pruneAfter owed segment).getLast? = some token)
    (kind : token.kind = .directive)
    : segment.getLast? = some token := by
  induction segment generalizing owed text with
  | nil => cases last
  | cons other segment ih =>
      obtain ⟨c, rest, after, rfl, rfl, split, laterRead⟩ := lexFrom_eq_cons read
      rw [pruneAfter_cons] at last
      rw [List.getLast?_cons]
      split at last
      · rw [ih laterRead last, Option.getD_some]
      · split at last
        · rw [ih laterRead last, Option.getD_some]
        · rw [List.getLast?_cons] at last
          cases later : (policy.pruneAfter 0 segment).getLast? with
          | some survivor =>
              rw [later, Option.getD_some] at last
              rw [ih laterRead (later.trans last), Option.getD_some]
          | none =>
              rw [later, Option.getD_none, Option.some.injEq] at last
              obtain ⟨-, stops⟩ := Token.front_apart split
              rw [← last] at kind
              simp only [Token.StopsBefore, kind] at stops
              have nextLine := head?_isLineBreak_of_logicalLine stops
              cases after with
              | nil =>
                  obtain rfl : segment = [] := laterRead.symm
                  exact congrArg some last
              | cons d after =>
                  obtain ⟨survivor, more, kept, -⟩ := head?_pruneAfter_of_break policy
                    (show isLineBreak d = true from nextLine) after
                  rw [← laterRead, kept] at later
                  simp at later

end ShaderUplift.ExtensionPolicy
