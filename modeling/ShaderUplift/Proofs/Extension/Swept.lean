import ShaderUplift.Proofs.Extension.Pruned

/-! Pruning as a walk over positions.
The positions of tokens are visited from the last to the first, and what goes is deleted on the
spot. What is left are the tokens pruned from their end. In a text these are the tokens that are
neither directives of obsolete extensions nor the whitespace directly behind one.
-/

namespace ShaderUplift.ExtensionPolicy

variable {policy : ExtensionPolicy}

-----------------------------------------------------------------------------------------
-- Pruning from the end
-----------------------------------------------------------------------------------------

/-- Tokens pruned from their end. A directive of an obsolete extension goes, together with the
whitespace token that is then directly behind it.
-/
def pruneFromEnd (policy : ExtensionPolicy) : List Token → List Token
  | [] => []
  | token :: rest =>
      if policy.isObsolete token then behindWhitespace (policy.pruneFromEnd rest)
      else token :: policy.pruneFromEnd rest

/-- Whitespace that is owed by directives is the whitespace they find behind them, by induction on
the tokens.
-/
theorem prune_eq_pruneFromEnd (policy : ExtensionPolicy) (tokens : List Token)
    : policy.prune tokens = policy.pruneFromEnd tokens := by
  induction tokens with
  | nil => rfl
  | cons token rest ih =>
      rw [pruneFromEnd, ← ih]
      split
      · rename_i obsolete
        exact prune_cons_of_obsolete obsolete rest
      · rename_i current
        exact prune_cons_of_current (Bool.eq_false_iff.mpr current) rest

theorem prune_eq_self {tokens : List Token}
    (current : ∀ token ∈ tokens, policy.isObsolete token = false)
    : policy.prune tokens = tokens := by
  induction tokens with
  | nil => rfl
  | cons token rest ih =>
      obtain ⟨first, later⟩ := List.forall_mem_cons.mp current
      rw [prune_cons_of_current first, ih later]

theorem isObsolete_eq_false_iff {token : Token}
    : policy.isObsolete token = false
      ↔ ∀ name, token.extension? = some name → name ∉ policy.obsolete := by
  cases named : token.extension? <;> simp [isObsolete, named]

/-- No directive of an obsolete extension is left. -/
theorem isObsolete_of_mem_prune {tokens : List Token} {token : Token}
    (left : token ∈ policy.prune tokens)
    : policy.isObsolete token = false := by
  rw [isObsolete_eq_false_iff]
  intro name named
  have among : name ∈ extensionsIn (policy.prune tokens) :=
    List.mem_filterMap.mpr ⟨token, left, named⟩
  rw [prune, extensionsIn_pruneAfter] at among
  simpa using (List.mem_filter.mp among).2

/-- The names that go are those of the directives that go. -/
theorem pruned_eq_filterMap (policy : ExtensionPolicy) (tokens : List Token)
    : policy.pruned tokens = (tokens.filter policy.isObsolete).filterMap Token.extension? := by
  rw [pruned, extensionsIn, List.filter_filterMap, List.filterMap_filter]
  apply List.filterMap_congr
  intro token _
  cases named : token.extension? with
  | none => simp [isObsolete, named]
  | some name => by_cases obsolete : name ∈ policy.obsolete <;> simp [isObsolete, named, obsolete]

-----------------------------------------------------------------------------------------
-- The walk over the positions
-----------------------------------------------------------------------------------------

/-- What a walk has come to: the tokens that are left, and the names of the extensions whose
directives have gone.
-/
structure Walk where
  tokens : List Token
  removed : List String

/-- The visit of a position. A directive of an obsolete extension is deleted there, together with
the token directly behind it if that is whitespace.
-/
def Walk.visit (policy : ExtensionPolicy) (position : Nat) (walk : Walk) : Walk :=
  match walk.tokens[position]?.bind Token.extension? with
  | some name =>
      if name ∈ policy.obsolete then
        let taken :=
          if walk.tokens[position + 1]?.any fun next => next.kind = .whitespace then 2 else 1
        ⟨walk.tokens.take position ++ walk.tokens.drop (position + taken), name :: walk.removed⟩
      else walk
  | none => walk

/-- The walk over the positions of tokens, from the last one to the first. -/
def walk (policy : ExtensionPolicy) (tokens : List Token) : Walk :=
  (List.range tokens.length).foldr (Walk.visit policy) ⟨tokens, []⟩

/-- Deleting at a position leaves the tokens before it and what is behind the whitespace there. -/
theorem Walk.visit_of_obsolete {token : Token} {name : String}
    (named : token.extension? = some name) (obsolete : name ∈ policy.obsolete)
    (front rest : List Token) (removed : List String)
    : visit policy front.length ⟨front ++ token :: rest, removed⟩
      = ⟨front ++ behindWhitespace rest, name :: removed⟩ := by
  have here : (front ++ token :: rest)[front.length]? = some token := by simp
  simp only [visit, here, Option.bind_some, named, obsolete, if_true, List.take_left]
  cases rest with
  | nil => simp [behindWhitespace]
  | cons next rest =>
      by_cases whitespace : next.kind = .whitespace <;> simp [whitespace, behindWhitespace]

theorem Walk.visit_of_current {token : Token} (current : policy.isObsolete token = false)
    (front rest : List Token) (removed : List String)
    : visit policy front.length ⟨front ++ token :: rest, removed⟩
      = ⟨front ++ token :: rest, removed⟩ := by
  have here : (front ++ token :: rest)[front.length]? = some token := by simp
  simp only [visit, here, Option.bind_some]
  cases named : token.extension? with
  | none => rfl
  | some name => simp [isObsolete_eq_false_iff.mp current name named]

/-- The walk over the positions of `front` prunes it before what is left of `back` already, by
induction on `front` from its end.
-/
theorem foldr_visit (policy : ExtensionPolicy) (front back : List Token) (removed : List String)
    : (List.range front.length).foldr (Walk.visit policy)
        ⟨front ++ policy.pruneFromEnd back, removed⟩
      = ⟨policy.pruneFromEnd (front ++ back), policy.pruned front ++ removed⟩ := by
  induction front using List.reverseRecOn generalizing back removed with
  | nil => simp [pruned, extensionsIn]
  | append_singleton front token ih =>
      have visited := ih (token :: back)
      rw [List.length_append, List.length_singleton, List.range_succ, List.foldr_append,
        List.foldr_cons, List.foldr_nil, List.append_assoc, List.singleton_append]
      have names : policy.pruned (front ++ [token])
          = policy.pruned front ++ policy.pruned [token] := by
        simp only [pruned, extensionsIn_append, List.filter_append]
      cases obsolete : policy.isObsolete token with
      | false =>
          have unnamed : policy.pruned [token] = [] := by
            simp [pruned_eq_filterMap, obsolete]
          rw [pruneFromEnd, if_neg (by simp [obsolete])] at visited
          rw [Walk.visit_of_current obsolete, visited, names, unnamed]
          simp
      | true =>
          obtain ⟨name, named, listed⟩ : ∃ name, token.extension? = some name
              ∧ name ∈ policy.obsolete := by
            simpa [isObsolete, Option.any_eq_true] using obsolete
          have single : policy.pruned [token] = [name] := by
            simp [pruned_eq_filterMap, obsolete, named]
          rw [pruneFromEnd, if_pos obsolete] at visited
          rw [Walk.visit_of_obsolete named listed, visited, names, single]
          simp

theorem walk_eq (policy : ExtensionPolicy) (tokens : List Token)
    : policy.walk tokens = ⟨policy.prune tokens, policy.pruned tokens⟩ := by
  have visited := foldr_visit policy tokens [] []
  rw [pruneFromEnd, List.append_nil, List.append_nil] at visited
  rw [walk, visited, prune_eq_pruneFromEnd]

-----------------------------------------------------------------------------------------
-- Pruning a text
-----------------------------------------------------------------------------------------

/-- Tokens, each with the one directly before it. What stands before all of them is given. -/
def withPrevious (previous : Option Token) (tokens : List Token) : List (Option Token × Token) :=
  (previous :: tokens.map some).zip tokens

/-- Whether a token stays where it stands: it is neither a directive of an obsolete extension nor
whitespace directly behind one.
-/
def staysBehind (policy : ExtensionPolicy) (previous : Option Token) (token : Token) : Bool :=
  !policy.isObsolete token
  && !(token.kind = .whitespace && previous.any policy.isObsolete)

/-- The tokens that stay where they stand behind a given one. -/
def stayingBehind (policy : ExtensionPolicy) (previous : Option Token) (tokens : List Token)
    : List Token :=
  ((withPrevious previous tokens).filter fun (before, token) => policy.staysBehind before token).map
    Prod.snd

theorem stayingBehind_cons (policy : ExtensionPolicy) (previous : Option Token) (token : Token)
    (rest : List Token)
    : policy.stayingBehind previous (token :: rest)
      = if policy.staysBehind previous token then token :: policy.stayingBehind (some token) rest
        else policy.stayingBehind (some token) rest := by
  simp only [stayingBehind, withPrevious, List.map_cons, List.zip_cons_cons, List.filter_cons]
  split <;> rfl

/-- In a text every directive that goes is followed by whitespace that goes along, so that no
directive owes any whitespace further behind. By induction on the tokens, where `previous` stands
directly before them.
-/
theorem pruneAfter_eq_stayingBehind {text : List Char} {tokens : List Token}
    (previous : Option Token) (read : lexFrom 0 text = tokens)
    (start : previous.any policy.isObsolete = true → text.head?.all Text.isLineBreak = true)
    : policy.pruneAfter (if previous.any policy.isObsolete then 1 else 0) tokens
      = policy.stayingBehind previous tokens := by
  induction tokens generalizing previous text with
  | nil => cases previous.any policy.isObsolete <;> rfl
  | cons token rest ih =>
      obtain ⟨c, more, after, rfl, rfl, split, laterRead⟩ := lexFrom_eq_cons read
      rw [pruneAfter_cons, stayingBehind_cons]
      cases obsolete : policy.isObsolete (Lexeme.front c more) with
      | true =>
          obtain ⟨rfl, nextLine⟩ := around_obsolete split obsolete
          have settled : previous.any policy.isObsolete = false := by
            cases owes : previous.any policy.isObsolete with
            | false => rfl
            | true => cases start owes
          have later := ih (some (Lexeme.front '#' more)) laterRead fun _ => nextLine
          simpa [staysBehind, obsolete, settled] using later
      | false =>
          have later := ih (some (Lexeme.front c more)) laterRead (by simp [obsolete])
          cases owes : previous.any policy.isObsolete with
          | false => simpa [staysBehind, obsolete, owes] using later
          | true =>
              have broken : Text.isLineBreak c = true := start owes
              have kind : (Lexeme.front c more).kind = .whitespace := by
                rw [Lexeme.front_blank (Text.isBlank_of_isLineBreak broken), Token.kind_ofChars]
              simpa [staysBehind, obsolete, owes, kind] using later

/-- Pruning in one pass leaves the tokens pruned from their end, and so does the walk over their
positions from the last to the first. The names that go are those of the directives that go, in
their order. No such directive is left, so that there is nothing to prune again. In a text each of
these directives goes with the whitespace directly behind it, and nothing else does.
-/
theorem prune_swept (policy : ExtensionPolicy) (tokens : List Token)
    : policy.prune tokens = policy.pruneFromEnd tokens
      ∧ policy.walk tokens = ⟨policy.prune tokens, policy.pruned tokens⟩
      ∧ policy.pruned tokens = (tokens.filter policy.isObsolete).filterMap Token.extension?
      ∧ (∀ token ∈ policy.prune tokens, policy.isObsolete token = false)
      ∧ policy.prune (policy.prune tokens) = policy.prune tokens
      ∧ policy.pruned (policy.prune tokens) = []
      ∧ ∀ source, policy.prune (lex source) = policy.stayingBehind none (lex source) := by
  have left : ∀ token ∈ policy.prune tokens, policy.isObsolete token = false :=
    fun token => isObsolete_of_mem_prune
  have unnamed : policy.pruned (policy.prune tokens) = [] := by
    rw [pruned_eq_filterMap, List.filter_eq_nil_iff.mpr (by simpa using left), List.filterMap_nil]
  refine ⟨prune_eq_pruneFromEnd policy tokens, walk_eq policy tokens,
    pruned_eq_filterMap policy tokens, left, prune_eq_self left, unnamed, ?_⟩
  intro source
  exact pruneAfter_eq_stayingBehind none rfl (by simp)

/-- Each of two directives in a row takes one of the whitespace tokens that follow. -/
example
    : ExtensionPolicy.standard.prune
        [ enabling "GL_EXT_frag_depth", enabling "GL_EXT_draw_buffers", .newline,
          ⟨.whitespace, "  "⟩, ⟨.whitespace, "\t"⟩, enabling "GL_OES_texture_3D" ]
      = [⟨.whitespace, "\t"⟩, enabling "GL_OES_texture_3D"] := by
  decide +kernel

end ShaderUplift.ExtensionPolicy
