import ShaderUplift.Declaration.Placement
import ShaderUplift.Output.Declaration
import ShaderUplift.Proofs.Text.Run

/-! Declarations that are placed one after another.
The prologue ends before the place of the first declaration, so nothing that is put there moves
it. Every further declaration stands directly before the one that was placed last.
-/

namespace ShaderUplift

/-- A step that may fail has a result exactly if its parts have. -/
theorem bind_eq_ok_iff {α β : Type} {first : Except Failure α} {next : α → Except Failure β}
    {result : β}
    : (first >>= next) = .ok result ↔ ∃ value, first = .ok value ∧ next value = .ok result := by
  cases first with
  | error failure => simp [bind, Except.bind]
  | ok value => simp [bind, Except.bind]

/-- A step that may fail fails exactly if one of its parts does. -/
theorem bind_eq_error_iff {α β : Type} {first : Except Failure α} {next : α → Except Failure β}
    {failure : Failure}
    : (first >>= next) = .error failure
      ↔ first = .error failure ∨ ∃ value, first = .ok value ∧ next value = .error failure := by
  cases first with
  | error other => simp [bind, Except.bind]
  | ok value => simp [bind, Except.bind]

/-- A cut of a list at one of its items lies before or behind any other cut. -/
theorem append_eq_append_cons {α : Type} {front back before after : List α} {item : α}
    (split : front ++ back = before ++ item :: after)
    : (∃ late, front = before ++ item :: late ∧ after = late ++ back)
      ∨ ∃ early, before = front ++ early ∧ back = early ++ item :: after := by
  rcases List.append_eq_append_iff.mp split with ⟨early, rfl, behind⟩ | ⟨late, rfl, behind⟩
  · exact Or.inr ⟨early, rfl, behind⟩
  · cases late with
    | nil => exact Or.inr ⟨[], by simp, behind.symm⟩
    | cons first late =>
        obtain ⟨rfl, rfl⟩ := List.cons.inj behind
        exact Or.inl ⟨late, rfl, rfl⟩

namespace Declaration

-----------------------------------------------------------------------------------------
-- The prologue and what comes behind it
-----------------------------------------------------------------------------------------

/-- A token that does not belong to the prologue on its own. -/
def IsFree (token : Token) : Prop :=
  token.isLeadingDirective = false ∧ token.isKeyword "precision" = false

theorem claim_of_isFree {token : Token} (free : IsFree token) (rest : List Token)
    : claim token rest = .ok 0 := by
  simp [claim, free.1, free.2]

/-- The prologue of `token :: rest` spans what its first token claims, and the later claims. -/
theorem prologueLength_cons_eq_ok_iff {token : Token} {rest : List Token} {length : Nat}
    : prologueLength (token :: rest) = .ok length
      ↔ ∃ own later,
          claim token rest = .ok own ∧ prologueLength rest = .ok later
          ∧ length = max own (if later = 0 then 0 else later + 1) := by
  simp only [prologueLength, bind_eq_ok_iff]
  constructor
  · rintro ⟨own, claimed, later, read, result⟩
    cases result
    exact ⟨own, later, claimed, read, rfl⟩
  · rintro ⟨own, later, claimed, read, rfl⟩
    exact ⟨own, claimed, later, read, rfl⟩

theorem prologueLength_append_of_isFree {front back : List Token}
    (free : ∀ token ∈ front, IsFree token) (none : prologueLength back = .ok 0)
    : prologueLength (front ++ back) = .ok 0 := by
  induction front with
  | nil => exact none
  | cons token front ih =>
      rw [List.cons_append, prologueLength_cons_eq_ok_iff]
      exact ⟨0, 0, claim_of_isFree (free token (by simp)) _,
        ih (fun other member => free other (List.mem_cons_of_mem _ member)), rfl⟩

/-- What a token claims among the tokens before some point it also claims when others follow. -/
theorem claim_append {token : Token} {front back other : List Token} {own : Nat}
    (claimed : claim token (front ++ back) = .ok own) (inside : own ≤ front.length + 1)
    : claim token (front ++ other) = .ok own := by
  simp only [claim] at claimed ⊢
  split at claimed
  · rename_i leading
    rw [if_pos leading]
    exact claimed
  · rename_i notLeading
    rw [if_neg notLeading]
    split at claimed
    · rename_i precision
      rw [if_pos precision]
      rw [List.findIdx?_append] at claimed ⊢
      cases ends : front.findIdx? endsStatement with
      | some between => simpa [ends] using claimed
      | none =>
          cases later : back.findIdx? endsStatement with
          | none => simp [ends, later] at claimed
          | some between =>
              simp only [ends, later, Option.map_some, Option.none_or, Except.ok.injEq] at claimed
              omega
    · rename_i notPrecision
      rw [if_neg notPrecision]
      exact claimed

/-- A prologue that ends before some point is the same when other tokens that do not extend it
follow there, by induction on the tokens before the point. -/
theorem prologueLength_append {before after other : List Token} {length : Nat}
    (read : prologueLength (before ++ after) = .ok length) (inside : length ≤ before.length)
    (none : prologueLength other = .ok 0)
    : prologueLength (before ++ other) = .ok length := by
  induction before generalizing length with
  | nil =>
      rw [List.nil_append, none, Nat.le_zero.mp inside]
  | cons token before ih =>
      rw [List.cons_append, prologueLength_cons_eq_ok_iff] at read ⊢
      obtain ⟨own, later, claimed, laterRead, rfl⟩ := read
      rw [List.length_cons] at inside
      have ownInside : own ≤ before.length + 1 := Nat.le_trans (Nat.le_max_left ..) inside
      have laterInside : later ≤ before.length := by
        have bound := Nat.le_trans (Nat.le_max_right own _) inside
        split at bound <;> omega
      exact ⟨own, later, claim_append claimed ownInside, ih laterRead laterInside, rfl⟩

/-- Behind a prologue nothing claims to belong to it. -/
theorem prologueLength_after {before after : List Token} {length : Nat}
    (read : prologueLength (before ++ after) = .ok length) (inside : length ≤ before.length)
    : prologueLength after = .ok 0 := by
  induction before generalizing length with
  | nil => rw [← Nat.le_zero.mp inside, ← read, List.nil_append]
  | cons token before ih =>
      rw [List.cons_append, prologueLength_cons_eq_ok_iff] at read
      obtain ⟨own, later, -, laterRead, rfl⟩ := read
      rw [List.length_cons] at inside
      have laterInside : later ≤ before.length := by
        have bound := Nat.le_trans (Nat.le_max_right own _) inside
        split at bound <;> omega
      exact ih laterRead laterInside

/-- No prologue reaches beyond the tokens. -/
theorem prologueLength_le {tokens : List Token} {length : Nat}
    (read : prologueLength tokens = .ok length)
    : length ≤ tokens.length := by
  induction tokens generalizing length with
  | nil =>
      cases read
      exact Nat.le_refl _
  | cons token rest ih =>
      rw [prologueLength_cons_eq_ok_iff] at read
      obtain ⟨own, later, claimed, laterRead, rfl⟩ := read
      have laterInside := ih laterRead
      have ownInside : own ≤ rest.length + 1 := by
        unfold claim at claimed
        split at claimed
        · cases claimed
          exact Nat.succ_le_succ (Nat.zero_le _)
        · split at claimed
          · split at claimed
            · rename_i between ends
              cases claimed
              have bound := (List.findIdx?_eq_some_iff_findIdx_eq.mp ends).1
              omega
            · cases claimed
          · cases claimed
            exact Nat.zero_le _
      rw [List.length_cons]
      split <;> omega

-----------------------------------------------------------------------------------------
-- The gap that declarations are put into
-----------------------------------------------------------------------------------------

/-- Declarations are put between `skipped` and `after`, behind a prologue. -/
structure Gap (prologue skipped after : List Token) : Prop where
  ends : prologueLength (prologue ++ (skipped ++ after)) = .ok prologue.length
  skips : ∀ token ∈ skipped, isSkipped token = true
  stops : ∀ token ∈ after.head?, isSkipped token = false

/-- The site of a declaration cuts the tokens at a gap. -/
theorem exists_gap {tokens : List Token} {length : Nat} (found : site tokens = .ok length)
    : ∃ prologue skipped after,
        tokens = prologue ++ (skipped ++ after) ∧ length = (prologue ++ skipped).length
        ∧ Gap prologue skipped after := by
  rw [site, bind_eq_ok_iff] at found
  obtain ⟨prologue, ends, result⟩ := found
  cases result
  have inside := prologueLength_le ends
  obtain ⟨split, skips, stops⟩ := isRun_takeWhile isSkipped (tokens.drop prologue)
  have cut : tokens
      = tokens.take prologue
        ++ ((tokens.drop prologue).takeWhile isSkipped
          ++ (tokens.drop prologue).dropWhile isSkipped) := by
    rw [← split, List.take_append_drop]
  refine ⟨_, _, _, cut, ?_, ?_, skips, stops⟩
  · rw [List.length_append, List.length_take, Nat.min_eq_left inside]
  · rw [← cut, ends, List.length_take, Nat.min_eq_left inside]

theorem Gap.site {prologue skipped after : List Token} (gap : Gap prologue skipped after)
    : site (prologue ++ (skipped ++ after)) = .ok (prologue ++ skipped).length := by
  have passed : (skipped ++ after).takeWhile isSkipped = skipped :=
    IsRun.takeWhile_eq ⟨rfl, gap.skips, gap.stops⟩
  rw [Declaration.site, gap.ends]
  simp [bind, Except.bind, pure, Except.pure, passed]

theorem Gap.place {prologue skipped after : List Token} (gap : Gap prologue skipped after)
    (declaration : List Token)
    : place (prologue ++ (skipped ++ after)) declaration
      = .ok (between (prologue ++ skipped) declaration after) := by
  rw [Declaration.place, gap.site]
  simp only [← List.append_assoc, bind, Except.bind, pure, Except.pure, List.take_left,
    List.drop_left]

-----------------------------------------------------------------------------------------
-- Declarations in one gap
-----------------------------------------------------------------------------------------

/-- Tokens that a later declaration is put in front of: their first one is a visible part of a
line, and none belongs to the prologue. -/
structure Halts (tokens : List Token) : Prop where
  free : ∀ token ∈ tokens, IsFree token
  first
    : ∃ token rest,
        tokens = token :: rest ∧ isSkipped token = false ∧ token.startsWithBreak = false

theorem isFree_newline
    : IsFree .newline := by
  constructor <;> decide

theorem endsWithBreak_newline
    : Token.endsWithBreak .newline = true := by
  decide

theorem startsWithBreak_newline
    : Token.startsWithBreak .newline = true := by
  decide

theorem eq_newline_of_mem_leadingBreak {before : List Token} {token : Token}
    (member : token ∈ leadingBreak before)
    : token = .newline := by
  unfold leadingBreak at member
  split at member
  · cases member
  · exact List.mem_singleton.mp member

theorem eq_newline_of_mem_trailingBreak {after : List Token} {token : Token}
    (member : token ∈ trailingBreak after)
    : token = .newline := by
  unfold trailingBreak at member
  split at member
  · cases member
  · exact List.mem_singleton.mp member

/-- Behind the line break before a declaration no further one is needed. -/
theorem leadingBreak_append_leadingBreak (before : List Token)
    : leadingBreak (before ++ leadingBreak before) = [] := by
  by_cases ended : before.getLast?.all Token.endsWithBreak = true
  · simp [leadingBreak, ended]
  · simp [leadingBreak, ended, endsWithBreak_newline]

theorem Halts.trailingBreak_append {placed : List Token} (halts : Halts placed)
    (rest : List Token)
    : trailingBreak (placed ++ rest) = [.newline] := by
  obtain ⟨token, back, rfl, -, unbroken⟩ := halts.first
  simp [trailingBreak, unbroken]

theorem Halts.append {placed : List Token} (halts : Halts placed) {rest : List Token}
    (free : ∀ token ∈ rest, IsFree token)
    : Halts (placed ++ rest) where
  free := by
    intro token member
    rcases List.mem_append.mp member with member | member
    · exact halts.free token member
    · exact free token member
  first := by
    obtain ⟨token, back, rfl, visible⟩ := halts.first
    exact ⟨token, back ++ rest, rfl, visible⟩

/-- Once a declaration stands in a gap, the gap ends directly before it. -/
theorem Gap.declared {prologue skipped after : List Token} (gap : Gap prologue skipped after)
    (lead : List Token) {placed : List Token} (trail : List Token)
    (leads : ∀ token ∈ lead, token = .newline) (halts : Halts placed)
    (trails : ∀ token ∈ trail, token = .newline)
    : Gap prologue (skipped ++ lead) (placed ++ (trail ++ after)) where
  ends := by
    apply prologueLength_append gap.ends (Nat.le_refl _)
    have behind := prologueLength_after gap.ends (Nat.le_refl _)
    have none := prologueLength_after behind (Nat.zero_le skipped.length)
    have trailed := prologueLength_append_of_isFree
      (fun token member => trails token member ▸ isFree_newline) none
    have held := prologueLength_append_of_isFree halts.free trailed
    have led := prologueLength_append_of_isFree
      (fun token member => leads token member ▸ isFree_newline) held
    rw [List.append_assoc]
    exact prologueLength_append behind (Nat.zero_le _) led
  skips := by
    intro token member
    rcases List.mem_append.mp member with member | member
    · exact gap.skips token member
    · rw [leads token member]
      decide
  stops := by
    obtain ⟨token, back, rfl, visible, -⟩ := halts.first
    intro other first
    rw [List.cons_append, List.head?_cons, Option.mem_def, Option.some.injEq] at first
    rwa [← first]

/-- Behind the first part every part follows a separator, by induction on the parts. -/
theorem intercalate_cons (separator first : List Token) (parts : List (List Token))
    : separator.intercalate (first :: parts) = first ++ parts.flatMap (separator ++ ·) := by
  induction parts generalizing first with
  | nil => rw [List.intercalate_singleton, List.flatMap_nil, List.append_nil]
  | cons next parts ih =>
      rw [List.intercalate_cons_cons, ih, List.flatMap_cons, List.append_assoc, List.append_assoc]

theorem intercalate_append_pair {separator front back : List Token} (others : List (List Token))
    : separator.intercalate (others ++ [front, back])
      = separator.intercalate (others ++ [front ++ separator ++ back]) := by
  cases others with
  | nil => simp
  | cons other others =>
      rw [List.cons_append, List.cons_append, intercalate_cons, intercalate_cons]
      simp

theorem mem_intercalate {separator : List Token} {token : Token} {parts : List (List Token)}
    (member : token ∈ separator.intercalate parts)
    : token ∈ separator ∨ ∃ part ∈ parts, token ∈ part := by
  cases parts with
  | nil => cases member
  | cons first parts =>
      rw [intercalate_cons, List.mem_append, List.mem_flatMap] at member
      rcases member with inFirst | ⟨part, isPart, inPart⟩
      · exact Or.inr ⟨first, List.mem_cons_self, inFirst⟩
      · apply (List.mem_append.mp inPart).imp_right
        intro inPart
        exact ⟨part, List.mem_cons_of_mem _ isPart, inPart⟩

/-- What drops the separators keeps the same of the parts as of the parts by themselves. -/
theorem filter_intercalate {separator : List Token} {keep : Token → Bool}
    (dropped : ∀ token ∈ separator, keep token = false) (parts : List (List Token))
    : (separator.intercalate parts).filter keep = parts.flatten.filter keep := by
  cases parts with
  | nil => rfl
  | cons first parts =>
      have none : separator.filter keep = [] := by
        rw [List.filter_eq_nil_iff]
        intro token member
        simp [dropped token member]
      rw [intercalate_cons, List.flatten_cons, List.filter_append, List.filter_append,
        List.filter_flatMap, List.filter_flatten]
      simp [none, List.flatMap]

/-- Declarations are put before one that stands in the gap already, by induction on them. -/
theorem Gap.placeAll_before {prologue skipped placed rest : List Token}
    (gap : Gap prologue skipped (placed ++ rest)) (halts : Halts placed)
    (broken : leadingBreak (prologue ++ skipped) = []) {declarations : List (List Token)}
    (each : ∀ declaration ∈ declarations, Halts declaration)
    : placeAll (prologue ++ (skipped ++ (placed ++ rest))) declarations
      = .ok
          (prologue ++ skipped
            ++ [Token.newline].intercalate (declarations.reverse ++ [placed]) ++ rest) := by
  induction declarations generalizing placed with
  | nil => simp [placeAll]
  | cons declaration declarations ih =>
      have halted := each declaration (by simp)
      have free : ∀ token ∈ Token.newline :: placed, IsFree token := by
        intro token member
        rcases List.mem_cons.mp member with rfl | member
        · exact isFree_newline
        · exact halts.free token member
      have moved : Gap prologue skipped (declaration ++ (Token.newline :: placed) ++ rest) := by
        have next := gap.declared [] [.newline] (by simp) halted (by simp)
        simpa using next
      have later := ih moved (halted.append free)
        (fun other member => each other (List.mem_cons_of_mem _ member))
      rw [placeAll, gap.place, between, broken, halts.trailingBreak_append]
      simp only [bind, Except.bind]
      have same : prologue ++ skipped ++ [] ++ declaration ++ [Token.newline] ++ (placed ++ rest)
          = prologue ++ (skipped ++ (declaration ++ Token.newline :: placed ++ rest)) := by
        simp
      rw [same, later, List.reverse_cons, List.append_assoc declarations.reverse,
        List.singleton_append, intercalate_append_pair]
      simp

/-- What declarations become in a gap: the last one stands first, each on a line of its own. -/
def stacked (before : List Token) (declarations : List (List Token)) (after : List Token)
    : List Token :=
  if declarations = [] then []
  else
    leadingBreak before ++ [Token.newline].intercalate declarations.reverse ++ trailingBreak after

/-- What drops line breaks keeps nothing but the declarations of what is put into a gap. -/
theorem filter_stacked {keep : Token → Bool} (dropped : keep .newline = false)
    (before : List Token) (declarations : List (List Token)) (after : List Token)
    : (stacked before declarations after).filter keep
      = declarations.reverse.flatten.filter keep := by
  have leading : (leadingBreak before).filter keep = [] := by
    unfold leadingBreak
    split <;> simp [dropped]
  have trailing : (trailingBreak after).filter keep = [] := by
    unfold trailingBreak
    split <;> simp [dropped]
  unfold stacked
  split
  · rename_i none
    rw [none]
    rfl
  · rw [List.filter_append, List.filter_append, leading, trailing,
      filter_intercalate (by simpa using dropped), List.nil_append, List.append_nil]

/-- Declarations that are placed one after another stack up in the gap that the first one finds.
-/
theorem Gap.placeAll {prologue skipped after : List Token} (gap : Gap prologue skipped after)
    {declarations : List (List Token)} (each : ∀ declaration ∈ declarations, Halts declaration)
    : placeAll (prologue ++ (skipped ++ after)) declarations
      = .ok (prologue ++ skipped ++ stacked (prologue ++ skipped) declarations after ++ after) := by
  cases declarations with
  | nil => simp [Declaration.placeAll, stacked]
  | cons declaration declarations =>
      have halted := each declaration (by simp)
      have moved := gap.declared (leadingBreak (prologue ++ skipped)) (trailingBreak after)
        (fun _ => eq_newline_of_mem_leadingBreak) halted
        (fun _ => eq_newline_of_mem_trailingBreak)
      have broken
          : leadingBreak (prologue ++ (skipped ++ leadingBreak (prologue ++ skipped))) = [] := by
        rw [← List.append_assoc, leadingBreak_append_leadingBreak]
      have all := moved.placeAll_before halted broken
        (fun other member => each other (List.mem_cons_of_mem _ member))
      have first : (between (prologue ++ skipped) declaration after).tokens
          = prologue ++ (skipped ++ leadingBreak (prologue ++ skipped)
            ++ (declaration ++ (trailingBreak after ++ after))) := by
        simp [between]
      rw [Declaration.placeAll, gap.place]
      simp only [bind, Except.bind]
      rw [first, all, stacked, if_neg (by simp), List.reverse_cons]
      simp only [List.append_assoc]

/-- Placed declarations stand in one gap. -/
theorem exists_stacked {tokens result : List Token} {declarations : List (List Token)}
    (each : ∀ declaration ∈ declarations, Halts declaration)
    (placed : placeAll tokens declarations = .ok result)
    : ∃ before after,
        tokens = before ++ after ∧ result = before ++ stacked before declarations after ++ after
        ∧ (declarations ≠ []
            → ∃ prologue skipped,
                before = prologue ++ skipped ∧ Gap prologue skipped after) := by
  cases declarations with
  | nil =>
      cases placed
      exact ⟨[], tokens, rfl, rfl, fun some => absurd rfl some⟩
  | cons declaration declarations =>
      have found := placed
      rw [placeAll, bind_eq_ok_iff] at found
      obtain ⟨placement, found, -⟩ := found
      rw [place, bind_eq_ok_iff] at found
      obtain ⟨length, found, -⟩ := found
      obtain ⟨prologue, skipped, after, rfl, -, gap⟩ := exists_gap found
      rw [gap.placeAll each, Except.ok.injEq] at placed
      exact ⟨prologue ++ skipped, after, (List.append_assoc ..).symm, placed.symm,
        fun _ => ⟨prologue, skipped, rfl, gap⟩⟩

-----------------------------------------------------------------------------------------
-- The declarations of outputs
-----------------------------------------------------------------------------------------

/-- An output is declared on a line that later declarations can stand before. -/
theorem halts_outDeclaration {type : String} (proper : type ≠ "precision") (name : String)
    : Halts (outDeclaration name type) where
  free := by
    intro token member
    simp only [outDeclaration, List.mem_cons, List.not_mem_nil, or_false] at member
    rcases member with rfl | rfl | rfl | rfl | rfl | rfl
    all_goals simp [IsFree, Token.isLeadingDirective, Token.isKeyword, proper]
  first := ⟨_, _, rfl, rfl, by decide⟩

theorem halts_declaration (output : FragmentOutput)
    : Halts output.declaration := by
  refine halts_outDeclaration ?_ _
  cases output <;> decide

theorem halts_declarations (outputs : List FragmentOutput)
    : ∀ declaration ∈ outputs.map FragmentOutput.declaration, Halts declaration := by
  intro declaration member
  obtain ⟨output, -, rfl⟩ := List.mem_map.mp member
  exact halts_declaration output

/-- The first declaration in a gap stands directly behind the line break that it needs. -/
theorem exists_stacked_eq {outputs : List FragmentOutput} (some : outputs ≠ [])
    (before after : List Token)
    : ∃ (output : FragmentOutput) (rest : List Token),
        stacked before (outputs.map FragmentOutput.declaration) after
          = leadingBreak before ++ (output.declaration ++ rest) := by
  obtain ⟨output, others, reverse⟩ := List.exists_cons_of_ne_nil (List.reverse_ne_nil_iff.mpr some)
  rw [stacked, if_neg (by simpa using some), ← List.map_reverse, reverse, List.map_cons,
    intercalate_cons]
  simp only [List.append_assoc]
  exact ⟨output, _, rfl⟩

/-- Line breaks and declarations are all that is put into a gap. -/
theorem mem_stacked {outputs : List FragmentOutput} {before after : List Token} {token : Token}
    (member : token ∈ stacked before (outputs.map FragmentOutput.declaration) after)
    : token = .newline ∨ ∃ output : FragmentOutput, token ∈ output.declaration := by
  unfold stacked at member
  split at member
  · cases member
  · rw [List.mem_append, List.mem_append] at member
    rcases member with (leading | declared) | trailing
    · exact Or.inl (eq_newline_of_mem_leadingBreak leading)
    · rcases mem_intercalate declared with separator | ⟨part, isPart, inPart⟩
      · exact Or.inl (List.mem_singleton.mp separator)
      · obtain ⟨output, -, rfl⟩ := List.mem_map.mp (List.mem_reverse.mp isPart)
        exact Or.inr ⟨output, inPart⟩
    · exact Or.inl (eq_newline_of_mem_trailingBreak trailing)

end Declaration

end ShaderUplift
