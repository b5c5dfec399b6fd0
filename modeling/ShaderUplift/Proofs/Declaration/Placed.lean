import ShaderUplift.Proofs.Declaration.Unended
import ShaderUplift.Token.Lex

/-! Declarations that are put into tokens on the spot.
The tokens are changed by up to three splices, each at a place that the one before has moved. The
site is found before any of them, so that a failure leaves the tokens as they were.
-/

namespace ShaderUplift.Declaration

-----------------------------------------------------------------------------------------
-- Line breaks around a declaration
-----------------------------------------------------------------------------------------

/-- A line break is put in exactly if one is lacking. -/
def IsPadding (lacking : Prop) (padding : List Token) : Prop :=
  lacking ∧ padding = [.newline] ∨ ¬lacking ∧ padding = []

/-- What stands before a declaration ends a line, and what comes after it begins one. Line breaks
are put in for that where they are lacking, and nowhere else.
-/
structure OnOwnLine (before leading trailing after : List Token) : Prop where
  leads : IsPadding (∃ token ∈ before.getLast?, token.endsWithBreak = false) leading
  ended : ∀ token ∈ (before ++ leading).getLast?, token.endsWithBreak = true
  trails : IsPadding (∃ token ∈ after.head?, token.startsWithBreak = false) trailing
  begun : ∀ token ∈ (trailing ++ after).head?, token.startsWithBreak = true

/-- One token at most stands next to a declaration, and decides whether a line break is lacking. -/
theorem isPadding_ite (beside : Option Token) (breaks : Token → Bool)
    : IsPadding (∃ token ∈ beside, breaks token = false)
        (if beside.all breaks then [] else [.newline]) := by
  cases beside with
  | none => exact Or.inr (by simp)
  | some token =>
      cases broken : breaks token with
      | false => exact Or.inl (by simp [broken])
      | true => exact Or.inr (by simp [broken])

theorem onOwnLine_breaks (before after : List Token)
    : OnOwnLine before (leadingBreak before) (trailingBreak after) after := by
  have leads := isPadding_ite before.getLast? Token.endsWithBreak
  have trails := isPadding_ite after.head? Token.startsWithBreak
  refine ⟨leads, ?_, trails, ?_⟩
  · rcases leads with ⟨-, broken⟩ | ⟨complete, unbroken⟩
    · intro token last
      rw [leadingBreak, broken, List.getLast?_concat] at last
      exact Option.some.inj last ▸ endsWithBreak_newline
    · rw [leadingBreak, unbroken, List.append_nil]
      simpa using complete
  · rcases trails with ⟨-, broken⟩ | ⟨complete, unbroken⟩
    · intro token first
      rw [trailingBreak, broken, List.singleton_append, List.head?_cons] at first
      exact Option.some.inj first ▸ startsWithBreak_newline
    · rw [trailingBreak, unbroken, List.nil_append]
      simpa using complete

-----------------------------------------------------------------------------------------
-- Changing tokens on the spot
-----------------------------------------------------------------------------------------

/-- A change of tokens on the spot. If it fails then the tokens stay as they are by then. -/
abbrev Edit := EStateM Failure (List Token)

/-- Tokens with others put in at a place. -/
def spliced (tokens : List Token) (place : Nat) (others : List Token) : List Token :=
  tokens.take place ++ others ++ tokens.drop place

/-- The site of a declaration among the tokens. -/
def findSite : Edit Nat := do
  match site (← get) with
  | .ok place => return place
  | .error failure => throw failure

/-- Ends the line before a place, unless it is ended already. The answer is where the next line
begins.
-/
def endLine (place : Nat) : Edit Nat :=
  modifyGet fun tokens =>
    if 0 < place ∧ tokens[place - 1]?.any fun token => !token.endsWithBreak then
      (place + 1, spliced tokens place [.newline])
    else (place, tokens)

/-- Begins a line at a place, unless one begins there already. -/
def beginLine (place : Nat) : Edit Unit :=
  modify fun tokens =>
    if tokens[place]?.any fun token => !token.startsWithBreak then
      spliced tokens place [.newline]
    else tokens

/-- Puts a declaration in, and answers where it begins. -/
def insertOnSpot (declaration : List Token) : Edit Nat := do
  let start ← endLine (← findSite)
  modify (spliced · start declaration)
  beginLine (start + declaration.length)
  return start

/-- Puts declarations in, one after another. -/
def insertAllOnSpot : (declarations : List (List Token)) → Edit Unit
  | [] => return
  | declaration :: rest => do
      let _ ← insertOnSpot declaration
      insertAllOnSpot rest

theorem spliced_append (before others after : List Token)
    : spliced (before ++ after) before.length others = before ++ others ++ after := by
  rw [spliced, List.take_left, List.drop_left]

theorem run_findSite (tokens : List Token)
    : findSite.run tokens
      = match site tokens with
        | .ok place => .ok place tokens
        | .error failure => .error failure tokens := by
  simp only [findSite, EStateM.run_bind, EStateM.run_get]
  cases site tokens <;> rfl

theorem run_endLine (before after : List Token)
    : (endLine before.length).run (before ++ after)
      = .ok (before ++ leadingBreak before).length (before ++ leadingBreak before ++ after) := by
  rw [endLine, EStateM.run_modifyGet, spliced_append]
  rcases List.eq_nil_or_concat before with rfl | ⟨front, token, rfl⟩
  · simp [leadingBreak]
  · cases ended : token.endsWithBreak <;> simp [leadingBreak, ended]

theorem run_beginLine (before after : List Token)
    : (beginLine before.length).run (before ++ after)
      = .ok () (before ++ trailingBreak after ++ after) := by
  rw [beginLine, EStateM.run_modify, spliced_append]
  cases after with
  | nil => simp [trailingBreak]
  | cons token after => cases begun : token.startsWithBreak <;> simp [trailingBreak, begun]

/-- A declaration is placed where the tokens are cut by its site. -/
theorem place_of_site {before after : List Token}
    (found : site (before ++ after) = .ok before.length) (declaration : List Token)
    : place (before ++ after) declaration = .ok (between before declaration after) := by
  simp only [place, found, bind, Except.bind, pure, Except.pure, List.take_left, List.drop_left]

theorem place_of_error {tokens : List Token} {failure : Failure}
    (found : site tokens = .error failure) (declaration : List Token)
    : place tokens declaration = .error failure := by
  rw [place, found]
  rfl

/-- The site of a declaration cuts the tokens. -/
theorem exists_cut {tokens : List Token} {place : Nat} (found : site tokens = .ok place)
    : ∃ before after, tokens = before ++ after ∧ before.length = place := by
  obtain ⟨prologue, skipped, after, rfl, rfl, -⟩ := exists_gap found
  exact ⟨prologue ++ skipped, after, (List.append_assoc ..).symm, rfl⟩

/-- Each splice leaves the tokens cut where the next one takes place. -/
theorem run_insertOnSpot_of_site {before after : List Token}
    (found : site (before ++ after) = .ok before.length) (declaration : List Token)
    : (insertOnSpot declaration).run (before ++ after)
      = .ok (between before declaration after).start
          (between before declaration after).tokens := by
  have started := run_endLine before after
  have put := spliced_append (before ++ leadingBreak before) declaration after
  have begun := run_beginLine (before ++ leadingBreak before ++ declaration) after
  rw [List.length_append] at begun
  simp only [insertOnSpot, EStateM.run_bind, run_findSite, found, started, EStateM.run_modify, put,
    begun, EStateM.run_pure]
  rw [between, List.length_append]

/-- Putting a declaration in on the spot is placing it. A failure changes nothing. -/
theorem run_insertOnSpot (tokens declaration : List Token)
    : (insertOnSpot declaration).run tokens
      = match place tokens declaration with
        | .ok placement => .ok placement.start placement.tokens
        | .error failure => .error failure tokens := by
  cases found : site tokens with
  | error failure =>
      simp only [insertOnSpot, EStateM.run_bind, run_findSite, found, place_of_error found]
  | ok place =>
      obtain ⟨before, after, rfl, rfl⟩ := exists_cut found
      rw [run_insertOnSpot_of_site found, place_of_site found]

/-- A declaration is refused exactly if a precision statement is never ended, and then the tokens
stay as they are. Otherwise it is put in on a line of its own where its site cuts them, and all
that comes with it are the line breaks that are lacking around it.
-/
theorem place_on_own_line (tokens declaration : List Token)
    : (Unended tokens
        ∧ place tokens declaration = .error .missingSemicolon
        ∧ (insertOnSpot declaration).run tokens = .error .missingSemicolon tokens)
      ∨ ¬Unended tokens
        ∧ ∃ before leading trailing after result start,
            tokens = before ++ after
            ∧ site tokens = .ok before.length
            ∧ OnOwnLine before leading trailing after
            ∧ result = before ++ leading ++ declaration ++ trailing ++ after
            ∧ start = (before ++ leading).length
            ∧ place tokens declaration = .ok ⟨result, start⟩
            ∧ (insertOnSpot declaration).run tokens = .ok start result := by
  by_cases unended : Unended tokens
  · have refused := place_of_error (site_eq_error_iff.mpr ⟨unended, rfl⟩) declaration
    exact Or.inl ⟨unended, refused, by rw [run_insertOnSpot, refused]⟩
  · obtain ⟨place, found⟩ := exists_site_iff.mpr unended
    obtain ⟨before, after, rfl, rfl⟩ := exists_cut found
    refine
      Or.inr
        ⟨unended, before, leadingBreak before, trailingBreak after, after, _, _, rfl, found,
          onOwnLine_breaks before after, rfl, rfl, ?_, ?_⟩
    · rw [place_of_site found, between, List.length_append]
    · rw [run_insertOnSpot_of_site found, between, List.length_append]

/-- A declaration without tokens still has the line break put in that would follow it. -/
example : place [⟨.identifier, "a"⟩] [] = .ok ⟨[.newline, ⟨.identifier, "a"⟩], 0⟩ := by
  decide

-----------------------------------------------------------------------------------------
-- Declarations one after another
-----------------------------------------------------------------------------------------

/-- Putting declarations in on the spot is placing them, by induction on them. -/
theorem run_insertAllOnSpot {tokens result : List Token} {declarations : List (List Token)}
    (placed : placeAll tokens declarations = .ok result)
    : (insertAllOnSpot declarations).run tokens = .ok () result := by
  induction declarations generalizing tokens with
  | nil =>
      cases placed
      rfl
  | cons declaration rest ih =>
      rw [placeAll, bind_eq_ok_iff] at placed
      obtain ⟨placement, first, others⟩ := placed
      simp only [insertAllOnSpot, EStateM.run_bind, run_insertOnSpot, first]
      exact ih others

/-- Declarations of outputs, which are pairs of a name and a type, stack up at the site of the first
one. Each is put in where the one before it begins, and a line break parts the two. Around all of
them line breaks are put in where they are lacking.
-/
theorem placeAll_stacked {tokens : List Token} {place : Nat} {outputs : List (String × String)}
    (found : site tokens = .ok place) (some : outputs ≠ [])
    (proper : ∀ output ∈ outputs, output.2 ≠ "precision")
    : ∃ before leading trailing after declarations result,
        tokens = before ++ after
        ∧ before.length = place
        ∧ OnOwnLine before leading trailing after
        ∧ declarations = outputs.map (fun output => outDeclaration output.1 output.2)
        ∧ result
          = before ++ leading ++ [Token.newline].intercalate declarations.reverse ++ trailing
            ++ after
        ∧ placeAll tokens declarations = .ok result
        ∧ (insertAllOnSpot declarations).run tokens = .ok () result := by
  obtain ⟨prologue, skipped, after, rfl, rfl, gap⟩ := exists_gap found
  have each : ∀ declaration ∈ outputs.map fun output => outDeclaration output.1 output.2,
      Halts declaration := by
    intro declaration member
    obtain ⟨output, isOutput, rfl⟩ := List.mem_map.mp member
    exact halts_outDeclaration (proper output isOutput) output.1
  have placed := gap.placeAll each
  rw [stacked, if_neg (by simpa using some)] at placed
  refine
    ⟨prologue ++ skipped, _, _, after, _, _, (List.append_assoc ..).symm, rfl,
      onOwnLine_breaks _ after, rfl, rfl, ?_, ?_⟩
  · rw [placed]
    simp only [List.append_assoc]
  · rw [run_insertAllOnSpot placed]
    simp only [List.append_assoc]

/-- Two outputs behind a precision statement that shares its line with other code. -/
theorem placeAll_stacked_behind_precision
    : site (lex "#version 150\nprecision lowp int;a") = .ok 8
      ∧ (∀ output ∈ [("unique_fragColor", "vec4"), ("unique_fragDepth", "float")],
          output.2 ≠ "precision")
      ∧ ∃ before leading trailing after declarations result,
          lex "#version 150\nprecision lowp int;a" = before ++ after
          ∧ before.length = 8
          ∧ OnOwnLine before leading trailing after
          ∧ declarations
            = [outDeclaration "unique_fragColor" "vec4", outDeclaration "unique_fragDepth" "float"]
          ∧ result
            = before ++ leading ++ [Token.newline].intercalate declarations.reverse ++ trailing
              ++ after
          ∧ placeAll (lex "#version 150\nprecision lowp int;a") declarations = .ok result
          ∧ (insertAllOnSpot declarations).run (lex "#version 150\nprecision lowp int;a")
            = .ok () result := by
  have found : site (lex "#version 150\nprecision lowp int;a") = .ok 8 := by decide +kernel
  have proper
      : ∀ output ∈ [("unique_fragColor", "vec4"), ("unique_fragDepth", "float")],
          output.2 ≠ "precision" := by
    decide
  exact ⟨found, proper, placeAll_stacked found (List.cons_ne_nil _ _) proper⟩

end ShaderUplift.Declaration
