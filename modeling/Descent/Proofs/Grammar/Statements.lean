/-
  Statements with recovery: every round passes a token, and just the programs go through clean.

  * `Statements.programs` is the language of the category sequences of programs.
  * `Statements.round_cases`: a round takes a statement, or it records a message and passes a token at least.
  * `Statements.runOn_statements`: so the loop ends at the end of the tokens, without a message if they make up a
    program, and `Statements.statements_budget`: it does not depend on its budget.
  * `Statements.parse_recovers`: what a parse and a strict parse of any tokens come to.
-/
import Descent.Grammar.Statements
import Descent.Proofs.Parsing.Execution
import Descent.Proofs.Parsing.Pipeline
import Descent.Proofs.Parsing.Recovery
import Mathlib.Computability.Language

namespace Descent.Statements

open Production
open scoped Computability

variable {s after : Session Int}

/-! ## Programs -/

/-- The categories of a statement. -/
def pattern : List String := ["LET", "IDENT", "EQUALS", "NUMBER", "SEMI"]

/-- The category sequences of programs: statements one after the other. -/
def programs : Language String := {pattern}∗

/-- The categories of tokens. -/
def categories (tokens : List (Token Int)) : List String := tokens.map (·.category)

/-- The lexemes of the identifiers among tokens. -/
def identifiers (tokens : List (Token Int)) : List String :=
  (tokens.filter (·.category == "IDENT")).map (·.lexeme)

/-- A program has no tokens, or a statement is in front of a program. -/
theorem mem_programs_iff {cats : List String} :
    cats ∈ programs ↔ cats = [] ∨ ∃ rest ∈ programs, cats = pattern ++ rest := by
  rw [programs, ← Language.one_add_self_mul_kstar_eq_kstar, Language.mem_add, Language.mem_one,
    Language.one_add_self_mul_kstar_eq_kstar, Language.mem_mul]
  refine or_congr_right ⟨?_, ?_⟩
  · rintro ⟨first, rfl, rest, hrest, rfl⟩
    exact ⟨rest, hrest, rfl⟩
  · rintro ⟨rest, hrest, rfl⟩
    exact ⟨pattern, rfl, rest, hrest, rfl⟩

theorem append_mem_programs {rest : List String} : pattern ++ rest ∈ programs ↔ rest ∈ programs := by
  rw [mem_programs_iff]
  refine ⟨fun h => ?_, fun h => .inr ⟨rest, h, rfl⟩⟩
  obtain hnil | ⟨rest', hrest', heq⟩ := h
  · cases hnil
  · rwa [List.append_cancel_left heq]

theorem notMem_programs {cats : List String} (hne : cats ≠ []) (h : ¬pattern <+: cats) :
    cats ∉ programs := by
  rw [mem_programs_iff, not_or]
  refine ⟨hne, ?_⟩
  rintro ⟨rest, -, rfl⟩
  exact h (List.prefix_append _ _)

/-! ## One round -/

/-- The name in the tokens of a statement. -/
def named : List (Token Int) → String
  | _ :: name :: _ => name.lexeme
  | _ => ""

/-- **A statement takes its five tokens**, or it records what is missing. -/
theorem reads_statement : Reads statement pattern named :=
  .consume fun _ => .consume fun _ => .consume fun _ => .consume fun _ => .consume fun _ => .pure _

theorem identifiers_append {front : List (Token Int)} (h : categories front = pattern)
    (rest : List (Token Int)) : identifiers (front ++ rest) = named front :: identifiers rest := by
  obtain ⟨a, front, rfl, ha, h⟩ := List.map_eq_cons_iff.1 h
  obtain ⟨b, front, rfl, hb, h⟩ := List.map_eq_cons_iff.1 h
  obtain ⟨c, front, rfl, hc, h⟩ := List.map_eq_cons_iff.1 h
  obtain ⟨d, front, rfl, hd, h⟩ := List.map_eq_cons_iff.1 h
  obtain ⟨e, front, rfl, he, h⟩ := List.map_eq_cons_iff.1 h
  obtain rfl := List.map_eq_nil_iff.1 h
  simp [identifiers, named, ha, hb, hc, hd, he]

/-- **Recovery passes a token** unless all are passed: it stops in front of a semicolon, which is then taken, or
further on. -/
theorem recovery_cases (s : Session Int) :
    ∃ n after, n ≤ s.cursor.remaining.length ∧ (s.cursor.atEnd = false → 0 < n) ∧
      ((do
        let _ ← Production.synchronize ["SEMI"]
        let _ ← Production.matchAny ["SEMI"]
        pure none) : Production Int (Option String)).runOn s = (.ok none, after) ∧
      after.cursor = s.cursor.forward n := by
  obtain ⟨hcursor, -⟩ := s.cursor.synchronize_eq ["SEMI"]
  have hle := s.cursor.distance_le ["SEMI"]
  generalize hskip : min Limits.recoveryScan (s.cursor.distance ["SEMI"]) = skip at hcursor
  have hskipped : ∃ mid, (Production.synchronize ["SEMI"]).runOn s =
      (.ok (s.cursor.synchronize ["SEMI"]).skipped, mid) ∧ mid.cursor = s.cursor.forward skip := ⟨_, rfl, hcursor⟩
  obtain ⟨mid, hfirst, hmid⟩ := hskipped
  rcases matchAny_cases ["SEMI"] mid with ⟨tok, after, -, hpasses, hmatch⟩ | ⟨hnot, hmatch⟩
  · refine ⟨skip + 1, after, ?_, fun _ => Nat.succ_pos _,
      (runOn_bind_ok hfirst).trans ((runOn_bind_ok hmatch).trans rfl), ?_⟩
    · have hlength := hpasses.length
      rw [hmid, Cursor.remaining_forward, List.length_drop, List.length_singleton] at hlength
      omega
    · rw [hpasses.cursor, hmid, Cursor.forward_forward, List.length_singleton]
  · refine ⟨skip, mid, by omega, fun hend => Nat.pos_of_ne_zero fun hzero => ?_,
      (runOn_bind_ok hfirst).trans ((runOn_bind_ok hmatch).trans rfl), hmid⟩
    -- with nothing skipped, a token is left and it is a semicolon
    have hlimit : Limits.recoveryScan = 1000 := rfl
    have hnone : s.cursor.distance ["SEMI"] = 0 := by omega
    obtain hatEnd | hcheck := Cursor.atEnd_or_checkAny_of_distance hnone
    · rw [hend] at hatEnd
      cases hatEnd
    · rw [hzero, Cursor.forward_zero] at hmid
      rw [hmid] at hnot
      rw [Cursor.checkAny_eq, Option.any_eq_true] at hcheck
      obtain ⟨tok, htok, hwanted⟩ := hcheck
      exact hnot tok htok (by simpa using hwanted)

/-- **A round takes a statement**, or it records a message and passes at least one token. -/
theorem round_cases (h : s.cursor.atEnd = false) :
    (∃ front after, categories front = pattern ∧ Passes s after front ∧
      round.runOn s = (.ok (some (named front)), after)) ∨
    (¬pattern <+: categories s.cursor.remaining ∧
      ∃ n message after, 0 < n ∧ n ≤ s.cursor.remaining.length ∧ round.runOn s = (.ok none, after) ∧
        after.cursor = (s.cursor.forward n).addError message) := by
  rcases reads_statement s with ⟨front, after, hcats, hpasses, hrun⟩ |
    ⟨hnot, n, message, e, mid, hn, hrecoverable, hrun, hmid⟩
  · exact .inl ⟨front, after, hcats, hpasses, (runOn_bind_ok (runOn_caught hrun)).trans rfl⟩
  · obtain ⟨k, after, hk, hpos, hskip, hafter⟩ := recovery_cases mid
    have hremaining : mid.cursor.remaining = s.cursor.remaining.drop n := by
      rw [hmid]
      exact s.cursor.remaining_forward n
    rw [hremaining, List.length_drop] at hk
    refine .inr ⟨hnot, n + k, message, after, ?_, by omega, ?_, ?_⟩
    · rcases Nat.eq_zero_or_pos n with rfl | hn
      · have hend : mid.cursor.atEnd = false := by
          rw [Cursor.atEnd_eq, hremaining, List.drop_zero, ← Cursor.atEnd_eq, h]
        exact Nat.lt_of_lt_of_le (hpos hend) (Nat.le_add_left _ _)
      · omega
    · refine (runOn_bind_ok (runOn_caught hrun)).trans ?_
      show (if e.recoverable then _ else _ : Production Int (Option String)).runOn mid = _
      rw [if_pos hrecoverable]
      exact hskip
    · rw [hafter, hmid, ← Cursor.forward_forward]
      rfl

/-! ## The loop -/

theorem runOn_statements_end (h : s.cursor.atEnd = true) (fuel : Nat) (names : List String) :
    (statements fuel names).runOn s = (.ok names.reverse, s) := by
  cases fuel with
  | zero => rfl
  | succ fuel =>
    refine (runOn_bind_ok (runOn_look _ s)).trans ?_
    rw [h]
    rfl

theorem runOn_statements_round (h : s.cursor.atEnd = false) {found : Option String}
    (hround : round.runOn s = (.ok found, after)) (fuel : Nat) (names : List String) :
    (statements (fuel + 1) names).runOn s = (statements fuel (found.toList ++ names)).runOn after := by
  refine (runOn_bind_ok (runOn_look _ s)).trans ?_
  rw [h]
  refine (runOn_bind_ok hround).trans ?_
  cases found <;> rfl

/-- **A round passes a token.** -/
theorem round_passes (h : s.cursor.atEnd = false) :
    ∃ found n after, 0 < n ∧ n ≤ s.cursor.remaining.length ∧ round.runOn s = (.ok found, after) ∧
      after.cursor.tokens = s.cursor.tokens ∧ after.cursor.position = s.cursor.position + n := by
  rcases round_cases h with ⟨front, after, hcats, hpasses, hrun⟩ | ⟨-, n, message, after, hpos, hn, hrun, hafter⟩
  · have hfive : front.length = 5 := by
      rw [← List.length_map, show front.map (·.category) = pattern from hcats]
      rfl
    have hlength := hpasses.length
    refine ⟨_, front.length, after, by omega, by omega, hrun, hpasses.tokens, ?_⟩
    rw [hpasses.cursor, Cursor.position_forward]
  · exact ⟨_, n, after, hpos, hn, hrun, by rw [hafter]; rfl, by rw [hafter]; rfl⟩

/-- **The budget makes no difference**, if there is a round for each token that is left. -/
theorem statements_budget {fuel fuel' : Nat} (h : s.cursor.remaining.length ≤ fuel)
    (h' : s.cursor.remaining.length ≤ fuel') (names : List String) :
    (statements fuel names).runOn s = (statements fuel' names).runOn s := by
  induction fuel generalizing s fuel' names with
  | zero =>
    have hend : s.cursor.atEnd = true := by
      rw [Cursor.atEnd_eq, List.isEmpty_iff_length_eq_zero]
      exact Nat.le_zero.1 h
    rw [runOn_statements_end hend, runOn_statements_end hend]
  | succ fuel ih =>
    cases hend : s.cursor.atEnd with
    | true => rw [runOn_statements_end hend, runOn_statements_end hend]
    | false =>
      obtain ⟨found, n, after, hpos, hn, hround, htokens, hplace⟩ := round_passes hend
      obtain ⟨fuel', rfl⟩ : ∃ m, fuel' = m + 1 := ⟨fuel' - 1, by omega⟩
      have hless : after.cursor.remaining.length = s.cursor.remaining.length - n := by
        rw [Cursor.length_remaining, Cursor.length_remaining, htokens, hplace]
        omega
      rw [runOn_statements_round hend hround, runOn_statements_round hend hround]
      exact ih (by omega) (by omega) _

/-- **The loop ends at the end of the tokens**, all of which are still there.  Either they make up a program, whose
names are found without a message, or a message was recorded. -/
theorem runOn_statements {fuel : Nat} (h : s.cursor.remaining.length ≤ fuel) (names : List String) :
    ∃ found after, (statements fuel names).runOn s = (.ok (names.reverse ++ found), after) ∧
      after.cursor.tokens = s.cursor.tokens ∧
      after.cursor.position = s.cursor.position + s.cursor.remaining.length ∧
      ((categories s.cursor.remaining ∈ programs ∧ after.cursor.errors = s.cursor.errors ∧
          found = identifiers s.cursor.remaining) ∨
        (categories s.cursor.remaining ∉ programs ∧ s.cursor.errors.size < after.cursor.errors.size)) := by
  induction fuel generalizing s names with
  | zero =>
    have hnil : s.cursor.remaining = [] := List.length_eq_zero_iff.1 (Nat.le_zero.1 h)
    refine ⟨[], s, by rw [List.append_nil]; rfl, rfl, by rw [hnil]; rfl, .inl ?_⟩
    rw [hnil]
    exact ⟨Language.nil_mem_kstar _, rfl, rfl⟩
  | succ fuel ih =>
    cases hend : s.cursor.atEnd with
    | true =>
      have hnil : s.cursor.remaining = [] := by simpa [Cursor.atEnd_eq] using hend
      refine ⟨[], s, by rw [List.append_nil]; exact runOn_statements_end hend _ _, rfl, by rw [hnil]; rfl,
        .inl ?_⟩
      rw [hnil]
      exact ⟨Language.nil_mem_kstar _, rfl, rfl⟩
    | false =>
      rcases round_cases hend with ⟨front, mid, hcats, hpasses, hround⟩ |
        ⟨hnot, n, message, mid, hpos, hn, hround, hmid⟩
      · have hpos : 0 < front.length := List.length_pos_of_ne_nil fun hnil => by
          rw [hnil] at hcats
          cases hcats
        have hcategories : categories s.cursor.remaining = pattern ++ categories mid.cursor.remaining := by
          rw [hpasses.remaining, categories, List.map_append]
          exact congrArg (· ++ _) hcats
        have hlength := hpasses.length
        obtain ⟨found, after, hrun, htokens, hplace, hcases⟩ := ih (s := mid) (by omega)
          ((some (named front)).toList ++ names)
        rw [hpasses.errors] at hcases
        refine ⟨named front :: found, after, (runOn_statements_round hend hround _ _).trans (hrun.trans ?_),
          htokens.trans hpasses.tokens, ?_, ?_⟩
        · simp
        · rw [hplace, hlength, hpasses.cursor, Cursor.position_forward, Nat.add_assoc]
        · rw [hcategories, append_mem_programs, hpasses.remaining, identifiers_append hcats]
          exact hcases.imp_left fun ⟨hmem, herrors, hfound⟩ => ⟨hmem, herrors, by rw [hfound]⟩
      · have hrest : mid.cursor.remaining = s.cursor.remaining.drop n := by
          rw [hmid]
          exact s.cursor.remaining_forward n
        have hne : categories s.cursor.remaining ≠ [] := fun hnil => by
          rw [List.map_eq_nil_iff.1 hnil] at hn
          exact absurd hpos (Nat.not_lt.2 hn)
        obtain ⟨found, after, hrun, htokens, hplace, hcases⟩ := ih (s := mid)
          (by rw [hrest, List.length_drop]; omega) names
        have herrors : mid.cursor.errors.size = s.cursor.errors.size + 1 := by
          rw [hmid]
          exact Array.size_push _
        refine ⟨found, after, (runOn_statements_round hend hround _ _).trans hrun, htokens.trans ?_, ?_,
          .inr ⟨notMem_programs hne hnot, ?_⟩⟩
        · rw [hmid]
          rfl
        · rw [hplace, hrest, List.length_drop, hmid]
          show s.cursor.position + n + _ = _
          omega
        · rcases hcases with ⟨-, hsame, -⟩ | ⟨-, hmore⟩
          · rw [hsame]
            omega
          · omega

/-! ## Parses -/

/-- **A parse of any tokens ends, at their end, with the names of the statements that went right.**  Every round
of its loop passes a token, and its budget makes no difference.  The tokens are kept, and all of them are passed.  No
message is recorded just where their categories are those of a program; then the names are its identifiers, and a
strict parse yields them too.  Otherwise a strict parse reports the messages. -/
theorem parse_recovers (tokens : Array (Token Int)) (source : Option String) (s : Session Int) :
    (∀ t : Session Int, t.cursor.atEnd = false → ∃ found after, round.runOn t = (.ok found, after) ∧
      after.cursor.tokens = t.cursor.tokens ∧ t.cursor.position < after.cursor.position ∧
      after.cursor.position ≤ t.cursor.tokens.size) ∧
    (∀ fuel, tokens.size ≤ fuel →
      (parse (statements fuel []) tokens source).runOn s = (parse start tokens source).runOn s) ∧
    ∃ names after, (parse start tokens source).runOn s = (.ok names, after) ∧
      after.cursor.tokens = tokens ∧ after.cursor.position = tokens.size ∧ after.cursor.atEnd = true ∧
      (after.cursor.errors = #[] ↔ categories tokens.toList ∈ programs) ∧
      (categories tokens.toList ∈ programs → names = identifiers tokens.toList ∧
        (parseStrict start tokens source).runOn s = (.ok names, after)) ∧
      (categories tokens.toList ∉ programs → ∃ messages, messages ≠ [] ∧
        (parseStrict start tokens source).runOn s = (.error (.reported messages), after)) := by
  have hlength : (opened tokens source s).cursor.remaining.length = tokens.size := by
    rw [remaining_opened, Array.length_toList]
  have hbudget : ∀ fuel, tokens.size ≤ fuel →
      (statements fuel []).runOn (opened tokens source s) = start.runOn (opened tokens source s) := fun fuel hfuel =>
    (statements_budget (hlength ▸ hfuel) (hlength ▸ Nat.le_refl _) []).trans rfl
  refine ⟨fun t hend => ?_, fun fuel hfuel => ?_, ?_⟩
  · obtain ⟨found, n, after, hpos, hn, hrun, htokens, hplace⟩ := round_passes hend
    rw [Cursor.length_remaining] at hn
    exact ⟨found, after, hrun, htokens, by omega, by omega⟩
  · rcases hrun : start.runOn (opened tokens source s) with ⟨result, after⟩
    rw [runOn_parse hrun, runOn_parse ((hbudget fuel hfuel).trans hrun)]
  · obtain ⟨found, mid, hrun, htokens, hplace, hcases⟩ := runOn_statements (s := opened tokens source s)
      (Nat.le_of_eq hlength) []
    rw [remaining_opened] at hcases
    have hkept : mid.cursor.tokens = tokens := htokens
    have hpassed : mid.cursor.position = tokens.size := hplace.trans (hlength ▸ Nat.zero_add _)
    have hend : mid.cursor.atEnd = true := Cursor.atEnd_iff.2 (by rw [hkept, hpassed])
    have hparse := runOn_parse ((hbudget tokens.size (Nat.le_refl _)).symm.trans hrun)
    refine ⟨found, _, hparse, hkept, hpassed, hend, ?_⟩
    dsimp only
    rw [runOn_parseStrict, hparse]
    rcases hcases with ⟨hmem, herrors, hfound⟩ | ⟨hnot, hmore⟩
    · have hclean : mid.cursor.errors = #[] := herrors
      refine ⟨⟨fun _ => hmem, fun _ => hclean⟩, fun _ => ⟨hfound, ?_⟩, fun hnot => absurd hmem hnot⟩
      exact congrArg (·, _) (strictly_eq_ok.2 ⟨rfl, hclean⟩)
    · have hsome : mid.cursor.errors ≠ #[] := fun hnone => by
        rw [hnone] at hmore
        exact Nat.not_lt_zero _ hmore
      refine ⟨⟨fun hnone => absurd hnone hsome, fun hmem => absurd hmem hnot⟩, fun hmem => absurd hmem hnot,
        fun _ => ⟨mid.cursor.errors.toList, fun hnil => hsome (Array.toList_eq_nil_iff.1 hnil), ?_⟩⟩
      exact congrArg (·, _) (strictly_reported hsome _)

end Descent.Statements
