/-
  What a strategy selects, from candidates and from the rules that match at a place.

  * `Tokenizer.selected_eq_none` and `Tokenizer.selected_belongs`: at a place a choice is selected as soon as
    one rule matches, whatever the strategy, and rule, number and lexeme of it belong together.
  * `Strategy.select_by_key`: which candidate is selected by strategies that compare keys, and what every
    strategy has in common.
-/
import Descent.Proofs.Lexical.Greedy

namespace Descent

variable {V : Type}

namespace Tokenizer

variable {t : Tokenizer V} {text : String} {passed : List Char} {scan : Scan} {c : Choice V}

/-- Nothing is selected only where no rule matches. -/
theorem selected_eq_none (h : scan.At text passed) :
    Choice.select? t.strategy (Choice.all t.numbered scan.before scan.rest) = none ↔
      ∀ r ∈ t.rules, r.matchAt? text scan.byteOffset = .ok none := by
  rw [choicesAt_scan h, Choice.select?_eq_none (t.ordered_choicesAt text scan.byteOffset), h.byteOffset]
  exact choicesAt_size_eq_nil h.split

/-- **The selected choice is that of the selected candidate**: the rule of its number, with its match. -/
theorem selected_belongs (h : scan.At text passed)
    (hs : Choice.select? t.strategy (Choice.all t.numbered scan.before scan.rest) = some c) :
    t.strategy.select ((Choice.all t.numbered scan.before scan.rest).map Choice.candidate) =
        some c.candidate ∧
      t.rules[c.candidate.rule]? = some c.rule ∧
      c.rule.matchAt? text scan.byteOffset = .ok (some (String.ofList c.lexeme)) ∧
      c.candidate.width = (String.ofList c.lexeme).length := by
  rw [choicesAt_scan h] at hs ⊢
  obtain ⟨hmem, hselect⟩ := (Choice.select?_eq_some (t.ordered_choicesAt text scan.byteOffset)).1 hs
  obtain ⟨hrule, hmatch⟩ := mem_choicesAt.1 hmem
  exact ⟨hselect, hrule, hmatch, String.length_ofList.symm⟩

end Tokenizer

namespace Strategy

universe u

/-- **What a strategy selects.**  One that prefers greater keys selects the earliest candidate of the
greatest key, and one that prefers keys that are not less the latest.  The longest strategy is of the first
kind, with lengths for keys, and the first strategy selects the candidate at the head.  Every strategy,
whether or not it is an order, selects one of the candidates if there are any; at a place of a text it is the
rule of its number, with the match of that rule and the length of this. -/
theorem select_by_key {β : Type u} [LinearOrder β] (key : Candidate → β) (s : Strategy)
    (cs : List Candidate) :
    ((∀ b c, s.prefers b c = true ↔ key b < key c) → ∀ c, s.select cs = some c ↔ FirstMax key cs c) ∧
    ((∀ b c, s.prefers b c = true ↔ key b ≤ key c) → ∀ c, s.select cs = some c ↔ LastMax key cs c) ∧
    (∀ c, longest.select cs = some c ↔ FirstMax Candidate.width cs c) ∧
    first.select cs = cs.head? ∧
    (s.select cs = none ↔ cs = []) ∧
    (∀ c, s.select cs = some c → c ∈ cs) ∧
    ∀ (t : Tokenizer V) (text : String) (passed : List Char) (scan : Scan), scan.At text passed →
      let choices := Choice.all t.numbered scan.before scan.rest
      (Choice.select? t.strategy choices = none ↔
        ∀ r ∈ t.rules, r.matchAt? text scan.byteOffset = .ok none) ∧
      ∀ c, Choice.select? t.strategy choices = some c →
        t.strategy.select (choices.map Choice.candidate) = some c.candidate ∧
        t.rules[c.candidate.rule]? = some c.rule ∧
        c.rule.matchAt? text scan.byteOffset = .ok (some (String.ofList c.lexeme)) ∧
        c.candidate.width = (String.ofList c.lexeme).length := by
  refine ⟨fun hs c => select_strict hs, fun hs c => select_lax hs, fun c => select_longest, select_first cs,
    select_eq_none, fun c => select_mem, ?_⟩
  intro t text passed scan hat choices
  exact ⟨Tokenizer.selected_eq_none hat, fun c hs => Tokenizer.selected_belongs hat hs⟩

/-- Of two longest candidates the later one is selected, and where two rules match with one length, the
earlier one. -/
theorem select_by_key_ties :
    (∀ b c, longestLast.prefers b c = true ↔ b.width ≤ c.width) ∧
    longestLast.select [⟨7, 4⟩, ⟨5, 4⟩, ⟨2, 1⟩] = some ⟨5, 4⟩ ∧
    ∃ c, Choice.select? .longest
        (Choice.all (Tokenizer.ofRules Tokenizer.lexicon).numbered none ['é', ' ']) = some c ∧
      (Tokenizer.ofRules Tokenizer.lexicon).rules[c.candidate.rule]? = some c.rule ∧
      c.rule.category = "KEYWORD" ∧ c.candidate.width = 1 := by
  have hs : ∀ b c, longestLast.prefers b c = true ↔ b.width ≤ c.width := by simp [longestLast, custom]
  obtain ⟨-, hlast, -, -, -, -, hplace⟩ :=
    select_by_key (V := Int) Candidate.width longestLast [⟨7, 4⟩, ⟨5, 4⟩, ⟨2, 1⟩]
  refine ⟨hs, (hlast hs _).2 ⟨[⟨7, 4⟩], [⟨2, 1⟩], rfl, by simp, by simp⟩, _, rfl, ?_, rfl, rfl⟩
  exact ((hplace (Tokenizer.ofRules Tokenizer.lexicon) "é " [] _ (Scan.at_start "é ")).2 _ rfl).2.1

end Strategy

end Descent
