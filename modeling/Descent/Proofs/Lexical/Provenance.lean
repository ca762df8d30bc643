/-
  Where accepted tokens come from.

  * `Rule.Makes`: a rule matches at a byte offset with the lexeme of a token, whose category and value
    are its own.
  * `Tokenizer.Preferred`: the rule that makes a token is the one that the strategy prefers where the token
    starts, under each of the two named strategies.
  * `Tokenizer.Reaches.exists_selected`: every accepted token is made of the choice that is selected
    where it starts.  So the rule that makes it is the preferred one (`Tokenizer.Reaches.preferred`).
  * `Tokenizer.accepted_from_rule`: that holds of all tokens that are accepted on the way, and so of those that
    a cut yields.
-/
import Descent.Proofs.Lexical.Coverage

namespace Descent

variable {V : Type}

/-- A rule that matches at a byte offset with the lexeme of a token and gives it category and value. -/
structure Rule.Makes (r : Rule V) (text : String) (offset : Nat) (tok : Token V) : Prop where
  match_eq : r.matchAt? text offset = .ok (some tok.lexeme)
  category_eq : tok.category = r.category
  value_eq : tok.value = r.transform.map fun transform => transform tok.lexeme

namespace Tokenizer

variable {t : Tokenizer V} {least : Level} {text : String} {filter : List String}
  {accepted : List (Token V)} {cut : Cut V} {tok : Token V}

/-- A token is made by a rule of the table, the one that the strategy prefers where the token starts.  Under the
longest strategy no rule matches there with more characters and no earlier one with as many; under the first
strategy no earlier one matches there at all. -/
structure Preferred (t : Tokenizer V) (text : String) (tok : Token V) : Prop where
  longest : t.strategy = .longest → ∃ (i : Nat) (r : Rule V), t.rules[i]? = some r ∧
    r.Makes text (Utf8.offsetOf text tok.start) tok ∧
    ∀ (j : Nat) (r' : Rule V) (l : String), t.rules[j]? = some r' →
      r'.matchAt? text (Utf8.offsetOf text tok.start) = .ok (some l) →
      l.length ≤ tok.lexeme.length ∧ (j < i → l.length < tok.lexeme.length)
  first : t.strategy = .first → ∃ (i : Nat) (r : Rule V), t.rules[i]? = some r ∧
    r.Makes text (Utf8.offsetOf text tok.start) tok ∧
    ∀ (j : Nat) (r' : Rule V), j < i → t.rules[j]? = some r' →
      r'.matchAt? text (Utf8.offsetOf text tok.start) = .ok none

/-- **An accepted token is made of the choice selected where it starts.** -/
theorem Reaches.exists_selected (h : t.Reaches least text filter accepted cut) (hm : tok ∈ accepted) :
    ∃ c passed rest, t.selectedAt text (Utf8.offsetOf text tok.start) = some c ∧
      text.toList = passed ++ rest ∧ Utf8.offsetOf text tok.start = Utf8.size passed ∧
      tok.lexeme = String.ofList c.lexeme ∧ c.rule.Makes text (Utf8.offsetOf text tok.start) tok := by
  induction h with
  | start => simp at hm
  | @turn accepted cut choice ambiguous hr _ _ ht ih =>
    rcases List.mem_append.1 hm with hm | hm
    · exact ih hm
    · obtain rfl := List.mem_singleton.1 hm
      have hs := ((turn_eq_accept hr.at).1 ht).1
      rw [offsetOf_start_token hr.at]
      exact ⟨choice, _, _, hs, hr.at.split, hr.at.byteOffset, rfl,
        (mem_choicesAt.1 (mem_of_selectedAt hs)).2, rfl, rfl⟩

/-- **The rule that makes an accepted token** is the preferred one. -/
theorem Reaches.preferred (h : t.Reaches least text filter accepted cut) (hm : tok ∈ accepted) :
    t.Preferred text tok := by
  obtain ⟨c, passed, rest, hs, htext, ho, hlexeme, hmakes⟩ := h.exists_selected hm
  have hrule := (mem_choicesAt.1 (mem_of_selectedAt hs)).1
  constructor
  · intro hl
    refine ⟨c.number, c.rule, hrule, hmakes, fun j r' l hr hmatch => ?_⟩
    rw [hlexeme, String.length_ofList]
    exact rivals_longest hl hs hr hmatch
  · intro hf
    refine ⟨c.number, c.rule, hrule, hmakes, fun j r' hj hr => ?_⟩
    have hno := rivals_first hf hs hj hr
    rw [ho] at hno ⊢
    exact (Rule.matchAt?_size_eq_none htext).2 hno

/-- **Every accepted token comes from a rule of the table**, the one that the strategy prefers: of all tokens that
are accepted on the way through a text, whether or not they are filtered out and however the cut ends, and of those
that a cut yields. -/
theorem accepted_from_rule (t : Tokenizer V) (least : Level) (text : String) (filter : List String) :
    (∀ accepted cut, t.Reaches least text filter accepted cut → ∀ tok ∈ accepted, t.Preferred text tok) ∧
    ∀ tokens, (t.tokenize least text filter).result = .ok tokens → ∀ tok ∈ tokens, t.Preferred text tok := by
  refine ⟨fun accepted cut h tok => h.preferred, fun tokens h tok hm => ?_⟩
  obtain ⟨accepted, cut, hr, -, rfl⟩ := exists_run_of_ok h
  exact hr.preferred (List.mem_filter.1 hm).1

/-- Keyword and word match the last letter with one length: the keyword, which comes first, is made. -/
theorem accepted_from_rule_tie :
    ∃ (accepted : List (Token Int)) (cut : Cut Int),
      (ofRules lexicon).Reaches .info "éê é" [] accepted cut ∧
      (⟨"KEYWORD", "é", 3, 4, 0, 4, none⟩ : Token Int) ∈ accepted ∧
      ∃ (i : Nat) (r : Rule Int), (ofRules lexicon).rules[i]? = some r ∧
        r.Makes "éê é" 5 ⟨"KEYWORD", "é", 3, 4, 0, 4, none⟩ := by
  have h : ((ofRules lexicon).tokenize .info "éê é" []).result =
      .ok [⟨"WORD", "éê", 0, 2, 0, 2, some 2⟩, ⟨"BLANK", " ", 2, 3, 0, 3, none⟩,
        ⟨"KEYWORD", "é", 3, 4, 0, 4, none⟩] := rfl
  obtain ⟨accepted, cut, hr, -, ha⟩ := exists_run_of_ok h
  have hm : (⟨"KEYWORD", "é", 3, 4, 0, 4, none⟩ : Token Int) ∈ accepted := by
    rw [filter_nil] at ha; rw [← ha]; simp
  obtain ⟨i, r, hi, hmakes, -⟩ := ((accepted_from_rule _ _ _ _).1 accepted cut hr _ hm).longest rfl
  exact ⟨accepted, cut, hr, hm, i, r, hi, hmakes⟩

end Tokenizer

end Descent
