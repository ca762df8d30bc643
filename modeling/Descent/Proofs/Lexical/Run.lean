/-
  Runs of the loop that cuts a text.

  * `Tokenizer.Reaches t least text filter accepted cut`: the loop comes to the cut `cut` after it
    accepted the tokens `accepted`, those filtered out included.
  * `Tokenizer.Ends` says with what failure, if any, the loop stops at a cut it has come to.
  * `Tokenizer.exists_run`: every text has a run that ends, and `Tokenizer.tokenize_eq`: what a text is
    cut into is concluded from any such run.
  * `Tokenizer.exists_run_of_ok`: the tokens of a text that is cut are the accepted ones not filtered out.
  * `Tokenizer.Reaches.at`: the accepted lexemes are the text passed so far, and the loop stands after
    them.
-/
import Descent.Lexical.Payload
import Descent.Proofs.Lexical.Place

namespace Descent

variable {V : Type}

/-- The characters of tokens that stand one after another. -/
def Token.chars (tokens : List (Token V)) : List Char := tokens.flatMap fun tok => tok.lexeme.toList

theorem Token.chars_append (a b : List (Token V)) : chars (a ++ b) = chars a ++ chars b :=
  List.flatMap_append

@[simp] theorem Token.chars_concat (a : List (Token V)) (tok : Token V) :
    chars (a ++ [tok]) = chars a ++ tok.lexeme.toList := by
  simp [chars]

namespace Tokenizer

variable {t : Tokenizer V} {least : Level} {text : String} {filter : List String}
  {accepted : List (Token V)} {cut : Cut V} {failure : Option (LexicalError × Event)}

/-! ## What a turn changes -/

section
variable {choice : Choice V} {ambiguous : Bool}

@[simp] theorem scan_accept : (t.accept least filter cut choice ambiguous).scan =
    cut.scan.pass choice.lexeme := rfl

@[simp] theorem metrics_accept : (t.accept least filter cut choice ambiguous).metrics =
    cut.metrics.record choice.rule.category choice.lexeme.length (filter.contains choice.rule.category)
      ambiguous t.preferences.collectDetailedMetrics := rfl

theorem tokens_accept : (t.accept least filter cut choice ambiguous).tokens =
    if filter.contains choice.rule.category then cut.tokens else token cut.scan choice :: cut.tokens := rfl

@[simp] theorem toList_lexeme_token (scan : Scan) (choice : Choice V) :
    (token scan choice).lexeme.toList = choice.lexeme := String.toList_ofList

end

/-! ## Runs -/

/-- The cuts that the loop comes to, each with the tokens accepted on the way. -/
inductive Reaches (t : Tokenizer V) (least : Level) (text : String) (filter : List String) :
    List (Token V) → Cut V → Prop
  | start : Reaches t least text filter [] (t.begin least text)
  | turn {accepted : List (Token V)} {cut : Cut V} {choice : Choice V} {ambiguous : Bool} :
      Reaches t least text filter accepted cut → accepted.length < Limits.tokenCount →
      cut.scan.rest ≠ [] → t.turn t.numbered text cut.scan = .accept choice ambiguous →
      Reaches t least text filter (accepted ++ [token cut.scan choice])
        (t.accept least filter cut choice ambiguous)

/-- How the loop stops at a place after a number of accepted tokens: at the end of the text, with its
budget spent, or in a turn that fails. -/
inductive Ends (t : Tokenizer V) (text : String) (count : Nat) (scan : Scan) :
    Option (LexicalError × Event) → Prop
  | covered : scan.rest = [] → Ends t text count scan none
  | spent : scan.rest ≠ [] → count = Limits.tokenCount → Ends t text count scan (some (failTooMany scan))
  | failed {failure : LexicalError × Event} : scan.rest ≠ [] → count < Limits.tokenCount →
      t.turn t.numbered text scan = .fail failure → Ends t text count scan (some failure)

theorem Reaches.length_le (h : t.Reaches least text filter accepted cut) :
    accepted.length ≤ Limits.tokenCount := by
  cases h with
  | start => exact Nat.zero_le _
  | turn _ hn _ _ => rw [List.length_append]; exact hn

/-- The loop goes on from every cut it comes to, with what is left of its budget. -/
theorem Reaches.cutFrom_eq (h : t.Reaches least text filter accepted cut) :
    t.cutFrom t.numbered least text filter Limits.tokenCount (t.begin least text) =
      t.cutFrom t.numbered least text filter (Limits.tokenCount - accepted.length) cut := by
  induction h with
  | start => rfl
  | @turn accepted cut choice ambiguous _ hn hrest ht ih =>
    have hb : Limits.tokenCount - accepted.length =
        Limits.tokenCount - (accepted ++ [token cut.scan choice]).length + 1 := by
      rw [List.length_append, List.length_singleton]; omega
    rw [ih, hb, cutFrom, ht, if_neg (by simpa using hrest)]

theorem Ends.cutFrom_eq (h : t.Ends text accepted.length cut.scan failure) :
    t.cutFrom t.numbered least text filter (Limits.tokenCount - accepted.length) cut = (failure, cut) := by
  cases h with
  | covered hrest => cases Limits.tokenCount - accepted.length <;> simp [cutFrom, hrest]
  | spent hrest hn =>
    rw [hn, Nat.sub_self, cutFrom, if_neg (by simpa using hrest)]
  | failed hrest hn ht =>
    obtain ⟨budget, hb⟩ := Nat.exists_eq_add_of_lt hn
    rw [show Limits.tokenCount - accepted.length = budget + 1 by omega, cutFrom, ht,
      if_neg (by simpa using hrest)]

/-- **What a text is cut into** is concluded from any run that ends. -/
theorem tokenize_eq (hr : t.Reaches least text filter accepted cut)
    (he : t.Ends text accepted.length cut.scan failure) :
    t.tokenize least text filter = t.conclude text failure cut := by
  rw [tokenize, hr.cutFrom_eq, he.cutFrom_eq]

/-- The budget bounds the turns that are left, so every run can be followed up to an end. -/
theorem Reaches.exists_end {budget : Nat} (hr : t.Reaches least text filter accepted cut)
    (hb : accepted.length + budget = Limits.tokenCount) :
    ∃ later cut failure, t.Reaches least text filter (accepted ++ later) cut ∧
      t.Ends text (accepted ++ later).length cut.scan failure := by
  induction budget generalizing accepted cut with
  | zero =>
    refine ⟨[], cut, ?_⟩
    rw [List.append_nil]
    by_cases hrest : cut.scan.rest = []
    · exact ⟨_, hr, .covered hrest⟩
    · exact ⟨_, hr, .spent hrest hb⟩
  | succ budget ih =>
    by_cases hrest : cut.scan.rest = []
    · exact ⟨[], cut, _, by rwa [List.append_nil], .covered hrest⟩
    have hn : accepted.length < Limits.tokenCount := by omega
    cases ht : t.turn t.numbered text cut.scan with
    | fail failure =>
      refine ⟨[], cut, _, ?_, .failed hrest ?_ ht⟩
      · rwa [List.append_nil]
      · rwa [List.append_nil]
    | accept choice ambiguous =>
      obtain ⟨later, cut', failure, hlater, hends⟩ := ih (hr.turn hn hrest ht) (by
        rw [List.length_append, List.length_singleton]; omega)
      rw [List.append_assoc] at hlater hends
      exact ⟨_, cut', failure, hlater, hends⟩

/-- **Every text has a run that ends.** -/
theorem exists_run (t : Tokenizer V) (least : Level) (text : String) (filter : List String) :
    ∃ accepted cut failure, t.Reaches least text filter accepted cut ∧
      t.Ends text accepted.length cut.scan failure :=
  Reaches.start.exists_end (Nat.zero_add _)

/-! ## What runs keep -/

/-- **The accepted lexemes are the text passed so far**, and the loop stands after them. -/
theorem Reaches.at (h : t.Reaches least text filter accepted cut) :
    cut.scan.At text (Token.chars accepted) := by
  induction h with
  | start => exact Scan.at_start text
  | turn _ _ _ ht ih =>
    rw [Token.chars_concat, toList_lexeme_token]
    exact ih.pass (lexeme_of_selectedAt ih ((turn_eq_accept ih).1 ht).1)

/-- The tokens kept are the accepted ones that are not filtered out. -/
theorem Reaches.tokens (h : t.Reaches least text filter accepted cut) :
    cut.tokens.reverse = accepted.filter fun tok => !filter.contains tok.category := by
  induction h with
  | start => rfl
  | @turn accepted cut choice _ _ _ _ _ ih =>
    have hc : (token cut.scan choice).category = choice.rule.category := rfl
    rw [tokens_accept, List.filter_append, ← ih, List.filter_singleton, hc]
    cases filter.contains choice.rule.category <;> simp

theorem filter_nil (accepted : List (Token V)) :
    (accepted.filter fun tok => !([] : List String).contains tok.category) = accepted := by
  simp

/-! ## Conclusions -/

@[simp] theorem result_conclude_none :
    (t.conclude text none cut).result = .ok cut.tokens.reverse := rfl

@[simp] theorem result_conclude_some (f : LexicalError × Event) :
    (t.conclude text (some f) cut).result = .error f.1 := rfl

@[simp] theorem position_conclude : (t.conclude text failure cut).tokenizer.position =
    cut.scan.position := by
  cases failure <;> rfl

theorem metrics_conclude : (t.conclude text failure cut).tokenizer.metrics =
    { cut.metrics with linesScanned :=
        if failure.isNone then lines text cut.scan.position else cut.metrics.linesScanned } := by
  cases failure <;> rfl

/-- **A text that is cut has a run through all of it**, which accepts its tokens. -/
theorem exists_run_of_ok {tokens : List (Token V)}
    (h : (t.tokenize least text filter).result = .ok tokens) :
    ∃ accepted cut, t.Reaches least text filter accepted cut ∧ cut.scan.rest = [] ∧
      tokens = accepted.filter fun tok => !filter.contains tok.category := by
  obtain ⟨accepted, cut, failure, hr, he⟩ := t.exists_run least text filter
  rw [tokenize_eq hr he] at h
  cases he with
  | covered hrest =>
    rw [result_conclude_none, hr.tokens] at h
    exact ⟨accepted, cut, hr, hrest, (Except.ok.inj h).symm⟩
  | spent => simp at h
  | failed => simp at h

/-! ## A lexicon

Three rules that meet: `KEYWORD` and `WORD` match at the same places, sometimes with lexemes of one
length. -/

/-- One or more characters of a set. -/
def repeated (source : String) (first last : Nat) : Pattern :=
  ⟨source, #[.accept, .char ⟨[(first, last)]⟩ 2, .split 1 0], 1⟩

/-- Words of the letters from é to î, keywords of é alone, and blanks. -/
def lexicon : List (Rule Int) :=
  [⟨"KEYWORD", repeated "é+" 0xE9 0xE9, none⟩,
    ⟨"WORD", repeated "[é-î]+" 0xE9 0xEE, some Payload.charCount⟩,
    ⟨"BLANK", repeated "[\\t-\\x20]+" 0x09 0x20, none⟩]

/-- A tokenizer with the given rules that prefers longer lexemes. -/
def ofRules (rules : List (Rule V)) : Tokenizer V :=
  ⟨rules.toArray, .longest, ⟨false, false, false⟩, .zero, .start⟩

end Tokenizer

end Descent
