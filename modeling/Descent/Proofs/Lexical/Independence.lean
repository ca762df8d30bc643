/-
  What a cut does not depend on.

  * `Tokenizer.tokenize_filter`: the filter leaves tokens out of the result and changes nothing else but
    their number.
  * `Choice.select?_eq_head?`: of one choice at most, every strategy selects the same.
  * `Tokenizer.tokenize_unambiguous`: a text without ambiguous tokens is cut alike under all strategies,
    unless the cut fails for an empty lexeme.
-/
import Descent.Proofs.Lexical.Accepted

namespace Descent

variable {V : Type}

namespace Tokenizer

variable {t : Tokenizer V} {least : Level} {text : String} {filter : List String}
  {accepted : List (Token V)} {cut : Cut V} {failure : Option (LexicalError × Event)}

/-! ## The filter -/

/-- **The filter only leaves tokens out.**  A text is cut with a filter as it is without one, up to the
same place or the same error, and of its tokens those of the filtered categories are left out.  The counts
differ in the number of these, which are taken from all accepted tokens. -/
theorem tokenize_filter (t : Tokenizer V) (least₁ least₂ : Level) (text : String) (filter : List String) :
    let whole := t.tokenize least₁ text []
    let out := t.tokenize least₂ text filter
    out.result = whole.result.map (List.filter fun tok => !filter.contains tok.category) ∧
    out.tokenizer.position = whole.tokenizer.position ∧
    ∃ accepted cut failure, t.Reaches least₂ text filter accepted cut ∧
      t.Ends text accepted.length cut.scan failure ∧
      out.tokenizer.metrics = { whole.tokenizer.metrics with
        filteredTokens := accepted.countP fun tok => filter.contains tok.category } := by
  intro whole out
  obtain ⟨accepted, cut, failure, hr, he⟩ := t.exists_run least₂ text filter
  obtain ⟨cut₁, hr₁⟩ := hr.follow (P := fun _ => True) (fun _ _ ht => ⟨_, ht⟩) (fun _ _ => trivial) least₁ []
  have he₁ : t.Ends text accepted.length cut₁.scan failure := hr₁.scan_eq hr ▸ he
  refine ⟨?_, ?_, accepted, cut, failure, hr, he, ?_⟩
  · rw [hr.result_tokenize he, hr₁.result_tokenize he₁, filter_nil]
    cases failure <;> rfl
  · rw [hr.position_tokenize he, hr₁.position_tokenize he₁]
  · rw [hr.metrics_tokenize he, hr₁.metrics_tokenize he₁]
    rfl

end Tokenizer

/-! ## The strategy -/

namespace Choice

/-- **Of one choice at most, every strategy selects the same.** -/
theorem select?_eq_head? {choices : List (Choice V)} (h : choices.length ≤ 1) (s : Strategy) :
    select? s choices = choices.head? := by
  match choices, h with
  | [], _ => rfl
  | [c], _ => simp [select?, Strategy.select, Strategy.challenge, candidate]

end Choice

namespace Tokenizer

variable {t : Tokenizer V} {least : Level} {text : String} {filter : List String}
  {accepted : List (Token V)} {cut : Cut V} {failure : Option (LexicalError × Event)} {scan : Scan}
  {passed : List Char}

/-- A turn in which at most one rule matches is the same under every strategy. -/
theorem turn_strategy (hs : scan.At text passed) (hn : (t.choicesAt text scan.byteOffset).length ≤ 1)
    (s : Strategy) : { t with strategy := s }.turn { t with strategy := s }.numbered text scan =
      t.turn t.numbered text scan := by
  have hchoices : { t with strategy := s }.choicesAt text scan.byteOffset =
      t.choicesAt text scan.byteOffset := rfl
  rw [turn_scan hs, turn_scan hs, selectedAt, selectedAt, hchoices, Choice.select?_eq_head? hn,
    Choice.select?_eq_head? hn]

/-- **Tokens that are not ambiguous are accepted under every strategy.** -/
theorem Reaches.strategy (h : t.Reaches least text filter accepted cut)
    (hc : cut.metrics.ambiguousMatches = 0) (s : Strategy) (least' : Level) :
    ∃ cut', { t with strategy := s }.Reaches least' text filter accepted cut' := by
  have hP : ∀ tok ∈ accepted, t.ambiguousAt text tok = false := by
    rw [h.metrics_eq] at hc
    simpa [Metrics.ofTokens, List.countP_eq_zero] using hc
  refine h.follow (P := fun tok => t.ambiguousAt text tok = false) ?_ hP least' filter
  intro scan passed choice ambiguous hs htok ht
  rw [ambiguousAt_token hs, decide_eq_false_iff_not] at htok
  exact ⟨ambiguous, by rw [turn_strategy hs (by omega), ht]⟩

/-- A run that does not end at an empty lexeme ends in the same way under every strategy. -/
theorem Ends.strategy (hs : scan.At text passed) {count : Nat} (he : t.Ends text count scan failure)
    (hz : ∀ rule : Rule V, failure ≠ some (failZeroWidth scan rule)) (s : Strategy) :
    { t with strategy := s }.Ends text count scan failure := by
  refine he.follow fun f hfailure ht => ?_
  rcases (turn_eq_fail hs).1 ht with ⟨hnil, rfl⟩ | ⟨c, -, -, rfl⟩
  · rw [turn_strategy hs (by rw [hnil]; exact Nat.zero_le 1)]
    exact ht
  · exact absurd hfailure (hz c.rule)

/-- **Without ambiguous tokens the strategy does not matter.**  If the cut of a text counts no ambiguous
token and does not fail for an empty lexeme, it comes out the same under every other strategy: with the
same tokens or error, at the same place and with the same counts.  (Where it fails for an empty lexeme,
more than one rule may have matched: such a turn is not counted.) -/
theorem tokenize_unambiguous (t : Tokenizer V) (s : Strategy) (least₁ least₂ : Level) (text : String)
    (filter : List String)
    (hambiguous : (t.tokenize least₁ text filter).tokenizer.metrics.ambiguousMatches = 0)
    (hempty : ∀ category line column,
      (t.tokenize least₁ text filter).result ≠ .error (.zeroWidthMatch category line column)) :
    let out₁ := t.tokenize least₁ text filter
    let out₂ := { t with strategy := s }.tokenize least₂ text filter
    out₂.result = out₁.result ∧ out₂.tokenizer.position = out₁.tokenizer.position ∧
      out₂.tokenizer.metrics = out₁.tokenizer.metrics := by
  intro out₁ out₂
  obtain ⟨accepted, cut, failure, hr, he⟩ := t.exists_run least₁ text filter
  have hc : cut.metrics.ambiguousMatches = 0 := by
    rw [tokenize_eq hr he, metrics_conclude] at hambiguous
    exact hambiguous
  have hz : ∀ rule : Rule V, failure ≠ some (failZeroWidth cut.scan rule) := by
    rintro rule rfl
    exact hempty _ _ _ (hr.result_tokenize he)
  obtain ⟨cut₂, hr₂⟩ := hr.strategy hc s least₂
  have he₂ : { t with strategy := s }.Ends text accepted.length cut₂.scan failure :=
    hr₂.scan_eq hr ▸ he.strategy hr.at hz s
  refine ⟨?_, ?_, ?_⟩
  · rw [hr.result_tokenize he, hr₂.result_tokenize he₂]
  · rw [hr.position_tokenize he, hr₂.position_tokenize he₂]
  · rw [hr.metrics_tokenize he, hr₂.metrics_tokenize he₂]
    rfl

/-- No two rules match in this text before the place where none does, so the last rule to match is also
the one of the longest lexeme. -/
theorem tokenize_unambiguous_unmatched :
    ((ofRules lexicon).tokenize .info "îê ?" ["BLANK"]).tokenizer.metrics.ambiguousMatches = 0 ∧
    (∃ excerpt diagram, ((ofRules lexicon).tokenize .info "îê ?" ["BLANK"]).result =
      .error (.unexpectedCharacter excerpt 0 3 diagram)) ∧
    ({ ofRules lexicon with strategy := .last }.tokenize .debug "îê ?" ["BLANK"]).result =
      ((ofRules lexicon).tokenize .info "îê ?" ["BLANK"]).result :=
  ⟨rfl, ⟨_, _, rfl⟩, (tokenize_unambiguous (ofRules lexicon) .last .info .debug "îê ?" ["BLANK"] rfl
    fun _ _ _ h => nomatch h).1⟩

end Tokenizer

end Descent
