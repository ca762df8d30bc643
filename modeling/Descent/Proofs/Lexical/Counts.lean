/-
  What is counted while a text is cut, by the tokens that were accepted.

  * `Tokenizer.matchesAt` is how many rules match at a byte offset, and `Tokenizer.ambiguousAt_eq`: a token is
    ambiguous if there are two of them where it starts.
  * `Metrics.Tally` says of each count what it counts among accepted tokens, and `Metrics.tally_ofTokens`: the
    counts of a list of tokens do.
  * `Tokenizer.tokenize_counts`: so do the counts of every cut, however it ends, and they agree with its place, its
    tokens and its text.
-/
import Descent.Proofs.Lexical.Accepted
import Descent.Proofs.Text.SortedMap
import Mathlib.Algebra.Order.Ring.Nat

namespace Descent

variable {V : Type}

/-! ## Ambiguity -/

namespace Tokenizer

/-- How many rules match at a byte offset. -/
def matchesAt (t : Tokenizer V) (text : String) (offset : Nat) : Nat :=
  t.rules.toList.countP fun r => (r.lexemeAt? text offset).isSome

theorem length_choicesAt (t : Tokenizer V) (text : String) (offset : Nat) :
    (t.choicesAt text offset).length = t.matchesAt text offset := by
  rw [← List.length_map (·.lexeme), map_lexeme_choicesAt, List.length_filterMap_eq_countP]
  rfl

/-- A token is ambiguous if two rules match where it starts. -/
theorem ambiguousAt_eq (t : Tokenizer V) (text : String) (tok : Token V) :
    t.ambiguousAt text tok = decide (2 ≤ t.matchesAt text (Utf8.offsetOf text tok.start)) := by
  rw [ambiguousAt, length_choicesAt]
  rfl

end Tokenizer

/-! ## Counts of tokens -/

/-- The characters of tokens that stand one after another are those of each. -/
theorem Token.length_chars (tokens : List (Token V)) :
    (chars tokens).length = (tokens.map fun tok => tok.lexeme.length).sum := by
  simp only [chars, List.length_flatMap, String.length_toList]

namespace Metrics

/-- What the counts of accepted tokens count. -/
structure Tally (t : Tokenizer V) (text : String) (filter : List String) (accepted : List (Token V))
    (m : Metrics) : Prop where
  totalTokens : m.totalTokens = accepted.length
  charsScanned : m.charsScanned = (accepted.map fun tok => tok.lexeme.length).sum
  maxLexemeLength : m.maxLexemeLength = (accepted.map fun tok => tok.lexeme.length).max?.getD 0
  filteredTokens : m.filteredTokens = accepted.countP fun tok => filter.contains tok.category
  ambiguousMatches : m.ambiguousMatches =
    accepted.countP fun tok => 2 ≤ t.matchesAt text (Utf8.offsetOf text tok.start)
  categoryCounts : m.categoryCounts =
    if t.preferences.collectDetailedMetrics then tokenCounts accepted else .empty

theorem foldl_max (widths : List Nat) : widths.foldl Nat.max 0 = widths.max?.getD 0 := by
  have h : widths.foldl max 0 = max 0 (widths.max?.getD 0) := List.foldl_max
  rwa [Nat.zero_max] at h

theorem tally_ofTokens (t : Tokenizer V) (text : String) (filter : List String)
    (accepted : List (Token V)) : Tally t text filter accepted
      (.ofTokens filter t.preferences.collectDetailedMetrics (t.ambiguousAt text) accepted) where
  totalTokens := rfl
  charsScanned := Token.length_chars accepted
  maxLexemeLength := by rw [← foldl_max, List.foldl_map]; rfl
  filteredTokens := rfl
  ambiguousMatches := congrArg (accepted.countP ·) (funext (t.ambiguousAt_eq text))
  categoryCounts := rfl

end Metrics

theorem length_filter_add_countP (filter : List String) (tokens : List (Token V)) :
    (tokens.filter fun tok => !filter.contains tok.category).length +
      tokens.countP (fun tok => filter.contains tok.category) = tokens.length := by
  rw [List.countP_eq_length_filter, Nat.add_comm, ← List.length_eq_length_filter_add]

/-! ## Counts of a cut -/

namespace Tokenizer

variable {t : Tokenizer V} {least : Level} {text : String} {filter : List String}
  {accepted : List (Token V)} {cut : Cut V} {failure : Option (LexicalError × Event)}

/-- A run that ends without failure passes the whole text and returns what is not filtered out. -/
theorem Reaches.covered_of_ok {tokens : List (Token V)} (hr : t.Reaches least text filter accepted cut)
    (he : t.Ends text accepted.length cut.scan failure)
    (hok : (t.tokenize least text filter).result = .ok tokens) :
    (accepted.filter fun tok => !filter.contains tok.category) = tokens ∧
      text.toList = Token.chars accepted ∧ failure = none := by
  rw [hr.result_tokenize he] at hok
  cases he with
  | covered hrest => exact ⟨Except.ok.inj hok, by rw [hr.at.split, hrest, List.append_nil], rfl⟩
  | spent => cases hok
  | failed => cases hok

/-- The lines of a text that is passed as a whole. -/
theorem lines_after (text : String) : lines text (.after text.toList) =
    if text = "" then 0 else text.toList.count '\n' + 1 := by
  simp only [lines, String.isEmpty_iff]
  rfl

/-- What is counted when a text was cut, by the tokens accepted. -/
structure Counted (t : Tokenizer V) (text : String) (filter : List String) (accepted : List (Token V))
    (out : Outcome V) : Prop where
  tally : out.tokenizer.metrics.Tally t text filter accepted
  /-- The characters counted are those passed. -/
  passed : out.tokenizer.metrics.charsScanned = out.tokenizer.position.offset
  /-- Each category of accepted tokens is counted with how many there are of it, and there is no other. -/
  categories : t.preferences.collectDetailedMetrics = true → ∀ category,
    out.tokenizer.metrics.categoryCounts.get? category =
      if category ∈ accepted.map (·.category) then some ((accepted.map (·.category)).count category) else none
  /-- Each accepted token is in one category. -/
  total : t.preferences.collectDetailedMetrics = true →
    out.tokenizer.metrics.categoryCounts.total = accepted.length
  /-- A text that is cut is counted as a whole. -/
  ok : ∀ tokens, out.result = .ok tokens →
    tokens.length + out.tokenizer.metrics.filteredTokens = out.tokenizer.metrics.totalTokens ∧
    out.tokenizer.metrics.charsScanned = text.length ∧
    out.tokenizer.metrics.linesScanned = if text = "" then 0 else text.toList.count '\n' + 1
  /-- The lines of any other text are not counted. -/
  error : ∀ e, out.result = .error e → out.tokenizer.metrics.linesScanned = 0

theorem Reaches.tally (hr : t.Reaches least text filter accepted cut)
    (he : t.Ends text accepted.length cut.scan failure) :
    (t.tokenize least text filter).tokenizer.metrics.Tally t text filter accepted := by
  have h := Metrics.tally_ofTokens t text filter accepted
  rw [hr.metrics_tokenize he]
  exact ⟨h.totalTokens, h.charsScanned, h.maxLexemeLength, h.filteredTokens, h.ambiguousMatches,
    h.categoryCounts⟩

/-- **What a cut counts.**  Every text has a run that ends, and however it does, the counts afterwards are those of
the tokens it accepted, those filtered out included.  If the text is cut, the tokens returned and those filtered out
are all of them, all characters are passed and the lines are those of the text; if not, no lines are counted. -/
theorem tokenize_counts (t : Tokenizer V) (least : Level) (text : String) (filter : List String) :
    (∃ accepted cut failure, t.Reaches least text filter accepted cut ∧
      t.Ends text accepted.length cut.scan failure) ∧
    ∀ accepted cut failure, t.Reaches least text filter accepted cut →
      t.Ends text accepted.length cut.scan failure →
      Counted t text filter accepted (t.tokenize least text filter) := by
  refine ⟨t.exists_run least text filter, fun accepted cut failure hr he => ?_⟩
  have htally := hr.tally he
  refine ⟨htally, ?_, fun hdetailed category => ?_, fun hdetailed => ?_, fun tokens hok => ?_,
    fun e herror => ?_⟩
  · rw [hr.metrics_tokenize he, hr.position_tokenize he]
    rfl
  · rw [htally.categoryCounts, if_pos hdetailed]
    exact SortedMap.get?_count _ _
  · rw [htally.categoryCounts, if_pos hdetailed, total_tokenCounts]
  · obtain ⟨rfl, htext, rfl⟩ := hr.covered_of_ok he hok
    refine ⟨?_, ?_, ?_⟩
    · rw [htally.filteredTokens, htally.totalTokens]
      exact length_filter_add_countP filter accepted
    · rw [htally.charsScanned, ← Token.length_chars, ← htext, String.length_toList]
    · rw [hr.metrics_tokenize he, ← lines_after, htext]
      rfl
  · rw [hr.metrics_tokenize he]
    rw [hr.result_tokenize he] at herror
    cases failure with
    | none => cases herror
    | some => rfl

/-- Two words and a blank that is filtered out; where the words start, keywords match too. -/
theorem tokenize_counts_words :
    let t : Tokenizer Int := ⟨lexicon.toArray, .longest, ⟨true, false, false⟩, .zero, .start⟩
    (t.tokenize .info "éê é" ["BLANK"]).tokenizer.metrics =
      ⟨3, 1, 4, 1, 2, 2, ⟨[("BLANK", 1), ("KEYWORD", 1), ("WORD", 1)]⟩⟩ ∧
    ∃ accepted cut, t.Reaches .info "éê é" ["BLANK"] accepted cut ∧
      t.Ends "éê é" accepted.length cut.scan none ∧ accepted.length = 3 ∧
      Counted t "éê é" ["BLANK"] accepted (t.tokenize .info "éê é" ["BLANK"]) := by
  intro t
  have hstart : t.Reaches .info "éê é" ["BLANK"] [] _ := .start
  have hword := hstart.turn (by decide) (by decide) rfl
  have hblank := hword.turn (by decide) (by decide) rfl
  have hkeyword := hblank.turn (by decide) (by decide) rfl
  have hcounted := (tokenize_counts t .info "éê é" ["BLANK"]).2 _ _ none hkeyword (.covered rfl)
  exact ⟨by decide +kernel, _, _, hkeyword, .covered rfl, rfl, hcounted⟩

end Tokenizer

end Descent
