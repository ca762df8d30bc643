/-
  What the accepted tokens of a run determine.

  * `Scan.At.unique`: a text has one place after each first part of it, so that two runs that accept the
    same tokens come to the same place (`Tokenizer.Reaches.scan_eq`).
  * `Metrics.ofTokens` are the counts of a list of tokens, and `Tokenizer.Reaches.metrics_eq`: the loop
    counts those of the tokens it has accepted.
  * `Tokenizer.Reaches.follow`: a loop that takes the turns of another accepts its tokens, and
    `Tokenizer.Ends.follow`: it ends where that one does if it fails alike.
  * `Tokenizer.Reaches.result_tokenize`, `position_tokenize` and `metrics_tokenize`: what a text is cut
    into, where the cut stops and what it counts, by the accepted tokens and the failure.
-/
import Descent.Proofs.Lexical.Coverage

namespace Descent

variable {V : Type}

/-! ## Places -/

/-- **A text has one place after each first part.** -/
theorem Scan.At.unique {text : String} {passed : List Char} {scan₁ scan₂ : Scan}
    (h₁ : scan₁.At text passed) (h₂ : scan₂.At text passed) : scan₁ = scan₂ := by
  have hrest : scan₁.rest = scan₂.rest := List.append_cancel_left (h₁.split.symm.trans h₂.split)
  cases scan₁
  cases scan₂
  rw [Scan.mk.injEq]
  exact ⟨h₁.before.trans h₂.before.symm, hrest, h₁.byteOffset.trans h₂.byteOffset.symm,
    h₁.position.trans h₂.position.symm⟩

/-! ## Counts -/

/-- The counts of accepted tokens; `ambiguous` says for which of them more than one rule matched. -/
def Metrics.ofTokens (filter : List String) (detailed : Bool) (ambiguous : Token V → Bool)
    (accepted : List (Token V)) : Metrics where
  totalTokens := accepted.length
  filteredTokens := accepted.countP fun tok => filter.contains tok.category
  charsScanned := (Token.chars accepted).length
  linesScanned := 0
  maxLexemeLength := accepted.foldl (fun width tok => Nat.max width tok.lexeme.length) 0
  ambiguousMatches := accepted.countP ambiguous
  categoryCounts := if detailed then tokenCounts accepted else .empty

theorem Metrics.ofTokens_nil (filter : List String) (detailed : Bool) (ambiguous : Token V → Bool) :
    ofTokens filter detailed ambiguous [] = .zero := by
  cases detailed <;> rfl

theorem tokenCounts_concat (tokens : List (Token V)) (tok : Token V) :
    tokenCounts (tokens ++ [tok]) = (tokenCounts tokens).increment tok.category := by
  simp [tokenCounts, SortedMap.count]

/-- Each token is counted once. -/
theorem total_tokenCounts (tokens : List (Token V)) : (tokenCounts tokens).total = tokens.length := by
  rw [tokenCounts, SortedMap.total_count, List.length_map]

theorem Metrics.ofTokens_concat (filter : List String) (detailed : Bool) (ambiguous : Token V → Bool)
    (accepted : List (Token V)) (tok : Token V) :
    ofTokens filter detailed ambiguous (accepted ++ [tok]) =
      (ofTokens filter detailed ambiguous accepted).record tok.category tok.lexeme.length
        (filter.contains tok.category) (ambiguous tok) detailed := by
  have hcount (p : Token V → Bool) : (accepted ++ [tok]).countP p =
      if p tok then accepted.countP p + 1 else accepted.countP p := by
    rw [List.countP_append, List.countP_singleton]
    split <;> rfl
  rw [ofTokens, record, Metrics.mk.injEq]
  refine ⟨List.length_append, hcount _, ?_, rfl, ?_, hcount _, ?_⟩
  · rw [Token.chars_concat, List.length_append, String.length_toList]; rfl
  · rw [List.foldl_append]; rfl
  · rw [tokenCounts_concat]; cases detailed <;> rfl

namespace Tokenizer

variable {t t₁ t₂ : Tokenizer V} {least least₁ least₂ : Level} {text : String}
  {filter filter₁ filter₂ : List String} {accepted : List (Token V)} {cut cut₁ cut₂ : Cut V}
  {failure : Option (LexicalError × Event)}

/-- Whether more than one rule matches where a token starts. -/
def ambiguousAt (t : Tokenizer V) (text : String) (tok : Token V) : Bool :=
  1 < (t.choicesAt text (Utf8.offsetOf text tok.start)).length

theorem ambiguousAt_token {scan : Scan} {passed : List Char} (hs : scan.At text passed)
    (choice : Choice V) : t.ambiguousAt text (token scan choice) =
      decide (1 < (t.choicesAt text scan.byteOffset).length) := by
  rw [ambiguousAt, offsetOf_start_token hs]

/-- **The loop counts the tokens it has accepted.** -/
theorem Reaches.metrics_eq (h : t.Reaches least text filter accepted cut) : cut.metrics =
    .ofTokens filter t.preferences.collectDetailedMetrics (t.ambiguousAt text) accepted := by
  induction h with
  | start => rw [Metrics.ofTokens_nil]; rfl
  | @turn accepted cut choice ambiguous hr _ _ ht ih =>
    have ha : t.ambiguousAt text (token cut.scan choice) = ambiguous := by
      rw [ambiguousAt_token hr.at, ((turn_eq_accept hr.at).1 ht).2.2]
    have hwidth : (token cut.scan choice).lexeme.length = choice.lexeme.length := String.length_ofList
    rw [metrics_accept, ih, Metrics.ofTokens_concat, ha, hwidth]
    rfl

/-! ## Two runs -/

/-- Runs that accept the same tokens come to the same place. -/
theorem Reaches.scan_eq (h₁ : t₁.Reaches least₁ text filter₁ accepted cut₁)
    (h₂ : t₂.Reaches least₂ text filter₂ accepted cut₂) : cut₁.scan = cut₂.scan :=
  h₁.at.unique h₂.at

/-- **A loop that takes the turns of another accepts its tokens**, at least as far as it takes those
turns in which a token with `P` is accepted. -/
theorem Reaches.follow {P : Token V → Prop}
    (hturn : ∀ {scan : Scan} {passed : List Char} {choice : Choice V} {ambiguous : Bool},
      scan.At text passed → P (token scan choice) →
      t₁.turn t₁.numbered text scan = .accept choice ambiguous →
      ∃ ambiguous', t₂.turn t₂.numbered text scan = .accept choice ambiguous')
    (h : t₁.Reaches least₁ text filter₁ accepted cut₁) (hP : ∀ tok ∈ accepted, P tok) (least₂ : Level)
    (filter₂ : List String) : ∃ cut₂, t₂.Reaches least₂ text filter₂ accepted cut₂ := by
  induction h with
  | start => exact ⟨_, .start⟩
  | @turn accepted cut₁ choice ambiguous hr hn hrest ht ih =>
    obtain ⟨cut₂, hr₂⟩ := ih fun tok hm => hP tok (List.mem_append_left _ hm)
    have hscan : cut₁.scan = cut₂.scan := hr.scan_eq hr₂
    have hlast : P (token cut₁.scan choice) := hP _ (List.mem_append_right _ (List.mem_singleton_self _))
    obtain ⟨ambiguous', ht₂⟩ := hturn hr.at hlast ht
    rw [hscan] at hrest ht₂ ⊢
    exact ⟨_, hr₂.turn hn hrest ht₂⟩

/-- **A loop that fails as another does ends as that one.** -/
theorem Ends.follow {scan : Scan} {count : Nat} (he : t₁.Ends text count scan failure)
    (hturn : ∀ f, failure = some f → t₁.turn t₁.numbered text scan = .fail f →
      t₂.turn t₂.numbered text scan = .fail f) : t₂.Ends text count scan failure := by
  cases he with
  | covered hrest => exact .covered hrest
  | spent hrest hn => exact .spent hrest hn
  | failed hrest hn ht => exact .failed hrest hn (hturn _ rfl ht)

/-! ## Conclusions -/

theorem Reaches.result_tokenize (hr : t.Reaches least text filter accepted cut)
    (he : t.Ends text accepted.length cut.scan failure) :
    (t.tokenize least text filter).result =
      failure.elim (.ok (accepted.filter fun tok => !filter.contains tok.category)) fun f => .error f.1 := by
  rw [tokenize_eq hr he, ← hr.tokens]
  cases failure <;> rfl

theorem Reaches.position_tokenize (hr : t.Reaches least text filter accepted cut)
    (he : t.Ends text accepted.length cut.scan failure) :
    (t.tokenize least text filter).tokenizer.position = Position.after (Token.chars accepted) := by
  rw [tokenize_eq hr he, position_conclude, hr.at.position]

theorem Reaches.metrics_tokenize (hr : t.Reaches least text filter accepted cut)
    (he : t.Ends text accepted.length cut.scan failure) :
    (t.tokenize least text filter).tokenizer.metrics =
      { Metrics.ofTokens filter t.preferences.collectDetailedMetrics (t.ambiguousAt text) accepted with
        linesScanned := if failure.isNone then lines text (Position.after (Token.chars accepted)) else 0 } := by
  rw [tokenize_eq hr he, metrics_conclude, hr.metrics_eq, hr.at.position]
  rfl

end Tokenizer

end Descent
