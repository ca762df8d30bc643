/-
  The order of the rules.

  * `Tokenizer.Reordered t₁ t₂`: the same rules in any two orders, both under the longest strategy.
  * `Tokenizer.Reordered.selected`: at every place both select one lexeme, and if they select different
    rules, two rules are tied there.
  * `Tokenizer.Reordered.reaches`: the two loops go through the same places.
  * `Tokenizer.tokenize_reordered`: they cut a text into the same lexemes, or fail alike.
-/
import Descent.Proofs.Lexical.Coverage
import Mathlib.Data.List.Forall2

namespace Descent

variable {V : Type}

/-! ## What reordering leaves alike -/

/-- Errors of one kind and place; only the category of a zero-width match may differ. -/
inductive LexicalError.Alike : LexicalError → LexicalError → Prop
  | same (e : LexicalError) : Alike e e
  | zeroWidthMatch (category₁ category₂ : String) (line column : Nat) :
      Alike (.zeroWidthMatch category₁ line column) (.zeroWidthMatch category₂ line column)

/-- Counts that agree in all but filtered tokens and categories. -/
structure Metrics.Alike (m₁ m₂ : Metrics) : Prop where
  totalTokens : m₁.totalTokens = m₂.totalTokens
  charsScanned : m₁.charsScanned = m₂.charsScanned
  linesScanned : m₁.linesScanned = m₂.linesScanned
  maxLexemeLength : m₁.maxLexemeLength = m₂.maxLexemeLength
  ambiguousMatches : m₁.ambiguousMatches = m₂.ambiguousMatches

theorem Metrics.Alike.record {m₁ m₂ : Metrics} (h : m₁.Alike m₂) (category₁ category₂ : String)
    (width : Nat) (filtered₁ filtered₂ ambiguous detailed₁ detailed₂ : Bool) :
    (m₁.record category₁ width filtered₁ ambiguous detailed₁).Alike
      (m₂.record category₂ width filtered₂ ambiguous detailed₂) where
  totalTokens := congrArg (· + 1) h.totalTokens
  charsScanned := congrArg (· + width) h.charsScanned
  linesScanned := h.linesScanned
  maxLexemeLength := congrArg (Nat.max · width) h.maxLexemeLength
  ambiguousMatches := by
    show (if ambiguous then _ else _) = if ambiguous then _ else _
    rw [h.ambiguousMatches]

namespace Tokenizer

/-- Two rules of the table match at a byte offset with a lexeme, and no rule with more characters. -/
def TiedAt (t : Tokenizer V) (text : String) (offset : Nat) (lexeme : String) : Prop :=
  (∃ (i j : Nat) (r s : Rule V), i ≠ j ∧ t.rules[i]? = some r ∧ t.rules[j]? = some s ∧
    r.matchAt? text offset = .ok (some lexeme) ∧ s.matchAt? text offset = .ok (some lexeme)) ∧
  ∀ r ∈ t.rules, ∀ l, r.matchAt? text offset = .ok (some l) → l.length ≤ lexeme.length

end Tokenizer

/-- Tokens of one lexeme at one place; category and value may differ only where rules are tied. -/
structure Token.Alike (t : Tokenizer V) (text : String) (a b : Token V) : Prop where
  lexeme : a.lexeme = b.lexeme
  start : a.start = b.start
  stop : a.stop = b.stop
  line : a.line = b.line
  column : a.column = b.column
  kind : a.category = b.category ∧ a.value = b.value ∨
    t.TiedAt text (Utf8.offsetOf text a.start) a.lexeme

namespace Tokenizer

variable {t t₁ t₂ : Tokenizer V} {text : String} {offset : Nat} {passed : List Char} {scan : Scan}
  {c d : Choice V}

/-- The same rules in any two orders, under the longest strategy. -/
structure Reordered (t₁ t₂ : Tokenizer V) : Prop where
  left : t₁.strategy = .longest
  right : t₂.strategy = .longest
  rules : t₁.rules.toList.Perm t₂.rules.toList

namespace Reordered

theorem symm (h : Reordered t₁ t₂) : Reordered t₂ t₁ := ⟨h.right, h.left, h.rules.symm⟩

/-- Every rule has its number in the other table. -/
theorem exists_number (h : Reordered t₁ t₂) {i : Nat} {r : Rule V} (hr : t₁.rules[i]? = some r) :
    ∃ j : Nat, t₂.rules[j]? = some r := by
  have hm : r ∈ t₂.rules.toList := h.rules.subset (Array.mem_toList_iff.2 (Array.mem_of_getElem? hr))
  exact Array.mem_iff_getElem?.1 (Array.mem_toList_iff.1 hm)

/-! ## One turn -/

/-- As many rules match. -/
theorem length_choicesAt (h : Reordered t₁ t₂) (text : String) (offset : Nat) :
    (t₁.choicesAt text offset).length = (t₂.choicesAt text offset).length := by
  have hp := h.rules.filterMap fun r => r.lexemeAt? text offset
  rw [← map_lexeme_choicesAt, ← map_lexeme_choicesAt] at hp
  simpa using hp.length_eq

/-- What one tokenizer selects is not longer than what the other selects. -/
theorem length_le (h : Reordered t₁ t₂) (hc : t₁.selectedAt text offset = some c)
    (hd : t₂.selectedAt text offset = some d) : c.lexeme.length ≤ d.lexeme.length := by
  obtain ⟨hr, hm⟩ := mem_choicesAt.1 (mem_of_selectedAt hc)
  obtain ⟨j, hj⟩ := h.exists_number hr
  have hle := (rivals_longest h.right hd hj hm).1
  rwa [String.length_ofList] at hle

/-- Different rules selected for one lexeme are tied. -/
theorem tiedAt (h : Reordered t₁ t₂) (hc : t₁.selectedAt text offset = some c)
    (hd : t₂.selectedAt text offset = some d) (hlexeme : d.lexeme = c.lexeme) (hrule : d.rule ≠ c.rule) :
    t₁.TiedAt text offset (String.ofList c.lexeme) := by
  obtain ⟨hi, hm⟩ := mem_choicesAt.1 (mem_of_selectedAt hc)
  obtain ⟨hj, hm'⟩ := mem_choicesAt.1 (mem_of_selectedAt hd)
  obtain ⟨k, hk⟩ := h.symm.exists_number hj
  refine ⟨⟨c.number, k, c.rule, d.rule, ?_, hi, hk, hm, hlexeme ▸ hm'⟩, fun r hr l hl => ?_⟩
  · rintro rfl
    rw [hi] at hk
    exact hrule (Option.some.inj hk).symm
  · obtain ⟨n, hn⟩ := Array.mem_iff_getElem?.1 hr
    rw [String.length_ofList]
    exact (rivals_longest h.left hc hn hl).1

/-- **Both select one lexeme**, by one rule or by rules that are tied. -/
theorem selected (h : Reordered t₁ t₂) (hs : scan.At text passed)
    (hc : t₁.selectedAt text scan.byteOffset = some c) :
    ∃ d, t₂.selectedAt text scan.byteOffset = some d ∧ d.lexeme = c.lexeme ∧
      (d.rule = c.rule ∨ t₁.TiedAt text scan.byteOffset (String.ofList c.lexeme)) := by
  cases hd : t₂.selectedAt text scan.byteOffset with
  | none =>
    have hlen := h.length_choicesAt text scan.byteOffset
    rw [selectedAt_eq_none.1 hd] at hlen
    rw [selectedAt_eq_none.2 (List.length_eq_zero_iff.1 hlen)] at hc
    exact absurd hc.symm (Option.some_ne_none c)
  | some d =>
    -- both lexemes stand at the front of the same rest, so their lengths decide
    have hlexeme : d.lexeme = c.lexeme := by
      have hp := List.prefix_of_prefix_length_le (lexeme_of_selectedAt hs hd)
        (lexeme_of_selectedAt hs hc) (h.symm.length_le hd hc)
      exact hp.eq_of_length_le (h.length_le hc hd)
    refine ⟨d, rfl, hlexeme, ?_⟩
    by_cases hrule : d.rule = c.rule
    · exact .inl hrule
    · exact .inr (h.tiedAt hc hd hlexeme hrule)

theorem accept (h : Reordered t₁ t₂) (hs : scan.At text passed) {ambiguous : Bool}
    (ht : t₁.turn t₁.numbered text scan = .accept c ambiguous) :
    ∃ d, t₂.turn t₂.numbered text scan = .accept d ambiguous ∧ d.lexeme = c.lexeme ∧
      Token.Alike t₁ text (token scan c) (token scan d) := by
  obtain ⟨hc, hne, ha⟩ := (turn_eq_accept hs).1 ht
  obtain ⟨d, hd, hlexeme, hrule⟩ := h.selected hs hc
  refine ⟨d, (turn_eq_accept hs).2 ⟨hd, hlexeme ▸ hne, by rw [ha, h.length_choicesAt]⟩, hlexeme, ?_⟩
  have hend : scan.position.advanceBy c.lexeme = scan.position.advanceBy d.lexeme := by rw [hlexeme]
  have htext : String.ofList c.lexeme = String.ofList d.lexeme := by rw [hlexeme]
  refine ⟨htext, rfl, congrArg Position.offset hend, congrArg Position.line hend,
    congrArg Position.column hend, ?_⟩
  rcases hrule with hrule | htied
  · refine .inl ⟨congrArg Rule.category hrule.symm, ?_⟩
    show c.rule.value? (String.ofList c.lexeme) = d.rule.value? (String.ofList d.lexeme)
    rw [htext, hrule]
  · rw [offsetOf_start_token hs]
    exact .inr htied

theorem fail (h : Reordered t₁ t₂) (hs : scan.At text passed) {failure : LexicalError × Event}
    (ht : t₁.turn t₁.numbered text scan = .fail failure) :
    ∃ failure', t₂.turn t₂.numbered text scan = .fail failure' ∧ failure.1.Alike failure'.1 := by
  rcases (turn_eq_fail hs).1 ht with ⟨hnil, rfl⟩ | ⟨c, hc, hlexeme, rfl⟩
  · have hlen := h.length_choicesAt text scan.byteOffset
    rw [hnil] at hlen
    have hnil₂ := List.length_eq_zero_iff.1 hlen.symm
    exact ⟨_, (turn_eq_fail hs).2 (.inl ⟨hnil₂, rfl⟩), .same _⟩
  · obtain ⟨d, hd, hlexeme', -⟩ := h.selected hs hc
    exact ⟨_, (turn_eq_fail hs).2 (.inr ⟨d, hd, hlexeme'.trans hlexeme, rfl⟩), .zeroWidthMatch ..⟩

/-! ## Runs -/

/-- **The two loops go through the same places** and accept tokens that are alike. -/
theorem reaches (h : Reordered t₁ t₂) {least₁ : Level} (least₂ : Level) {filter₁ : List String}
    (filter₂ : List String) {accepted₁ : List (Token V)} {cut₁ : Cut V}
    (hr : t₁.Reaches least₁ text filter₁ accepted₁ cut₁) :
    ∃ accepted₂ cut₂, t₂.Reaches least₂ text filter₂ accepted₂ cut₂ ∧ cut₂.scan = cut₁.scan ∧
      cut₁.metrics.Alike cut₂.metrics ∧ List.Forall₂ (Token.Alike t₁ text) accepted₁ accepted₂ := by
  induction hr with
  | start => exact ⟨[], _, .start, rfl, ⟨rfl, rfl, rfl, rfl, rfl⟩, .nil⟩
  | @turn accepted₁ cut₁ c ambiguous hr hn hrest ht ih =>
    obtain ⟨accepted₂, cut₂, hr₂, hscan, hm, hall⟩ := ih
    obtain ⟨d, hd, hlexeme, halike⟩ := h.accept hr.at ht
    refine ⟨accepted₂ ++ [token cut₁.scan d], t₂.accept least₂ filter₂ cut₂ d ambiguous, ?_, ?_, ?_, ?_⟩
    · rw [← hscan] at hd hrest ⊢
      exact hr₂.turn (hall.length_eq ▸ hn) hrest hd
    · rw [scan_accept, scan_accept, hscan, hlexeme]
    · rw [metrics_accept, metrics_accept, hlexeme]
      exact hm.record ..
    · exact List.rel_append hall (.cons halike .nil)

/-- The two loops end at the same place, both at the end of the text or with errors that are alike. -/
theorem ends (h : Reordered t₁ t₂) (hs : scan.At text passed) {count : Nat}
    {failure₁ : Option (LexicalError × Event)} (he : t₁.Ends text count scan failure₁) :
    ∃ failure₂, t₂.Ends text count scan failure₂ ∧
      Option.Rel (fun f g => f.1.Alike g.1) failure₁ failure₂ := by
  cases he with
  | covered hrest => exact ⟨_, .covered hrest, .none⟩
  | spent hrest hn => exact ⟨_, .spent hrest hn, .some (.same _)⟩
  | failed hrest hn ht =>
    obtain ⟨failure₂, ht₂, halike⟩ := h.fail hs ht
    exact ⟨_, .failed hrest hn ht₂, .some halike⟩

end Reordered

/-- Cuts that end at one place are concluded alike. -/
theorem metrics_conclude_alike {cut₁ cut₂ : Cut V} {failure₁ failure₂ : Option (LexicalError × Event)}
    (hm : cut₁.metrics.Alike cut₂.metrics) (hscan : cut₂.scan = cut₁.scan)
    (hf : failure₁.isNone = failure₂.isNone) :
    (t₁.conclude text failure₁ cut₁).tokenizer.metrics.Alike
      (t₂.conclude text failure₂ cut₂).tokenizer.metrics := by
  rw [metrics_conclude, metrics_conclude]
  refine ⟨hm.totalTokens, hm.charsScanned, ?_, hm.maxLexemeLength, hm.ambiguousMatches⟩
  show (if failure₁.isNone then _ else _) = if failure₂.isNone then _ else _
  rw [hf, hscan, hm.linesScanned]

/-- **The order of the rules does not matter to where a text is cut.**  Under the longest strategy two
tokenizers with the same rules in different orders both succeed, with tokens of the same lexemes and
places, or both fail, with errors of one kind and place.  Both stop at one position and count alike. -/
theorem tokenize_reordered (t₁ t₂ : Tokenizer V) (least₁ least₂ : Level) (text : String)
    (h : Reordered t₁ t₂) :
    let out₁ := t₁.tokenize least₁ text []
    let out₂ := t₂.tokenize least₂ text []
    ((∃ tokens₁ tokens₂, out₁.result = .ok tokens₁ ∧ out₂.result = .ok tokens₂ ∧
        List.Forall₂ (Token.Alike t₁ text) tokens₁ tokens₂) ∨
      ∃ e₁ e₂, out₁.result = .error e₁ ∧ out₂.result = .error e₂ ∧ e₁.Alike e₂) ∧
    out₁.tokenizer.position = out₂.tokenizer.position ∧
    out₁.tokenizer.metrics.Alike out₂.tokenizer.metrics := by
  intro out₁ out₂
  obtain ⟨accepted₁, cut₁, failure₁, hr₁, he₁⟩ := t₁.exists_run least₁ text []
  obtain ⟨accepted₂, cut₂, hr₂, hscan, hm, hall⟩ := h.reaches least₂ [] hr₁
  obtain ⟨failure₂, he₂, hrel⟩ := h.ends hr₁.at he₁
  rw [hall.length_eq, ← hscan] at he₂
  have ho₁ : out₁ = t₁.conclude text failure₁ cut₁ := tokenize_eq hr₁ he₁
  have ho₂ : out₂ = t₂.conclude text failure₂ cut₂ := tokenize_eq hr₂ he₂
  rw [ho₁, ho₂, position_conclude, position_conclude]
  cases hrel with
  | none =>
    refine ⟨.inl ⟨accepted₁, accepted₂, ?_, ?_, hall⟩, by rw [hscan], metrics_conclude_alike hm hscan rfl⟩
    · rw [result_conclude_none, hr₁.tokens, filter_nil]
    · rw [result_conclude_none, hr₂.tokens, filter_nil]
  | some halike =>
    exact ⟨.inr ⟨_, _, rfl, rfl, halike⟩, by rw [hscan], metrics_conclude_alike hm hscan rfl⟩

/-- The last word is tied; with the rules in reverse order it is of the other category. -/
theorem tokenize_reordered_reverse :
    Reordered (ofRules lexicon) (ofRules lexicon.reverse) ∧
    ((ofRules lexicon).tokenize .info "éê é" []).result =
      .ok [⟨"WORD", "éê", 0, 2, 0, 2, some 2⟩, ⟨"BLANK", " ", 2, 3, 0, 3, none⟩,
        ⟨"KEYWORD", "é", 3, 4, 0, 4, none⟩] ∧
    ((ofRules lexicon.reverse).tokenize .debug "éê é" []).result =
      .ok [⟨"WORD", "éê", 0, 2, 0, 2, some 2⟩, ⟨"BLANK", " ", 2, 3, 0, 3, none⟩,
        ⟨"WORD", "é", 3, 4, 0, 4, some 1⟩] ∧
    ((ofRules lexicon).tokenize .info "éê é" []).tokenizer.metrics.Alike
      ((ofRules lexicon.reverse).tokenize .debug "éê é" []).tokenizer.metrics := by
  have h : Reordered (ofRules lexicon) (ofRules lexicon.reverse) :=
    ⟨rfl, rfl, lexicon.reverse_perm.symm⟩
  exact ⟨h, rfl, rfl, (tokenize_reordered _ _ .info .debug "éê é" h).2.2⟩

end Tokenizer

end Descent
