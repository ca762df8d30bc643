/-
  Cutting a text is safe: the loop ends, it stays inside the text, and its sums are machine words.

  * `Tokenizer.Reaches.length_le_min`: no more tokens are accepted than there are characters, and none beyond
    the limit.
  * `Tokenizer.accept?` is an accepted turn with all its sums checked; `Scan.pass?` and `Metrics.record?` are
    its parts.  `Tokenizer.Reaches.accept?_eq`: no check fails in a text of less than half a word of bytes.
  * `Tokenizer.Placed` says where in the text the loop stands, and `Tokenizer.Faultless` that whatever it looks up
    or adds there comes out.
  * `Tokenizer.tokenize_safe`: every run ends, and both hold wherever it comes.
-/
import Descent.Proofs.Lexical.Accepted
import Descent.Proofs.Text.Line
import Mathlib.Algebra.Order.Ring.Nat

namespace Descent

variable {V : Type}

/-- The bytes of tokens that stand one after another are those of each. -/
theorem Token.size_chars (tokens : List (Token V)) :
    Utf8.size (chars tokens) = (tokens.map fun tok => tok.lexeme.utf8ByteSize).sum := by
  induction tokens with
  | nil => rfl
  | cons tok tokens ih =>
    rw [chars, List.flatMap_cons, Utf8.size_append, Utf8.size_toList, List.map_cons, List.sum_cons, ← ih]
    rfl

/-- A match is cut out of the text by its offset and its bytes. -/
theorem Rule.slice?_of_matchAt? {r : Rule V} {text lexeme : String} {offset : Nat}
    (h : r.matchAt? text offset = .ok (some lexeme)) :
    Utf8.slice? text.toList offset (offset + lexeme.utf8ByteSize) = some lexeme.toList := by
  obtain ⟨passed, rest, htext, rfl⟩ := exists_split_of_matchAt? h
  rw [htext, ← Utf8.size_toList, Utf8.slice?_size]

/-! ## Checked sums -/

/-- Pass a lexeme, as long as the bytes and the coordinates are machine words. -/
def Scan.pass? (s : Scan) (lexeme : List Char) : Except Fault Scan := do
  let byteOffset ← Word.add? s.byteOffset (Utf8.size lexeme)
  let position ← s.position.advanceBy? lexeme
  return { s.pass lexeme with byteOffset, position }

theorem Scan.pass?_eq {s : Scan} {lexeme : List Char}
    (hbytes : s.byteOffset + Utf8.size lexeme < Word.limit)
    (hplace : s.position.line + s.position.column ≤ s.position.offset)
    (hoffset : s.position.offset + lexeme.length < Word.limit) : s.pass? lexeme = .ok (s.pass lexeme) := by
  rw [pass?, Word.add?_eq_ok.2 ⟨hbytes, rfl⟩, Position.advanceBy?_eq hplace hoffset]
  rfl

namespace SortedMap

/-- No count is more than all of them together. -/
theorem getD_get?_le_total (m : SortedMap Nat) (name : String) : (m.get? name).getD 0 ≤ m.total := by
  obtain ⟨entries⟩ := m
  rw [get?, total]
  induction entries with
  | nil => exact Nat.le_refl 0
  | cons entry entries ih =>
    rw [List.lookup_cons, List.foldr_cons]
    split
    · exact Nat.le_add_right _ _
    · exact ih.trans (Nat.le_add_left _ _)

end SortedMap

namespace Metrics

/-- Count an accepted token, as long as the counts are machine words. -/
def record? (m : Metrics) (category : String) (width : Nat) (filtered ambiguous detailed : Bool) :
    Except Fault Metrics := do
  let totalTokens ← Word.add? m.totalTokens 1
  let charsScanned ← Word.add? m.charsScanned width
  let filteredTokens ← if filtered then Word.add? m.filteredTokens 1 else .ok m.filteredTokens
  let ambiguousMatches ← if ambiguous then Word.add? m.ambiguousMatches 1 else .ok m.ambiguousMatches
  let _ ← if detailed then Word.add? ((m.categoryCounts.get? category).getD 0) 1 else .ok 0
  return { m.record category width filtered ambiguous detailed with
    totalTokens, charsScanned, filteredTokens, ambiguousMatches }

/-- Counts of no more than some tokens and characters. -/
structure Within (m : Metrics) (tokens chars : Nat) : Prop where
  totalTokens : m.totalTokens ≤ tokens
  filteredTokens : m.filteredTokens ≤ tokens
  ambiguousMatches : m.ambiguousMatches ≤ tokens
  categoryCounts : m.categoryCounts.total ≤ tokens
  charsScanned : m.charsScanned ≤ chars

theorem within_ofTokens (filter : List String) (detailed : Bool) (ambiguous : Token V → Bool)
    (accepted : List (Token V)) :
    (ofTokens filter detailed ambiguous accepted).Within accepted.length (Token.chars accepted).length where
  totalTokens := Nat.le_refl _
  filteredTokens := List.countP_le_length
  ambiguousMatches := List.countP_le_length
  categoryCounts := by
    cases detailed with
    | false => exact Nat.zero_le _
    | true => exact (total_tokenCounts accepted).le
  charsScanned := Nat.le_refl _

/-- **No count leaves the word** while tokens and characters do not. -/
theorem Within.record?_eq {m : Metrics} {tokens chars width : Nat} (h : m.Within tokens chars)
    (htokens : tokens + 1 < Word.limit) (hchars : chars + width < Word.limit) (category : String)
    (filtered ambiguous detailed : Bool) : m.record? category width filtered ambiguous detailed =
      .ok (m.record category width filtered ambiguous detailed) := by
  have hone {n : Nat} (hn : n ≤ tokens) : Word.add? n 1 = .ok (n + 1) :=
    Word.add?_eq_ok.2 ⟨by omega, rfl⟩
  have hwidth : Word.add? m.charsScanned width = .ok (m.charsScanned + width) :=
    Word.add?_eq_ok.2 ⟨by have := h.charsScanned; omega, rfl⟩
  have hcategory := (m.categoryCounts.getD_get?_le_total category).trans h.categoryCounts
  rw [record?, hone h.totalTokens, hwidth, hone h.filteredTokens, hone h.ambiguousMatches, hone hcategory]
  cases filtered <;> cases ambiguous <;> cases detailed <;> rfl

end Metrics

namespace Tokenizer

variable {t : Tokenizer V} {least : Level} {text : String} {filter : List String}
  {accepted : List (Token V)} {cut : Cut V} {choice : Choice V} {ambiguous : Bool}

/-- Accept a choice after a number of tokens, as long as all sums are machine words. -/
def accept? (t : Tokenizer V) (least : Level) (filter : List String) (count : Nat) (cut : Cut V)
    (choice : Choice V) (ambiguous : Bool) : Except Fault (Nat × Cut V) := do
  let scan ← cut.scan.pass? choice.lexeme
  let metrics ← cut.metrics.record? choice.rule.category choice.lexeme.length
    (filter.contains choice.rule.category) ambiguous t.preferences.collectDetailedMetrics
  let count ← Word.add? count 1
  return (count, { t.accept least filter cut choice ambiguous with scan, metrics })

/-! ## Bounds of a run -/

/-- Every accepted token passes a character. -/
theorem Reaches.length_le_chars (h : t.Reaches least text filter accepted cut) :
    accepted.length ≤ (Token.chars accepted).length := by
  induction h with
  | start => exact Nat.le_refl 0
  | @turn accepted cut choice ambiguous hr _ _ ht ih =>
    have hlexeme := List.length_pos_iff.2 ((turn_eq_accept hr.at).1 ht).2.1
    rw [Token.chars_concat, toList_lexeme_token, List.length_append, List.length_append,
      List.length_singleton]
    omega

/-- The characters passed are some of the text, and so are their bytes. -/
theorem Reaches.chars_le (h : t.Reaches least text filter accepted cut) :
    (Token.chars accepted).length ≤ text.length ∧
      Utf8.size (Token.chars accepted) ≤ text.utf8ByteSize := by
  refine ⟨?_, Utf8.size_le h.at.split⟩
  rw [← String.length_toList, h.at.split, List.length_append]
  exact Nat.le_add_right _ _

/-- **No more tokens are accepted than there are characters**, and no more than the limit. -/
theorem Reaches.length_le_min (h : t.Reaches least text filter accepted cut) :
    accepted.length ≤ min text.length Limits.tokenCount :=
  Nat.le_min.2 ⟨h.length_le_chars.trans h.chars_le.1, h.length_le⟩

theorem Reaches.line_add_column (h : t.Reaches least text filter accepted cut) :
    cut.scan.position.line + cut.scan.position.column ≤ cut.scan.position.offset := by
  rw [h.at.position]
  exact Position.line_add_column_after _

/-- **No sum of a turn leaves the word**: each of them is a count or a coordinate of the next turn, and these
are bounded by the text. -/
theorem Reaches.accept?_eq (h : t.Reaches least text filter accepted cut)
    (hsize : text.utf8ByteSize < 2 ^ 63) (hn : accepted.length < Limits.tokenCount)
    (hrest : cut.scan.rest ≠ []) (ht : t.turn t.numbered text cut.scan = .accept choice ambiguous) :
    t.accept? least filter accepted.length cut choice ambiguous =
      .ok (accepted.length + 1, t.accept least filter cut choice ambiguous) := by
  have hnext := h.turn hn hrest ht
  have htokens := hnext.length_le_chars
  have hchars := Utf8.length_le_size (Token.chars (accepted ++ [token cut.scan choice]))
  have hbytes := hnext.chars_le.2
  rw [List.length_append, List.length_singleton] at htokens
  rw [Token.chars_concat, toList_lexeme_token] at htokens hchars hbytes
  rw [List.length_append] at htokens hchars
  rw [Utf8.size_append] at hchars hbytes
  have hlimit : Word.limit = 2 ^ 64 := rfl
  have hpass : cut.scan.pass? choice.lexeme = .ok (cut.scan.pass choice.lexeme) := by
    refine Scan.pass?_eq ?_ h.line_add_column ?_
    · rw [h.at.byteOffset]; omega
    · rw [h.at.position, Position.offset_after]; omega
  have hwithin : cut.metrics.Within accepted.length (Token.chars accepted).length :=
    h.metrics_eq ▸ Metrics.within_ofTokens _ _ _ _
  rw [accept?, hpass, hwithin.record?_eq (by omega) (by omega), Word.add?_eq_ok.2 ⟨by omega, rfl⟩]
  rfl

/-! ## Safety -/

/-- Where in a text the loop stands after the tokens it has accepted. -/
structure Placed (text : String) (accepted : List (Token V)) (scan : Scan) : Prop where
  /-- The bytes passed are those of the accepted lexemes. -/
  byteOffset : scan.byteOffset = (accepted.map fun tok => tok.lexeme.utf8ByteSize).sum
  /-- They end between two characters. -/
  split : Utf8.splitAt? scan.byteOffset text.toList = some (Token.chars accepted, scan.rest)
  offset : scan.position.offset = (Token.chars accepted).length
  line_add_column : scan.position.line + scan.position.column ≤ scan.position.offset
  offset_le : scan.position.offset ≤ scan.byteOffset
  byteOffset_le : scan.byteOffset ≤ text.utf8ByteSize
  /-- There is more to pass exactly short of the last byte. -/
  more : scan.rest ≠ [] ↔ scan.byteOffset < text.utf8ByteSize

theorem Reaches.placed (h : t.Reaches least text filter accepted cut) : Placed text accepted cut.scan where
  byteOffset := h.at.byteOffset.trans (Token.size_chars accepted)
  split := Utf8.splitAt?_eq_some.2 ⟨h.at.split, h.at.byteOffset.symm⟩
  offset := by rw [h.at.position]; rfl
  line_add_column := h.line_add_column
  offset_le := by
    rw [h.at.position, h.at.byteOffset]
    exact Utf8.length_le_size _
  byteOffset_le := h.at.byteOffset ▸ h.chars_le.2
  more := by
    rw [h.at.byteOffset]
    exact (Utf8.size_lt_iff h.at.split).symm

/-- Whatever the loop looks up or adds where it stands comes out. -/
structure Faultless (t : Tokenizer V) (least : Level) (text : String) (filter : List String)
    (accepted : List (Token V)) (cut : Cut V) : Prop where
  /-- Rules can be tried, and their matches cut out of the text. -/
  matchAt : ∀ r : Rule V, ∃ found, r.matchAt? text cut.scan.byteOffset = .ok found ∧
    ∀ lexeme, found = some lexeme → Utf8.slice? text.toList cut.scan.byteOffset
      (cut.scan.byteOffset + lexeme.utf8ByteSize) = some lexeme.toList
  /-- The line to show exists. -/
  line : ∃ shown, (SourceMap.ofString text).line? cut.scan.position.line = some shown
  /-- The character to report is one of the text. -/
  charAt : cut.scan.rest ≠ [] → cut.scan.rest.head? = some (charAt text cut.scan.byteOffset)
  /-- The tokens can be counted up to one too many. -/
  count : Word.add? accepted.length 1 = .ok (accepted.length + 1)
  /-- The lines can be counted. -/
  lines : Word.add? cut.scan.position.line 1 = .ok (cut.scan.position.line + 1)
  /-- A turn that accepts can be taken. -/
  turn : accepted.length < Limits.tokenCount → cut.scan.rest ≠ [] → ∀ choice ambiguous,
    t.turn t.numbered text cut.scan = .accept choice ambiguous →
    t.accept? least filter accepted.length cut choice ambiguous =
      .ok (accepted.length + 1, t.accept least filter cut choice ambiguous)

theorem Placed.charAt_eq (h : Placed text accepted cut.scan) (hrest : cut.scan.rest ≠ []) :
    cut.scan.rest.head? = some (charAt text cut.scan.byteOffset) := by
  obtain ⟨c, rest, hc⟩ := List.exists_cons_of_ne_nil hrest
  rw [charAt, h.split, hc]
  rfl

theorem Reaches.faultless (h : t.Reaches least text filter accepted cut)
    (hsize : text.utf8ByteSize < 2 ^ 63) : Faultless t least text filter accepted cut where
  matchAt r := by
    rw [h.at.byteOffset]
    refine ⟨_, Rule.matchAt?_size h.at.split, fun lexeme hfound => ?_⟩
    exact Rule.slice?_of_matchAt? (by rw [Rule.matchAt?_size h.at.split, hfound])
  line := by
    obtain ⟨before, line, after, hline, hbefore, -⟩ := IsLine.exists_around h.at.split
    rw [h.at.position, ← hbefore]
    exact ⟨_, SourceMap.line?_ofString hline⟩
  charAt := h.placed.charAt_eq
  count := by
    refine Word.add?_eq_ok.2 ⟨?_, rfl⟩
    have hlimit : Limits.tokenCount + 1 < Word.limit := by decide
    have := h.length_le
    omega
  lines := by
    refine Word.add?_eq_ok.2 ⟨?_, rfl⟩
    have hlimit : 2 ^ 63 < Word.limit := by decide
    have hplaced := h.placed
    have hcolumn := hplaced.line_add_column
    have hoffset := hplaced.offset_le
    have hbytes := hplaced.byteOffset_le
    omega
  turn hn hrest _ _ ht := h.accept?_eq hsize hn hrest ht

/-- **Cutting a text is safe**, whatever the rules, the strategy and the filter.  The loop ends after no more
tokens than the text has characters, nor than the limit; and wherever it comes on the way, to whatever end, its
place is inside the text between two characters, and whatever it looks up or adds there comes out. -/
theorem tokenize_safe (t : Tokenizer V) (least : Level) (text : String) (filter : List String)
    (hsize : text.utf8ByteSize < 2 ^ 63) :
    (∃ accepted cut failure, t.Reaches least text filter accepted cut ∧
      t.Ends text accepted.length cut.scan failure ∧
      t.tokenize least text filter = t.conclude text failure cut) ∧
    ∀ accepted cut, t.Reaches least text filter accepted cut →
      accepted.length ≤ min text.length 1000000 ∧ Placed text accepted cut.scan ∧
      Faultless t least text filter accepted cut := by
  constructor
  · obtain ⟨accepted, cut, failure, hr, he⟩ := t.exists_run least text filter
    exact ⟨accepted, cut, failure, hr, he, tokenize_eq hr he⟩
  · intro accepted cut hr
    exact ⟨hr.length_le_min, hr.placed, hr.faultless hsize⟩

/-- After a letter and a line feed comes a question mark, which no rule matches. -/
theorem tokenize_safe_question :
    "é\n?".utf8ByteSize < 2 ^ 63 ∧
    ∃ (accepted : List (Token Int)) (cut : Cut Int),
      (ofRules lexicon).Reaches .info "é\n?" ["BLANK"] accepted cut ∧ accepted.length = 2 ∧
      Placed "é\n?" accepted cut.scan ∧ Faultless (ofRules lexicon) .info "é\n?" ["BLANK"] accepted cut := by
  have hsize : "é\n?".utf8ByteSize < 2 ^ 63 := by decide
  have hstart : (ofRules lexicon).Reaches .info "é\n?" ["BLANK"] [] _ := .start
  have hletter := hstart.turn (by decide) (by decide) rfl
  have hblank := hletter.turn (by decide) (by decide) rfl
  obtain ⟨hlength, hplaced, hfaultless⟩ :=
    (tokenize_safe (ofRules lexicon) .info "é\n?" ["BLANK"] hsize).2 _ _ hblank
  exact ⟨hsize, _, _, hblank, rfl, hplaced, hfaultless⟩

end Tokenizer

end Descent
