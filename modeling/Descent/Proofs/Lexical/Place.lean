/-
  Places in a text, and what the rules find there.

  The loop looks at the character before its place and the text after it; rules are asked for matches at
  byte offsets of the whole text.  Both see the same:

  * `Scan.At text passed scan`: `scan` is the place of `text` after `passed`.  The start is one
    (`Scan.at_start`), and passing a lexeme leads from one to another (`Scan.At.pass`).
  * `Tokenizer.choicesAt` and `Tokenizer.selectedAt` are the matches at a byte offset and the one the
    strategy selects, and `mem_choicesAt` says what a choice is: a rule of the table, by its number,
    with its match.
  * `Tokenizer.turn_eq_accept` and `Tokenizer.turn_eq_fail`: what a turn does, in terms of these.
-/
import Descent.Lexical.Tokenizer
import Descent.Proofs.Lexical.Selection
import Descent.Proofs.Text.Offset
import Descent.Proofs.Text.Position

namespace Descent

variable {V : Type} {text : String} {passed rest : List Char}

/-! ## Places -/

namespace Scan

variable {scan : Scan}

/-- The place of a text after the characters `passed`. -/
structure At (text : String) (passed : List Char) (scan : Scan) : Prop where
  split : text.toList = passed ++ scan.rest
  before : scan.before = passed.getLast?
  byteOffset : scan.byteOffset = Utf8.size passed
  position : scan.position = Position.after passed

theorem at_start (text : String) : (start text.toList).At text [] := ⟨rfl, rfl, rfl, rfl⟩

/-- **Passing a lexeme** that stands at the front of the rest. -/
theorem At.pass {lexeme : List Char} (h : scan.At text passed) (hl : lexeme <+: scan.rest) :
    (scan.pass lexeme).At text (passed ++ lexeme) := by
  obtain ⟨rest, hr⟩ := hl
  refine ⟨?_, ?_, ?_, ?_⟩
  · rw [h.split, Scan.pass, ← hr, List.drop_left, List.append_assoc]
  · rw [List.getLast?_append, ← h.before]; rfl
  · rw [Utf8.size_append, ← h.byteOffset]; rfl
  · rw [← Position.after_advanceBy, ← h.position]; rfl

/-- With text left, a place lies inside the text. -/
theorem At.byteOffset_lt (h : scan.At text passed) (hrest : scan.rest ≠ []) :
    scan.byteOffset < text.utf8ByteSize := by
  rw [h.byteOffset]
  exact (Utf8.size_lt_iff h.split).2 hrest

end Scan

/-! ## Matches at byte offsets -/

namespace Rule

variable {r : Rule V} {offset : Nat} {lexeme : String}

/-- What a rule finds at a byte offset. -/
def lexemeAt? (r : Rule V) (text : String) (offset : Nat) : Option (List Char) :=
  match r.matchAt? text offset with
  | .ok found => found.map String.toList
  | .error _ => none

theorem lexemeAt?_eq_some {cs : List Char} :
    r.lexemeAt? text offset = some cs ↔ r.matchAt? text offset = .ok (some (String.ofList cs)) := by
  unfold lexemeAt?
  cases r.matchAt? text offset with
  | error => simp
  | ok found => cases found <;> simp [← String.toList_inj]

/-- Where a text is split, a rule finds what its pattern finds at the front of the rest. -/
theorem matchAt?_size (h : text.toList = passed ++ rest) : r.matchAt? text (Utf8.size passed) =
    .ok ((r.pattern.lexeme? passed.getLast? rest).map String.ofList) := by
  have hle : ¬ Utf8.size text.toList + 1 < Utf8.size passed := by
    have := Utf8.size_le h; rw [Utf8.size_toList]; omega
  rw [matchAt?, Pattern.matchAt?, if_neg hle, Utf8.seek?_size h]; rfl

theorem lexemeAt?_size (h : text.toList = passed ++ rest) :
    r.lexemeAt? text (Utf8.size passed) = r.pattern.lexeme? passed.getLast? rest := by
  simp [lexemeAt?, matchAt?_size h, Function.comp_def]

/-- Where a text is split, a rule has no match if it has none with any lexeme. -/
theorem matchAt?_size_eq_none (h : text.toList = passed ++ rest) :
    r.matchAt? text (Utf8.size passed) = .ok none ↔
      ∀ l, r.matchAt? text (Utf8.size passed) ≠ .ok (some l) := by
  rw [matchAt?_size h]
  cases r.pattern.lexeme? passed.getLast? rest with
  | none => simp
  | some cs => simp

/-- **A match is a piece of the text** that begins at the offset. -/
theorem exists_split_of_matchAt? (h : r.matchAt? text offset = .ok (some lexeme)) :
    ∃ passed rest, text.toList = passed ++ (lexeme.toList ++ rest) ∧ Utf8.size passed = offset := by
  rw [matchAt?, Pattern.matchAt?] at h
  split at h
  · simp at h
  · simp only [Except.ok.injEq, bind, Option.bind_eq_some_iff] at h
    obtain ⟨⟨before, tail⟩, hs, hm⟩ := h
    obtain ⟨cs, hp, rfl⟩ := Option.map_eq_some_iff.1 hm
    obtain ⟨passed, ht, ho, -⟩ := Utf8.seek?_eq_some hs
    obtain ⟨rest, rfl⟩ := Pattern.lexeme?_prefix hp
    exact ⟨passed, rest, by rw [ht, String.toList_ofList], ho⟩

end Rule

namespace Tokenizer

variable {t : Tokenizer V} {offset : Nat} {c : Choice V}

/-- The choices at a byte offset, one for every rule that matches there, in the order of the rules. -/
def choicesAt (t : Tokenizer V) (text : String) (offset : Nat) : List (Choice V) :=
  t.numbered.filterMap fun r => (r.1.lexemeAt? text offset).map fun lexeme => ⟨r.1, r.2, lexeme⟩

/-- The choice that the strategy selects at a byte offset. -/
def selectedAt (t : Tokenizer V) (text : String) (offset : Nat) : Option (Choice V) :=
  Choice.select? t.strategy (t.choicesAt text offset)

/-- **A choice is a rule of the table, by its number, with its match.** -/
theorem mem_choicesAt : c ∈ t.choicesAt text offset ↔ t.rules[c.number]? = some c.rule ∧
    c.rule.matchAt? text offset = .ok (some (String.ofList c.lexeme)) := by
  simp only [choicesAt, numbered, List.mem_filterMap, Option.map_eq_some_iff,
    List.mem_zipIdx_iff_getElem?, Array.getElem?_toList]
  constructor
  · rintro ⟨⟨r, i⟩, hr, lexeme, hl, rfl⟩
    exact ⟨hr, Rule.lexemeAt?_eq_some.1 hl⟩
  · rintro ⟨hr, hm⟩
    exact ⟨(c.rule, c.number), hr, c.lexeme, Rule.lexemeAt?_eq_some.2 hm, rfl⟩

theorem ordered_choicesAt (t : Tokenizer V) (text : String) (offset : Nat) :
    Choice.Ordered (t.choicesAt text offset) := by
  have hn : t.numbered.Pairwise fun a b => a.2 < b.2 := by
    have : ((t.rules.toList.zipIdx).map Prod.snd).Pairwise (· < ·) := by
      rw [List.zipIdx_map_snd]; exact List.pairwise_lt_range'
    exact List.pairwise_map.1 this
  refine hn.filterMap _ fun a b hab c hc d hd => ?_
  obtain ⟨-, -, rfl⟩ := Option.map_eq_some_iff.1 hc
  obtain ⟨-, -, rfl⟩ := Option.map_eq_some_iff.1 hd
  exact hab

/-- The lexemes of the choices do not depend on the numbers of the rules. -/
theorem map_lexeme_choicesAt (t : Tokenizer V) (text : String) (offset : Nat) :
    (t.choicesAt text offset).map (·.lexeme) = t.rules.toList.filterMap (·.lexemeAt? text offset) := by
  have hfst : t.numbered.map Prod.fst = t.rules.toList := List.zipIdx_map_fst ..
  rw [choicesAt, List.map_filterMap, ← hfst, List.filterMap_map]
  refine congrArg (List.filterMap · t.numbered) (funext fun r => ?_)
  rw [Option.map_map, Function.comp_apply]
  exact Option.map_id'

/-- Every match of a rule of the table is a choice. -/
theorem mem_choicesAt_of_match {j : Nat} {r : Rule V} {l : String} (hr : t.rules[j]? = some r)
    (hm : r.matchAt? text offset = .ok (some l)) :
    (⟨r, j, l.toList⟩ : Choice V) ∈ t.choicesAt text offset :=
  mem_choicesAt.2 ⟨hr, by rw [String.ofList_toList]; exact hm⟩

theorem choicesAt_eq_nil :
    t.choicesAt text offset = [] ↔ ∀ r ∈ t.rules, ∀ l, r.matchAt? text offset ≠ .ok (some l) := by
  rw [List.eq_nil_iff_forall_not_mem]
  constructor
  · intro h r hr l hm
    obtain ⟨i, hi⟩ := Array.mem_iff_getElem?.1 hr
    exact h _ (mem_choicesAt_of_match hi hm)
  · intro h c hc
    obtain ⟨hr, hm⟩ := mem_choicesAt.1 hc
    exact h c.rule (Array.mem_of_getElem? hr) _ hm

theorem selectedAt_eq_none : t.selectedAt text offset = none ↔ t.choicesAt text offset = [] :=
  Choice.select?_eq_none (t.ordered_choicesAt text offset)

theorem mem_of_selectedAt (h : t.selectedAt text offset = some c) : c ∈ t.choicesAt text offset :=
  ((Choice.select?_eq_some (t.ordered_choicesAt text offset)).1 h).1

theorem exists_split_of_mem (h : c ∈ t.choicesAt text offset) :
    ∃ passed rest, text.toList = passed ++ (c.lexeme ++ rest) ∧ Utf8.size passed = offset := by
  simpa using Rule.exists_split_of_matchAt? (mem_choicesAt.1 h).2

/-- **What rivals the selected choice has** under the longest strategy. -/
theorem rivals_longest (hl : t.strategy = .longest) (hs : t.selectedAt text offset = some c) {j : Nat}
    {r : Rule V} {l : String} (hr : t.rules[j]? = some r) (hm : r.matchAt? text offset = .ok (some l)) :
    l.length ≤ c.lexeme.length ∧ (j < c.number → l.length < c.lexeme.length) := by
  rw [selectedAt, hl, Choice.select?_longest (t.ordered_choicesAt text offset)] at hs
  simpa [String.length_toList] using hs.2 _ (mem_choicesAt_of_match hr hm)

/-- No rule before the selected one matches under the first strategy. -/
theorem rivals_first (hf : t.strategy = .first) (hs : t.selectedAt text offset = some c) {j : Nat}
    {r : Rule V} (hj : j < c.number) (hr : t.rules[j]? = some r) (l : String) :
    r.matchAt? text offset ≠ .ok (some l) := by
  intro hm
  have ho := t.ordered_choicesAt text offset
  have hd := mem_choicesAt_of_match hr hm
  rw [selectedAt, hf, Choice.select?_first ho, List.head?_eq_some_iff] at hs
  obtain ⟨rest, hrest⟩ := hs
  rw [hrest] at ho hd
  rcases List.mem_cons.1 hd with hd | hd
  · exact absurd (congrArg Choice.number hd) (Nat.ne_of_lt hj)
  · exact absurd ((List.pairwise_cons.1 ho).1 _ hd) (Nat.lt_asymm hj)

/-! ## Turns -/

variable {scan : Scan} {ambiguous : Bool} {failure : LexicalError × Event}

/-- What the loop sees at a place is what the rules find at its byte offset. -/
theorem choicesAt_scan (h : scan.At text passed) :
    Choice.all t.numbered scan.before scan.rest = t.choicesAt text scan.byteOffset := by
  unfold Choice.all choicesAt
  simp only [h.byteOffset, h.before, Rule.lexemeAt?_size h.split]

theorem turn_scan (h : scan.At text passed) : t.turn t.numbered text scan =
    match t.selectedAt text scan.byteOffset with
    | none => .fail (failUnexpected text scan)
    | some c =>
      if c.lexeme = [] then .fail (failZeroWidth scan c.rule)
      else .accept c (1 < (t.choicesAt text scan.byteOffset).length) := by
  simp only [turn, selectedAt, choicesAt_scan h]
  cases Choice.select? t.strategy (t.choicesAt text scan.byteOffset) with
  | none => rfl
  | some c => by_cases hc : c.lexeme = [] <;> simp [hc]

/-- **A turn accepts** the selected choice if it is not empty. -/
theorem turn_eq_accept (h : scan.At text passed) :
    t.turn t.numbered text scan = .accept c ambiguous ↔ t.selectedAt text scan.byteOffset = some c ∧
      c.lexeme ≠ [] ∧ ambiguous = decide (1 < (t.choicesAt text scan.byteOffset).length) := by
  rw [turn_scan h]
  cases t.selectedAt text scan.byteOffset with
  | none => simp
  | some d =>
    by_cases hd : d.lexeme = []
    · simp only [hd, if_true, reduceCtorEq, false_iff]
      rintro ⟨hdc, hne, -⟩
      exact hne (Option.some.inj hdc ▸ hd)
    · simp only [hd, if_false, Turn.accept.injEq, Option.some.injEq]
      constructor
      · rintro ⟨rfl, rfl⟩; exact ⟨rfl, hd, rfl⟩
      · rintro ⟨rfl, -, rfl⟩; exact ⟨rfl, rfl⟩

/-- **A turn fails** where no rule matches, and where the selected match is empty. -/
theorem turn_eq_fail (h : scan.At text passed) :
    t.turn t.numbered text scan = .fail failure ↔
      (t.choicesAt text scan.byteOffset = [] ∧ failure = failUnexpected text scan) ∨
      ∃ c, t.selectedAt text scan.byteOffset = some c ∧ c.lexeme = [] ∧
        failure = failZeroWidth scan c.rule := by
  rw [turn_scan h, ← selectedAt_eq_none]
  cases t.selectedAt text scan.byteOffset with
  | none => simp [eq_comm]
  | some d =>
    by_cases hd : d.lexeme = []
    · simp [hd, eq_comm]
    · simp [hd]

theorem lexeme_of_selectedAt (h : scan.At text passed)
    (hs : t.selectedAt text scan.byteOffset = some c) : c.lexeme <+: scan.rest := by
  have hm := mem_of_selectedAt hs
  rw [← choicesAt_scan h, Choice.all, List.mem_filterMap] at hm
  obtain ⟨r, -, hr⟩ := hm
  obtain ⟨lexeme, hl, rfl⟩ := Option.map_eq_some_iff.1 hr
  exact Pattern.lexeme?_prefix hl

end Tokenizer

end Descent
