/-
  The greedy run, and what a cut comes to.

  * `Tokenizer.greedy` are the choices selected one after another from the start of a text while their
    lexemes are not empty, and `Tokenizer.stopOffset` is where a cut stops: after the run, or after as
    much of it as the budget allows.
  * `Tokenizer.Reaches.greedy`: the loop follows the greedy run.
  * `Tokenizer.Verdict` says how a cut comes out, by the greedy run and what the rules find where it
    stops.  The cases exclude each other.
  * `Tokenizer.tokenize_outcome`: exactly when a cut comes out in which way.
-/
import Descent.Proofs.Lexical.Coverage

namespace Descent.Tokenizer

variable {V : Type} {t : Tokenizer V} {least : Level} {text : String} {filter : List String}
  {accepted : List (Token V)} {cut : Cut V} {passed rest : List Char} {offset : Nat} {c : Choice V}

/-! ## The greedy run -/

/-- A selected lexeme ends inside the text. -/
theorem selectedAt_le (h : t.selectedAt text offset = some c) :
    offset + Utf8.size c.lexeme ≤ text.utf8ByteSize := by
  obtain ⟨passed, rest, hs, rfl⟩ := exists_split_of_mem (mem_of_selectedAt h)
  rw [← List.append_assoc] at hs
  rw [← Utf8.size_append]
  exact Utf8.size_le hs

/-- The choices selected one after another from a byte offset, while their lexemes are not empty. -/
def greedyFrom (t : Tokenizer V) (text : String) (offset : Nat) : List (Choice V) :=
  match _ : t.selectedAt text offset with
  | none => []
  | some c => if _ : c.lexeme = [] then [] else c :: greedyFrom t text (offset + Utf8.size c.lexeme)
termination_by text.utf8ByteSize - offset
decreasing_by
  rename_i hs hc
  have hle := selectedAt_le hs
  have hpos := mt Utf8.size_eq_zero.1 hc
  omega

/-- The greedy run of a text. -/
def greedy (t : Tokenizer V) (text : String) : List (Choice V) := t.greedyFrom text 0

theorem greedyFrom_cons (hs : t.selectedAt text offset = some c) (hc : c.lexeme ≠ []) :
    t.greedyFrom text offset = c :: t.greedyFrom text (offset + Utf8.size c.lexeme) := by
  rw [greedyFrom]
  split
  · next h => rw [hs] at h; exact absurd h (Option.some_ne_none c)
  · next d h =>
    rw [hs] at h
    obtain rfl := Option.some.inj h
    rw [dif_neg hc]

/-- The run stops where nothing is selected or the selected lexeme is empty. -/
theorem greedyFrom_nil (h : ∀ c, t.selectedAt text offset = some c → c.lexeme = []) :
    t.greedyFrom text offset = [] := by
  rw [greedyFrom]
  split
  · rfl
  · next c hs => rw [dif_pos (h c hs)]

/-- **The loop follows the greedy run.** -/
theorem Reaches.greedy (h : t.Reaches least text filter accepted cut) :
    ∃ run, t.greedy text = run ++ t.greedyFrom text cut.scan.byteOffset ∧
      run.length = accepted.length ∧ run.flatMap (·.lexeme) = Token.chars accepted := by
  induction h with
  | start => exact ⟨[], rfl, rfl, rfl⟩
  | @turn accepted cut choice _ hr _ _ ht ih =>
    obtain ⟨run, hg, hn, hl⟩ := ih
    obtain ⟨hs, hc, -⟩ := (turn_eq_accept hr.at).1 ht
    refine ⟨run ++ [choice], ?_, ?_, ?_⟩
    · rw [hg, greedyFrom_cons hs hc, List.append_assoc]; rfl
    · rw [List.length_append, List.length_append, hn]; rfl
    · rw [List.flatMap_append, hl, Token.chars_concat, toList_lexeme_token, List.flatMap_singleton]

/-! ## Where a cut stops -/

/-- Where a cut stops: after the greedy run, or after as much of it as the budget allows. -/
def stopOffset (t : Tokenizer V) (text : String) : Nat :=
  Utf8.size (((t.greedy text).take Limits.tokenCount).flatMap (·.lexeme))

/-- A run that covers the text stops at its end. -/
theorem stopOffset_of_covers (hn : (t.greedy text).length ≤ Limits.tokenCount)
    (hc : (t.greedy text).flatMap (·.lexeme) = text.toList) : t.stopOffset text = text.utf8ByteSize := by
  rw [stopOffset, List.take_of_length_le hn, hc, Utf8.size_toList]

/-- The greedy run of a text whose cut has come to where it stops. -/
theorem Reaches.greedy_of_stop (h : t.Reaches least text filter accepted cut)
    (hs : ∀ c, t.selectedAt text cut.scan.byteOffset = some c → c.lexeme = []) :
    (t.greedy text).length = accepted.length ∧
      (t.greedy text).flatMap (·.lexeme) = Token.chars accepted := by
  obtain ⟨run, hg, hn, hl⟩ := h.greedy
  rw [greedyFrom_nil hs, List.append_nil] at hg
  rw [hg]
  exact ⟨hn, hl⟩

/-- A run that cannot go on is the greedy run as a whole. -/
theorem Reaches.stopOffset_eq (h : t.Reaches least text filter accepted cut)
    (hs : ∀ c, t.selectedAt text cut.scan.byteOffset = some c → c.lexeme = []) :
    t.stopOffset text = cut.scan.byteOffset := by
  obtain ⟨hn, hl⟩ := h.greedy_of_stop hs
  have hle := h.length_le
  rw [stopOffset, List.take_of_length_le (by omega), hl, h.at.byteOffset]

/-- Nothing but the empty lexeme is found at the end of the text. -/
theorem lexeme_eq_nil_of_rest {scan : Scan} (h : scan.At text passed) (hrest : scan.rest = [])
    (hs : t.selectedAt text scan.byteOffset = some c) : c.lexeme = [] := by
  have hp := lexeme_of_selectedAt h hs
  rwa [hrest, List.prefix_nil] at hp

/-- How a cut comes out, and at which position it stops: the text is covered, the budget is spent with
text left, or the run stops earlier, where no rule matches or the selected lexeme is empty. -/
inductive Verdict (t : Tokenizer V) (text : String) (position : Position) :
    Except LexicalError (List (Token V)) → Prop
  | covered {tokens : List (Token V)} : (t.greedy text).length ≤ Limits.tokenCount →
      (t.greedy text).flatMap (·.lexeme) = text.toList → Verdict t text position (.ok tokens)
  | spent : Limits.tokenCount ≤ (t.greedy text).length → t.stopOffset text < text.utf8ByteSize →
      Verdict t text position (.error (.tooManyTokens (Limits.tokenCount + 1)))
  | unmatched : (t.greedy text).length < Limits.tokenCount → t.stopOffset text < text.utf8ByteSize →
      t.choicesAt text (t.stopOffset text) = [] →
      Verdict t text position (.error (unexpected text position))
  | empty {c : Choice V} : (t.greedy text).length < Limits.tokenCount →
      t.stopOffset text < text.utf8ByteSize → t.selectedAt text (t.stopOffset text) = some c →
      c.lexeme = [] →
      Verdict t text position (.error (.zeroWidthMatch c.rule.category position.line position.column))

/-- **A run that ends stops where the greedy run does**, with its verdict. -/
theorem Reaches.verdict {failure : Option (LexicalError × Event)}
    (hr : t.Reaches least text filter accepted cut)
    (he : t.Ends text accepted.length cut.scan failure) :
    t.stopOffset text = cut.scan.byteOffset ∧
      t.Verdict text cut.scan.position (t.conclude text failure cut).result := by
  have hat := hr.at
  have hle := hr.length_le
  cases he with
  | covered hrest =>
    have hs : ∀ c, t.selectedAt text cut.scan.byteOffset = some c → c.lexeme = [] :=
      fun c => lexeme_eq_nil_of_rest hat hrest
    obtain ⟨hn, hl⟩ := hr.greedy_of_stop hs
    refine ⟨hr.stopOffset_eq hs, .covered (by omega) ?_⟩
    rw [hl, hat.split, hrest, List.append_nil]
  | spent hrest hcount =>
    obtain ⟨run, hg, hn, hl⟩ := hr.greedy
    have hstop : t.stopOffset text = cut.scan.byteOffset := by
      rw [stopOffset, hg, List.take_left' (hn.trans hcount), hl, hat.byteOffset]
    refine ⟨hstop, .spent ?_ (hstop ▸ hat.byteOffset_lt hrest)⟩
    rw [hg, List.length_append]; omega
  | failed hrest hcount ht =>
    rcases (turn_eq_fail hat).1 ht with ⟨hnil, rfl⟩ | ⟨c, hc, hlexeme, rfl⟩
    · have hs : ∀ c, t.selectedAt text cut.scan.byteOffset = some c → c.lexeme = [] := by
        intro c hc
        rw [selectedAt_eq_none.2 hnil] at hc
        exact absurd hc.symm (Option.some_ne_none c)
      have hstop := hr.stopOffset_eq hs
      refine ⟨hstop, .unmatched ?_ (hstop ▸ hat.byteOffset_lt hrest) (hstop ▸ hnil)⟩
      rw [(hr.greedy_of_stop hs).1]; exact hcount
    · have hs : ∀ d, t.selectedAt text cut.scan.byteOffset = some d → d.lexeme = [] := by
        intro d hd
        rw [hc] at hd
        rw [← Option.some.inj hd, hlexeme]
      have hstop := hr.stopOffset_eq hs
      refine ⟨hstop, .empty ?_ (hstop ▸ hat.byteOffset_lt hrest) (hstop ▸ hc) hlexeme⟩
      rw [(hr.greedy_of_stop hs).1]; exact hcount

/-! ## What a cut comes to -/

/-- **Every cut has its verdict**, and its position is the place of the byte offset at which it stops. -/
theorem tokenize_verdict (t : Tokenizer V) (least : Level) (text : String) (filter : List String) :
    t.Verdict text (t.tokenize least text filter).tokenizer.position
        (t.tokenize least text filter).result ∧
      ∃ passed rest, text.toList = passed ++ rest ∧ Utf8.size passed = t.stopOffset text ∧
        (t.tokenize least text filter).tokenizer.position = Position.after passed := by
  obtain ⟨accepted, cut, failure, hr, he⟩ := t.exists_run least text filter
  obtain ⟨hstop, hv⟩ := hr.verdict he
  rw [tokenize_eq hr he, position_conclude]
  exact ⟨hv, _, _, hr.at.split, by rw [hstop, hr.at.byteOffset], hr.at.position⟩

namespace Verdict

variable {position : Position} {result : Except LexicalError (List (Token V))}

theorem ok_iff (h : t.Verdict text position result) : (∃ tokens, result = .ok tokens) ↔
    (t.greedy text).flatMap (·.lexeme) = text.toList ∧ (t.greedy text).length ≤ Limits.tokenCount := by
  constructor
  · rintro ⟨tokens, rfl⟩
    cases h with
    | covered hn hl => exact ⟨hl, hn⟩
  · rintro ⟨hl, hn⟩
    have hend := stopOffset_of_covers hn hl
    cases h with
    | covered => exact ⟨_, rfl⟩
    | spent _ hlt => omega
    | unmatched _ hlt _ => omega
    | empty _ hlt _ _ => omega

theorem tooManyTokens_iff (h : t.Verdict text position result) (n : Nat) :
    result = .error (.tooManyTokens n) ↔ n = Limits.tokenCount + 1 ∧
      Limits.tokenCount ≤ (t.greedy text).length ∧ t.stopOffset text < text.utf8ByteSize := by
  constructor
  · rintro rfl
    cases h with
    | spent hn hlt => exact ⟨rfl, hn, hlt⟩
  · rintro ⟨rfl, hn, hlt⟩
    cases h with
    | covered hle hl => have hend := stopOffset_of_covers hle hl; omega
    | spent => rfl
    | unmatched hlt' _ _ => omega
    | empty hlt' _ _ _ => omega

theorem unexpectedCharacter_iff (h : t.Verdict text position result) :
    (∃ excerpt line column diagram,
        result = .error (.unexpectedCharacter excerpt line column diagram)) ↔
      (t.greedy text).length < Limits.tokenCount ∧ t.stopOffset text < text.utf8ByteSize ∧
        t.choicesAt text (t.stopOffset text) = [] := by
  constructor
  · rintro ⟨excerpt, line, column, diagram, he⟩
    cases h with
    | covered => cases he
    | spent => cases he
    | unmatched hn hlt hnil => exact ⟨hn, hlt, hnil⟩
    | empty => cases he
  · rintro ⟨hn, hlt, hnil⟩
    cases h with
    | covered hle hl => have hend := stopOffset_of_covers hle hl; omega
    | spent hle _ => omega
    | unmatched => exact ⟨_, _, _, _, rfl⟩
    | empty _ _ hs _ =>
      rw [selectedAt_eq_none.2 hnil] at hs
      exact absurd hs.symm (Option.some_ne_none _)

theorem zeroWidthMatch_iff (h : t.Verdict text position result) (category : String) :
    (∃ line column, result = .error (.zeroWidthMatch category line column)) ↔
      (t.greedy text).length < Limits.tokenCount ∧ t.stopOffset text < text.utf8ByteSize ∧
        ∃ c, t.selectedAt text (t.stopOffset text) = some c ∧ c.lexeme = [] ∧
          c.rule.category = category := by
  constructor
  · rintro ⟨line, column, he⟩
    cases h with
    | covered => cases he
    | spent => cases he
    | unmatched => cases he
    | empty hn hlt hs hc =>
      cases he
      exact ⟨hn, hlt, _, hs, hc, rfl⟩
  · rintro ⟨hn, hlt, c, hs, hc, rfl⟩
    cases h with
    | covered hle hl => have hend := stopOffset_of_covers hle hl; omega
    | spent hle _ => omega
    | unmatched _ _ hnil =>
      rw [selectedAt_eq_none.2 hnil] at hs
      exact absurd hs.symm (Option.some_ne_none _)
    | @empty d _ _ hd _ =>
      rw [hs] at hd
      obtain rfl := Option.some.inj hd
      exact ⟨_, _, rfl⟩

/-- An error is of one of three kinds, and its place is the position at which the cut stops. -/
theorem error {e : LexicalError} (h : t.Verdict text position (.error e)) :
    (e = .tooManyTokens (Limits.tokenCount + 1) ∨
      (∃ excerpt line column diagram, e = .unexpectedCharacter excerpt line column diagram) ∨
      ∃ category line column, e = .zeroWidthMatch category line column) ∧
    ∀ place, e.location? = some place → place = (position.line, position.column) := by
  cases h with
  | spent => exact ⟨.inl rfl, fun place hp => nomatch hp⟩
  | unmatched => exact ⟨.inr (.inl ⟨_, _, _, _, rfl⟩), fun place hp => (Option.some.inj hp).symm⟩
  | empty => exact ⟨.inr (.inr ⟨_, _, _, rfl⟩), fun place hp => (Option.some.inj hp).symm⟩

end Verdict

/-- Where a cut stops, no rule matches if there is no choice. -/
theorem choicesAt_size_eq_nil (h : text.toList = passed ++ rest) :
    t.choicesAt text (Utf8.size passed) = [] ↔
      ∀ r ∈ t.rules, r.matchAt? text (Utf8.size passed) = .ok none := by
  simp only [choicesAt_eq_nil, Rule.matchAt?_size_eq_none h]

/-- Under the longest strategy the selected lexeme is empty where every match is. -/
theorem selected_empty_longest (hl : t.strategy = .longest) (text : String) (offset : Nat) :
    (∃ c, t.selectedAt text offset = some c ∧ c.lexeme = []) ↔
      (∃ r ∈ t.rules, r.matchAt? text offset = .ok (some "")) ∧
        ∀ r ∈ t.rules, ∀ l, r.matchAt? text offset = .ok (some l) → l = "" := by
  constructor
  · rintro ⟨c, hs, hc⟩
    obtain ⟨hr, hm⟩ := mem_choicesAt.1 (mem_of_selectedAt hs)
    refine ⟨⟨c.rule, Array.mem_of_getElem? hr, by rw [hm, hc, String.ofList_nil]⟩, fun r hr' l hm' => ?_⟩
    obtain ⟨j, hj⟩ := Array.mem_iff_getElem?.1 hr'
    have hle := (rivals_longest hl hs hj hm').1
    rw [hc, List.length_nil] at hle
    exact String.length_eq_zero_iff.1 (Nat.le_zero.1 hle)
  · rintro ⟨⟨r, hr, hm⟩, hall⟩
    cases hs : t.selectedAt text offset with
    | none => exact absurd hm (choicesAt_eq_nil.1 (selectedAt_eq_none.1 hs) r hr "")
    | some c =>
      obtain ⟨hrule, hmatch⟩ := mem_choicesAt.1 (mem_of_selectedAt hs)
      have hempty := hall c.rule (Array.mem_of_getElem? hrule) _ hmatch
      refine ⟨c, rfl, ?_⟩
      rw [← String.toList_ofList (l := c.lexeme), hempty, String.toList_empty]

/-- **When a cut comes out in which way.**  It succeeds if the greedy run covers the text within the
limit.  It fails for its length if the limit is reached with text left, whatever the rules find there.
It fails earlier where no rule matches, or where the selected lexeme is empty; under the longest strategy
that is where some rule matches and every match is empty.  A cut that fails is left at the place where it
stops, and the error says so. -/
theorem tokenize_outcome (t : Tokenizer V) (least : Level) (text : String) (filter : List String) :
    let out := t.tokenize least text filter
    let run := t.greedy text
    let stop := t.stopOffset text
    ((∃ tokens, out.result = .ok tokens) ↔
      run.flatMap (·.lexeme) = text.toList ∧ run.length ≤ 1000000) ∧
    (∀ n, out.result = .error (.tooManyTokens n) ↔
      n = 1000001 ∧ 1000000 ≤ run.length ∧ stop < text.utf8ByteSize) ∧
    ((∃ excerpt line column diagram,
        out.result = .error (.unexpectedCharacter excerpt line column diagram)) ↔
      run.length < 1000000 ∧ stop < text.utf8ByteSize ∧
        ∀ r ∈ t.rules, r.matchAt? text stop = .ok none) ∧
    (∀ category, (∃ line column, out.result = .error (.zeroWidthMatch category line column)) ↔
      run.length < 1000000 ∧ stop < text.utf8ByteSize ∧
        ∃ c, t.selectedAt text stop = some c ∧ c.lexeme = [] ∧ c.rule.category = category) ∧
    (t.strategy = .longest →
      ((∃ category line column, out.result = .error (.zeroWidthMatch category line column)) ↔
        run.length < 1000000 ∧ stop < text.utf8ByteSize ∧
          (∃ r ∈ t.rules, r.matchAt? text stop = .ok (some "")) ∧
          ∀ r ∈ t.rules, ∀ l, r.matchAt? text stop = .ok (some l) → l = "")) ∧
    ∀ e, out.result = .error e →
      (e = .tooManyTokens 1000001 ∨
        (∃ excerpt line column diagram, e = .unexpectedCharacter excerpt line column diagram) ∨
        ∃ category line column, e = .zeroWidthMatch category line column) ∧
      (∃ passed rest, text.toList = passed ++ rest ∧ Utf8.size passed = stop ∧
        out.tokenizer.position = Position.after passed) ∧
      ∀ place, e.location? = some place →
        place = (out.tokenizer.position.line, out.tokenizer.position.column) := by
  intro out run stop
  obtain ⟨hv, passed, rest, hsplit, hstop, hposition⟩ := t.tokenize_verdict least text filter
  have hnil := hstop ▸ choicesAt_size_eq_nil (t := t) hsplit
  refine ⟨hv.ok_iff, hv.tooManyTokens_iff, ?_, hv.zeroWidthMatch_iff, fun hl => ?_, fun e he => ?_⟩
  · exact hv.unexpectedCharacter_iff.trans (and_congr_right' (and_congr_right' hnil))
  · have hempty := selected_empty_longest hl text stop
    constructor
    · rintro ⟨category, h⟩
      obtain ⟨hn, hlt, c, hs, hc, -⟩ := (hv.zeroWidthMatch_iff category).1 h
      exact ⟨hn, hlt, hempty.1 ⟨c, hs, hc⟩⟩
    · rintro ⟨hn, hlt, h⟩
      obtain ⟨c, hs, hc⟩ := hempty.2 h
      exact ⟨_, (hv.zeroWidthMatch_iff c.rule.category).2 ⟨hn, hlt, c, hs, hc, rfl⟩⟩
  · have hve : t.Verdict text out.tokenizer.position (.error e) := he ▸ hv
    exact ⟨hve.error.1, ⟨passed, rest, hsplit, hstop, hposition⟩, hve.error.2⟩

end Descent.Tokenizer
