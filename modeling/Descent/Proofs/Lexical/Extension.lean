/-
  Rules that are added after those of a table.

  * `Tokenizer.extend t more` has more rules after its own, and `Tokenizer.mem_choicesAt_extend`: at every place
    its choices are those of the own rules, and after them those of the added ones.
  * `Tokenizer.selectedAt_extend_first` and `Tokenizer.selectedAt_extend_longest`: where the selected choice
    stays selected.
  * `Tokenizer.CutsInto` are the tokens that a whole cut accepts.
  * `Tokenizer.tokenize_extended`: what the cut of a text keeps when rules are added.
-/
import Descent.Proofs.Lexical.Accepted

namespace Descent

variable {V : Type}

/-- No rule of a table matches where a token starts with more characters than the token has. -/
def Token.Unsurpassed (rules : Array (Rule V)) (text : String) (tok : Token V) : Prop :=
  ∀ r ∈ rules, ∀ l, r.matchAt? text (Utf8.offsetOf text tok.start) = .ok (some l) →
    l.length ≤ tok.lexeme.length

instance (rules : Array (Rule V)) (text : String) (tok : Token V) : Decidable (tok.Unsurpassed rules text) :=
  decidable_of_iff (∀ r ∈ rules.toList, ∀ cs ∈ r.lexemeAt? text (Utf8.offsetOf text tok.start),
      cs.length ≤ tok.lexeme.length) <| by
    constructor
    · intro h r hr l hm
      have hle := h r (Array.mem_toList_iff.2 hr) l.toList
      rw [Option.mem_def, Rule.lexemeAt?_eq_some, String.ofList_toList, String.length_toList] at hle
      exact hle hm
    · intro h r hr cs hcs
      have hle := h r (Array.mem_toList_iff.1 hr) _ (Rule.lexemeAt?_eq_some.1 hcs)
      rwa [String.length_ofList] at hle

namespace Tokenizer

variable {t : Tokenizer V} {more : Array (Rule V)} {least : Level} {text : String} {filter : List String}
  {accepted : List (Token V)} {cut : Cut V} {failure : Option (LexicalError × Event)} {offset : Nat}
  {scan : Scan} {passed : List Char} {c d : Choice V}

/-- The tokenizer with more rules after its own. -/
def extend (t : Tokenizer V) (more : Array (Rule V)) : Tokenizer V := { t with rules := t.rules ++ more }

/-! ## Choices -/

theorem numbered_extend (t : Tokenizer V) (more : Array (Rule V)) :
    (t.extend more).numbered = t.numbered ++ more.toList.zipIdx t.rules.size := by
  rw [numbered, extend, Array.toList_append, List.zipIdx_append, Nat.zero_add, Array.length_toList]
  rfl

/-- The choices of the own rules come first. -/
theorem choicesAt_prefix (t : Tokenizer V) (more : Array (Rule V)) (text : String) (offset : Nat) :
    t.choicesAt text offset <+: (t.extend more).choicesAt text offset := by
  rw [choicesAt, choicesAt, numbered_extend, List.filterMap_append]
  exact List.prefix_append _ _

/-- Every other choice is of an added rule, whose number is greater than those of the own ones. -/
theorem mem_choicesAt_extend (h : d ∈ (t.extend more).choicesAt text offset) :
    d ∈ t.choicesAt text offset ∨ t.rules.size ≤ d.number ∧ d.rule ∈ more := by
  obtain ⟨hrule, hmatch⟩ := mem_choicesAt.1 h
  rw [extend, Array.getElem?_append] at hrule
  split at hrule
  · exact .inl (mem_choicesAt.2 ⟨hrule, hmatch⟩)
  · next hnumber => exact .inr ⟨Nat.not_lt.1 hnumber, Array.mem_of_getElem? hrule⟩

/-- **What the first strategy selects stays selected.** -/
theorem selectedAt_extend_first (hf : t.strategy = .first) (hs : t.selectedAt text offset = some c) :
    (t.extend more).selectedAt text offset = some c := by
  have hf' : (t.extend more).strategy = .first := hf
  obtain ⟨added, hadded⟩ := t.choicesAt_prefix more text offset
  rw [selectedAt, hf, Choice.select?_first (t.ordered_choicesAt text offset)] at hs
  rw [selectedAt, hf', Choice.select?_first ((t.extend more).ordered_choicesAt text offset), ← hadded,
    List.head?_append, hs]
  rfl

/-- **What the longest strategy selects stays selected** where no added rule matches with more characters; of
several rules that match with as many, an added one is not the earliest. -/
theorem selectedAt_extend_longest (hl : t.strategy = .longest) (hs : t.selectedAt text offset = some c)
    (hno : ∀ r ∈ more, ∀ l, r.matchAt? text offset = .ok (some l) → l.length ≤ c.lexeme.length) :
    (t.extend more).selectedAt text offset = some c := by
  have hl' : (t.extend more).strategy = .longest := hl
  rw [selectedAt, hl, Choice.select?_longest (t.ordered_choicesAt text offset)] at hs
  rw [selectedAt, hl', Choice.select?_longest ((t.extend more).ordered_choicesAt text offset)]
  obtain ⟨hc, hmax⟩ := hs
  refine ⟨(t.choicesAt_prefix more text offset).subset hc, fun d hd => ?_⟩
  rcases mem_choicesAt_extend hd with hown | ⟨hnumber, hrule⟩
  · exact hmax d hown
  · have hle := hno d.rule hrule _ (mem_choicesAt.1 hd).2
    rw [String.length_ofList] at hle
    obtain ⟨hlt, -⟩ := Array.getElem?_eq_some_iff.1 (mem_choicesAt.1 hc).1
    exact ⟨hle, fun hearlier => absurd hearlier (by omega)⟩

/-! ## Runs -/

/-- A turn that accepts a choice accepts it with more rules too, if it stays selected; more rules may match. -/
theorem exists_turn_extend (hs : scan.At text passed) {ambiguous : Bool}
    (hc : (t.extend more).selectedAt text scan.byteOffset = some c)
    (ht : t.turn t.numbered text scan = .accept c ambiguous) :
    ∃ ambiguous', (t.extend more).turn (t.extend more).numbered text scan = .accept c ambiguous' :=
  ⟨_, (turn_eq_accept hs).2 ⟨hc, ((turn_eq_accept hs).1 ht).2.1, rfl⟩⟩

theorem Reaches.extend_first (hf : t.strategy = .first) (h : t.Reaches least text filter accepted cut)
    (more : Array (Rule V)) (least' : Level) :
    ∃ cut', (t.extend more).Reaches least' text filter accepted cut' := by
  refine h.follow (P := fun _ => True) (fun hs _ ht => ?_) (fun _ _ => trivial) least' filter
  exact exists_turn_extend hs (selectedAt_extend_first hf ((turn_eq_accept hs).1 ht).1) ht

theorem Reaches.extend_longest (hl : t.strategy = .longest) (h : t.Reaches least text filter accepted cut)
    (hno : ∀ tok ∈ accepted, tok.Unsurpassed more text) (least' : Level) :
    ∃ cut', (t.extend more).Reaches least' text filter accepted cut' := by
  refine h.follow (fun {scan} {passed} {choice} {ambiguous} hs htok ht => ?_) hno least' filter
  refine exists_turn_extend hs (selectedAt_extend_longest hl ((turn_eq_accept hs).1 ht).1 ?_) ht
  intro r hr l hm
  rw [← offsetOf_start_token hs choice] at hm
  have hwidth : (token scan choice).lexeme.length = choice.lexeme.length := String.length_ofList
  rw [← hwidth]
  exact htok r hr l hm

/-- Under the first strategy a run ends in the same way, unless no rule matches where it stops. -/
theorem Ends.extend_first (hf : t.strategy = .first) (hs : scan.At text passed) {count : Nat}
    (he : t.Ends text count scan failure) (hmatched : failure ≠ some (failUnexpected text scan))
    (more : Array (Rule V)) : (t.extend more).Ends text count scan failure := by
  refine he.follow fun f hfailure ht => (turn_eq_fail hs).2 ?_
  rcases (turn_eq_fail hs).1 ht with ⟨-, rfl⟩ | ⟨c, hc, hlexeme, rfl⟩
  · exact absurd hfailure hmatched
  · exact .inr ⟨c, selectedAt_extend_first hf hc, hlexeme, rfl⟩

/-! ## Whole cuts -/

/-- `accepted` are all tokens that are accepted before the cut of a text ends, those filtered out included. -/
def CutsInto (t : Tokenizer V) (least : Level) (text : String) (filter : List String)
    (accepted : List (Token V)) : Prop :=
  ∃ cut failure, t.Reaches least text filter accepted cut ∧ t.Ends text accepted.length cut.scan failure

/-- **What a cut keeps when rules are added.**  Under the first strategy a text is cut as before, up to the
same place or the same error, unless no rule matched; then the tokens up to there are accepted as before,
and the cut ends there or later.  Under the longest strategy a text is cut into the same tokens if no added
rule matches with more characters where an accepted token starts, be it filtered out or not. -/
theorem tokenize_extended (t : Tokenizer V) (more : Array (Rule V)) (least₁ least₂ : Level) (text : String)
    (filter : List String) :
    let out₁ := t.tokenize least₁ text filter
    let out₂ := (t.extend more).tokenize least₂ text filter
    (t.strategy = .first →
      ((∀ excerpt line column diagram,
          out₁.result ≠ .error (.unexpectedCharacter excerpt line column diagram)) →
        out₂.result = out₁.result ∧ out₂.tokenizer.position = out₁.tokenizer.position) ∧
      ∃ accepted later, t.CutsInto least₁ text filter accepted ∧
        (t.extend more).CutsInto least₂ text filter (accepted ++ later) ∧
        out₁.tokenizer.position.offset = (Token.chars accepted).length ∧
        out₁.tokenizer.position.offset ≤ out₂.tokenizer.position.offset) ∧
    (t.strategy = .longest → ∀ tokens, out₁.result = .ok tokens →
      (∀ accepted, t.CutsInto least₁ text filter accepted →
        ∀ tok ∈ accepted, tok.Unsurpassed more text) →
      out₂.result = .ok tokens) := by
  intro out₁ out₂
  obtain ⟨accepted, cut, failure, hr, he⟩ := t.exists_run least₁ text filter
  refine ⟨fun hf => ?_, fun hl tokens hok hno => ?_⟩
  · obtain ⟨cut₂, hr₂⟩ := hr.extend_first hf more least₂
    refine ⟨fun hmatches => ?_, ?_⟩
    · have hmatched : failure ≠ some (failUnexpected text cut.scan) := by
        rintro rfl
        exact hmatches _ _ _ _ (hr.result_tokenize he)
      have he₂ : (t.extend more).Ends text accepted.length cut₂.scan failure :=
        hr₂.scan_eq hr ▸ he.extend_first hf hr.at hmatched more
      constructor
      · rw [hr.result_tokenize he, hr₂.result_tokenize he₂]
      · rw [hr.position_tokenize he, hr₂.position_tokenize he₂]
    · obtain ⟨later, cut₃, failure₃, hr₃, he₃⟩ := hr₂.exists_end (Nat.add_sub_cancel' hr₂.length_le)
      refine ⟨accepted, later, ⟨cut, failure, hr, he⟩, ⟨cut₃, failure₃, hr₃, he₃⟩, ?_, ?_⟩
      · rw [hr.position_tokenize he, Position.offset_after]
      · rw [hr.position_tokenize he, hr₃.position_tokenize he₃, Position.offset_after, Position.offset_after,
          Token.chars_append, List.length_append]
        exact Nat.le_add_right _ _
  · obtain ⟨accepted, cut, hr, hrest, rfl⟩ := exists_run_of_ok hok
    have hunsurpassed := hno accepted ⟨cut, none, hr, .covered hrest⟩
    obtain ⟨cut₂, hr₂⟩ := hr.extend_longest hl hunsurpassed least₂
    have he₂ : (t.extend more).Ends text accepted.length cut₂.scan none :=
      .covered (hr₂.scan_eq hr ▸ hrest)
    exact hr₂.result_tokenize he₂

/-- Phrases, which are words and blanks mixed. -/
def phrase : Rule Int := ⟨"PHRASE", repeated "[\\t-î]+" 0x09 0xEE, none⟩

/-- The rule for marks goes on where the lexicon stops at a mark, and does not come into the words before it;
the rule for names takes no word that the lexicon has. -/
theorem tokenize_extended_marks :
    let mark : Rule Int := ⟨"MARK", repeated "[!-?]+" 0x21 0x3F, none⟩
    let name : Rule Int := ⟨"NAME", repeated "[é-í]+" 0xE9 0xED, none⟩
    let first := { ofRules lexicon with strategy := .first }
    (first.tokenize .info "é ?î" ["BLANK"]).tokenizer.position.offset = 2 ∧
    ((first.extend #[mark]).tokenize .info "é ?î" ["BLANK"]).result =
      .ok [⟨"KEYWORD", "é", 0, 1, 0, 1, none⟩, ⟨"MARK", "?", 2, 3, 0, 3, none⟩,
        ⟨"WORD", "î", 3, 4, 0, 4, some 1⟩] ∧
    2 ≤ ((first.extend #[mark]).tokenize .info "é ?î" ["BLANK"]).tokenizer.position.offset ∧
    (∀ accepted, (ofRules lexicon).CutsInto .info "éî é" [] accepted →
      ∀ tok ∈ accepted, tok.Unsurpassed #[name] "éî é") ∧
    (((ofRules lexicon).extend #[name]).tokenize .debug "éî é" []).result =
      .ok [⟨"WORD", "éî", 0, 2, 0, 2, some 2⟩, ⟨"BLANK", " ", 2, 3, 0, 3, none⟩,
        ⟨"KEYWORD", "é", 3, 4, 0, 4, none⟩] := by
  intro mark name first
  have hno : ∀ accepted, (ofRules lexicon).CutsInto .info "éî é" [] accepted →
      ∀ tok ∈ accepted, tok.Unsurpassed #[name] "éî é" := by
    rintro accepted ⟨cut, failure, hr, he⟩
    have hresult := hr.result_tokenize he
    rw [filter_nil] at hresult
    cases failure with
    | some failure => cases hresult
    | none =>
      have haccepted : [⟨"WORD", "éî", 0, 2, 0, 2, some 2⟩, ⟨"BLANK", " ", 2, 3, 0, 3, none⟩,
        ⟨"KEYWORD", "é", 3, 4, 0, 4, none⟩] = accepted := Except.ok.inj hresult
      subst haccepted
      decide +kernel
  refine ⟨rfl, by decide +kernel, ?_, hno, ?_⟩
  · obtain ⟨accepted, later, -, -, -, hoffset⟩ :=
      ((tokenize_extended first #[mark] .info .info "é ?î" ["BLANK"]).1 rfl).2
    exact hoffset
  · exact (tokenize_extended (ofRules lexicon) #[name] .info .debug "éî é" []).2 rfl _ rfl hno

/-- Not so for the tokens that are left when some are filtered out: where the word starts, the phrase is no
longer than it, but from the start of the text it takes the blank too. -/
theorem filtered_not_extended :
    ((ofRules lexicon).tokenize .info " é" ["BLANK"]).result = .ok [⟨"KEYWORD", "é", 1, 2, 0, 2, none⟩] ∧
    (∀ tok ∈ [(⟨"KEYWORD", "é", 1, 2, 0, 2, none⟩ : Token Int)], tok.Unsurpassed #[phrase] " é") ∧
    (((ofRules lexicon).extend #[phrase]).tokenize .info " é" ["BLANK"]).result =
      .ok [⟨"PHRASE", " é", 0, 2, 0, 2, none⟩] := by
  refine ⟨rfl, ?_, rfl⟩
  decide +kernel

end Tokenizer

end Descent
