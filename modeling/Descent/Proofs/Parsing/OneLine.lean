/-
  No text breaks the lines of the log.

  * `Tokenizer.Unbroken`: the categories and patterns of the rules and the name of the strategy are on one line.
    `Tokenizer.Unbroken.tokenize`: then so is all that a cut emits, whatever the text.
  * `Move` are the operations of a cursor that pass a token at most, and `Session.run` a sequence of them.
    `Move.apply_cases`: an operation keeps the tokens and adds the event of passing one.
  * `Tokenizer.events_on_one_line`: what a cut and a cursor over its tokens emit is written on one line for each
    event.
-/
import Descent.Proofs.Lexical.Provenance
import Descent.Proofs.Lexical.Trace
import Descent.Proofs.Log.OneLine
import Descent.Proofs.Parsing.Zipper
import Descent.Parsing.Production

namespace Descent

variable {V : Type} {e : Event} {least : Level}

/-! ## The events of a cut -/

namespace Tokenizer

variable {t : Tokenizer V} {text : String} {filter : List String} {accepted : List (Token V)} {cut : Cut V}
  {tok : Token V}

/-- Categories, patterns and the name of the strategy are on one line. -/
structure Unbroken (t : Tokenizer V) : Prop where
  rules : ∀ r ∈ t.rules, OneLine r.category ∧ OneLine r.pattern.source
  strategy : OneLine t.strategy.name

/-- What tells that a token is accepted. -/
theorem unbroken_acceptance (hcategory : OneLine tok.category) : (acceptance filter tok).Unbroken := by
  have hfiltered : OneLine (toString (filter.contains tok.category)) := by
    cases filter.contains tok.category <;> decide
  refine (Event.Unbroken.ofMessage .debug (by decide) (by decide)).withContext ?_
  simp only [details, oneLinePairs_cons]
  exact ⟨⟨by decide, hcategory⟩, ⟨by decide, oneLine_escape _⟩, ⟨by decide, oneLine_toString _⟩,
    ⟨by decide, oneLine_toString _⟩, ⟨by decide, hfiltered⟩, oneLinePairs_nil⟩

/-- What tells of an error. -/
theorem unbroken_failure {error : LexicalError} {message : String} {context : List (String × String)}
    (hmessage : OneLine message) (hcontext : OneLinePairs context) (position : Position) :
    (failure error message position context).Unbroken := by
  have hcodes : ∀ code ∈ Code.lexical, OneLine code.text := by decide
  have hcode : error.code ∈ Code.lexical := by cases error <;> simp [LexicalError.code, Code.lexical]
  exact ((Event.Unbroken.ofMessage .error (hcodes _ hcode) hmessage).withSpan _).withContext hcontext

namespace Unbroken

/-- Accepted tokens have categories of the rules. -/
theorem category (h : t.Unbroken) (hr : t.Reaches least text filter accepted cut) (htok : tok ∈ accepted) :
    OneLine tok.category := by
  obtain ⟨c, _, _, hselected, -, -, -, hmakes⟩ := hr.exists_selected htok
  have hrule := (mem_choicesAt.1 (mem_of_selectedAt hselected)).1
  rw [hmakes.category_eq]
  exact (h.rules c.rule (Array.mem_of_getElem? hrule)).1

theorem begin (h : t.Unbroken) (he : e ∈ (t.begin least text).events) : e.Unbroken := by
  refine Event.unbroken_of_mem_debugEvent (by decide) ?_ he
  simp only [oneLinePairs_cons]
  exact ⟨⟨by decide, oneLine_toString _⟩, ⟨by decide, oneLine_toString _⟩, ⟨by decide, h.strategy⟩,
    oneLinePairs_nil⟩

/-- What the loop emits on its way. -/
theorem reaches (h : t.Unbroken) (hr : t.Reaches least text filter accepted cut) (he : e ∈ cut.events) :
    e.Unbroken := by
  rw [← List.mem_reverse, hr.events_eq, List.mem_append] at he
  rcases he with he | he
  · exact h.begin he
  · split at he
    · obtain ⟨tok, htok, rfl⟩ := List.mem_map.1 he
      exact unbroken_acceptance (h.category hr htok)
    · cases he

/-- What tells how the loop fails. -/
theorem ends (h : t.Unbroken) {f : LexicalError × Event} {passed : List Char} {count : Nat}
    (hs : cut.scan.At text passed) (hends : t.Ends text count cut.scan (some f)) : f.2.Unbroken := by
  cases hends with
  | spent =>
    refine unbroken_failure (by decide) ?_ _
    exact oneLinePairs_cons.2 ⟨⟨by decide, oneLine_toString _⟩, oneLinePairs_nil⟩
  | failed _ _ hturn =>
    rcases (turn_eq_fail hs).1 hturn with ⟨-, rfl⟩ | ⟨c, hselected, -, rfl⟩
    · refine unbroken_failure (by decide) ?_ _
      simp only [oneLinePairs_cons]
      exact ⟨⟨by decide, oneLine_escape _⟩, ⟨by decide, oneLine_toString _⟩,
        ⟨by decide, oneLine_toString _⟩, oneLinePairs_nil⟩
    · have hrule := (mem_choicesAt.1 (mem_of_selectedAt hselected)).1
      obtain ⟨hc, hp⟩ := h.rules c.rule (Array.mem_of_getElem? hrule)
      refine unbroken_failure (by decide) ?_ _
      simp only [oneLinePairs_cons]
      exact ⟨⟨by decide, hc⟩, ⟨by decide, hp⟩, oneLinePairs_nil⟩

/-- **Whatever the text, all that a cut emits is unbroken.** -/
theorem tokenize (h : t.Unbroken) (he : e ∈ (t.tokenize least text filter).events) : e.Unbroken := by
  obtain ⟨accepted, cut, f, hr, hends⟩ := t.exists_run least text filter
  rw [tokenize_eq hr hends] at he
  cases f with
  | some f =>
    rcases List.mem_cons.1 (List.mem_reverse.1 he) with rfl | he
    · exact h.ends hr.at hends
    · exact h.reaches hr he
  | none =>
    rcases List.mem_cons.1 (List.mem_reverse.1 he) with rfl | he
    · refine (Event.Unbroken.ofMessage .info (by decide) (by decide)).withContext ?_
      simp only [oneLinePairs_cons]
      exact ⟨⟨by decide, oneLine_toString _⟩, ⟨by decide, oneLine_toString _⟩,
        ⟨by decide, oneLine_toString _⟩, oneLinePairs_nil⟩
    · exact h.reaches hr he

/-- The tokens of a text have categories of the rules. -/
theorem tokens (h : t.Unbroken) {tokens : List (Token V)}
    (hok : (t.tokenize least text filter).result = .ok tokens) : ∀ tok ∈ tokens, OneLine tok.category := by
  obtain ⟨accepted, cut, hr, -, rfl⟩ := exists_run_of_ok hok
  exact fun tok htok => h.category hr (List.mem_filter.1 htok).1

end Unbroken

end Tokenizer

/-! ## The events of a cursor -/

/-- The operations of a cursor that pass a token at most. -/
inductive Move where
  | advance
  | matchAny (categories : List String)
  | consume (category message : String)

/-- The session after an operation. -/
def Move.apply (s : Session V) : Move → Session V
  | advance => (Production.advance.runOn s).2
  | matchAny categories => ((Production.matchAny categories).runOn s).2
  | consume category message => ((Production.consume category message).runOn s).2

/-- The session after a sequence of operations. -/
def Session.run (s : Session V) (moves : List Move) : Session V := moves.foldl Move.apply s

/-- **An operation keeps the tokens and adds the event of passing one.** -/
theorem Move.apply_cases (s : Session V) (move : Move) : ∃ after : Cursor V, after.tokens = s.cursor.tokens ∧
    move.apply s = { s with
      cursor := after, events := Production.movement s.least s.cursor after ++ s.events } := by
  have hkeeps (op : Cursor.Op V) (h : op.reloads = false) : (op.apply s.cursor).tokens = s.cursor.tokens :=
    Cursor.Op.tokens_apply h s.cursor
  cases move with
  | advance => exact ⟨_, hkeeps .advance rfl, rfl⟩
  | matchAny categories => exact ⟨_, hkeeps (.matchAny categories) rfl, rfl⟩
  | consume category message => exact ⟨_, hkeeps (.consume category message) rfl, rfl⟩

/-- What tells that a token is passed. -/
theorem Production.unbroken_of_mem_movement {before after : Cursor V}
    (h : ∀ tok ∈ before.tokens.toList, OneLine tok.category) (he : e ∈ movement least before after) :
    e.Unbroken := by
  rw [movement] at he
  split at he
  · split at he
    · next tok htok =>
      refine Event.unbroken_of_mem_debugEvent (by decide) ?_ he
      have hmem : tok ∈ before.tokens.toList := Array.mem_toList_iff.2 (Array.mem_of_getElem? htok)
      simp only [oneLinePairs_cons]
      exact ⟨⟨by decide, oneLine_toString _⟩, ⟨by decide, h tok hmem⟩, ⟨by decide, oneLine_escape _⟩,
        oneLinePairs_nil⟩
    · cases he
  · cases he

/-- **Operations one after another** emit unbroken events, if the categories of the tokens are on one line. -/
theorem Session.exists_run_events (s : Session V) (moves : List Move)
    (h : ∀ tok ∈ s.cursor.tokens.toList, OneLine tok.category) :
    ∃ own, (s.run moves).events = own ++ s.events ∧ ∀ e ∈ own, e.Unbroken := by
  induction moves generalizing s with
  | nil => exact ⟨[], rfl, List.forall_mem_nil _⟩
  | cons move moves ih =>
    obtain ⟨after, htokens, happly⟩ := move.apply_cases s
    have hafter : ∀ tok ∈ (move.apply s).cursor.tokens.toList, OneLine tok.category := by
      rw [happly, htokens]
      exact h
    obtain ⟨later, hevents, hlater⟩ := ih (move.apply s) hafter
    refine ⟨later ++ Production.movement s.least s.cursor after, ?_, List.forall_mem_append.2 ⟨hlater, ?_⟩⟩
    · show ((move.apply s).run moves).events = _
      rw [hevents, happly, List.append_assoc]
    · exact fun e he => Production.unbroken_of_mem_movement h he

/-! ## The log -/

namespace Tokenizer

/-- **No text breaks the lines of the log.**  If categories, patterns and the name of the strategy are on one
line, each event of a cut is written on one line, and so is each event that a cursor over the tokens emits when
it passes them. -/
theorem events_on_one_line {t : Tokenizer V} (h : t.Unbroken) (least : Level) (text : String)
    (filter : List String) :
    (∀ e ∈ (t.tokenize least text filter).events, OneLine e.render) ∧
    ∀ tokens, (t.tokenize least text filter).result = .ok tokens →
      ∀ (s : Session V) (moves : List Move), s.cursor.tokens.toList = tokens →
        ∃ own, (s.run moves).events = own ++ s.events ∧ ∀ e ∈ own, OneLine e.render := by
  refine ⟨fun e he => (h.tokenize he).oneLine_render, fun tokens hok s moves hs => ?_⟩
  obtain ⟨own, hevents, hown⟩ := s.exists_run_events moves (hs ▸ h.tokens hok)
  exact ⟨own, hevents, fun e he => (hown e he).oneLine_render⟩

/-- A line feed is a token here, and nothing matches a line separator. -/
theorem events_on_one_line_separators :
    let t : Tokenizer Int := { ofRules lexicon with preferences := ⟨false, false, true⟩ }
    let tokens : Array (Token Int) :=
      #[⟨"KEYWORD", "é", 0, 1, 0, 1, none⟩, ⟨"BLANK", "\n", 1, 2, 1, 0, none⟩]
    let s : Session Int := ⟨.ofTokens ⟨' ', true⟩ tokens, .debug, []⟩
    let passed := (s.run [.advance, .matchAny ["BLANK"], .consume "WORD" "Expected word"]).events
    t.Unbroken ∧ (t.tokenize .debug "é\n\u2028" []).events.length = 4 ∧
    (∀ e ∈ (t.tokenize .debug "é\n\u2028" []).events, OneLine e.render) ∧
    (t.tokenize .debug "é\n" []).result = .ok tokens.toList ∧
    passed.length = 2 ∧ ∀ e ∈ passed, OneLine e.render := by
  intro t tokens s passed
  have ht : t.Unbroken := by
    refine ⟨fun r hr => ?_, by decide⟩
    have hrules : ∀ r ∈ lexicon, OneLine r.category ∧ OneLine r.pattern.source := by decide
    exact hrules r (Array.mem_toList_iff.2 hr)
  have hok : (t.tokenize .debug "é\n" []).result = .ok tokens.toList := rfl
  refine ⟨ht, by decide +kernel, (events_on_one_line ht .debug "é\n\u2028" []).1, hok, by decide +kernel, ?_⟩
  obtain ⟨own, hevents, hown⟩ := (events_on_one_line ht .debug "é\n" []).2 tokens.toList hok s
    [.advance, .matchAny ["BLANK"], .consume "WORD" "Expected word"] rfl
  have hpassed : passed = own := hevents.trans (List.append_nil own)
  exact hpassed ▸ hown

end Tokenizer

end Descent
