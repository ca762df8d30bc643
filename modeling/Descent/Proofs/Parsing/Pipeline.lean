/-
  From a text to the result of a start rule.

  * `Production.Computes`: what a production yields and leaves on the cursor is a function of the cursor alone.
    Productions that are built of operations compute such functions (`Built.exists_computes`): no level and no
    event makes a difference to them.
  * `Production.Computes.parse`: so does a parse, of which only the settings of the cursor matter.
  * `Production.fromText_of_error` and `Production.fromText_of_ok`: a text that cannot be cut leaves the cursor
    alone, and the tokens of one that can are handed on.
  * `Production.parseSource_reload`: hence what earlier parses left makes no difference to the parse of a text.
  * `Production.parseSource_after`: parser and tokenizer can be used again and again.
-/
import Descent.Proofs.Lexical.History
import Descent.Proofs.Parsing.Speculation

namespace Descent

variable {V α β : Type}

theorem Cursor.load_congr {c d : Cursor V} (h : c.preferences = d.preferences) (tokens : Array (Token V))
    (source : Option String) : c.load tokens source = d.load tokens source := by
  rw [load, load, h]

namespace Production

variable {p start : Production V α} {f : Cursor V → Except ParseError α × Cursor V} {s : Session V}

/-! ## Functions of the cursor -/

/-- What is seen of a run without its events: the result and the cursor. -/
def seen (run : Except ParseError α × Session V) : Except ParseError α × Cursor V := (run.1, run.2.cursor)

/-- Result and cursor after a run are a function of the cursor before it. -/
def Computes (p : Production V α) (f : Cursor V → Except ParseError α × Cursor V) : Prop :=
  ∀ s, seen (p.runOn s) = f s.cursor

theorem computes_step (op : Cursor V → Except ParseError α × Cursor V) : (step op).Computes op :=
  fun _ => rfl

theorem Computes.bind {k : α → Production V β} {g : α → Cursor V → Except ParseError β × Cursor V}
    (hp : p.Computes f) (hk : ∀ a, (k a).Computes (g a)) : (p >>= k).Computes fun c =>
      match f c with
      | (.ok a, d) => g a d
      | (.error e, d) => (.error e, d) := by
  intro s
  have hfirst := hp s
  dsimp only
  rw [← hfirst]
  rcases hrun : p.runOn s with ⟨e | a, after⟩
  · rw [runOn_bind_error hrun]
    rfl
  · rw [runOn_bind_ok hrun]
    exact hk a after

theorem Computes.attempt (hp : p.Computes f) : (attempt p).Computes fun c =>
      match f c with
      | (.ok a, d) => (.ok (some a), d)
      | (.error _, d) => (.ok none, (d.restore c.position).truncateErrors c.errors.size) := by
  intro s
  have hinner := hp s
  dsimp only
  rw [← hinner]
  rcases hrun : p.runOn s with ⟨e | a, after⟩
  · obtain ⟨hnone, hcursor⟩ := runOn_attempt_error hrun
    rw [seen, hnone, hcursor]
    rfl
  · rw [runOn_attempt_ok hrun]
    rfl

/-- **Productions that are built of operations compute functions of the cursor.** -/
theorem Built.exists_computes (hp : p.Built) : ∃ f, p.Computes f := by
  induction hp with
  | pure a => exact ⟨fun c => (.ok a, c), fun _ => rfl⟩
  | throw e => exact ⟨fun c => (.error e, c), fun _ => rfl⟩
  | look view => exact ⟨fun c => (.ok (view c), c), fun _ => rfl⟩
  | object message => exact ⟨fun c => (.error (c.objection message), c), fun _ => rfl⟩
  | advance | matchAny | consume => exact ⟨_, computes_step _⟩
  | synchronize categories =>
    exact ⟨fun c => (.ok (c.synchronize categories).skipped, (c.synchronize categories).cursor), fun _ => rfl⟩
  | addError message => exact ⟨fun c => (.ok (), c.addError message), fun _ => rfl⟩
  | restore position => exact ⟨fun c => (.ok (), c.restore position), fun _ => rfl⟩
  | caught _ ih =>
    obtain ⟨f, hf⟩ := ih
    exact ⟨fun c => (.ok (f c).1, (f c).2), fun s => by dsimp only; rw [← hf s]; rfl⟩
  | attempt _ ih =>
    obtain ⟨f, hf⟩ := ih
    exact ⟨_, hf.attempt⟩
  | bind _ _ ihp ihk =>
    obtain ⟨f, hf⟩ := ihp
    -- what follows computes a function for each value of the first part
    choose g hg using ihk
    exact ⟨_, hf.bind hg⟩

/-! ## Parses -/

/-- **A parse computes the start rule** on the cursor with the tokens loaded. -/
theorem Computes.parse (h : start.Computes f) (tokens : Array (Token V)) (source : Option String) :
    (parse start tokens source).Computes fun c => f (c.load tokens source) :=
  fun s => h { s with
    cursor := s.cursor.load tokens source
    events := debugEvent s.least true "Starting syntax analysis" [("tokens", toString tokens.size)] ++ s.events }

/-- What a strict parse makes of a result and the cursor that comes with it. -/
def strictly (result : Except ParseError α) (cursor : Cursor V) : Except ParseError α :=
  match result with
  | .ok value => if cursor.errors.isEmpty then .ok value else .error (.reported cursor.errors.toList)
  | .error error => .error error

theorem runOn_parseStrict (start : Production V α) (tokens : Array (Token V)) (source : Option String)
    (s : Session V) : (parseStrict start tokens source).runOn s =
      (strictly ((parse start tokens source).runOn s).1 ((parse start tokens source).runOn s).2.cursor,
        ((parse start tokens source).runOn s).2) := by
  rw [runOn, parseStrict, runOn]
  rcases parse start tokens source s with ⟨e | value, after⟩
  · rfl
  · dsimp only [strictly]
    split <;> rfl

theorem strictly_eq_ok {result : Except ParseError α} {cursor : Cursor V} {value : α} :
    strictly result cursor = .ok value ↔ result = .ok value ∧ cursor.errors = #[] := by
  cases result with
  | error e => simp [strictly]
  | ok found =>
    rw [strictly]
    split
    · next hnone => simp [Array.isEmpty_iff.1 hnone]
    · next hsome =>
      have herrors : cursor.errors ≠ #[] := fun h => hsome (Array.isEmpty_iff.2 h)
      simp [herrors]

theorem strictly_reported {cursor : Cursor V} (h : cursor.errors ≠ #[]) (value : α) :
    strictly (.ok value) cursor = .error (.reported cursor.errors.toList) :=
  if_neg fun hnone => h (Array.isEmpty_iff.1 hnone)

/-! ## Texts -/

variable {t : Tokenizer V} {text : String} {filter : List String}

/-- **A text that cannot be cut** leaves the cursor alone and adds the events of the cut. -/
theorem fromText_of_error {e : LexicalError} (h : (t.tokenize s.least text filter).result = .error e)
    (handOn : Array (Token V) → Option String → Production V α) :
    (fromText handOn t text filter s).1 = (.error (.lexical e),
      { s with events := (t.tokenize s.least text filter).events.reverse ++ s.events }) := by
  rw [fromText]
  dsimp only
  rw [h]

/-- **The tokens of a text** are handed on, and the text with them. -/
theorem fromText_of_ok {tokens : List (Token V)} (h : (t.tokenize s.least text filter).result = .ok tokens)
    (handOn : Array (Token V) → Option String → Production V α) :
    (fromText handOn t text filter s).1 = (handOn tokens.toArray (some text)).runOn
      { s with events := (t.tokenize s.least text filter).events.reverse ++ s.events } := by
  rw [fromText]
  dsimp only
  rw [h]
  rfl

theorem Computes.parseSource (h : start.Computes f) {tokens : List (Token V)}
    (hok : (t.tokenize s.least text filter).result = .ok tokens) :
    seen (parseSource start t text filter s).1 = f (s.cursor.load tokens.toArray (some text)) := by
  rw [Production.parseSource, fromText_of_ok hok]
  exact h.parse tokens.toArray (some text) _

/-- **A parse of a text sees little.**  Two parsers of one start rule yield the same result for a text, if their
cursors have the same settings and their tokenizers the same rules and strategy; and where the text can be cut,
they leave the same cursor. -/
theorem parseSource_congr (h : start.Computes f) {s₁ s₂ : Session V} {t₁ t₂ : Tokenizer V}
    (hpreferences : s₁.cursor.preferences = s₂.cursor.preferences) (hrules : t₁.rules = t₂.rules)
    (hstrategy : t₁.strategy = t₂.strategy) (text : String) (filter : List String) :
    let out₁ := seen (parseSource start t₁ text filter s₁).1
    let out₂ := seen (parseSource start t₂ text filter s₂).1
    out₁.1 = out₂.1 ∧ ∀ tokens, (t₁.tokenize s₁.least text filter).result = .ok tokens → out₁ = out₂ := by
  intro out₁ out₂
  -- of the level only the events of a cut depend
  have hcut : (t₂.tokenize s₂.least text filter).result = (t₁.tokenize s₁.least text filter).result :=
    (Tokenizer.tokenize_settings hrules.symm hstrategy.symm s₂.least s₁.least text filter).1
  cases hresult : (t₁.tokenize s₁.least text filter).result with
  | error e =>
    have hfirst : out₁ = (.error (.lexical e), s₁.cursor) := congrArg seen (fromText_of_error hresult _)
    have hsecond : out₂ = (.error (.lexical e), s₂.cursor) :=
      congrArg seen (fromText_of_error (hcut.trans hresult) _)
    refine ⟨by rw [hfirst, hsecond], fun tokens hok => ?_⟩
    cases hok
  | ok tokens =>
    have hfirst : out₁ = f (s₁.cursor.load tokens.toArray (some text)) := h.parseSource hresult
    have hsecond : out₂ = f (s₂.cursor.load tokens.toArray (some text)) :=
      h.parseSource (hcut.trans hresult)
    have hsame : out₁ = out₂ := by rw [hfirst, hsecond, Cursor.load_congr hpreferences]
    exact ⟨congrArg Prod.fst hsame, fun _ _ => hsame⟩

/-- **What earlier parses left makes no difference.**  Whatever tokens, place, diagnostics and text the cursor
holds when a text is parsed: if the text cannot be cut, the error says so and the cursor stays as it was; if it
can, its tokens are loaded on a fresh cursor, on which the start rule runs.  A strict parse goes through where
a parse does without diagnostics, reports those there are, and passes errors on. -/
theorem parseSource_reload (h : start.Computes f) {s₁ s₂ : Session V}
    (hpreferences : s₁.cursor.preferences = s₂.cursor.preferences) (t : Tokenizer V) (text : String)
    (filter : List String) :
    let cut := (t.tokenize s₁.least text filter).result
    let parsed := fun s => seen (parseSource start t text filter s).1
    (∀ e, cut = .error e → parsed s₁ = (.error (.lexical e), s₁.cursor) ∧
      parsed s₂ = (.error (.lexical e), s₂.cursor)) ∧
    (∀ tokens, cut = .ok tokens →
      parsed s₁ = f ⟨tokens.toArray, 0, #[], some (.ofString text), s₁.cursor.preferences⟩ ∧
      parsed s₂ = parsed s₁) ∧
    ∀ tokens source,
      let lenient := seen ((parse start tokens source).runOn s₁)
      let strict := seen ((parseStrict start tokens source).runOn s₁)
      strict.2 = lenient.2 ∧
      (∀ value, strict.1 = .ok value ↔ lenient.1 = .ok value ∧ lenient.2.errors = #[]) ∧
      (∀ value, lenient.1 = .ok value → lenient.2.errors ≠ #[] →
        strict.1 = .error (.reported lenient.2.errors.toList) ∧ lenient.2.errors.toList ≠ []) ∧
      ∀ e, lenient.1 = .error e → strict.1 = .error e := by
  intro cut parsed
  obtain ⟨hresult, hsame⟩ := parseSource_congr h hpreferences (rfl : t.rules = t.rules) rfl text filter
  refine ⟨fun e he => ?_, fun tokens hok => ?_, fun tokens source => ?_⟩
  · have hcut : (t.tokenize s₂.least text filter).result = .error e :=
      (Tokenizer.tokenize_settings rfl rfl s₂.least s₁.least text filter).1.trans he
    exact ⟨congrArg seen (fromText_of_error he _), congrArg seen (fromText_of_error hcut _)⟩
  · exact ⟨h.parseSource hok, (hsame tokens hok).symm⟩
  · intro lenient strict
    have hstrict : strict = (strictly lenient.1 lenient.2, lenient.2) := by
      show seen ((parseStrict start tokens source).runOn s₁) = _
      rw [runOn_parseStrict]
      rfl
    rw [hstrict]
    refine ⟨rfl, fun value => strictly_eq_ok, fun value hok hsome => ⟨?_, ?_⟩, fun e he => ?_⟩
    · rw [hok, strictly_reported hsome]
    · exact fun hnil => hsome (Array.toList_eq_nil_iff.1 hnil)
    · rw [he]
      rfl

/-- A cursor at the end of other tokens, with a diagnostic and another text, takes up a new text as a new cursor
does, and is left alone by a text that cannot be cut. -/
theorem parseSource_reload_used :
    let word : Production Int (Token Int) := consume "WORD" "Expected word"
    let t := Tokenizer.ofRules Tokenizer.lexicon
    let used : Session Int := ⟨⟨#[⟨"BLANK", " ", 0, 1, 0, 1, none⟩], 1, #["earlier"], some (.ofString " "),
      ⟨' ', false⟩⟩, .debug, []⟩
    let fresh : Session Int := ⟨.new ⟨' ', false⟩, .error, []⟩
    used.cursor.preferences = fresh.cursor.preferences ∧
      seen (parseSource word t "ë" [] used).1 = seen (parseSource word t "ë" [] fresh).1 ∧
      (parseSource word t "ë" [] fresh).1.1.isOk = true ∧
      (parseSource word t "ë?" [] used).1.2.cursor = used.cursor := by
  intro word t used fresh
  have hword : word.Computes fun c => c.consume "WORD" "Expected word" := computes_step _
  have hcut : ∃ tokens, (t.tokenize .debug "ë" []).result = .ok tokens := ⟨_, rfl⟩
  obtain ⟨tokens, hok⟩ := hcut
  have hfails : ∃ e, (t.tokenize .debug "ë?" []).result = .error e := ⟨_, rfl⟩
  obtain ⟨e, he⟩ := hfails
  have hpreferences : used.cursor.preferences = fresh.cursor.preferences := rfl
  have hloads := (parseSource_reload hword hpreferences t "ë" []).2.1 tokens hok
  have hkeeps := (parseSource_reload hword hpreferences t "ë?" []).1 e he
  exact ⟨hpreferences, hloads.2.symm, by decide +kernel, congrArg Prod.snd hkeeps.1⟩

/-! ## Texts in a row -/

/-- A parser and its tokenizer after some texts were parsed, each with a filter of its own. -/
def parseAll (start : Production V α) : List (String × List String) → Session V × Tokenizer V →
    Session V × Tokenizer V
  | [], state => state
  | (text, filter) :: texts, (s, t) =>
    let parsed := parseSource start t text filter s
    parseAll start texts (parsed.1.2, parsed.2)

/-- The settings stay on the cursor. -/
theorem preferences_parseSource (hstart : start.Built) (t : Tokenizer V) (text : String)
    (filter : List String) (s : Session V) :
    (parseSource start t text filter s).1.2.cursor.preferences = s.cursor.preferences := by
  cases hcut : (t.tokenize s.least text filter).result with
  | error e => rw [parseSource, fromText_of_error hcut]
  | ok tokens =>
    rw [parseSource, fromText_of_ok hcut]
    exact (hstart.growsTo _).preferences

/-- **Parser and tokenizer can be used again and again**: a text has the result that it has with new ones. -/
theorem parseSource_after (hstart : start.Built) (texts : List (String × List String)) (s : Session V)
    (t : Tokenizer V) (text : String) (filter : List String) :
    let later := parseAll start texts (s, t)
    (parseSource start later.2 text filter later.1).1.1 = (parseSource start t text filter s).1.1 := by
  obtain ⟨f, hf⟩ := hstart.exists_computes
  induction texts generalizing s t with
  | nil => rfl
  | cons first texts ih =>
    obtain ⟨text', filter'⟩ := first
    intro later
    have hpreferences := preferences_parseSource hstart t text' filter' s
    obtain ⟨metrics, position, hcall⟩ := (Tokenizer.Call.tokenize text' filter').exists_apply_eq s.least t
    have htokenizer : (parseSource start t text' filter' s).2 = { t with metrics, position } := hcall
    have hrules : (parseSource start t text' filter' s).2.rules = t.rules := by rw [htokenizer]
    have hstrategy : (parseSource start t text' filter' s).2.strategy = t.strategy := by rw [htokenizer]
    have hrest := ih (parseSource start t text' filter' s).1.2 (parseSource start t text' filter' s).2
    exact hrest.trans (parseSource_congr hf hpreferences hrules hstrategy text filter).1

end Production

end Descent
