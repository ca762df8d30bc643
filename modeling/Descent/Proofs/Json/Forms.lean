/-
  What the decoders of records accept.

  * `Json.token?_eq_some_iff`: a token is read field by field.
  * `Json.token?_ofToken`, `Json.position?_ofPosition`, `Json.span?_ofSpan` and `Json.config?_ofConfig`: records are
    read from the values that encode them.
  * `Json.exists_token?_iff`: the tokens that can be read are those whose numbers fit; nothing else is asked of them.
-/
import Descent.Json.Forms

namespace Descent

/-- A token whose numbers fit their words, whatever they are. -/
structure Token.Fits (tok : Token Int) : Prop where
  start : tok.start < Word.limit
  stop : tok.stop < Word.limit
  line : tok.line < Word.limit
  column : tok.column < Word.limit
  value : ∀ n ∈ tok.value, Word.signed? n = some n

/-- A position whose coordinates are words. -/
structure Position.Fits (p : Position) : Prop where
  offset : p.offset < Word.limit
  line : p.line < Word.limit
  column : p.column < Word.limit

/-- A span between such positions, whichever of them comes first. -/
structure Span.Fits (s : Span) : Prop where
  start : s.start.Fits
  stop : s.stop.Fits

namespace Json

variable {V : Type} {tok : Token V}

theorem required_word? {n : Nat} (h : n < Word.limit) : required word? (some (.int n)) = some n := by
  rw [required, Option.bind_some, word?, Word.ofInt?_natCast h]

theorem lt_of_word? {field : Option Value} {n : Nat} (h : required word? field = some n) : n < Word.limit := by
  obtain ⟨v, -, hv⟩ := Option.bind_eq_some_iff.1 h
  cases v with
  | int m =>
    rw [word?, Word.ofInt?] at hv
    split at hv
    · cases hv
      omega
    · cases hv
  | _ => cases hv

theorem signed?_of_nullable? {field : Option Value} {value : Option Int}
    (h : orElse none (nullable? signed?) field = some value) : ∀ n ∈ value, Word.signed? n = some n := by
  rintro n rfl
  cases field with
  | none => cases h
  | some v =>
    cases v with
    | int m =>
      obtain ⟨k, hk, hn⟩ := Option.map_eq_some_iff.1 h
      cases hn
      obtain ⟨-, -, rfl⟩ := Word.signed?_eq_some.1 hk
      exact hk
    | _ => cases h

/-- **A token is read field by field.** -/
theorem token?_eq_some_iff {value? : Value → Option V} {v : Value} : token? value? v = some tok ↔
    ∃ category lexeme start stop line column value,
      fields? true Json.tokenFields v = some [category, lexeme, start, stop, line, column, value] ∧
      required text? category = some tok.category ∧ required text? lexeme = some tok.lexeme ∧
      required word? start = some tok.start ∧ required word? stop = some tok.stop ∧
      required word? line = some tok.line ∧ required word? column = some tok.column ∧
      orElse none (nullable? value?) value = some tok.value := by
  constructor
  · intro h
    simp only [token?, Option.bind_eq_bind, Option.bind_eq_some_iff, Option.pure_def] at h
    obtain ⟨fields, hfields, h⟩ := h
    split at h
    · simp only [Option.bind_eq_some_iff] at h
      obtain ⟨category, hcategory, lexeme, hlexeme, start, hstart, stop, hstop, line, hline, column, hcolumn,
        value, hvalue, h⟩ := h
      cases h
      exact ⟨_, _, _, _, _, _, _, hfields, hcategory, hlexeme, hstart, hstop, hline, hcolumn, hvalue⟩
    · cases h
  · rintro ⟨category, lexeme, start, stop, line, column, value, hfields, hcategory, hlexeme, hstart, hstop, hline,
      hcolumn, hvalue⟩
    simp only [token?, hfields, hcategory, hlexeme, hstart, hstop, hline, hcolumn, hvalue, Option.bind_eq_bind,
      Option.bind_some, Option.pure_def]

/-- A token is read from the value that encodes it. -/
theorem token?_ofToken {tok : Token Int} (h : tok.Fits) : token? signed? (ofToken Value.int tok) = some tok := by
  have hvalue : nullable? signed? ((tok.value.map Value.int).getD .null) = some tok.value := by
    cases hn : tok.value with
    | none => rfl
    | some n => simp only [Option.map_some, Option.getD_some, nullable?, signed?, h.value n hn]
  exact token?_eq_some_iff.2 ⟨_, _, _, _, _, _, _, rfl, rfl, rfl, required_word? h.start, required_word? h.stop,
    required_word? h.line, required_word? h.column, hvalue⟩

/-- **Any token whose numbers fit can be read, and no other one.** -/
theorem exists_token?_iff (tok : Token Int) : (∃ v, token? signed? v = some tok) ↔ tok.Fits := by
  constructor
  · rintro ⟨v, h⟩
    obtain ⟨category, lexeme, start, stop, line, column, value, -, -, -, hstart, hstop, hline, hcolumn, hvalue⟩ :=
      token?_eq_some_iff.1 h
    exact ⟨lt_of_word? hstart, lt_of_word? hstop, lt_of_word? hline, lt_of_word? hcolumn,
      signed?_of_nullable? hvalue⟩
  · exact fun h => ⟨ofToken Value.int tok, token?_ofToken h⟩

/-! ## Positions and spans -/

-- the fields are variables here, as checking which numbers are words would compute up to the limit
theorem position?_eq_some {p : Position} {v : Value} {offset line column : Option Value}
    (hfields : fields? true ["offset", "line", "column"] v = some [offset, line, column])
    (hoffset : required word? offset = some p.offset) (hline : required word? line = some p.line)
    (hcolumn : required word? column = some p.column) : position? v = some p := by
  simp only [position?, hfields, hoffset, hline, hcolumn, Option.bind_eq_bind, Option.bind_some, Option.pure_def]

theorem span?_eq_some {s : Span} {v : Value} {start stop : Option Value}
    (hfields : fields? true ["start", "end"] v = some [start, stop])
    (hstart : required position? start = some s.start) (hstop : required position? stop = some s.stop) :
    span? v = some s := by
  simp only [span?, hfields, hstart, hstop, Option.bind_eq_bind, Option.bind_some, Option.pure_def]

theorem position?_ofPosition {p : Position} (h : p.Fits) : position? (ofPosition p) = some p :=
  position?_eq_some rfl (required_word? h.offset) (required_word? h.line) (required_word? h.column)

theorem span?_ofSpan {s : Span} (h : s.Fits) : span? (ofSpan s) = some s := by
  have hplace {p : Position} (hp : p.Fits) : required position? (some (ofPosition p)) = some p := by
    rw [required, Option.bind_some, position?_ofPosition hp]
  exact span?_eq_some rfl (hplace h.start) (hplace h.stop)

/-! ## Settings

Every field is there, so that no default is looked up in the environment. -/

variable (env : Environment)

theorem char?_str (c : Char) : char? (.str c.toString) = some c := by
  simp [char?]

theorem lexicalPreferences?_ofLexicalPreferences (p : LexicalPreferences) :
    lexicalPreferences? env (ofLexicalPreferences p) = some p := rfl

theorem cursorPreferences?_ofCursorPreferences (p : CursorPreferences) :
    cursorPreferences? env (ofCursorPreferences p) = some p := by
  have hfields : fields? false ["marker_filler", "log_cursor_movement"] (ofCursorPreferences p) =
      some [some (.str p.markerFiller.toString), some (.bool p.logCursorMovement)] := rfl
  simp only [cursorPreferences?, hfields, orElse, char?_str, bool?, Option.bind_eq_bind, Option.bind_some,
    Option.pure_def]

theorem loggingPreferences?_ofLoggingPreferences (p : LoggingPreferences) :
    loggingPreferences? env (ofLoggingPreferences p) = some p := by
  obtain ⟨structured, console, least⟩ := p
  cases least <;> rfl

theorem config?_ofConfig (c : Config) : config? env (ofConfig c) = some c := by
  have hfields : fields? false ["lexical", "syntax", "logging"] (ofConfig c) =
      some [some (ofLexicalPreferences c.lexical), some (ofCursorPreferences c.cursor),
        some (ofLoggingPreferences c.logging)] := rfl
  simp only [config?, hfields, orElse, lexicalPreferences?_ofLexicalPreferences,
    cursorPreferences?_ofCursorPreferences, loggingPreferences?_ofLoggingPreferences, Option.bind_eq_bind,
    Option.bind_some, Option.pure_def]

end Json

end Descent
