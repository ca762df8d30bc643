/-
  Records are read back from their texts.

  * Records whose numbers fit are encoded as plain values (`Json.plain_ofToken`, `Json.plain_ofPosition`,
    `Json.plain_ofSpan`, `Json.plain_ofConfig`).
  * `Json.records_read_back`: so the text of a token, a position, a span or settings gives them back, and no
    environment has a say in it.
-/
import Descent.Proofs.Json.Forms
import Descent.Proofs.Json.Reader

namespace Descent.Json

open Value (Plain)

/-! ## Records are plain -/

theorem plain_natCast {n : Nat} (h : n < Word.limit) : Plain (.int n) := by
  have hlimit : (0 : Int) ≤ Word.signedLimit := by decide
  exact .int (by omega) (Int.ofNat_lt.2 h)

theorem plain_signed {n : Int} (h : Word.signed? n = some n) : Plain (.int n) := by
  have hlimit : Word.signedLimit ≤ (Word.limit : Int) := by decide
  obtain ⟨hleast, hgreatest, -⟩ := Word.signed?_eq_some.1 h
  exact .int hleast (Int.lt_of_lt_of_le hgreatest hlimit)

theorem plain_ofToken {tok : Token Int} (h : tok.Fits) : Plain (ofToken Value.int tok) := by
  have hvalue : Plain ((tok.value.map Value.int).getD .null) := by
    cases hn : tok.value with
    | none => exact .null
    | some n => exact plain_signed (h.value n hn)
  refine .obj ?_
  simp only [List.forall_mem_cons]
  exact ⟨.str _, .str _, plain_natCast h.start, plain_natCast h.stop, plain_natCast h.line, plain_natCast h.column,
    hvalue, List.forall_mem_nil _⟩

theorem plain_ofPosition {p : Position} (h : p.Fits) : Plain (ofPosition p) := by
  refine .obj ?_
  simp only [List.forall_mem_cons]
  exact ⟨plain_natCast h.offset, plain_natCast h.line, plain_natCast h.column, List.forall_mem_nil _⟩

theorem plain_ofSpan {s : Span} (h : s.Fits) : Plain (ofSpan s) := by
  refine .obj ?_
  simp only [List.forall_mem_cons]
  exact ⟨plain_ofPosition h.start, plain_ofPosition h.stop, List.forall_mem_nil _⟩

theorem plain_ofConfig (c : Config) : Plain (ofConfig c) := by
  have hlexical : Plain (ofLexicalPreferences c.lexical) := by
    refine .obj ?_
    simp only [List.forall_mem_cons]
    exact ⟨.bool _, .bool _, .bool _, List.forall_mem_nil _⟩
  have hcursor : Plain (ofCursorPreferences c.cursor) := by
    refine .obj ?_
    simp only [List.forall_mem_cons]
    exact ⟨.str _, .bool _, List.forall_mem_nil _⟩
  have hlogging : Plain (ofLoggingPreferences c.logging) := by
    refine .obj ?_
    simp only [List.forall_mem_cons]
    exact ⟨.bool _, .bool _, .str _, List.forall_mem_nil _⟩
  refine .obj ?_
  simp only [List.forall_mem_cons]
  exact ⟨hlexical, hcursor, hlogging, List.forall_mem_nil _⟩

/-! ## Records are read back -/

/-- A record that is encoded as a plain value is read back from its text, if it is read from that value. -/
theorem read_render {α : Type} {v : Value} {read : Value → Option α} {a : α} (hv : v.Plain) (h : read v = some a) :
    (parse? v.render).bind read = some a := by
  rw [hv.parse?_render, Option.bind_some, h]

/-- **Records are read back from their texts**: tokens, positions and spans whose numbers are machine words,
whatever texts they hold and whichever way they face, and settings, whatever the environment that they are read
in. -/
theorem records_read_back :
    (∀ tok : Token Int, tok.Fits → (parse? (ofToken Value.int tok).render).bind (token? signed?) = some tok) ∧
    (∀ p : Position, p.Fits → (parse? (ofPosition p).render).bind position? = some p) ∧
    (∀ s : Span, s.Fits → (parse? (ofSpan s).render).bind span? = some s) ∧
    ∀ (env : Environment) (c : Config), (parse? (ofConfig c).render).bind (config? env) = some c :=
  ⟨fun _ h => read_render (plain_ofToken h) (token?_ofToken h),
    fun _ h => read_render (plain_ofPosition h) (position?_ofPosition h),
    fun _ h => read_render (plain_ofSpan h) (span?_ofSpan h),
    fun env c => read_render (plain_ofConfig c) (config?_ofConfig env c)⟩

/-- The greatest numbers, a span that ends before it starts, characters that are escaped or are written with four
bytes, and settings that differ from those of the environment. -/
theorem records_read_back_extremes :
    let tok : Token Int := ⟨"\"\\\u0000", "\n\u2028😀", Word.limit - 1, 0, Word.limit - 1, 7, some (-Word.signedLimit)⟩
    let p : Position := ⟨Word.limit - 1, 0, Word.limit - 1⟩
    let env : Environment := ⟨[("RDP_SYNTAX_MARKER_FILLER", "-"), ("RDP_LOGGING_MIN_LEVEL", "debug")]⟩
    let c : Config := ⟨⟨true, false, true⟩, ⟨'"', true⟩, ⟨true, false, .error⟩⟩
    (parse? (ofToken Value.int tok).render).bind (token? signed?) = some tok ∧
    (parse? (ofPosition p).render).bind position? = some p ∧
    (parse? (ofSpan ⟨p, .start⟩).render).bind span? = some ⟨p, .start⟩ ∧
    Config.ofEnvironment env ≠ c ∧ (parse? (ofConfig c).render).bind (config? env) = some c := by
  intro tok p env c
  have htok : tok.Fits := ⟨by decide, by decide, by decide, by decide, by decide⟩
  have hp : p.Fits := ⟨by decide, by decide, by decide⟩
  have hstart : Position.start.Fits := ⟨by decide, by decide, by decide⟩
  exact ⟨records_read_back.1 tok htok, records_read_back.2.1 p hp, records_read_back.2.2.1 _ ⟨hp, hstart⟩,
    by decide, records_read_back.2.2.2 env c⟩

end Descent.Json
