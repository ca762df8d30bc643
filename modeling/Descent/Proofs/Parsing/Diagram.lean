/-
  Where the diagrams of a cursor point.

  A cursor over the tokens of a text places its diagrams after the token it has passed last.

  * `Cursor.previous_eq`: the token before the place, by its number.
  * `Cursor.exists_anchor`: line and column of the diagram are those of a place of the text, which is the end
    of that token.
  * `Cursor.diagnose_points`: the line shown is the one in which the token ends, and the marker stands after
    as many of its characters as there are up to there.
-/
import Descent.Proofs.Lexical.Coverage
import Descent.Proofs.Parsing.Cursor
import Descent.Proofs.Text.Line

namespace Descent.Cursor

variable {V : Type} {t : Tokenizer V} {least : Level} {text : String} {filter : List String}
  {tokens : List (Token V)} {c : Cursor V}

theorem previous_eq (h : 0 < c.position) : c.previous = c.tokens[c.position - 1]? :=
  lookAround_eq (by omega)

theorem previous_eq_none (h : c.position = 0) : c.previous = none := by
  rw [previous, lookAround, h]; rfl

theorem diagnose_eq {source : SourceMap} (h : c.source = some source) (message : String) :
    c.diagnose message =
      caretDiagram message (source.excerpt c.anchor.1) c.anchor.2 c.preferences.markerFiller := by
  rw [diagnose, h]; rfl

/-- At the start of its tokens, a cursor points at the start of the text. -/
theorem anchor_start (h : c.position = 0) :
    c.anchor = ((Position.after []).line, (Position.after []).column) := by
  rw [anchor, previous_eq_none h]; rfl

/-- **Past some tokens of a text, a cursor points at the end of the last one.** -/
theorem exists_anchor (h : (t.tokenize least text filter).result = .ok tokens)
    (htokens : c.tokens = tokens.toArray) (hplace : c.position ≤ tokens.length) (hpos : 0 < c.position) :
    ∃ prev passed rest, tokens[c.position - 1]? = some prev ∧ text.toList = passed ++ rest ∧
      prev.endPosition = Position.after passed ∧ c.anchor = (prev.line, prev.column) := by
  have hlt : c.position - 1 < tokens.length := by omega
  have hprev := List.getElem?_eq_getElem hlt
  obtain ⟨passed, rest, htext, hend⟩ := Tokenizer.exists_passed_of_ok h (List.getElem_mem hlt)
  refine ⟨_, passed, rest, hprev, htext, hend, ?_⟩
  rw [anchor, previous_eq hpos, htokens, List.getElem?_toArray, hprev]

/-- **The diagram of a cursor over the tokens of a text points at the end of the token passed last.**  The
line shown is the one in which that token ends, and the marker stands after as many of its characters as
there are from its start up to there; at the start of the tokens it is the first line, and the marker
stands at its start.  The marker is not further on than right after what is shown, or one column further
if the token ends with a carriage return that is not shown. -/
theorem diagnose_points (t : Tokenizer V) (least : Level) (text : String) (filter : List String)
    (tokens : List (Token V)) (h : (t.tokenize least text filter).result = .ok tokens) (c : Cursor V)
    (htokens : c.tokens = tokens.toArray) (hsource : c.source = some (.ofString text))
    (hplace : c.position ≤ tokens.length) (message : String) :
    ∃ excerpt column,
      c.diagnose message = message ++ "\n" ++ excerpt ++ "\n" ++
        String.ofList (List.replicate column c.preferences.markerFiller ++ ['^']) ∧
      (c.position = 0 → column = 0 ∧
        excerpt.toList = SourceMap.dropReturn (text.toList.takeWhile (· ≠ '\n'))) ∧
      (0 < c.position → ∃ prev before line after, tokens[c.position - 1]? = some prev ∧
        prev.line < (SourceMap.ofString text).lineCount ∧
        (SourceMap.ofString text).line? prev.line = some excerpt ∧
        IsLine text.toList before line after ∧
        before.length ≤ prev.stop ∧ prev.stop ≤ before.length + line.length ∧
        excerpt.toList = SourceMap.dropReturn line ∧
        text.toList.take prev.stop = before ++ line.take column ∧ prev.stop = before.length + column ∧
        (line.getLast? = some '\r' ∧ prev.stop = before.length + line.length →
          column = excerpt.length + 1) ∧
        (¬ (line.getLast? = some '\r' ∧ prev.stop = before.length + line.length) →
          column ≤ excerpt.length)) := by
  refine ⟨_, _, diagnose_eq hsource message, fun hzero => ?_, fun hpos => ?_⟩
  · rw [anchor_start hzero]
    have hstart : text.toList = [] ++ text.toList := rfl
    obtain ⟨before, line, after, hline, hbefore, -, -, hdrop⟩ := IsLine.exists_around hstart
    refine ⟨rfl, ?_⟩
    rw [← hbefore, SourceMap.toList_excerpt hline, ← hdrop]
    rfl
  · obtain ⟨prev, passed, rest, hprev, htext, hend, hanchor⟩ := exists_anchor h htokens hplace hpos
    have hstop : prev.stop = passed.length := congrArg Position.offset hend
    have hplaced : prev.line = (Position.after passed).line := congrArg Position.line hend
    have hcolumn : prev.column = (Position.after passed).column := congrArg Position.column hend
    obtain ⟨before, line, after, hline, hbefore, hle, hpassed, -⟩ := IsLine.exists_around htext
    rw [hanchor]
    dsimp only
    rw [← hplaced] at hbefore
    rw [← hcolumn] at hle hpassed
    have hlength : prev.stop = before.length + prev.column := by
      rw [hstop, hpassed, List.length_append, List.length_take, Nat.min_eq_left hle]
    have hfull : prev.stop = before.length + line.length ↔ prev.column = line.length := by omega
    rw [← hbefore, ← String.length_toList, SourceMap.toList_excerpt hline]
    obtain ⟨hreturn, hshown⟩ := SourceMap.column_bounds hle
    rw [← hfull] at hreturn hshown
    refine ⟨prev, before, line, after, hprev, ?_, ?_, hline, by omega, by omega, rfl, ?_, hlength, hreturn,
      hshown⟩
    · rw [← hbefore]; exact SourceMap.lt_lineCount hline
    · rw [← hbefore]; exact SourceMap.line?_eq_excerpt hline
    · rw [hstop, htext, List.take_left]; exact hpassed

/-- The last token ends with a carriage return that is not shown, so the marker stands one column after
what is shown. -/
theorem diagnose_points_carriage_return :
    let tokens : List (Token Int) := [⟨"BLANK", "\n", 2, 3, 1, 0, none⟩, ⟨"KEYWORD", "é", 3, 4, 1, 1, none⟩,
      ⟨"BLANK", "\r", 4, 5, 1, 2, none⟩]
    let cursor : Cursor Int := ⟨tokens.toArray, 3, #[], some (.ofString "îê\né\r"), ⟨'-', false⟩⟩
    ((Tokenizer.ofRules Tokenizer.lexicon).tokenize .info "îê\né\r" ["WORD"]).result = .ok tokens ∧
    cursor.position ≤ tokens.length ∧ cursor.diagnose "Expected a word" = "Expected a word\né\n--^" ∧
    ∃ excerpt column, cursor.diagnose "Expected a word" = "Expected a word" ++ "\n" ++ excerpt ++ "\n" ++
        String.ofList (List.replicate column '-' ++ ['^']) ∧
      ∃ before line after, IsLine "îê\né\r".toList before line after ∧
        excerpt.toList = SourceMap.dropReturn line ∧ 5 = before.length + column := by
  intro tokens cursor
  have hresult : ((Tokenizer.ofRules Tokenizer.lexicon).tokenize .info "îê\né\r" ["WORD"]).result =
      .ok tokens := rfl
  have hplace : cursor.position ≤ tokens.length := Nat.le_refl 3
  obtain ⟨excerpt, column, hdiagram, -, hpassed⟩ := diagnose_points (Tokenizer.ofRules Tokenizer.lexicon)
    .info "îê\né\r" ["WORD"] tokens hresult cursor rfl rfl hplace "Expected a word"
  obtain ⟨prev, before, line, after, hprev, -, -, hline, -, -, hexcerpt, -, hstop, -⟩ :=
    hpassed (Nat.succ_pos 2)
  obtain rfl : _ = prev := Option.some.inj hprev
  exact ⟨hresult, hplace, rfl, excerpt, column, hdiagram, before, line, after, hline, hexcerpt, hstop⟩

end Descent.Cursor
