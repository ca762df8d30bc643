/-
  Where the diagram of a text that cannot be cut points.

  * `lines_caretDiagram`: a diagram is a message, a line and a marker, each on a line of its own.
  * `Tokenizer.exists_unmatched`: the error of a character that no rule matches is that of the place where
    the cut stops, with text left.
  * `Tokenizer.unexpected_points`: the marker stands under that character of its line, or right after the line if
    it is what ends it.
-/
import Descent.Proofs.Lexical.Greedy
import Descent.Proofs.Text.Line
import Descent.Proofs.Text.OneLine

namespace Descent

/-! ## Diagrams -/

theorem toList_caretDiagram (message excerpt : String) (column : Nat) (filler : Char) :
    (caretDiagram message excerpt column filler).toList = message.toList ++ '\n' ::
      (excerpt.toList ++ '\n' :: (List.replicate column filler ++ ['^'])) := by
  simp [caretDiagram, caretMarker]

/-- **Message, line and marker of a diagram are its lines**, if none of them has a line feed. -/
theorem lines_caretDiagram {message excerpt : String} {column : Nat} {filler : Char}
    (hmessage : '\n' ∉ message.toList) (hexcerpt : '\n' ∉ excerpt.toList) (hfiller : filler ≠ '\n') :
    (caretDiagram message excerpt column filler).toList.splitOn '\n' =
      [message.toList, excerpt.toList, List.replicate column filler ++ ['^']] := by
  have hmarker : '\n' ∉ List.replicate column filler ++ ['^'] := by
    simpa using fun _ => hfiller.symm
  rw [toList_caretDiagram, List.splitOn_append_cons_self_of_not_mem hmessage,
    List.splitOn_append_cons_self_of_not_mem hexcerpt, List.splitOn_eq_singleton hmarker]

namespace Tokenizer

variable {V : Type} {t : Tokenizer V} {least : Level} {text : String} {filter : List String}
  {excerpt message : String} {line column : Nat}

/-- The head of the diagram is one line. -/
theorem not_mem_header (line column : Nat) :
    '\n' ∉ s!"unexpected character at line {line}, column {column}".toList := by
  have hline : OneLine "unexpected character at line " := by decide
  have hcolumn : OneLine ", column " := by decide
  have hheader : OneLine s!"unexpected character at line {line}, column {column}" :=
    oneLine_append.2 ⟨oneLine_append.2 ⟨oneLine_append.2 ⟨hline, oneLine_toString line⟩, hcolumn⟩,
      oneLine_toString column⟩
  exact fun hfeed => hheader '\n' hfeed (by decide)

/-- The error of an unexpected character is made where the cut stops, with text left. -/
theorem Verdict.unexpected {position : Position} {e : LexicalError} (h : t.Verdict text position (.error e))
    (he : e = .unexpectedCharacter excerpt line column message) :
    e = Tokenizer.unexpected text position ∧ t.stopOffset text < text.utf8ByteSize := by
  cases h with
  | spent => cases he
  | unmatched _ hlt _ => exact ⟨rfl, hlt⟩
  | empty => cases he

/-- **What no rule matches is a character of the text**, at the place where the cut stops. -/
theorem exists_unmatched
    (h : (t.tokenize least text filter).result = .error (.unexpectedCharacter excerpt line column message)) :
    ∃ passed c rest, text.toList = passed ++ c :: rest ∧ Utf8.size passed = t.stopOffset text ∧
      (t.tokenize least text filter).tokenizer.position = .after passed ∧
      LexicalError.unexpectedCharacter excerpt line column message = unexpected text (.after passed) := by
  obtain ⟨hv, passed, rest, hsplit, hstop, hposition⟩ := t.tokenize_verdict least text filter
  rw [h, hposition] at hv
  obtain ⟨he, hlt⟩ := hv.unexpected rfl
  obtain ⟨c, rest, rfl⟩ := List.exists_cons_of_ne_nil ((Utf8.size_lt_iff hsplit).1 (hstop ▸ hlt))
  exact ⟨passed, c, rest, hsplit, hstop, hposition, he⟩

/-- **The diagram of a text that cannot be cut points at the character that no rule matches.**  That
character stands in the line shown, where the marker is, unless it is what the line ends with: a carriage
return that is not shown, or a line feed, and then the marker is right after the line.  Message, line and
marker are on lines of their own. -/
theorem unexpected_points (t : Tokenizer V) (least : Level) (text : String) (filter : List String)
    (excerpt : String) (line column : Nat) (message : String)
    (h : (t.tokenize least text filter).result = .error (.unexpectedCharacter excerpt line column message)) :
    ∃ passed c rest before whole after,
      text.toList = passed ++ c :: rest ∧ Utf8.size passed = t.stopOffset text ∧
      passed.length = (t.tokenize least text filter).tokenizer.position.offset ∧
      IsLine text.toList before whole after ∧ before.count '\n' = line ∧
      passed = before ++ whole.take column ∧ excerpt.toList = SourceMap.dropReturn whole ∧
      (c ≠ '\n' → c ≠ '\r' → excerpt.toList[column]? = some c) ∧
      (c = '\r' → excerpt.toList[column]? = some c ∨
        whole = excerpt.toList ++ ['\r'] ∧ column = excerpt.length) ∧
      (c = '\n' → column = excerpt.length + if whole.getLast? = some '\r' then 1 else 0) ∧
      message.toList.splitOn '\n' = [s!"unexpected character at line {line}, column {column}".toList,
        excerpt.toList, List.replicate column ' ' ++ ['^']] := by
  obtain ⟨passed, c, rest, hsplit, hstop, hposition, he⟩ := exists_unmatched h
  obtain ⟨before, whole, after, hwhole, hbefore, hcolumn, hpassed, hdrop⟩ := IsLine.exists_around hsplit
  obtain ⟨hexcerpt, rfl, rfl, hmessage⟩ := LexicalError.unexpectedCharacter.inj he
  have hshown : excerpt.toList = SourceMap.dropReturn whole := by
    rw [hexcerpt, ← hbefore, SourceMap.toList_excerpt hwhole]
  -- the rest of the line begins with the character, or is empty if that is a line feed
  have hhead : (whole.drop (Position.after passed).column).head? =
      if c = '\n' then none else some c := by
    rw [hdrop]
    by_cases hc : c = '\n' <;> simp [hc]
  rw [List.head?_drop] at hhead
  refine ⟨passed, c, rest, before, whole, after, hsplit, hstop, by rw [hposition]; rfl, hwhole, hbefore,
    hpassed, hshown, fun hfeed hreturn => ?_, fun hreturn => ?_, fun hfeed => ?_, ?_⟩
  · rw [if_neg hfeed] at hhead
    rw [hshown]
    exact (SourceMap.getElem?_dropReturn hhead).resolve_right fun h => hreturn h.1
  · rw [if_neg (by rw [hreturn]; decide)] at hhead
    rw [← String.length_toList, hshown]
    exact (SourceMap.getElem?_dropReturn hhead).imp_right And.right
  · rw [if_pos hfeed, List.getElem?_eq_none_iff] at hhead
    rw [← String.length_toList, hshown, ← SourceMap.length_dropReturn]
    exact Nat.le_antisymm hcolumn hhead
  · have hfree : '\n' ∉ excerpt.toList := by
      rw [hshown]
      exact fun hm => hwhole.unbroken (SourceMap.mem_of_mem_dropReturn hm)
    rw [hmessage, ← hexcerpt]
    exact lines_caretDiagram (not_mem_header _ _) hfree (by decide)

/-- A character on the second line, before a carriage return that is not shown. -/
theorem unexpected_points_second_line :
    ((ofRules lexicon).tokenize .info "éê\n é?\r\nî" []).result = .error (.unexpectedCharacter " é?" 1 2
      "unexpected character at line 1, column 2\n é?\n  ^") ∧
    ∃ before whole after, IsLine "éê\n é?\r\nî".toList before whole after ∧ before.count '\n' = 1 ∧
      " é?".toList = SourceMap.dropReturn whole ∧
      "unexpected character at line 1, column 2\n é?\n  ^".toList.splitOn '\n' =
        ["unexpected character at line 1, column 2".toList, " é?".toList, "  ^".toList] := by
  have hresult : ((ofRules lexicon).tokenize .info "éê\n é?\r\nî" []).result =
      .error (.unexpectedCharacter " é?" 1 2 "unexpected character at line 1, column 2\n é?\n  ^") := rfl
  obtain ⟨_, _, _, before, whole, after, -, -, -, hwhole, hline, -, hshown, -, -, -, hlines⟩ :=
    unexpected_points _ _ _ _ _ _ _ _ hresult
  exact ⟨hresult, before, whole, after, hwhole, hline, hshown, hlines⟩

end Tokenizer

end Descent
