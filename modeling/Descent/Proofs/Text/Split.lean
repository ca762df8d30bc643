/-
  The lines of a text are the pieces it is split into at its line feeds.

  * `IsLine.induction`: a text is one line, or a line above another text.
  * `IsLine.of_splitOn`: each piece is a line of the text, and its number is that of the line feeds before it.
  * `SourceMap.line?_eq_map_splitOn`: so looking up a line finds the piece with its number, and nothing past the
    last one.
  * `SourceMap.lines_split`: how many lines there are, where they are cut out of the text, what is shown of them,
    and when they make up the text again.
-/
import Descent.Proofs.Text.Line

namespace Descent

variable {text line rest before after cs piece : List Char} {source : String} {i : Nat}

/-! ## Pieces -/

namespace IsLine

/-- **Line by line**: a text is one line, or a line above another text. -/
theorem induction {motive : List Char → Prop} (last : ∀ line, '\n' ∉ line → motive line)
    (above : ∀ line rest, '\n' ∉ line → motive rest → motive (line ++ '\n' :: rest)) (cs : List Char) :
    motive cs := by
  by_cases hmem : '\n' ∈ cs
  · obtain ⟨line, rest, hcs, hline⟩ := List.eq_append_cons_of_mem hmem
    have hshorter : rest.length < cs.length := by
      rw [hcs, List.length_append, List.length_cons]
      omega
    exact hcs ▸ above line rest hline (induction last above rest)
  · exact last cs hmem
termination_by cs.length

/-- A text without line feeds is a line. -/
theorem whole (h : '\n' ∉ line) : IsLine line [] line [] :=
  ⟨(List.append_nil line).symm, h, .inl rfl, .inl rfl⟩

theorem first (h : '\n' ∉ line) (rest : List Char) :
    IsLine (line ++ '\n' :: rest) [] line ('\n' :: rest) :=
  ⟨rfl, h, .inl rfl, .inr rfl⟩

/-- The lines of a text are lines of it under another line. -/
theorem under (h : IsLine rest before piece after) (line : List Char) :
    IsLine (line ++ '\n' :: rest) (line ++ '\n' :: before) piece after where
  split := by rw [h.split]; simp
  unbroken := h.unbroken
  left := by
    right
    rcases h.left with rfl | hlast
    · exact List.getLast?_concat
    · rw [List.getLast?_append, List.getLast?_cons, hlast]
      rfl
  right := h.right

theorem length_splitOn (cs : List Char) : (cs.splitOn '\n').length = cs.count '\n' + 1 := by
  induction cs using IsLine.induction with
  | last line hline =>
    rw [List.splitOn_eq_singleton hline, List.count_eq_zero.2 hline]
    rfl
  | above line rest hline ih =>
    rw [List.splitOn_append_cons_self_of_not_mem hline, List.length_cons, ih, List.count_append,
      List.count_cons_self, List.count_eq_zero.2 hline, Nat.zero_add]

/-- **Each piece of a text is a line of it**, after as many line feeds as its number says. -/
theorem of_splitOn (h : (cs.splitOn '\n')[i]? = some piece) :
    ∃ before after, IsLine cs before piece after ∧ before.count '\n' = i := by
  induction cs using IsLine.induction generalizing i with
  | last line hline =>
    rw [List.splitOn_eq_singleton hline, List.getElem?_singleton] at h
    split at h
    · next hi =>
      obtain rfl := Option.some.inj h
      exact ⟨[], [], whole hline, hi.symm⟩
    · cases h
  | above line rest hline ih =>
    rw [List.splitOn_append_cons_self_of_not_mem hline] at h
    cases i with
    | zero =>
      obtain rfl := Option.some.inj h
      exact ⟨[], '\n' :: rest, first hline rest, rfl⟩
    | succ i =>
      obtain ⟨before, after, hpiece, hcount⟩ := ih h
      refine ⟨_, after, hpiece.under line, ?_⟩
      rw [List.count_append, List.count_cons_self, List.count_eq_zero.2 hline, hcount, Nat.zero_add]

end IsLine

namespace SourceMap

/-! ## Looking up lines -/

theorem lineCount_ofString (source : String) :
    (ofString source).lineCount = source.toList.count '\n' + 1 := by
  rw [lineCount, ← Array.length_toList, toList_lineStarts, length_starts]

theorem length_splitOn (source : String) :
    (source.toList.splitOn '\n').length = (ofString source).lineCount := by
  rw [IsLine.length_splitOn, lineCount_ofString]

/-- **Looking up a line finds the piece with its number**, and nothing past the last one. -/
theorem line?_eq_map_splitOn (source : String) (i : Nat) : (ofString source).line? i =
    (source.toList.splitOn '\n')[i]?.map fun piece => String.ofList (dropReturn piece) := by
  cases hpiece : (source.toList.splitOn '\n')[i]? with
  | some piece =>
    obtain ⟨before, after, hline, rfl⟩ := IsLine.of_splitOn hpiece
    exact line?_ofString hline
  | none =>
    rw [List.getElem?_eq_none_iff, length_splitOn] at hpiece
    have hstart : (ofString source).lineStarts[i]? = none := Array.getElem?_eq_none hpiece
    rw [line?, hstart]
    rfl

theorem line?_eq_none_iff : (ofString source).line? i = none ↔ (ofString source).lineCount ≤ i := by
  rw [line?_eq_map_splitOn, Option.map_eq_none_iff, List.getElem?_eq_none_iff, length_splitOn]

/-- What is shown of a piece: all of it, but for one carriage return at its end. -/
theorem exists_shown (h : (source.toList.splitOn '\n')[i]? = some piece) :
    ∃ shown, (ofString source).line? i = some shown ∧
      (piece.getLast? = some '\r' → piece = shown.toList ++ ['\r']) ∧
      (piece.getLast? ≠ some '\r' → piece = shown.toList) := by
  refine ⟨_, by rw [line?_eq_map_splitOn, h]; rfl, ?_⟩
  rw [String.toList_ofList]
  rcases dropReturn_cases piece with ⟨hlast, he⟩ | ⟨hlast, he⟩
  · exact ⟨fun hreturn => absurd hreturn hlast, fun _ => he.symm⟩
  · exact ⟨fun _ => he, fun hnone => absurd hlast hnone⟩

/-- **A text is its lines with line feeds between them**, if none of them ends in a carriage return. -/
theorem exists_intercalate (h : ∀ piece ∈ source.toList.splitOn '\n', piece.getLast? ≠ some '\r') :
    ∃ lines, (List.range (ofString source).lineCount).map (ofString source).line? = lines.map some ∧
      "\n".intercalate lines = source := by
  refine ⟨(source.toList.splitOn '\n').map String.ofList, ?_, ?_⟩
  · rw [← length_splitOn]
    refine List.ext_getElem (by simp) fun i hi _ => ?_
    have hlt : i < (source.toList.splitOn '\n').length := by simpa using hi
    have hwhole : dropReturn (source.toList.splitOn '\n')[i] = (source.toList.splitOn '\n')[i] :=
      if_neg (h _ (List.getElem_mem hlt))
    simp [line?_eq_map_splitOn, List.getElem?_eq_getElem hlt, hwhole]
  · rw [← String.toList_inj, String.toList_intercalate, List.map_map]
    have hid : String.toList ∘ String.ofList = id := funext fun _ => String.toList_ofList
    rw [hid, List.map_id]
    exact List.intercalate_splitOn '\n'

/-- **The lines of a text are the pieces it is split into at its line feeds.**  There is one more of them than
line feeds, and no line is found past the last one.  Each piece stands between two bytes of the index, or between
one and the end of the text, so that it can be cut out there; and it is what is found by its number, without one
carriage return if it ends in one.  If none does, the lines with line feeds between them are the text. -/
theorem lines_split (source : String) :
    (ofString source).lineCount = source.toList.count '\n' + 1 ∧
    let map := ofString source
    let pieces := source.toList.splitOn '\n'
    pieces.length = map.lineCount ∧
    (∀ i, map.line? i = none ↔ map.lineCount ≤ i) ∧
    (∀ i piece, pieces[i]? = some piece →
      (∃ before after, source.toList = before ++ (piece ++ after) ∧
        map.lineStarts[i]? = some (Utf8.size before) ∧
        (map.lineStarts[i + 1]? = some (Utf8.size (before ++ piece) + 1) ∨
          map.lineStarts[i + 1]? = none ∧ source.utf8ByteSize = Utf8.size (before ++ piece))) ∧
      ∃ shown, map.line? i = some shown ∧
        (piece.getLast? = some '\r' → piece = shown.toList ++ ['\r']) ∧
        (piece.getLast? ≠ some '\r' → piece = shown.toList)) ∧
    ((∀ piece ∈ pieces, piece.getLast? ≠ some '\r') → ∃ lines,
      (List.range map.lineCount).map map.line? = lines.map some ∧ "\n".intercalate lines = source) := by
  refine ⟨lineCount_ofString source, length_splitOn source, fun i => line?_eq_none_iff,
    fun i piece hpiece => ⟨?_, exists_shown hpiece⟩, exists_intercalate⟩
  obtain ⟨before, after, hline, rfl⟩ := IsLine.of_splitOn hpiece
  refine ⟨before, after, hline.split, lineStarts_eq_some hline, ?_⟩
  rw [← Utf8.size_toList]
  exact lineStarts_next hline

/-- Of two carriage returns one is shown, and after the last line feed there is one more line. -/
example : (List.range 4).map (ofString "é\r\r\n\n€\n").line? = [some "é\r", some "", some "€", some ""] := by
  decide +kernel

end SourceMap

end Descent
