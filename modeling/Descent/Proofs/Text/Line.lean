/-
  Lines of a text, and where they are found.

  * `IsLine text before line after`: `line` is a line of the text, between what comes before and after it.
    `IsLine.exists_around`: wherever a text is split, the split lies in a line, after as many of its
    characters as the column of the place says.
  * `SourceMap.starts` are the bytes at which lines start, built up character by character, and
    `SourceMap.getElem?_starts`: the line after `before` starts at the byte of that size.
  * `SourceMap.line?_ofString`: every line is found by its number, without one carriage return at its end.
  * `SourceMap.column_bounds` and `SourceMap.getElem?_dropReturn`: columns and characters of a line in what is
    shown of it.
-/
import Descent.Proofs.Text.Offset
import Descent.Proofs.Text.Position
import Descent.Text.SourceMap
import Mathlib.Data.List.DropRight

namespace Descent

variable {text passed rest before line after cs : List Char} {source : String} {c : Char} {i : Nat}

/-! ## Lines -/

/-- A line of a text, with what comes before and after it.  It begins at the start of the text or after a
line feed, and it ends at the end of the text or before a line feed. -/
structure IsLine (text before line after : List Char) : Prop where
  split : text = before ++ (line ++ after)
  unbroken : '\n' ∉ line
  left : before = [] ∨ before.getLast? = some '\n'
  right : after = [] ∨ after.head? = some '\n'

namespace IsLine

/-- **Every split of a text lies in a line**: it begins after the last line feed of the first part and goes
on up to the first line feed of the second. -/
theorem of_split (h : text = passed ++ rest) : IsLine text (passed.rdropWhile (· ≠ '\n'))
    (passed.rtakeWhile (· ≠ '\n') ++ rest.takeWhile (· ≠ '\n')) (rest.dropWhile (· ≠ '\n')) where
  split := by
    rw [List.append_assoc, List.takeWhile_append_dropWhile, ← List.append_assoc,
      List.rdropWhile_append_rtakeWhile, h]
  unbroken hm := by
    rcases List.mem_append.1 hm with hm | hm
    · simpa using List.mem_rtakeWhile_imp hm
    · simpa using List.mem_takeWhile_imp hm
  left := by
    by_cases hnil : passed.rdropWhile (· ≠ '\n') = []
    · exact .inl hnil
    · have hlast := List.rdropWhile_last_not (· ≠ '\n') passed hnil
      rw [List.getLast?_eq_some_getLast hnil]
      exact .inr (congrArg some (by simpa using hlast))
  right := by
    have hhead := List.head?_dropWhile_not (· ≠ '\n') rest
    rcases hdrop : rest.dropWhile (· ≠ '\n') with _ | ⟨c, cs⟩
    · exact .inl rfl
    · rw [hdrop] at hhead
      exact .inr (by simpa using hhead)

/-- The line after a line that ends in a line feed. -/
theorem next (h : IsLine text before line ('\n' :: after)) :
    IsLine text (before ++ line ++ ['\n']) (after.takeWhile (· ≠ '\n')) (after.dropWhile (· ≠ '\n')) := by
  have hsplit : text = (before ++ line ++ ['\n']) ++ after := by rw [h.split]; simp
  have hnext := of_split hsplit
  rwa [List.rdropWhile_concat_neg _ _ _ (by simp), List.rtakeWhile_concat_neg _ _ _ (by simp)] at hnext

/-- **Line and column of a place say where the text is split**: in which line, and after how many of its
characters. -/
theorem exists_around (h : text = passed ++ rest) : ∃ before line after, IsLine text before line after ∧
    before.count '\n' = (Position.after passed).line ∧
    (Position.after passed).column ≤ line.length ∧
    passed = before ++ line.take (Position.after passed).column ∧
    line.drop (Position.after passed).column = rest.takeWhile (· ≠ '\n') := by
  have hcolumn : (Position.after passed).column = (passed.rtakeWhile (· ≠ '\n')).length := by
    rw [List.rtakeWhile, List.length_reverse]; rfl
  have hpassed : passed.rdropWhile (· ≠ '\n') ++ passed.rtakeWhile (· ≠ '\n') = passed :=
    List.rdropWhile_append_rtakeWhile
  have hopen : (passed.rtakeWhile (· ≠ '\n')).count '\n' = 0 :=
    List.count_eq_zero.2 fun hm => by simpa using List.mem_rtakeWhile_imp hm
  refine ⟨_, _, _, of_split h, ?_, ?_, ?_, ?_⟩
  · show _ = passed.count '\n'
    conv_rhs => rw [← hpassed, List.count_append, hopen, Nat.add_zero]
  · rw [hcolumn, List.length_append]
    exact Nat.le_add_right _ _
  · rw [hcolumn, List.take_left, hpassed]
  · rw [hcolumn, List.drop_left]

end IsLine

namespace SourceMap

/-! ## Where lines start -/

/-- The bytes at which the lines of `cs` start. -/
def starts (cs : List Char) : List Nat := (cs.foldl passChar (0, #[0])).2.toList

theorem fst_foldl_passChar (cs : List Char) (state : Nat × Array Nat) :
    (cs.foldl passChar state).1 = state.1 + Utf8.size cs := by
  induction cs generalizing state with
  | nil => rfl
  | cons c cs ih => rw [List.foldl_cons, ih, Utf8.size_cons, ← Nat.add_assoc]; rfl

/-- A line feed starts a line after it, and no other character does. -/
theorem starts_concat (cs : List Char) (c : Char) : starts (cs ++ [c]) =
    if c = '\n' then starts cs ++ [Utf8.size (cs ++ [c])] else starts cs := by
  have hbyte : (cs.foldl passChar (0, #[0])).1 + c.utf8Size = Utf8.size (cs ++ [c]) := by
    rw [fst_foldl_passChar, Utf8.size_append, Nat.zero_add, Utf8.size_cons, Utf8.size_nil]; rfl
  rw [starts, List.foldl_append]
  show (if c = '\n' then _ else _ : Array Nat).toList = _
  split
  · rw [Array.toList_push, hbyte]; rfl
  · rfl

theorem length_starts (cs : List Char) : (starts cs).length = cs.count '\n' + 1 := by
  induction cs using List.reverseRecOn with
  | nil => rfl
  | append_singleton cs c ih =>
    rw [starts_concat, List.count_append, List.count_singleton]
    by_cases hc : c = '\n'
    · simp [hc, ih]
    · simp [hc, ih]

/-- The lines that start in a first part of a text start there in the text. -/
theorem starts_prefix (a b : List Char) : starts a <+: starts (a ++ b) := by
  induction b using List.reverseRecOn with
  | nil => exact (List.append_nil a).symm ▸ List.prefix_rfl
  | append_singleton b c ih =>
    rw [← List.append_assoc, starts_concat]
    split
    · exact ih.trans (List.prefix_append _ _)
    · exact ih

/-- **The line after a first part that ends in a line feed** has the number of line feeds before it, and
starts at the byte of their size. -/
theorem getElem?_starts (hcs : cs = [] ∨ cs.getLast? = some '\n') (rest : List Char) :
    (starts (cs ++ rest))[cs.count '\n']? = some (Utf8.size cs) := by
  obtain ⟨more, hmore⟩ := starts_prefix cs rest
  have hlength := length_starts cs
  rw [← hmore, List.getElem?_append_left (by omega)]
  rcases hcs with rfl | hlast
  · rfl
  · obtain ⟨cs, rfl⟩ := List.getLast?_eq_some_iff.1 hlast
    have hcount : (cs ++ ['\n']).count '\n' = (starts cs).length := by
      rw [length_starts, List.count_append, List.count_singleton_self]
    rw [starts_concat, if_pos rfl, hcount, List.getElem?_concat_length]

theorem toList_lineStarts (source : String) :
    (ofString source).lineStarts.toList = starts source.toList := rfl

theorem lineStarts_eq_some (h : IsLine source.toList before line after) :
    (ofString source).lineStarts[before.count '\n']? = some (Utf8.size before) := by
  rw [← Array.getElem?_toList, toList_lineStarts, h.split, getElem?_starts h.left]

theorem lineStarts_eq_none (h : IsLine source.toList before line []) :
    (ofString source).lineStarts[before.count '\n' + 1]? = none := by
  rw [← Array.getElem?_toList, toList_lineStarts, h.split, List.getElem?_eq_none_iff, length_starts,
    List.append_nil, List.count_append, List.count_eq_zero.2 h.unbroken]

/-! ## Lines by their numbers -/

/-- A line ends before the byte that the next line starts after, or with the text. -/
theorem line?_eq {m : SourceMap} {start stop : Nat} {piece : List Char}
    (hstart : m.lineStarts[i]? = some start)
    (hstop : m.lineStarts[i + 1]? = some (stop + 1) ∨
      m.lineStarts[i + 1]? = none ∧ Utf8.size m.source.toList = stop)
    (hpiece : Utf8.slice? m.source.toList start stop = some piece) :
    m.line? i = some (String.ofList (dropReturn piece)) := by
  rw [line?, hstart]
  rcases hstop with hnext | ⟨hnone, hsize⟩
  · simp [hnext, hpiece]
  · simp [hnone, hsize, hpiece]

/-- **Where a line ends**: before the byte that the next line starts after, or with the text. -/
theorem lineStarts_next (h : IsLine source.toList before line after) :
    (ofString source).lineStarts[before.count '\n' + 1]? = some (Utf8.size (before ++ line) + 1) ∨
      (ofString source).lineStarts[before.count '\n' + 1]? = none ∧
        Utf8.size source.toList = Utf8.size (before ++ line) := by
  rcases h.right with rfl | hafter
  · exact .inr ⟨lineStarts_eq_none h, by rw [h.split, List.append_nil]⟩
  · obtain ⟨after, rfl⟩ := List.head?_eq_some_iff.1 hafter
    have hnext := lineStarts_eq_some h.next
    rw [List.count_append, List.count_append, List.count_eq_zero.2 h.unbroken, List.count_singleton_self,
      Utf8.size_append] at hnext
    exact .inl hnext

/-- **Every line is found by its number**, which is the number of line feeds before it. -/
theorem line?_ofString (h : IsLine source.toList before line after) :
    (ofString source).line? (before.count '\n') = some (String.ofList (dropReturn line)) := by
  refine line?_eq (lineStarts_eq_some h) (lineStarts_next h) ?_
  show Utf8.slice? source.toList _ _ = _
  rw [h.split, Utf8.size_append, Utf8.slice?_size]

theorem line?_eq_excerpt (h : IsLine source.toList before line after) :
    (ofString source).line? (before.count '\n') = some ((ofString source).excerpt (before.count '\n')) := by
  rw [excerpt, line?_ofString h]; rfl

theorem toList_excerpt (h : IsLine source.toList before line after) :
    ((ofString source).excerpt (before.count '\n')).toList = dropReturn line := by
  rw [excerpt, line?_ofString h]; exact String.toList_ofList

theorem lt_lineCount (h : IsLine source.toList before line after) :
    before.count '\n' < (ofString source).lineCount :=
  (Array.getElem?_eq_some_iff.1 (lineStarts_eq_some h)).1

/-! ## Carriage returns -/

theorem dropReturn_cases (cs : List Char) :
    cs.getLast? ≠ some '\r' ∧ dropReturn cs = cs ∨
      cs.getLast? = some '\r' ∧ cs = dropReturn cs ++ ['\r'] := by
  rw [dropReturn]
  split
  · next h =>
    obtain ⟨cs, rfl⟩ := List.getLast?_eq_some_iff.1 h
    exact .inr ⟨h, by rw [List.dropLast_concat]⟩
  · next h => exact .inl ⟨h, rfl⟩

theorem mem_of_mem_dropReturn (h : c ∈ dropReturn cs) : c ∈ cs := by
  rcases dropReturn_cases cs with ⟨-, he⟩ | ⟨-, he⟩
  · exact he ▸ h
  · rw [he]; exact List.mem_append_left _ h

/-- One carriage return is dropped, if the line ends in one. -/
theorem length_dropReturn (cs : List Char) :
    cs.length = (dropReturn cs).length + if cs.getLast? = some '\r' then 1 else 0 := by
  rcases dropReturn_cases cs with ⟨h, he⟩ | ⟨h, he⟩
  · rw [if_neg h, he, Nat.add_zero]
  · rw [if_pos h]
    exact (congrArg List.length he).trans List.length_append

/-- **A column of a line is at most one after what is shown**, unless it is the one after a carriage return that
is not shown. -/
theorem column_bounds {column : Nat} (h : column ≤ line.length) :
    (line.getLast? = some '\r' ∧ column = line.length → column = (dropReturn line).length + 1) ∧
      (¬ (line.getLast? = some '\r' ∧ column = line.length) → column ≤ (dropReturn line).length) := by
  have hlength := length_dropReturn line
  by_cases hreturn : line.getLast? = some '\r'
  · rw [if_pos hreturn] at hlength
    refine ⟨fun hfull => by rw [hfull.2, hlength], fun hshort => ?_⟩
    have hne : column ≠ line.length := fun hfull => hshort ⟨hreturn, hfull⟩
    omega
  · rw [if_neg hreturn] at hlength
    exact ⟨fun hfull => absurd hfull.1 hreturn, fun _ => h.trans hlength.le⟩

/-- **A character of a line is shown**, unless it is the carriage return at its end. -/
theorem getElem?_dropReturn (h : cs[i]? = some c) : (dropReturn cs)[i]? = some c ∨
    c = '\r' ∧ cs = dropReturn cs ++ ['\r'] ∧ i = (dropReturn cs).length := by
  rcases dropReturn_cases cs with ⟨-, he⟩ | ⟨-, he⟩
  · exact .inl (he.symm ▸ h)
  · rw [he] at h
    rcases Nat.lt_trichotomy i (dropReturn cs).length with hlt | heq | hgt
    · exact .inl (by rwa [List.getElem?_append_left hlt] at h)
    · rw [heq, List.getElem?_concat_length] at h
      exact .inr ⟨(Option.some.inj h).symm, he, heq⟩
    · rw [List.getElem?_eq_none (by rw [List.length_append]; exact hgt)] at h
      exact absurd h.symm (Option.some_ne_none c)

end SourceMap

end Descent
