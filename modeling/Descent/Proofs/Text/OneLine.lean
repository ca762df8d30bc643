/-
  Texts on one line.

  * `Text.lineBreaks` are the characters that end a line for one reader or another.  `Text.Flat` lists of
    characters have none of them, and a text is `OneLine` if its characters are flat.
  * `oneLine_append` and `OneLine.intercalate`: texts on one line are put together to such a text.
  * `oneLine_toString`: numbers are on one line, and `oneLine_escape`: so is every text once it is escaped.
-/
import Descent.Text.Escape
import Mathlib.Data.List.Basic

namespace Descent

variable {a b cs quotes : List Char} {s s' : String} {c : Char}

namespace Text

/-- The characters that end a line for one reader or another: line feed, carriage return, next line, line
separator and paragraph separator. -/
def lineBreaks : List Char := ['\n', '\r', '\u0085', '\u2028', '\u2029']

/-- None of the characters ends a line. -/
def Flat (cs : List Char) : Prop := ∀ c ∈ cs, c ∉ lineBreaks

-- the general instance for lists, as another one would try every character there is
instance (cs : List Char) : Decidable (Flat cs) := List.decidableBAll (fun c => c ∉ lineBreaks) cs

theorem flat_append : Flat (a ++ b) ↔ Flat a ∧ Flat b := List.forall_mem_append

theorem flat_singleton : Flat [c] ↔ c ∉ lineBreaks := List.forall_mem_singleton

theorem flat_pair {d : Char} : Flat [c, d] ↔ c ∉ lineBreaks ∧ d ∉ lineBreaks :=
  List.forall_mem_cons.trans (and_congr_right fun _ => List.forall_mem_singleton)

end Text

/-- No character of a text ends a line. -/
def OneLine (s : String) : Prop := Text.Flat s.toList

instance (s : String) : Decidable (OneLine s) := inferInstanceAs (Decidable (Text.Flat s.toList))

/-! ## Putting texts together -/

@[simp] theorem oneLine_append : OneLine (s ++ s') ↔ OneLine s ∧ OneLine s' := by
  rw [OneLine, String.toList_append]
  exact Text.flat_append

theorem oneLine_ofList : OneLine (String.ofList cs) ↔ Text.Flat cs := by
  rw [OneLine, String.toList_ofList]

theorem OneLine.intercalate (hs : OneLine s) {parts : List String} (h : ∀ part ∈ parts, OneLine part) :
    OneLine (s.intercalate parts) := by
  induction parts with
  | nil => exact List.forall_mem_nil _
  | cons part parts ih =>
    obtain ⟨hpart, hparts⟩ := List.forall_mem_cons.1 h
    cases parts with
    | nil => rwa [String.intercalate_singleton]
    | cons next parts =>
      rw [String.intercalate_cons_cons, oneLine_append, oneLine_append]
      exact ⟨⟨hpart, hs⟩, ih hparts⟩

/-! ## Numbers -/

/-- Digits do not end a line. -/
theorem Text.flat_toDigits {base : Nat} (hbase : 1 < base) (hlast : base ≤ 16) (n : Nat) :
    Flat (Nat.toDigits base n) := by
  have hdigit (d : Nat) (hd : d < base) : Nat.digitChar d ∉ lineBreaks := by
    have hall : ∀ d < 16, Nat.digitChar d ∉ lineBreaks := by decide
    exact hall d (Nat.lt_of_lt_of_le hd hlast)
  induction n using Nat.strongRecOn with
  | ind n ih =>
    rw [Nat.toDigits_eq_if hbase]
    split
    · next hn => exact flat_singleton.2 (hdigit n hn)
    · next hn =>
      refine flat_append.2 ⟨ih (n / base) (Nat.div_lt_self (by omega) hbase), ?_⟩
      exact flat_singleton.2 (hdigit (n % base) (Nat.mod_lt n (by omega)))

/-- **Numbers are on one line.** -/
theorem oneLine_toString (n : Nat) : OneLine (toString n) := by
  rw [Nat.toString_eq_ofList_toDigits, oneLine_ofList]
  exact Text.flat_toDigits (by decide) (by decide) n

/-! ## Escaped texts -/

namespace Text

/-- What ends a line does not show as itself. -/
theorem notMem_lineBreaks_of_isPrintable (h : isPrintable c = true) : c ∉ lineBreaks := by
  have hbreaks : (lineBreaks.all fun c => !isPrintable c) = true := by decide
  intro hmem
  have hno := List.all_eq_true.1 hbreaks c hmem
  rw [h] at hno
  exact Bool.false_ne_true hno

theorem flat_codeEscape (c : Char) : Flat (codeEscape c) :=
  flat_append.2 ⟨flat_append.2 ⟨by decide, flat_toDigits (by decide) (by decide) c.toNat⟩, by decide⟩

theorem shortEscape?_notMem_lineBreaks {letter : Char} (h : shortEscape? c = some letter) :
    letter ∉ lineBreaks := by
  unfold shortEscape? at h
  split at h
  all_goals first | cases h; decide | cases h

/-- **No escaped character ends a line**, as long as none of the quotes does. -/
theorem flat_escapeChar (hquotes : Flat quotes) (first : Bool) (c : Char) :
    Flat (escapeChar quotes first c) := by
  have hbackslash : '\\' ∉ lineBreaks := by decide
  unfold escapeChar
  split
  · next letter hletter => exact flat_pair.2 ⟨hbackslash, shortEscape?_notMem_lineBreaks hletter⟩
  · split
    · next hquote => exact flat_pair.2 ⟨hbackslash, hquotes c (List.contains_iff_mem.1 hquote)⟩
    · split
      · exact flat_codeEscape c
      · next hshown =>
        have hprintable : isPrintable c = true := by
          by_contra hno
          exact hshown (by simp [hno])
        exact flat_singleton.2 (notMem_lineBreaks_of_isPrintable hprintable)

theorem flat_escapeChars (cs : List Char) : Flat (escapeChars cs) := by
  have hquotes : Flat ['\'', '"'] := by decide
  cases cs with
  | nil => exact List.forall_mem_nil _
  | cons c cs =>
    refine flat_append.2 ⟨flat_escapeChar hquotes true c, fun d hd => ?_⟩
    obtain ⟨c', -, hd⟩ := List.mem_flatMap.1 hd
    exact flat_escapeChar hquotes false c' d hd

end Text

/-- **An escaped text is on one line**, whatever it was before. -/
theorem oneLine_escape (s : String) : OneLine (Text.escape s) :=
  oneLine_ofList.2 (Text.flat_escapeChars s.toList)

end Descent
