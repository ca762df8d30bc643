/-
  JSON strings are read as they were written.

  * `Json.escapeChar_cases`: a character is written as itself, behind a backslash, or by its number.
  * `Json.string?_escaped`: what stands between the quotes of a written string denotes the string.
  * `Json.Printable` characters are no controls.  `Json.printable_quoted`: a written string has no others.
-/
import Descent.Json.Reader
import Descent.Proofs.Text.Digits

namespace Descent.Json

variable {c d : Char} {cs rest : List Char} {s : String}

/-! ## Characters -/

/-- **How a character is written**: behind a backslash, as a letter or as a number, or as itself. -/
theorem escapeChar_cases (c : Char) :
    (∃ letter, escapeChar c = ['\\', letter] ∧ simpleEscape? letter = some c ∧ 0x20 ≤ letter.toNat) ∨
    (c.toNat < 0x20 ∧
      escapeChar c = ['\\', 'u', '0', '0', hexDigit (c.toNat / 16), hexDigit (c.toNat % 16)]) ∨
    (0x20 ≤ c.toNat ∧ c ≠ '"' ∧ c ≠ '\\' ∧ escapeChar c = [c]) := by
  unfold escapeChar
  split
  case h_8 hquote hbackslash _ _ _ _ _ =>
    split
    · next hc => exact .inr (.inl ⟨hc, rfl⟩)
    · next hc => exact .inr (.inr ⟨Nat.le_of_not_lt hc, hquote, hbackslash, rfl⟩)
  all_goals exact .inl ⟨_, rfl, rfl, by decide⟩

/-! ## Control characters -/

/-- None of the characters is a control below the blank. -/
def Printable (cs : List Char) : Prop := ∀ c ∈ cs, 0x20 ≤ c.toNat

-- the general instance for lists, as another one would try every character there is
instance (cs : List Char) : Decidable (Printable cs) := List.decidableBAll (fun c : Char => 0x20 ≤ c.toNat) cs

theorem printable_append {a b : List Char} : Printable (a ++ b) ↔ Printable a ∧ Printable b := List.forall_mem_append

theorem printable_cons : Printable (c :: cs) ↔ 0x20 ≤ c.toNat ∧ Printable cs := List.forall_mem_cons

theorem printable_escapeChar (c : Char) : Printable (escapeChar c) := by
  have hhex : ∀ n < 16, 0x20 ≤ (hexDigit n).toNat := by decide
  have hmarks : Printable ['\\', 'u', '0', '0'] := by decide
  rcases escapeChar_cases c with ⟨letter, heq, -, hletter⟩ | ⟨hc, heq⟩ | ⟨hc, -, -, heq⟩ <;> rw [heq]
  · exact printable_cons.2 ⟨by decide, printable_cons.2 ⟨hletter, List.forall_mem_nil _⟩⟩
  · exact printable_append.2 ⟨hmarks, printable_cons.2 ⟨hhex _ (by omega),
      printable_cons.2 ⟨hhex _ (by omega), List.forall_mem_nil _⟩⟩⟩
  · exact printable_cons.2 ⟨hc, List.forall_mem_nil _⟩

/-- **A written string has no control characters.** -/
theorem printable_quoted (s : String) : Printable (quoted s) := by
  have hquote : Printable ['"'] := by decide
  refine printable_append.2 ⟨printable_cons.2 ⟨by decide, fun c hc => ?_⟩, hquote⟩
  obtain ⟨d, -, hd⟩ := List.mem_flatMap.1 hc
  exact printable_escapeChar d c hd

/-! ## The end of a string -/

theorem splitQuoteFrom_plain (hc : 0x20 ≤ c.toNat) (hquote : c ≠ '"') (hbackslash : c ≠ '\\')
    (passed rest : List Char) :
    splitQuoteFrom passed (c :: rest) = splitQuoteFrom (c :: passed) rest := by
  rw [splitQuoteFrom, if_neg (Nat.not_lt.2 hc)]
  · exact hquote
  · exact fun _ _ h _ => hbackslash h

theorem splitQuoteFrom_hexDigit {n : Nat} (hn : n < 16) (passed rest : List Char) :
    splitQuoteFrom passed (hexDigit n :: rest) = splitQuoteFrom (hexDigit n :: passed) rest := by
  have hall : ∀ n < 16, 0x20 ≤ (hexDigit n).toNat ∧ hexDigit n ≠ '"' ∧ hexDigit n ≠ '\\' := by decide
  obtain ⟨hc, hquote, hbackslash⟩ := hall n hn
  exact splitQuoteFrom_plain hc hquote hbackslash passed rest

/-- A character as it is written does not end a string. -/
theorem splitQuoteFrom_escapeChar (passed : List Char) (c : Char) (rest : List Char) :
    splitQuoteFrom passed (escapeChar c ++ rest) = splitQuoteFrom ((escapeChar c).reverse ++ passed) rest := by
  rcases escapeChar_cases c with ⟨letter, heq, -, -⟩ | ⟨hc, heq⟩ | ⟨hc, hquote, hbackslash, heq⟩ <;> rw [heq]
  · rfl
  · exact (splitQuoteFrom_hexDigit (by omega) ..).trans (splitQuoteFrom_hexDigit (by omega) ..)
  · exact splitQuoteFrom_plain hc hquote hbackslash passed rest

/-- **A string ends at the quote after what is written.** -/
theorem splitQuote_escaped (cs rest : List Char) :
    splitQuote (cs.flatMap escapeChar ++ '"' :: rest) = some (cs.flatMap escapeChar, rest) := by
  have hfrom (passed : List Char) : splitQuoteFrom passed (cs.flatMap escapeChar ++ '"' :: rest) =
      some (passed.reverse ++ cs.flatMap escapeChar, rest) := by
    induction cs generalizing passed with
    | nil => rw [List.flatMap_nil, List.append_nil]; rfl
    | cons c cs ih =>
      rw [List.flatMap_cons, List.append_assoc, splitQuoteFrom_escapeChar, ih, List.reverse_append,
        List.reverse_reverse, List.append_assoc]
  exact hfrom []

/-! ## What a string denotes -/

theorem piecesFrom_plain (hbackslash : c ≠ '\\') (done : List Piece) (rest : List Char) :
    piecesFrom done (c :: rest) = piecesFrom (.char c :: done) rest := by
  rw [piecesFrom, if_neg hbackslash]
  · exact fun _ _ _ _ _ h _ => hbackslash h
  · exact fun _ _ h _ => hbackslash h

theorem piecesFrom_letter {letter : Char} (h : simpleEscape? letter = some c) (done : List Piece)
    (rest : List Char) : piecesFrom done ('\\' :: letter :: rest) = piecesFrom (.char c :: done) rest := by
  have hu : letter ≠ 'u' := by
    rintro rfl
    cases h
  rw [piecesFrom, h]
  exact fun _ _ _ _ _ h _ => hu h

theorem piecesFrom_number (hc : c.toNat < 0x20) (done : List Piece) (rest : List Char) :
    piecesFrom done ('\\' :: 'u' :: '0' :: '0' :: hexDigit (c.toNat / 16) :: hexDigit (c.toNat % 16) :: rest) =
      piecesFrom (.char c :: done) rest := by
  have hnumber : ∀ n < 0x20, Digits.number? 16 ['0', '0', hexDigit (n / 16), hexDigit (n % 16)] = some n ∧
      Piece.ofUnit n = .char (Char.ofNat n) := by decide
  obtain ⟨hn, hunit⟩ := hnumber c.toNat hc
  rw [piecesFrom, hn]
  dsimp only
  rw [hunit, Char.ofNat_toNat]

/-- A character as it is written denotes the character. -/
theorem piecesFrom_escapeChar (done : List Piece) (c : Char) (rest : List Char) :
    piecesFrom done (escapeChar c ++ rest) = piecesFrom (.char c :: done) rest := by
  rcases escapeChar_cases c with ⟨letter, heq, hletter, -⟩ | ⟨hc, heq⟩ | ⟨-, -, hbackslash, heq⟩ <;> rw [heq]
  · exact piecesFrom_letter hletter done rest
  · exact piecesFrom_number hc done rest
  · exact piecesFrom_plain hbackslash done rest

theorem pieces?_escaped (cs : List Char) : pieces? (cs.flatMap escapeChar) = some (cs.map .char) := by
  have hfrom (done : List Piece) :
      piecesFrom done (cs.flatMap escapeChar) = some (done.reverse ++ cs.map .char) := by
    induction cs generalizing done with
    | nil => rw [List.flatMap_nil, List.map_nil, List.append_nil]; rfl
    | cons c cs ih =>
      rw [List.flatMap_cons, piecesFrom_escapeChar, ih, List.reverse_cons, List.append_assoc]
      rfl
  exact hfrom []

theorem joined?_chars (cs : List Char) : joined? (cs.map .char) = some cs := by
  have hfrom (done : List Char) : joinFrom done (cs.map .char) = some (done.reverse ++ cs) := by
    induction cs generalizing done with
    | nil => rw [List.append_nil]; rfl
    | cons c cs ih =>
      rw [List.map_cons, joinFrom, ih, List.reverse_cons, List.append_assoc]
      rfl
  exact hfrom []

/-- **What stands between the quotes of a written string denotes the string.** -/
theorem string?_escaped (s : String) (rest : List Char) :
    string? (s.toList.flatMap escapeChar ++ '"' :: rest) =
      some ((s.toList.flatMap escapeChar, some s), rest) := by
  rw [string?, splitQuote_escaped, Option.bind_eq_bind, Option.bind_some]
  dsimp only
  rw [pieces?_escaped, Option.bind_eq_bind, Option.bind_some, joined?_chars, Option.map_some,
    String.ofList_toList]
  rfl

end Descent.Json
