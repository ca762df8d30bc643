/-
  JSON values are read as they were written.

  * `Json.Value.Plain` are the values that a reader keeps as they are: numbers are whole and fit a word, and no text
    is kept as it is written.
  * `Json.Value.Plain.readable`: a plain value is read from the front of a text, if what follows does not go on with a
    number (`Json.Stops`), by a reader that has two units for each character.
  * `Json.Value.Plain.parse?_render`: so the text of a plain value denotes it, and no other value has the same text
    (`Json.Value.Plain.render_injective`).
  * `Json.Value.Plain.printable`: there are no control characters in it.
-/
import Descent.Json.Reader
import Descent.Proofs.Json.Text
import Mathlib.Data.List.TakeDrop

namespace Descent.Json

variable {c : Char} {cs rest : List Char} {v w : Value} {items : List Value}
  {members : List (String × Value)} {fuel : Nat}

/-! ## Numbers -/

/-- What stands here does not go on with a number. -/
def Stops (rest : List Char) : Prop :=
  ∀ c ∈ rest.head?, isDigit c = false ∧ c ≠ '.' ∧ c ≠ 'e' ∧ c ≠ 'E'

theorem stops_nil : Stops [] := fun _ h => by cases h

theorem stops_cons (h : isDigit c = false ∧ c ≠ '.' ∧ c ≠ 'e' ∧ c ≠ 'E') : Stops (c :: rest) := by
  rintro _ ⟨⟩
  exact h

namespace Stops

variable (h : Stops rest)
include h

theorem takeWhile_eq_nil : rest.takeWhile isDigit = [] := by
  cases rest with
  | nil => rfl
  | cons c cs => rw [List.takeWhile_cons_of_neg (by rw [(h c rfl).1]; exact Bool.false_ne_true)]

theorem dropWhile_eq : rest.dropWhile isDigit = rest := by
  cases rest with
  | nil => rfl
  | cons c cs => rw [List.dropWhile_cons_of_neg (by rw [(h c rfl).1]; exact Bool.false_ne_true)]

theorem fraction?_eq : fraction? rest = some ([], rest) := by
  cases rest with
  | nil => rfl
  | cons c cs => rw [fraction?]; exact fun _ hc => (h c rfl).2.1 (List.cons.inj hc).1

theorem exponent?_eq : exponent? rest = some ([], rest) := by
  cases rest with
  | nil => rfl
  | cons c cs =>
    obtain ⟨-, -, hsmall, hcapital⟩ := h c rfl
    have hmark : ¬(c == 'e' || c == 'E') = true := by simp [hsmall, hcapital]
    cases cs with
    | nil => exact if_neg hmark
    | cons d cs => exact if_neg hmark

/-- The digits of a number are its whole part. -/
theorem whole?_toDigits (n : Nat) : whole? (Nat.toDigits 10 n ++ rest) = some (Nat.toDigits 10 n, rest) := by
  have hdigits : ∀ c ∈ Nat.toDigits 10 n, isDigit c = true := fun c hc =>
    Digits.isDigit_of_mem_toDigits (by decide) (by decide) hc
  by_cases hn : n = 0
  · subst hn
    have hhead : rest.head?.any isDigit = false := by
      cases rest with
      | nil => rfl
      | cons c cs => exact (h c rfl).1
    rw [Nat.toDigits_zero, List.singleton_append, whole?, hhead]
    rfl
  · have hfirst : (Nat.toDigits 10 n).head? ≠ some '0' := Digits.head?_toDigits (by decide) (by decide) hn
    have htake : (Nat.toDigits 10 n ++ rest).takeWhile isDigit = Nat.toDigits 10 n := by
      rw [List.takeWhile_append_of_pos hdigits, h.takeWhile_eq_nil, List.append_nil]
    have hsome : (Nat.toDigits 10 n).isEmpty = false := by
      rw [← Bool.not_eq_true, List.isEmpty_iff]
      exact Nat.toDigits_ne_nil
    rw [whole?, htake, hsome, List.span_eq_takeWhile_dropWhile, htake, List.dropWhile_append_of_pos hdigits,
      h.dropWhile_eq]
    · rfl
    · intro cs hcs
      cases hds : Nat.toDigits 10 n with
      | nil => exact Nat.toDigits_ne_nil hds
      | cons d ds =>
        rw [hds] at hcs hfirst
        exact hfirst (congrArg some (List.cons.inj hcs).1)

theorem unsigned?_toDigits (negative : Bool) (n : Nat) :
    unsigned? negative (Nat.toDigits 10 n ++ rest) =
      some (numberValue negative (Nat.toDigits 10 n) [], rest) := by
  simp only [unsigned?, h.whole?_toDigits, h.fraction?_eq, h.exponent?_eq, Option.bind_eq_bind, Option.bind_some,
    List.append_nil, Option.pure_def]

end Stops

theorem numberValue_positive {n : Nat} (h : n < Word.limit) :
    numberValue false (Nat.toDigits 10 n) [] = .int n := by
  rw [numberValue, Digits.number?_toDigits (by decide) (by decide)]
  simp [Nat.not_le.2 h]

theorem numberValue_negative {n : Nat} (hn : n ≠ 0) (h : n ≤ Word.signedLimit) :
    numberValue true (Nat.toDigits 10 n) [] = .int (-n) := by
  rw [numberValue, Digits.number?_toDigits (by decide) (by decide)]
  simp [hn, Int.not_lt.2 h]

/-- How a whole number is written. -/
theorem digits_cases (n : Int) : (∃ k : Nat, n = k ∧ digits n = Nat.toDigits 10 k) ∨
    ∃ k : Nat, k ≠ 0 ∧ n = -k ∧ digits n = '-' :: Nat.toDigits 10 k := by
  rw [digits, Int.toString_eq_repr, Int.repr_eq_if, Nat.repr_eq_ofList_toDigits, Nat.repr_eq_ofList_toDigits]
  split
  · next h => exact .inl ⟨n.toNat, (Int.toNat_of_nonneg h).symm, String.toList_ofList⟩
  · refine .inr ⟨(-n).toNat, by omega, by omega, ?_⟩
    exact String.toList_append.trans (congrArg ('-' :: ·) String.toList_ofList)

/-- A number starts with a digit or a sign. -/
theorem exists_digits_eq_cons (n : Int) : ∃ c cs, digits n = c :: cs ∧ (isDigit c = true ∨ c = '-') := by
  rcases digits_cases n with ⟨k, -, hdigits⟩ | ⟨k, -, -, hdigits⟩
  · cases hds : Nat.toDigits 10 k with
    | nil => exact absurd hds Nat.toDigits_ne_nil
    | cons d ds =>
      have hd : d ∈ Nat.toDigits 10 k := by rw [hds]; exact List.mem_cons_self
      exact ⟨d, ds, hdigits.trans hds, .inl (Digits.isDigit_of_mem_toDigits (by decide) (by decide) hd)⟩
  · exact ⟨'-', _, hdigits, .inr rfl⟩

/-- **A whole number that fits a word is read as it was written.** -/
theorem Stops.number?_digits (h : Stops rest) {n : Int} (hleast : -Word.signedLimit ≤ n)
    (hgreatest : n < Word.limit) : number? (digits n ++ rest) = some (.int n, rest) := by
  rcases digits_cases n with ⟨k, rfl, hdigits⟩ | ⟨k, hk, rfl, hdigits⟩
  · have hsign (cs : List Char) : Nat.toDigits 10 k ++ rest ≠ '-' :: cs := by
      intro hcs
      have hmem : '-' ∈ Nat.toDigits 10 k := by
        cases hds : Nat.toDigits 10 k with
        | nil => exact absurd hds Nat.toDigits_ne_nil
        | cons d ds =>
          rw [hds] at hcs
          exact List.mem_cons.2 (.inl (List.cons.inj hcs).1.symm)
      have hdigit : isDigit '-' = true := Digits.isDigit_of_mem_toDigits (by decide) (by decide) hmem
      exact Bool.false_ne_true hdigit
    rw [hdigits, number?, h.unsigned?_toDigits, numberValue_positive (by omega)]
    exact hsign
  · rw [hdigits, List.cons_append, number?, h.unsigned?_toDigits, numberValue_negative hk (by omega)]

/-! ## Names and members -/

theorem skipBlanks_cons (h : isBlank c = false) (cs : List Char) : skipBlanks (c :: cs) = c :: cs :=
  List.dropWhile_cons_of_neg (by rw [h]; exact Bool.false_ne_true)

/-- The name of a member is read up to its colon. -/
theorem name?_quoted (s : String) (rest : List Char) :
    name? (quoted s ++ ':' :: rest) = some (some s, rest) := by
  have hquote : isBlank '"' = false := rfl
  have hcolon : isBlank ':' = false := rfl
  simp only [quoted, List.append_assoc, List.cons_append, List.nil_append, name?, skipBlanks_cons hquote,
    string?_escaped, skipBlanks_cons hcolon, Option.bind_eq_bind, Option.bind_some]

theorem objectValue_named (cs rest : List Char) (members : List (String × Value)) :
    objectValue cs rest (members.map fun m => (some m.1, m.2)) = .obj members := by
  have hnames : (members.map fun m => (some m.1, m.2)).mapM
      (fun m : Option String × Value => m.1.map fun name => (name, m.2)) = some members := by
    induction members with
    | nil => rfl
    | cons m members ih => rw [List.map_cons, List.mapM_cons, ih]; rfl
  rw [objectValue, hnames]

/-! ## Values -/

namespace Value

/-- Values that a reader keeps as they are. -/
inductive Plain : Value → Prop
  | null : Plain null
  | bool (b : Bool) : Plain (bool b)
  | int {n : Int} : -Word.signedLimit ≤ n → n < Word.limit → Plain (int n)
  | str (s : String) : Plain (str s)
  | arr {items : List Value} : (∀ v ∈ items, Plain v) → Plain (arr items)
  | obj {members : List (String × Value)} : (∀ m ∈ members, Plain m.2) → Plain (obj members)

/-- A value can be read with two units for each of its characters, whatever follows that stops it. -/
def Readable (v : Value) : Prop :=
  ∀ (fuel : Nat) (rest : List Char), 2 * v.chars.length ≤ fuel → Stops rest →
    value? fuel (v.chars ++ rest) = some (v, rest)

theorem Readable.of_succ (hv : v.chars ≠ []) (h : ∀ (fuel : Nat) (rest : List Char),
    2 * v.chars.length ≤ fuel + 1 → Stops rest → value? (fuel + 1) (v.chars ++ rest) = some (v, rest)) :
    v.Readable := by
  intro fuel rest hfuel hstops
  have hpos : 0 < v.chars.length := List.length_pos_iff.2 hv
  obtain ⟨fuel, rfl⟩ : ∃ f, fuel = f + 1 := ⟨fuel - 1, by omega⟩
  exact h fuel rest hfuel hstops

end Value

/-- A number starts with no blank and with no bracket. -/
theorem isBlank_of_number (hc : isDigit c = true ∨ c = '-') : isBlank c = false ∧ c ≠ ']' := by
  refine ⟨?_, ?_⟩
  · rw [← Bool.not_eq_true]
    intro h
    simp only [isBlank, Bool.or_eq_true, beq_iff_eq] at h
    rcases h with ((rfl | rfl) | rfl) | rfl <;> revert hc <;> decide
  · rintro rfl
    revert hc
    decide

theorem value?_number (hc : isDigit c = true ∨ c = '-') (cs : List Char) :
    value? (fuel + 1) (c :: cs) = number? (c :: cs) := by
  rw [value?, skipBlanks_cons (isBlank_of_number hc).1]
  split
  case h_7 => rfl
  all_goals
    next heq =>
    obtain ⟨rfl, -⟩ := List.cons.inj heq
    rcases hc with hc | hc <;> cases hc

theorem value?_bracket (hblank : isBlank c = false) (hc : c ≠ ']') (cs : List Char) :
    value? (fuel + 1) ('[' :: c :: cs) = (items? fuel [] (c :: cs)).map fun r => (.arr r.1, r.2) := by
  have hopen : isBlank '[' = false := rfl
  simp only [value?, skipBlanks_cons hopen, skipBlanks_cons hblank]
  split
  · next heq => exact absurd (List.cons.inj heq).1 hc
  · rfl

theorem value?_brace (hblank : isBlank c = false) (hc : c ≠ '\x7d') (cs : List Char) :
    value? (fuel + 1) ('\x7b' :: c :: cs) =
      (members? fuel [] (c :: cs)).map fun r => (objectValue ('\x7b' :: c :: cs) r.2 r.1, r.2) := by
  have hopen : isBlank '\x7b' = false := rfl
  simp only [value?, skipBlanks_cons hopen, skipBlanks_cons hblank]
  split
  · next heq => exact absurd (List.cons.inj heq).1 hc
  · rfl

theorem stops_comma : Stops (',' :: rest) := stops_cons (by decide)

theorem stops_bracket : Stops (']' :: rest) := stops_cons (by decide)

theorem stops_brace : Stops ('\x7d' :: rest) := stops_cons (by decide)

/-- Items that can be read one by one are read as they are written. -/
theorem items?_texts {v : Value} {items : List Value} (h : ∀ w ∈ v :: items, w.Readable) {fuel : Nat}
    (hfuel : 2 * (commas (Value.itemTexts (v :: items))).length ≤ fuel) (done : List Value) (rest : List Char) :
    items? (fuel + 1) done (commas (Value.itemTexts (v :: items)) ++ ']' :: rest) =
      some (done.reverse ++ v :: items, rest) := by
  have hcomma : isBlank ',' = false := rfl
  have hbracket : isBlank ']' = false := rfl
  induction items generalizing v done fuel with
  | nil =>
    simp only [Value.itemTexts, commas] at hfuel ⊢
    rw [items?, h v List.mem_cons_self fuel _ hfuel stops_bracket]
    simp only [skipBlanks_cons hbracket, List.reverse_cons]
  | cons w items ih =>
    obtain ⟨hv, hitems⟩ := List.forall_mem_cons.1 h
    simp only [Value.itemTexts, commas, List.length_append, List.length_cons, List.append_assoc,
      List.cons_append] at hfuel ih ⊢
    obtain ⟨fuel, rfl⟩ : ∃ f, fuel = f + 1 := ⟨fuel - 1, by omega⟩
    rw [items?, hv (fuel + 1) _ (by omega) stops_comma]
    simp only [skipBlanks_cons hcomma]
    rw [ih hitems (by omega), List.reverse_cons, List.append_assoc]
    rfl

/-- Members whose values can be read are read as they are written. -/
theorem members?_texts {m : String × Value} {members : List (String × Value)}
    (h : ∀ m' ∈ m :: members, m'.2.Readable) {fuel : Nat}
    (hfuel : 2 * (commas (Value.memberTexts (m :: members))).length ≤ fuel) (done : List (Option String × Value))
    (rest : List Char) :
    members? (fuel + 1) done (commas (Value.memberTexts (m :: members)) ++ '\x7d' :: rest) =
      some (done.reverse ++ (m :: members).map fun m => (some m.1, m.2), rest) := by
  have hcomma : isBlank ',' = false := rfl
  have hbrace : isBlank '\x7d' = false := rfl
  induction members generalizing m done fuel with
  | nil =>
    simp only [Value.memberTexts, commas, List.length_append, List.length_cons, List.append_assoc,
      List.cons_append] at hfuel ⊢
    rw [members?, name?_quoted]
    dsimp only
    rw [h m List.mem_cons_self fuel _ (by omega) stops_brace]
    simp only [skipBlanks_cons hbrace, List.reverse_cons, List.map_cons, List.map_nil]
  | cons m' members ih =>
    obtain ⟨hm, hmembers⟩ := List.forall_mem_cons.1 h
    simp only [Value.memberTexts, commas, List.length_append, List.length_cons, List.append_assoc,
      List.cons_append] at hfuel ih ⊢
    obtain ⟨fuel, rfl⟩ : ∃ f, fuel = f + 1 := ⟨fuel - 1, by omega⟩
    rw [members?, name?_quoted]
    dsimp only
    rw [hm (fuel + 1) _ (by omega) stops_comma]
    simp only [skipBlanks_cons hcomma]
    rw [ih hmembers (by omega), List.reverse_cons, List.append_assoc]
    rfl

namespace Value

/-- A value starts with no blank and with no bracket that closes. -/
theorem Plain.exists_chars_eq_cons (h : v.Plain) : ∃ c cs, v.chars = c :: cs ∧ isBlank c = false ∧ c ≠ ']' := by
  cases h with
  | null => exact ⟨_, _, rfl, rfl, by decide⟩
  | bool b => cases b <;> exact ⟨_, _, rfl, rfl, by decide⟩
  | @int n _ _ =>
    obtain ⟨c, cs, hdigits, hc⟩ := exists_digits_eq_cons n
    exact ⟨c, cs, hdigits, isBlank_of_number hc⟩
  | str s => exact ⟨_, _, rfl, rfl, by decide⟩
  | arr _ => exact ⟨_, _, rfl, rfl, by decide⟩
  | obj _ => exact ⟨_, _, rfl, rfl, by decide⟩

theorem readable_int {n : Int} (hleast : -Word.signedLimit ≤ n) (hgreatest : n < Word.limit) :
    (int n).Readable := by
  obtain ⟨c, cs, hdigits, hc⟩ := exists_digits_eq_cons n
  refine .of_succ ?_ fun fuel rest _ hstops => ?_
  · rw [chars, hdigits]
    exact List.cons_ne_nil c cs
  · have hnumber := hstops.number?_digits hleast hgreatest
    rw [hdigits] at hnumber
    rw [chars, hdigits, List.cons_append, value?_number hc]
    exact hnumber

theorem readable_str (s : String) : (str s).Readable := by
  refine .of_succ (List.cons_ne_nil _ _) fun fuel rest _ _ => ?_
  have hquote : isBlank '"' = false := rfl
  simp only [chars, quoted, List.cons_append, List.append_assoc, List.nil_append, value?, skipBlanks_cons hquote,
    string?_escaped, Option.map_some, stringValue]

theorem readable_arr (hplain : ∀ v ∈ items, v.Plain) (h : ∀ v ∈ items, v.Readable) : (arr items).Readable := by
  refine .of_succ (List.cons_ne_nil _ _) fun fuel rest hfuel _ => ?_
  cases items with
  | nil => rfl
  | cons v items =>
    obtain ⟨c, cs, hchars, hblank, hc⟩ := (hplain v List.mem_cons_self).exists_chars_eq_cons
    obtain ⟨cs', htexts⟩ : ∃ cs', commas (itemTexts (v :: items)) ++ ']' :: rest = c :: cs' := by
      cases items <;> simp only [itemTexts, commas, hchars, List.cons_append] <;> exact ⟨_, rfl⟩
    simp only [chars, List.length_cons, List.length_append] at hfuel
    obtain ⟨fuel, rfl⟩ : ∃ f, fuel = f + 1 := ⟨fuel - 1, by omega⟩
    have hbody : 2 * (commas (itemTexts (v :: items))).length ≤ fuel := by omega
    have hitems := items?_texts h hbody [] rest
    rw [htexts] at hitems
    simp only [chars, List.cons_append, List.append_assoc, List.nil_append]
    rw [htexts, value?_bracket hblank hc, hitems]
    rfl

theorem readable_obj (h : ∀ m ∈ members, m.2.Readable) : (obj members).Readable := by
  refine .of_succ (List.cons_ne_nil _ _) fun fuel rest hfuel _ => ?_
  cases members with
  | nil => rfl
  | cons m members =>
    obtain ⟨cs, htexts⟩ : ∃ cs, commas (memberTexts (m :: members)) ++ '\x7d' :: rest = '"' :: cs := by
      cases members <;> simp only [memberTexts, commas, quoted, List.cons_append] <;> exact ⟨_, rfl⟩
    simp only [chars, List.length_cons, List.length_append] at hfuel
    obtain ⟨fuel, rfl⟩ : ∃ f, fuel = f + 1 := ⟨fuel - 1, by omega⟩
    have hbody : 2 * (commas (memberTexts (m :: members))).length ≤ fuel := by omega
    have hmembers := members?_texts h hbody [] rest
    rw [htexts] at hmembers
    simp only [chars, List.cons_append, List.append_assoc, List.nil_append]
    rw [htexts, value?_brace rfl (by decide), hmembers, Option.map_some]
    dsimp only
    rw [List.reverse_nil, List.nil_append, objectValue_named]

/-- **Plain values are read as they are written.** -/
theorem Plain.readable (h : v.Plain) : v.Readable := by
  induction h with
  | null => exact .of_succ (List.cons_ne_nil _ _) fun _ _ _ _ => rfl
  | bool b => cases b <;> exact .of_succ (List.cons_ne_nil _ _) fun _ _ _ _ => rfl
  | int hleast hgreatest => exact readable_int hleast hgreatest
  | str s => exact readable_str s
  | arr hplain ih => exact readable_arr hplain ih
  | obj _ ih => exact readable_obj ih

/-- **The text of a plain value denotes it.** -/
theorem Plain.parse?_render (h : v.Plain) : parse? v.render = some v := by
  have hread : value? (2 * v.chars.length + 2) v.chars = some (v, []) := by
    have hchars := h.readable (2 * v.chars.length + 2) [] (by omega) stops_nil
    rwa [List.append_nil] at hchars
  rw [parse?, render, String.toList_ofList, hread]
  rfl

/-- Plain values with one text are equal. -/
theorem Plain.render_injective (h : v.Plain) (h' : w.Plain) (heq : v.render = w.render) : v = w := by
  have hw := h'.parse?_render
  rw [← heq, h.parse?_render] at hw
  exact Option.some.inj hw

/-! ## Control characters -/

theorem itemTexts_eq_map (items : List Value) : itemTexts items = items.map chars := by
  induction items with
  | nil => rfl
  | cons v items ih => rw [itemTexts, ih, List.map_cons]

theorem memberTexts_eq_map (members : List (String × Value)) :
    memberTexts members = members.map fun m => quoted m.1 ++ ':' :: m.2.chars := by
  induction members with
  | nil => rfl
  | cons m members ih => rw [memberTexts, ih, List.map_cons]

end Value

theorem printable_commas {texts : List (List Char)} (h : ∀ text ∈ texts, Printable text) :
    Printable (commas texts) := by
  induction texts with
  | nil => exact List.forall_mem_nil _
  | cons text texts ih =>
    obtain ⟨htext, htexts⟩ := List.forall_mem_cons.1 h
    cases texts with
    | nil => exact htext
    | cons next texts => exact printable_append.2 ⟨htext, printable_cons.2 ⟨by decide, ih htexts⟩⟩

theorem printable_digits (n : Int) : Printable (digits n) := by
  have hzero : 0x20 ≤ '0'.toNat := by decide
  have hdigits (k : Nat) : Printable (Nat.toDigits 10 k) := fun c hc =>
    Nat.le_trans hzero (Digits.toNat_of_isDigit (Digits.isDigit_of_mem_toDigits (by decide) (by decide) hc))
  rcases digits_cases n with ⟨k, -, heq⟩ | ⟨k, -, -, heq⟩ <;> rw [heq]
  · exact hdigits k
  · exact printable_cons.2 ⟨by decide, hdigits k⟩

/-- **The text of a plain value has no control characters**, and so no line breaks. -/
theorem Value.Plain.printable (h : v.Plain) : Printable v.chars := by
  induction h with
  | null => decide
  | bool b => cases b <;> decide
  | int _ _ => exact printable_digits _
  | str s => exact printable_quoted s
  | arr _ ih =>
    have hend : Printable [']'] := by decide
    rw [chars, itemTexts_eq_map]
    exact printable_append.2 ⟨printable_cons.2 ⟨by decide, printable_commas (List.forall_mem_map.2 ih)⟩, hend⟩
  | obj _ ih =>
    have hend : Printable ['\x7d'] := by decide
    rw [chars, memberTexts_eq_map]
    refine printable_append.2 ⟨printable_cons.2 ⟨by decide, printable_commas (List.forall_mem_map.2 ?_)⟩, hend⟩
    exact fun m hm => printable_append.2 ⟨printable_quoted m.1, printable_cons.2 ⟨by decide, ih m hm⟩⟩

end Descent.Json
