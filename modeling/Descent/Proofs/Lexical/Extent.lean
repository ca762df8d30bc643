/-
  Whether tokens end where their lexemes do.

  * `Token.Exact`: start and end are as far apart as the lexeme has characters; the length of the token is then that
    of its lexeme.
  * `Token.Made`: the tokens that come of the constructor, of giving values and of cutting texts.  `Token.Made.exact`:
    they are exact.
  * `Token.length_made`: so they are as long as their lexemes, while tokens that are read may end anywhere.
-/
import Descent.Json.Reader
import Descent.Proofs.Json.Forms
import Descent.Proofs.Lexical.Coverage

namespace Descent

variable {V : Type} {tok : Token V}

namespace Token

/-! ## Exact tokens -/

/-- A token that ends as many characters after its start as its lexeme has. -/
def Exact (tok : Token V) : Prop := tok.stop = tok.start + tok.lexeme.length

instance (tok : Token V) : Decidable tok.Exact := inferInstanceAs (Decidable (_ = _))

/-- The length of an exact token is that of its lexeme. -/
theorem Exact.length?_eq (h : tok.Exact) : tok.length? = .ok tok.lexeme.length :=
  Word.sub?_eq_ok.2 ⟨by rw [h]; omega, by rw [h]; omega⟩

/-- Exact tokens are empty if their lexemes are. -/
theorem Exact.isEmpty_iff (h : tok.Exact) : tok.isEmpty = true ↔ tok.lexeme = "" := by
  rw [isEmpty, beq_iff_eq, h, Nat.left_eq_add, String.length_eq_zero_iff]

theorem exact_of_new? {category lexeme : String} {start line column : Nat}
    (h : Token.new? category lexeme start line column = .ok tok) : tok.Exact := by
  rw [new?] at h
  cases hstop : Word.add? start lexeme.length with
  | error e =>
    rw [hstop] at h
    cases h
  | ok stop =>
    rw [hstop] at h
    cases h
    exact (Word.add?_eq_ok.1 hstop).2

/-- **The tokens of a text are exact.** -/
theorem exact_of_tokenize {t : Tokenizer V} {least : Level} {text : String} {filter : List String}
    {tokens : List (Token V)} (h : (t.tokenize least text filter).result = .ok tokens) (hm : tok ∈ tokens) :
    tok.Exact := by
  obtain ⟨accepted, cut, hr, -, rfl⟩ := Tokenizer.exists_run_of_ok h
  obtain ⟨pre, post, hs⟩ := List.append_of_mem (List.mem_filter.1 hm).1
  exact (hr.follows hs).stop_eq_add

/-- Tokens that are made by the constructor or by cutting a text, and may be given values. -/
inductive Made : Token V → Prop
  | new {category lexeme : String} {start line column : Nat} {tok : Token V} :
      Token.new? category lexeme start line column = .ok tok → Made tok
  | withValue {tok : Token V} (value : V) : Made tok → Made (tok.withValue value)
  | tokenize {t : Tokenizer V} {least : Level} {text : String} {filter : List String} {tokens : List (Token V)}
      {tok : Token V} : (t.tokenize least text filter).result = .ok tokens → tok ∈ tokens → Made tok

/-- **Tokens that are made are exact.** -/
theorem Made.exact (h : Made tok) : tok.Exact := by
  induction h with
  | new h => exact exact_of_new? h
  | withValue value _ ih => exact ih
  | tokenize h hm => exact exact_of_tokenize h hm

/-- **Tokens that are made end where their lexemes do**, so that their lengths are those of the lexemes, and they are
empty if the lexemes are.  Nothing of the kind holds of tokens that are read: any token whose numbers fit is. -/
theorem length_made :
    (∀ tok : Token V, Made tok → tok.Exact ∧ tok.length? = .ok tok.lexeme.length ∧
      (tok.isEmpty = true ↔ tok.lexeme = "")) ∧
    ∀ tok : Token Int, (∃ v, Json.token? Json.signed? v = some tok) ↔ tok.Fits := by
  refine ⟨fun tok hmade => ?_, Json.exists_token?_iff⟩
  have h := hmade.exact
  exact ⟨h, h.length?_eq, h.isEmpty_iff⟩

/-- A word that is cut from a text and given another value. -/
theorem length_made_word :
    let word : Token Int := ⟨"WORD", "éê", 0, 2, 0, 2, some 7⟩
    Made word ∧ word.length? = .ok 2 ∧ word.isEmpty = false := by
  intro word
  have hcut : ((Tokenizer.ofRules Tokenizer.lexicon).tokenize .info "éê é" []).result =
      .ok [⟨"WORD", "éê", 0, 2, 0, 2, some 2⟩, ⟨"BLANK", " ", 2, 3, 0, 3, none⟩,
        ⟨"KEYWORD", "é", 3, 4, 0, 4, none⟩] := rfl
  have hmade : Made word := .withValue 7 (.tokenize hcut (List.mem_cons_self ..))
  have hchars : word.lexeme.length = 2 := by decide
  obtain ⟨-, hlength, hempty⟩ := length_made.1 word hmade
  rw [hchars] at hlength
  refine ⟨hmade, hlength, ?_⟩
  rw [Bool.eq_false_iff, Ne, hempty]
  decide

/-- A text of a token that ends before it starts, and one of a token that is empty though its lexeme is not. -/
theorem read_inexact :
    let text (numbers : String) := "\x7b\"category\":\"A\",\"lexeme\":\"abc\"," ++ numbers ++
      ",\"line\":0,\"column\":0,\"value\":null\x7d"
    let read (text : String) : Option (Token Int) := (Json.parse? text).bind (Json.token? Json.signed?)
    (∃ tok, read (text "\"start\":5,\"end\":2") = some tok ∧ ¬tok.Exact ∧ tok.length? = .error .subOverflow) ∧
    ∃ tok, read (text "\"start\":0,\"end\":0") = some tok ∧ ¬tok.Exact ∧ tok.isEmpty = true ∧
      tok.lexeme ≠ "" := by
  intro text read
  refine ⟨⟨⟨"A", "abc", 5, 2, 0, 0, none⟩, ?_, ?_, ?_⟩, ⟨"A", "abc", 0, 0, 0, 0, none⟩, ?_, ?_, ?_, ?_⟩
  · decide +kernel
  · decide
  · rfl
  · decide +kernel
  · decide
  · rfl
  · decide

end Token

end Descent
