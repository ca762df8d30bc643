/-
  The tokens of a text cover it.

  * `Token.Follows passed tok`: `tok` stands right after the characters `passed` and says so.
  * `Tokenizer.Reaches.follows`: every accepted token follows the ones accepted before it, and
    `Tokenizer.exists_passed_of_ok`: so it ends at a place of the text.
  * `Tokenizer.tokenize_covers`: without a filter the lexemes make up the text, and every token knows
    its place in it.
-/
import Descent.Proofs.Lexical.Run

namespace Descent

variable {V : Type}

namespace Token

/-- A token that stands right after the characters `passed`. -/
structure Follows (passed : List Char) (tok : Token V) : Prop where
  nonempty : tok.lexeme ≠ ""
  start_eq : tok.start = passed.length
  place : tok.endPosition = Position.after (passed ++ tok.lexeme.toList)

variable {passed : List Char} {tok : Token V}

theorem Follows.stop_eq (h : tok.Follows passed) : tok.stop = (passed ++ tok.lexeme.toList).length :=
  congrArg Position.offset h.place

theorem Follows.stop_eq_add (h : tok.Follows passed) : tok.stop = tok.start + tok.lexeme.length := by
  rw [h.stop_eq, List.length_append, h.start_eq, String.length_toList]

theorem chars_split {tokens pre post : List (Token V)} (h : tokens = pre ++ tok :: post) :
    chars tokens = (chars pre ++ tok.lexeme.toList) ++ chars post := by
  rw [h, ← chars_concat, ← chars_append, List.append_assoc]; rfl

/-- The characters up to the end of a token. -/
theorem Follows.take_stop {tokens pre post : List (Token V)} (h : tok.Follows (chars pre))
    (hs : tokens = pre ++ tok :: post) :
    (chars tokens).take tok.stop = chars pre ++ tok.lexeme.toList := by
  rw [chars_split hs, h.stop_eq, List.take_left]

theorem join_lexemes (tokens : List (Token V)) :
    String.join (tokens.map (·.lexeme)) = String.ofList (chars tokens) := by
  induction tokens with
  | nil => rfl
  | cons tok tokens ih =>
    rw [List.map_cons, String.join_cons, ih, chars, chars, List.flatMap_cons, String.ofList_append,
      String.ofList_toList]

end Token

namespace Tokenizer

variable {t : Tokenizer V} {least : Level} {text : String} {filter : List String}
  {accepted : List (Token V)} {cut : Cut V}

/-- One turn makes a token that follows what is passed. -/
theorem follows_token {scan : Scan} {choice : Choice V} {passed : List Char}
    (hs : scan.At text passed) (hc : choice.lexeme ≠ []) : (token scan choice).Follows passed where
  nonempty := by
    intro he
    have := toList_lexeme_token scan choice
    rw [he] at this
    exact hc this.symm
  start_eq := by
    show scan.position.offset = _
    rw [hs.position, Position.offset_after]
  place := by
    rw [toList_lexeme_token, ← Position.after_advanceBy, ← hs.position]; rfl

/-- The byte offset where the token of a place starts is that of the place. -/
theorem offsetOf_start_token {scan : Scan} {passed : List Char} (hs : scan.At text passed)
    (choice : Choice V) : Utf8.offsetOf text (token scan choice).start = scan.byteOffset := by
  show Utf8.offsetOf text scan.position.offset = _
  rw [hs.position, Position.offset_after, Utf8.offsetOf_length hs.split, hs.byteOffset]

/-- **Every accepted token follows the ones accepted before it.** -/
theorem Reaches.follows (h : t.Reaches least text filter accepted cut) {pre post : List (Token V)}
    {tok : Token V} (he : accepted = pre ++ tok :: post) : tok.Follows (Token.chars pre) := by
  induction h generalizing post with
  | start => simp at he
  | @turn accepted cut choice ambiguous hr _ _ ht ih =>
    rcases List.eq_nil_or_concat post with rfl | ⟨post, last, rfl⟩
    · obtain ⟨rfl, hl⟩ := List.append_inj' he rfl
      obtain rfl := List.singleton_inj.1 hl
      exact follows_token hr.at ((turn_eq_accept hr.at).1 ht).2.1
    · rw [List.concat_eq_append, ← List.cons_append, ← List.append_assoc] at he
      exact ih (List.append_inj' he rfl).1

theorem Reaches.follows_getElem? (h : t.Reaches least text filter accepted cut) {i : Nat} {tok : Token V}
    (hi : accepted[i]? = some tok) : tok.Follows (Token.chars (accepted.take i)) := by
  obtain ⟨hlt, rfl⟩ := List.getElem?_eq_some_iff.1 hi
  exact h.follows (by rw [← List.drop_eq_getElem_cons hlt, List.take_append_drop])

/-- **The tokens of a text end at places of it.** -/
theorem exists_passed_of_ok {tokens : List (Token V)} {tok : Token V}
    (h : (t.tokenize least text filter).result = .ok tokens) (hm : tok ∈ tokens) :
    ∃ passed rest, text.toList = passed ++ rest ∧ tok.endPosition = Position.after passed := by
  obtain ⟨accepted, cut, hr, -, rfl⟩ := exists_run_of_ok h
  obtain ⟨pre, post, hs⟩ := List.append_of_mem (List.mem_filter.1 hm).1
  refine ⟨Token.chars pre ++ tok.lexeme.toList, Token.chars post ++ cut.scan.rest, ?_, (hr.follows hs).place⟩
  rw [hr.at.split, Token.chars_split hs, List.append_assoc]

/-- **The tokens of a text cover it.**  Their lexemes are not empty and make up the text; each token
starts where the one before it ends; and line and column are those of the place after the lexeme. -/
theorem tokenize_covers (t : Tokenizer V) (least : Level) (text : String) (tokens : List (Token V))
    (h : (t.tokenize least text []).result = .ok tokens) :
    (∀ tok ∈ tokens, tok.lexeme ≠ "") ∧
    String.join (tokens.map (·.lexeme)) = text ∧
    (∀ tok, tokens.head? = some tok → tok.start = 0) ∧
    (∀ i a b, tokens[i]? = some a → tokens[i + 1]? = some b → b.start = a.stop) ∧
    (∀ tok, tokens.getLast? = some tok → tok.stop = text.length) ∧
    (∀ tok ∈ tokens, tok.stop = tok.start + tok.lexeme.length) ∧
    (∀ tok ∈ tokens, tok.line = (text.toList.take tok.stop).count '\n' ∧
      tok.column = ((text.toList.take tok.stop).reverse.takeWhile (· ≠ '\n')).length) := by
  obtain ⟨accepted, cut, hr, hrest, htokens⟩ := exists_run_of_ok h
  obtain rfl : tokens = accepted := by rw [htokens, filter_nil]
  have htext : text.toList = Token.chars tokens := by rw [hr.at.split, hrest, List.append_nil]
  refine ⟨fun tok hm => ?_, ?_, fun tok hm => ?_, fun i a b ha hb => ?_, fun tok hm => ?_,
    fun tok hm => ?_, fun tok hm => ?_⟩
  · obtain ⟨pre, post, hs⟩ := List.append_of_mem hm
    exact (hr.follows hs).nonempty
  · rw [Token.join_lexemes, ← htext, String.ofList_toList]
  · rw [List.head?_eq_getElem?] at hm
    exact (hr.follows_getElem? hm).start_eq
  · have htake : tokens.take (i + 1) = tokens.take i ++ [a] := by
      rw [List.take_add_one, ha]; rfl
    rw [(hr.follows_getElem? hb).start_eq, (hr.follows_getElem? ha).stop_eq, htake,
      Token.chars_concat]
  · obtain ⟨pre, hs⟩ := List.getLast?_eq_some_iff.1 hm
    rw [(hr.follows hs).stop_eq, ← Token.chars_concat, ← hs, ← htext, String.length_toList]
  · obtain ⟨pre, post, hs⟩ := List.append_of_mem hm
    exact (hr.follows hs).stop_eq_add
  · obtain ⟨pre, post, hs⟩ := List.append_of_mem hm
    have hf := hr.follows hs
    rw [htext, hf.take_stop hs]
    exact ⟨congrArg Position.line hf.place, congrArg Position.column hf.place⟩

/-- Two words, with a line feed inside the blank between them. -/
theorem tokenize_covers_words :
    ((ofRules lexicon).tokenize .info "éê\n é" []).result =
      .ok [⟨"WORD", "éê", 0, 2, 0, 2, some 2⟩, ⟨"BLANK", "\n ", 2, 4, 1, 1, none⟩,
        ⟨"KEYWORD", "é", 4, 5, 1, 2, none⟩] ∧
    String.join ["éê", "\n ", "é"] = "éê\n é" :=
  ⟨rfl, (tokenize_covers (ofRules lexicon) .info "éê\n é" _ rfl).2.1⟩

end Tokenizer

end Descent
