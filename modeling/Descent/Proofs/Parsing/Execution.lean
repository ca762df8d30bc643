/-
  What productions do to the tokens that are left.

  * `Production.runOn_bind_cases`: a sequence that succeeds is two productions that succeed.
  * `Production.Passes`: nothing happens but that tokens are passed.
  * `Production.matchAny_cases` and `Production.runOn_consume_cases`: a token is passed if it is of a wanted
    category, and else the cursor stays at its place.
  * `Production.Reads`: a production that takes tokens of given categories one after the other.
    `Reads.consume`: a `consume` in front takes one more.
-/
import Descent.Proofs.Parsing.Speculation

namespace Descent.Production

variable {V α β : Type} {p : Production V α} {s after : Session V}

theorem runOn_bind_cases {f : α → Production V β} {b : β} (h : (p >>= f).runOn s = (.ok b, after)) :
    ∃ a mid, p.runOn s = (.ok a, mid) ∧ (f a).runOn mid = (.ok b, after) := by
  rcases hrun : p.runOn s with ⟨e | a, mid⟩
  · rw [runOn_bind_error hrun] at h
    cases h
  · exact ⟨a, mid, rfl, (runOn_bind_ok hrun).symm.trans h⟩

theorem runOn_bind_congr {q : Production V α} {f g : α → Production V β} (h : p.runOn s = q.runOn s)
    (hnext : ∀ a after, q.runOn s = (.ok a, after) → (f a).runOn after = (g a).runOn after) :
    (p >>= f).runOn s = (q >>= g).runOn s := by
  rcases hrun : q.runOn s with ⟨e | a, after⟩
  · rw [runOn_bind_error hrun, runOn_bind_error (h.trans hrun)]
  · rw [runOn_bind_ok hrun, runOn_bind_ok (h.trans hrun), hnext a after hrun]

theorem runOn_look (f : Cursor V → α) (s : Session V) : (look f).runOn s = (.ok (f s.cursor), s) := rfl

theorem runOn_caught {result : Except ParseError α} (h : p.runOn s = (result, after)) :
    (caught p).runOn s = (.ok result, after) := by
  rw [runOn] at h ⊢
  rw [caught, h]

/-! ## Passed tokens -/

/-- Of the session the first tokens left are passed, and nothing else happens to its cursor. -/
structure Passes (s after : Session V) (ts : List (Token V)) : Prop where
  remaining : s.cursor.remaining = ts ++ after.cursor.remaining
  cursor : after.cursor = s.cursor.forward ts.length

theorem Passes.of_forward {ts rest : List (Token V)} (h : s.cursor.remaining = ts ++ rest)
    (hcursor : after.cursor = s.cursor.forward ts.length) : Passes s after ts := by
  refine ⟨?_, hcursor⟩
  rw [hcursor, Cursor.remaining_forward, h, List.drop_left]

theorem Passes.refl (s : Session V) : Passes s s [] := ⟨rfl, rfl⟩

theorem Passes.trans {mid : Session V} {ts us : List (Token V)} (h : Passes s mid ts)
    (h' : Passes mid after us) : Passes s after (ts ++ us) where
  remaining := by rw [h.remaining, h'.remaining, List.append_assoc]
  cursor := by rw [h'.cursor, h.cursor, Cursor.forward_forward, List.length_append]

/-- What follows the passed tokens is left. -/
theorem Passes.left_eq {ts rest : List (Token V)} (h : Passes s after ts) (hs : s.cursor.remaining = ts ++ rest) :
    after.cursor.remaining = rest :=
  List.append_cancel_left (h.remaining.symm.trans hs)

theorem Passes.tokens {ts : List (Token V)} (h : Passes s after ts) : after.cursor.tokens = s.cursor.tokens := by
  rw [h.cursor, Cursor.tokens_forward]

theorem Passes.errors {ts : List (Token V)} (h : Passes s after ts) : after.cursor.errors = s.cursor.errors := by
  rw [h.cursor, Cursor.errors_forward]

/-- The tokens passed and those left are as many as before. -/
theorem Passes.length {ts : List (Token V)} (h : Passes s after ts) :
    s.cursor.remaining.length = ts.length + after.cursor.remaining.length := by
  rw [h.remaining, List.length_append]

/-- A token just passed is the one before the place. -/
theorem Passes.previous {tok : Token V} (h : Passes s after [tok]) : after.cursor.previous = some tok := by
  have hplace : (after.cursor.position : Int) + -1 = s.cursor.position := by
    rw [h.cursor, Cursor.position_forward, List.length_singleton]
    omega
  rw [Cursor.previous, Cursor.lookAround_eq hplace, h.tokens]
  show s.cursor.current = some tok
  rw [Cursor.current_eq, h.remaining]
  rfl

/-! ## One token -/

/-- **The current token is passed if it is of one of the categories**, and else nothing happens. -/
theorem matchAny_cases (categories : List String) (s : Session V) :
    (∃ tok after, tok.category ∈ categories ∧ Passes s after [tok] ∧
      (matchAny categories).runOn s = (.ok true, after)) ∨
    ((∀ tok ∈ s.cursor.remaining.head?, tok.category ∉ categories) ∧
      (matchAny categories).runOn s = (.ok false, s)) := by
  have hmatch := s.cursor.matchAny_eq categories
  have hcheck := s.cursor.checkAny_eq categories
  have hrun : (matchAny categories).runOn s = (.ok (s.cursor.matchAny categories).1,
    { s with
      cursor := (s.cursor.matchAny categories).2
      events := movement s.least s.cursor (s.cursor.matchAny categories).2 ++ s.events }) := rfl
  rw [hrun]
  split at hmatch
  · next hfound =>
    obtain ⟨tok, rest, hr⟩ := Cursor.exists_cons_of_checkAny hfound
    rw [hfound, hr] at hcheck
    rw [hmatch]
    exact .inl ⟨tok, _, by simpa using hcheck.symm, .of_forward hr rfl, rfl⟩
  · next hnot =>
    refine .inr ⟨fun tok htok => ?_, ?_⟩
    · rw [Bool.eq_false_iff.2 hnot, Option.mem_def.1 htok] at hcheck
      simpa using hcheck.symm
    · rw [hmatch, movement, if_neg (Nat.lt_irrefl _)]
      rfl

/-- **A token of the category is taken, or the message is recorded.** -/
theorem runOn_consume_cases (category message : String) (s : Session V) :
    (∃ tok after, tok.category = category ∧ Passes s after [tok] ∧
      (consume category message).runOn s = (.ok tok, after)) ∨
    ((∀ tok ∈ s.cursor.remaining.head?, tok.category ≠ category) ∧
      ∃ after, (consume category message).runOn s = (.error (s.cursor.mismatch category message), after) ∧
        after.cursor = s.cursor.addError message) := by
  have hrun : (consume category message).runOn s = ((s.cursor.consume category message).1,
    { s with
      cursor := (s.cursor.consume category message).2
      events := movement s.least s.cursor (s.cursor.consume category message).2 ++ s.events }) := rfl
  rw [hrun]
  rcases s.cursor.consume_cases category message with ⟨tok, rest, hr, hc, he⟩ | ⟨hc, he⟩ <;>
    rw [Cursor.check_eq] at hc <;> rw [he]
  · rw [hr] at hc
    exact .inl ⟨tok, _, by simpa using hc, .of_forward hr rfl, rfl⟩
  · refine .inr ⟨fun tok htok => ?_, _, rfl, rfl⟩
    rw [Option.mem_def.1 htok] at hc
    simpa using hc

theorem runOn_matchAny (categories : List String) {tok : Token V} {rest : List (Token V)}
    (h : s.cursor.remaining = tok :: rest) (htok : tok.category ∈ categories) :
    ∃ after, (matchAny categories).runOn s = (.ok true, after) ∧ Passes s after [tok] := by
  rcases matchAny_cases categories s with ⟨tok', after, -, hpasses, hrun⟩ | ⟨hnot, -⟩
  · obtain ⟨rfl, -⟩ := List.cons_eq_cons.1 (h.symm.trans hpasses.remaining)
    exact ⟨after, hrun, hpasses⟩
  · rw [h] at hnot
    exact absurd htok (hnot tok rfl)

theorem runOn_matchAny_false {categories : List String}
    (h : ∀ tok ∈ s.cursor.remaining.head?, tok.category ∉ categories) :
    (matchAny categories).runOn s = (.ok false, s) := by
  rcases matchAny_cases categories s with ⟨tok, after, htok, hpasses, -⟩ | ⟨-, hrun⟩
  · rw [hpasses.remaining] at h
    exact absurd htok (h tok rfl)
  · exact hrun

theorem runOn_consume {category message : String} {tok : Token V} {rest : List (Token V)}
    (h : s.cursor.remaining = tok :: rest) (htok : tok.category = category) :
    ∃ after, (consume category message).runOn s = (.ok tok, after) ∧ Passes s after [tok] := by
  rcases runOn_consume_cases category message s with ⟨tok', after, -, hpasses, hrun⟩ | ⟨hnot, -⟩
  · obtain ⟨rfl, -⟩ := List.cons_eq_cons.1 (h.symm.trans hpasses.remaining)
    exact ⟨after, hrun, hpasses⟩
  · rw [h] at hnot
    exact absurd htok (hnot tok rfl)

/-! ## Several tokens -/

/-- A production that takes tokens of some categories, one after the other, and makes its result of them.
Where the tokens left do not start with these, it records one message and fails with an error after which a
grammar may go on. -/
def Reads (p : Production V α) (categories : List String) (result : List (Token V) → α) : Prop :=
  ∀ s, (∃ front after, front.map (·.category) = categories ∧ Passes s after front ∧
      p.runOn s = (.ok (result front), after)) ∨
    (¬categories <+: s.cursor.remaining.map (·.category) ∧
      ∃ n message e after, n ≤ s.cursor.remaining.length ∧ e.recoverable = true ∧
        p.runOn s = (.error e, after) ∧ after.cursor = (s.cursor.forward n).addError message)

theorem Reads.pure (a : α) : Reads (pure a : Production V α) [] fun _ => a :=
  fun s => .inl ⟨[], s, rfl, .refl s, rfl⟩

theorem Reads.consume {category message : String} {f : Token V → Production V α} {categories : List String}
    {result : List (Token V) → α} (h : ∀ tok, Reads (f tok) categories fun front => result (tok :: front)) :
    Reads (Production.consume category message >>= f) (category :: categories) result := by
  intro s
  rcases runOn_consume_cases category message s with ⟨tok, mid, hcategory, hpasses, hrun⟩ | ⟨hnot, mid, hrun, hmid⟩
  · have hlength := hpasses.length
    rcases h tok mid with ⟨front, after, hmap, hfront, hnext⟩ |
      ⟨hmissing, n, text, e, after, hn, hrecoverable, hnext, hafter⟩
    · refine .inl ⟨tok :: front, after, ?_, hpasses.trans hfront, (runOn_bind_ok hrun).trans hnext⟩
      rw [List.map_cons, hcategory, hmap]
    · refine .inr ⟨fun hall => hmissing ?_, 1 + n, text, e, after, ?_, hrecoverable,
        (runOn_bind_ok hrun).trans hnext, ?_⟩
      · rw [hpasses.remaining, List.singleton_append, List.map_cons, List.cons_prefix_cons] at hall
        exact hall.2
      · rw [List.length_singleton] at hlength
        omega
      · rw [hafter, hpasses.cursor, Cursor.forward_forward, List.length_singleton]
  · refine .inr ⟨fun hall => ?_, 0, message, _, mid, Nat.zero_le _, rfl, runOn_bind_error hrun, ?_⟩
    · obtain ⟨tok, rest, hr⟩ : ∃ tok rest, s.cursor.remaining = tok :: rest := by
        refine List.exists_cons_of_ne_nil fun hnil => ?_
        rw [hnil] at hall
        exact absurd (List.prefix_nil.1 hall) (List.cons_ne_nil _ _)
      rw [hr, List.map_cons, List.cons_prefix_cons] at hall
      exact hnot tok (by rw [hr]; rfl) hall.1.symm
    · rw [hmid, Cursor.forward_zero]

/-! ## Parses -/

/-- The session in which the start rule of a parse runs. -/
def opened (tokens : Array (Token V)) (source : Option String) (s : Session V) : Session V where
  cursor := s.cursor.load tokens source
  least := s.least
  events := debugEvent s.least true "Starting syntax analysis" [("tokens", toString tokens.size)] ++ s.events

/-- All tokens of a parse are left when it begins. -/
theorem remaining_opened (tokens : Array (Token V)) (source : Option String) (s : Session V) :
    (opened tokens source s).cursor.remaining = tokens.toList := rfl

/-- **A parse is a run of the start rule**, and an event more. -/
theorem runOn_parse {start : Production V α} {tokens : Array (Token V)} {source : Option String}
    {result : Except ParseError α} (h : start.runOn (opened tokens source s) = (result, after)) :
    (parse start tokens source).runOn s =
      (result, { after with events := closing result after.cursor :: after.events }) := by
  rw [runOn, opened] at h
  rw [runOn, parse, h]

end Descent.Production
