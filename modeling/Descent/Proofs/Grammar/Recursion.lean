/-
  The recursion of the calculator ends: its rules call each other with fewer tokens left.

  * `Calculator.turn_cases` and `Calculator.primary_cases`: what a rule does before it calls another one.
  * `Calculator.Sound`: a rule that succeeds has passed tokens that derive a tree, and yields its value.
  * `Calculator.Recursion`: the equations of the rules, without budgets.  `Calculator.recursion`: the rules fulfil
    them, and `Calculator.Recursion.unique`: no other ones do.
-/
import Descent.Grammar.Calculator
import Descent.Proofs.Grammar.Arithmetic
import Descent.Proofs.Parsing.Execution

namespace Descent.Calculator

open Production

variable {s mid after : Session Int} {ops : List Operator} {R : List (Token Int) → Tree → Prop}

/-! ## Operators -/

theorem apply_eq (o : Operator) (a b : Int) : apply o.category a b =
    if o = .slash ∧ b = 0 then .object "Division by zero" else pure (wrap (o.exact a b)) := by
  cases o with
  | plus | minus | star => rfl
  | slash =>
    by_cases hb : b = 0
    · rw [if_pos ⟨rfl, hb⟩]
      exact if_pos hb
    · rw [if_neg fun h => hb h.2]
      exact if_neg hb

/-- A number that fits a signed word does not wrap around. -/
theorem wrap_of_signed {n m : Int} (h : Word.signed? n = some m) : wrap n = m := by
  obtain ⟨hlow, hhigh, rfl⟩ := Word.signed?_eq_some.1 h
  refine Int.bmod_eq_of_le_mul_two ?_ ?_ <;> rw [Word.limit] <;> rw [Word.signedLimit] at hlow hhigh <;> omega

/-- **An operator yields what it computes**, if the result fits; it objects to a division by zero. -/
theorem runOn_apply (o : Operator) (a b : Int) (s : Session Int) :
    (o.compute a b = .error .zeroDivisor ∧
      (apply o.category a b).runOn s = (.error (s.cursor.objection "Division by zero"), s)) ∨
    ∃ v, (o.compute a b = .ok v ∨ o.compute a b = .error .overflow) ∧
      (apply o.category a b).runOn s = (.ok v, s) := by
  rw [apply_eq, Operator.compute]
  split
  · exact .inl ⟨rfl, rfl⟩
  · refine .inr ⟨wrap (o.exact a b), ?_, rfl⟩
    cases h : Word.signed? (o.exact a b) with
    | none => exact .inr rfl
    | some n => exact .inl (congrArg Except.ok (wrap_of_signed h).symm)

/-! ## Rules that are opened -/

/-- One turn of the loop over operators: take one and its operand and go on, or stop. -/
def turn (operators : List String) (operand : Production Int Int) (next : Int → Production Int Int)
    (value : Int) : Production Int Int := do
  if ← .matchAny operators then
    let operator ← .look fun c => c.previous.map (·.category)
    let right ← operand
    next (← apply (operator.getD "") value right)
  else pure value

/-- What a turn does after the operator. -/
def right (o : Operator) (operand : Production Int Int) (next : Int → Production Int Int) (value : Int) :
    Production Int Int := do
  next (← apply o.category value (← operand))

theorem runOn_turn {o : Operator} {tok : Token Int} {rest : List (Token Int)}
    (h : s.cursor.remaining = tok :: rest) (ho : o ∈ ops) (htok : tok.category = o.category) :
    ∃ mid, Passes s mid [tok] ∧ ∀ operand next value,
      (turn (categories ops) operand next value).runOn s = (right o operand next value).runOn mid := by
  obtain ⟨mid, hrun, hpasses⟩ := runOn_matchAny (categories ops) h
    (htok ▸ List.mem_map_of_mem ho)
  refine ⟨mid, hpasses, fun operand next value => (runOn_bind_ok hrun).trans ?_⟩
  refine (runOn_bind_ok (runOn_look _ mid)).trans ?_
  rw [hpasses.previous, Option.map_some, htok]
  rfl

theorem runOn_turn_clear (h : Clear (categories ops) s.cursor.remaining) (operand : Production Int Int)
    (next : Int → Production Int Int) (value : Int) :
    (turn (categories ops) operand next value).runOn s = (.ok value, s) :=
  (runOn_bind_ok (runOn_matchAny_false h)).trans rfl

/-- **A turn takes an operator**, or the loop stops. -/
theorem turn_cases (ops : List Operator) (s : Session Int) :
    (∃ o ∈ ops, ∃ tok mid, tok.category = o.category ∧ Passes s mid [tok] ∧ ∀ operand next value,
      (turn (categories ops) operand next value).runOn s = (right o operand next value).runOn mid) ∨
    (Clear (categories ops) s.cursor.remaining ∧ ∀ operand next value,
      (turn (categories ops) operand next value).runOn s = (.ok value, s)) := by
  by_cases hclear : Clear (categories ops) s.cursor.remaining
  · exact .inr ⟨hclear, runOn_turn_clear hclear⟩
  · simp only [Clear, not_forall, not_not] at hclear
    obtain ⟨tok, htok, hmem⟩ := hclear
    obtain ⟨o, ho, hcategory⟩ := List.mem_map.1 hmem
    obtain ⟨rest, hr⟩ := List.head?_eq_some_iff.1 htok
    obtain ⟨mid, hpasses, hrun⟩ := runOn_turn hr ho hcategory.symm
    exact .inl ⟨o, ho, tok, mid, hcategory.symm, hpasses, hrun⟩

/-- What a factor does after an opening parenthesis. -/
def grouped (expression : Production Int Int) : Production Int Int := do
  let value ← expression
  let _ ← .consume "RPAREN" "Expected ')' after expression"
  pure value

theorem runOn_primary_number {tok : Token Int} {rest : List (Token Int)} {n : Int}
    (h : s.cursor.remaining = tok :: rest) (htok : tok.category = "NUMBER") (hvalue : tok.value = some n) :
    ∃ after, Passes s after [tok] ∧ ∀ expression, (primary expression).runOn s = (.ok n, after) := by
  obtain ⟨after, hrun, hpasses⟩ := runOn_matchAny ["NUMBER"] h (by simp [htok])
  refine ⟨after, hpasses, fun expression => (runOn_bind_ok hrun).trans ?_⟩
  refine (runOn_bind_ok (runOn_look _ after)).trans ?_
  rw [hpasses.previous, Option.bind_some, hvalue]
  rfl

theorem runOn_primary_group {tok : Token Int} {rest : List (Token Int)}
    (h : s.cursor.remaining = tok :: rest) (htok : tok.category = "LPAREN") :
    ∃ mid, Passes s mid [tok] ∧ ∀ expression, (primary expression).runOn s = (grouped expression).runOn mid := by
  have hnumber : (matchAny ["NUMBER"]).runOn s = (.ok false, s) :=
    runOn_matchAny_false (by rw [h]; simp [htok])
  obtain ⟨mid, hrun, hpasses⟩ := runOn_matchAny ["LPAREN"] h (by simp [htok])
  exact ⟨mid, hpasses, fun expression => (runOn_bind_ok hnumber).trans ((runOn_bind_ok hrun).trans rfl)⟩

/-- **A factor takes a number, or it opens a parenthesis**, or it fails whatever an expression is. -/
theorem primary_cases (s : Session Int) :
    (∃ tok n after, tok.category = "NUMBER" ∧ tok.value = some n ∧ Passes s after [tok] ∧
      ∀ expression, (primary expression).runOn s = (.ok n, after)) ∨
    (∃ tok mid, tok.category = "LPAREN" ∧ Passes s mid [tok] ∧
      ∀ expression, (primary expression).runOn s = (grouped expression).runOn mid) ∨
    ∃ e after, ∀ expression, (primary expression).runOn s = (.error e, after) := by
  rcases matchAny_cases ["NUMBER"] s with ⟨tok, after, htok, hpasses, hrun⟩ | ⟨-, hnumber⟩
  · rcases hvalue : tok.value with - | n
    · refine .inr (.inr ⟨after.cursor.objection "Number without value", after, fun expression => ?_⟩)
      refine (runOn_bind_ok hrun).trans ((runOn_bind_ok (runOn_look _ after)).trans ?_)
      rw [hpasses.previous, Option.bind_some, hvalue]
      rfl
    · have hcategory : tok.category = "NUMBER" := by simpa using htok
      obtain ⟨after, hpasses, hrun⟩ := runOn_primary_number hpasses.remaining hcategory hvalue
      exact .inl ⟨tok, n, after, hcategory, hvalue, hpasses, hrun⟩
  · rcases matchAny_cases ["LPAREN"] s with ⟨tok, after, htok, hpasses, -⟩ | ⟨-, hopening⟩
    · have hcategory : tok.category = "LPAREN" := by simpa using htok
      obtain ⟨mid, hpasses, hrun⟩ := runOn_primary_group hpasses.remaining hcategory
      exact .inr (.inl ⟨tok, mid, hcategory, hpasses, hrun⟩)
    · exact .inr (.inr ⟨_, s, fun expression =>
        (runOn_bind_ok hnumber).trans ((runOn_bind_ok hopening).trans rfl)⟩)

/-! ## What success means -/

/-- A production that, when it succeeds, has passed tokens that derive a tree and yields what the tree stands
for. -/
def Sound (p : Production Int Int) (R : List (Token Int) → Tree → Prop) : Prop :=
  ∀ ⦃s v after⦄, p.runOn s = (.ok v, after) → ∃ ts e, Passes s after ts ∧ R ts e ∧ e.Yields v

theorem sound_chain {operand : Production Int Int} (h : Sound operand R) {fuel : Nat} {a : Tree} {v w : Int}
    (ha : a.Yields v) (hrun : (chain (categories ops) operand fuel v).runOn s = (.ok w, after)) :
    ∃ ts e, Passes s after ts ∧ Tail ops R a ts e ∧ e.Yields w := by
  induction fuel generalizing s v a with
  | zero =>
    cases hrun
    exact ⟨[], a, .refl _, .nil, ha⟩
  | succ fuel ih =>
    rcases turn_cases ops s with ⟨o, ho, tok, mid, htok, hfirst, hturn⟩ | ⟨-, hturn⟩
    · obtain ⟨x, next, hoperand, hrun⟩ := runOn_bind_cases ((hturn operand _ v).symm.trans hrun)
      obtain ⟨us, b, hsecond, hb, hx⟩ := h hoperand
      rcases runOn_apply o v x next with ⟨-, happly⟩ | ⟨y, hy, happly⟩
      · rw [runOn_bind_error happly] at hrun
        cases hrun
      · rw [runOn_bind_ok happly] at hrun
        obtain ⟨vs, e, hthird, htail, he⟩ := ih (ha.binary hx hy) hrun
        exact ⟨tok :: (us ++ vs), e, (hfirst.trans hsecond).trans hthird, .cons ho htok hb htail, he⟩
    · cases (hturn operand _ v).symm.trans hrun
      exact ⟨[], a, .refl _, .nil, ha⟩

theorem Sound.operation (ops : List Operator) {operand : Production Int Int} (h : Sound operand R) :
    Sound (operation (categories ops) operand) (Chain ops R) := by
  intro s w after hrun
  obtain ⟨v, mid, hoperand, hrun⟩ := runOn_bind_cases hrun
  obtain ⟨first, a, hfirst, ha, hv⟩ := h hoperand
  rw [runOn_bind_ok (runOn_look _ mid)] at hrun
  obtain ⟨more, e, hmore, htail, he⟩ := sound_chain h hv hrun
  exact ⟨first ++ more, e, hfirst.trans hmore, .mk ha htail, he⟩

theorem Sound.primary {expression : Production Int Int} (h : Sound expression Expression) :
    Sound (primary expression) Factor := by
  intro s v after hrun
  rcases primary_cases s with ⟨tok, n, mid, htok, hvalue, hpasses, hprimary⟩ |
    ⟨tok, mid, htok, hpasses, hprimary⟩ | ⟨e, mid, hprimary⟩
  · cases (hprimary expression).symm.trans hrun
    exact ⟨[tok], .number v, hpasses, .number htok hvalue, .inl rfl⟩
  · obtain ⟨w, inner, hexpression, hrun⟩ := runOn_bind_cases ((hprimary expression).symm.trans hrun)
    obtain ⟨ts, e, hinner, he, hw⟩ := h hexpression
    obtain ⟨closing, last, hclosing, hrun⟩ := runOn_bind_cases hrun
    cases hrun
    rcases runOn_consume_cases "RPAREN" "Expected ')' after expression" inner with
      ⟨_, _, hcategory, hpassed, hconsume⟩ | ⟨-, _, hconsume, -⟩
    · cases hconsume.symm.trans hclosing
      exact ⟨tok :: (ts ++ [closing]), e, hpasses.trans (hinner.trans hpassed), .group htok he hcategory, hw⟩
    · cases hconsume.symm.trans hclosing
  · cases (hprimary expression).symm.trans hrun

theorem Sound.product {expression : Production Int Int} (h : Sound expression Expression) :
    Sound (product expression) Term := h.primary.operation products

theorem Sound.sum {expression : Production Int Int} (h : Sound expression Expression) :
    Sound (Calculator.operation ["PLUS", "MINUS"] (Calculator.product expression)) Expression :=
  h.product.operation sums

theorem sound_object {message : String} : Sound (.object message) R := by
  intro s v after hrun
  cases hrun

/-- Expressions of any depth are sound. -/
theorem sound_nested (depth : Nat) : Sound (nested depth) Expression := by
  induction depth with
  | zero => exact sound_object.sum
  | succ depth ih => exact ih.sum

/-- **An expression that succeeds has passed the tokens of one.** -/
theorem sound_expression : Sound expression Expression := by
  intro s v after hrun
  exact sound_nested _ hrun

/-! ## Fewer tokens left -/

/-- Two productions do the same wherever fewer than a number of tokens are left. -/
def AgreeBelow (bound : Nat) (p q : Production Int Int) : Prop :=
  ∀ ⦃s⦄, s.cursor.remaining.length < bound → p.runOn s = q.runOn s

variable {bound : Nat} {p q : Production Int Int} {f g : Int → Production Int Int}

theorem AgreeBelow.zero (p q : Production Int Int) : AgreeBelow 0 p q := by
  intro s hs
  exact absurd hs (Nat.not_lt_zero _)

theorem AgreeBelow.mono {bound' : Nat} (h : AgreeBelow bound' p q) (hle : bound ≤ bound') :
    AgreeBelow bound p q := by
  intro s hs
  exact h (Nat.lt_of_lt_of_le hs hle)

theorem AgreeBelow.symm (h : AgreeBelow bound p q) : AgreeBelow bound q p := by
  intro s hs
  exact (h hs).symm

theorem eq_of_agreeBelow (h : ∀ bound, AgreeBelow bound p q) : p = q := by
  funext s
  exact h (s.cursor.remaining.length + 1) (Nat.lt_succ_self _)

theorem AgreeBelow.bind (h : AgreeBelow bound p q) (hq : Sound q R)
    (hnext : ∀ value, AgreeBelow bound (f value) (g value)) : AgreeBelow bound (p >>= f) (q >>= g) := by
  intro s hs
  refine runOn_bind_congr (h hs) fun value after hrun => ?_
  obtain ⟨ts, -, hpasses, -, -⟩ := hq hrun
  have hlength := hpasses.length
  exact hnext value (by omega)

/-- **A factor asks for expressions with fewer tokens left** than it has itself. -/
theorem AgreeBelow.primary (h : AgreeBelow bound p q) : AgreeBelow (bound + 1) (primary p) (primary q) := by
  intro s hs
  rcases primary_cases s with ⟨tok, n, after, -, -, -, hprimary⟩ | ⟨tok, mid, -, hpasses, hprimary⟩ |
    ⟨e, after, hprimary⟩
  · rw [hprimary, hprimary]
  · rw [hprimary, hprimary]
    have hlength := hpasses.length
    rw [List.length_singleton] at hlength
    exact runOn_bind_congr (h (by omega)) fun _ _ _ => rfl
  · rw [hprimary, hprimary]

/-- **A turn of a loop goes on with fewer tokens left.** -/
theorem AgreeBelow.turn (ops : List Operator) (h : AgreeBelow bound p q) (hq : Sound q R)
    (hnext : ∀ value, AgreeBelow bound (f value) (g value)) (value : Int) :
    AgreeBelow (bound + 1) (turn (categories ops) p f value) (turn (categories ops) q g value) := by
  intro s hs
  rcases turn_cases ops s with ⟨o, -, tok, mid, -, hfirst, hturn⟩ | ⟨-, hturn⟩
  · rw [hturn, hturn]
    have hlength := hfirst.length
    rw [List.length_singleton] at hlength
    refine h.bind hq (fun x next hleft => ?_) (by omega)
    refine runOn_bind_congr rfl fun y last happly => ?_
    obtain ⟨-, hrefused⟩ | ⟨z, -, hdone⟩ := runOn_apply o value x next
    · cases hrefused.symm.trans happly
    · cases hdone.symm.trans happly
      exact hnext y hleft
  · rw [hturn, hturn]

/-! ## Loops -/

/-- The equation of the loop over operators, for each value that it has come to. -/
def Loops (operators : List String) (operand : Production Int Int) (f : Int → Production Int Int) : Prop :=
  ∀ value, f value = turn operators operand f value

/-- **The equation has one solution**: loops over operands that agree do agree. -/
theorem Loops.agree (ops : List Operator) (hf : Loops (categories ops) p f) (hg : Loops (categories ops) q g)
    (h : AgreeBelow bound p q) (hq : Sound q R) (value : Int) : AgreeBelow bound (f value) (g value) := by
  induction bound generalizing value with
  | zero => exact .zero _ _
  | succ bound ih =>
    have hless := h.mono (Nat.le_succ bound)
    rw [hf value, hg value]
    exact hless.turn ops hq (ih hless) value

/-- **The budget of a loop makes no difference**, if there is a round for each token that is left. -/
theorem chain_budget (h : Sound p R) (fuel fuel' : Nat) (value : Int) :
    AgreeBelow (min fuel fuel' + 1) (chain (categories ops) p fuel value)
      (chain (categories ops) p fuel' value) := by
  have hstop : ∀ fuel value, AgreeBelow 1 (chain (categories ops) p fuel value) (pure value) := by
    intro fuel value s hs
    have hnil : s.cursor.remaining = [] := List.length_eq_zero_iff.1 (Nat.lt_one_iff.1 hs)
    cases fuel with
    | zero => rfl
    | succ fuel => exact runOn_turn_clear (by rw [hnil]; exact .nil _) _ _ _
  induction fuel generalizing fuel' value with
  | zero =>
    rw [Nat.zero_min]
    exact (hstop fuel' value).symm
  | succ fuel ih =>
    cases fuel' with
    | zero => exact hstop _ value
    | succ fuel' =>
      rw [Nat.succ_min_succ]
      exact AgreeBelow.turn ops (fun _ _ => rfl) h (ih fuel') value

/-- The loop over operators with a round for each token. -/
def loop (operators : List String) (operand : Production Int Int) (value : Int) : Production Int Int := do
  chain operators operand (← .look fun c => c.tokens.size) value

/-- **The loop fulfils its equation.** -/
theorem loops_loop (ops : List Operator) (h : Sound p R) :
    Loops (categories ops) p (loop (categories ops) p) := by
  intro value
  funext s
  have hsize : s.cursor.remaining.length ≤ s.cursor.tokens.size := by simp
  have hless : ∀ value, AgreeBelow s.cursor.remaining.length (chain (categories ops) p s.cursor.tokens.size value)
      (loop (categories ops) p value) := by
    intro value t ht
    exact chain_budget h _ _ value (by simp at ht ⊢; omega)
  calc (loop (categories ops) p value).runOn s
      = (chain (categories ops) p s.cursor.tokens.size value).runOn s := rfl
    _ = (chain (categories ops) p (s.cursor.tokens.size + 1) value).runOn s :=
        chain_budget h _ _ value (by omega)
    _ = (turn (categories ops) p (chain (categories ops) p s.cursor.tokens.size) value).runOn s := rfl
    _ = (turn (categories ops) p (loop (categories ops) p) value).runOn s :=
        AgreeBelow.turn ops (fun _ _ => rfl) h hless value (Nat.lt_succ_self _)

/-- Operands that agree do so with what operators add to them. -/
theorem AgreeBelow.operation (ops : List Operator) (h : AgreeBelow bound p q) (hp : Sound p R) (hq : Sound q R) :
    AgreeBelow bound (operation (categories ops) p) (operation (categories ops) q) :=
  h.bind hq (Loops.agree ops (loops_loop ops hp) (loops_loop ops hq) h hq)

/-! ## Expressions -/

theorem AgreeBelow.sum (h : AgreeBelow bound p q) (hp : Sound p Expression) (hq : Sound q Expression) :
    AgreeBelow (bound + 1) (Calculator.operation ["PLUS", "MINUS"] (product p))
      (Calculator.operation ["PLUS", "MINUS"] (product q)) :=
  (h.primary.operation products hp.primary hq.primary).operation sums hp.product hq.product

/-- **The depth of expressions makes no difference**, if there is a level for each token that is left. -/
theorem nested_budget (depth depth' : Nat) :
    AgreeBelow (min depth depth' + 1) (nested depth) (nested depth') := by
  induction depth generalizing depth' with
  | zero =>
    cases depth' with
    | zero => exact fun _ _ => rfl
    | succ depth' =>
      rw [Nat.zero_min]
      exact (AgreeBelow.zero _ _).sum sound_object (sound_nested depth')
  | succ depth ih =>
    cases depth' with
    | zero => exact (AgreeBelow.zero _ _).sum (sound_nested depth) sound_object
    | succ depth' =>
      rw [Nat.succ_min_succ]
      exact (ih depth').sum (sound_nested depth) (sound_nested depth')

/-- **An expression is a sum of terms**, at whatever depth. -/
theorem expression_eq : expression = operation ["PLUS", "MINUS"] term := by
  funext s
  have hsize : s.cursor.remaining.length ≤ s.cursor.tokens.size := by simp
  have hless : AgreeBelow s.cursor.remaining.length (nested s.cursor.tokens.size) expression := by
    intro t ht
    exact nested_budget _ t.cursor.tokens.size (by simp at ht ⊢; omega)
  calc expression.runOn s
      = (nested s.cursor.tokens.size).runOn s := rfl
    _ = (nested (s.cursor.tokens.size + 1)).runOn s := nested_budget _ _ (by omega)
    _ = (operation ["PLUS", "MINUS"] (product (nested s.cursor.tokens.size))).runOn s := rfl
    _ = (operation ["PLUS", "MINUS"] term).runOn s :=
        hless.sum (sound_nested _) sound_expression (Nat.lt_succ_self _)

/-- The rules of the grammar as equations, where loops may turn as often and expressions may nest as deep as they
like. -/
structure Recursion (expression term : Production Int Int) (sums products : Int → Production Int Int) : Prop where
  expression_eq : expression = term >>= sums
  sums_eq : Loops ["PLUS", "MINUS"] term sums
  term_eq : term = primary expression >>= products
  products_eq : Loops ["STAR", "SLASH"] (primary expression) products

/-- **The rules fulfil their equations.** -/
theorem recursion : Recursion expression term (loop ["PLUS", "MINUS"] term) (loop ["STAR", "SLASH"] factor) where
  expression_eq := expression_eq
  sums_eq := loops_loop sums sound_expression.product
  term_eq := rfl
  products_eq := loops_loop products sound_expression.primary

/-- **No other rules do**: what a rule comes to is determined by rules with fewer tokens left. -/
theorem Recursion.unique {e t : Production Int Int} (h : Recursion e t f g) :
    e = expression ∧ t = term ∧ f = loop ["PLUS", "MINUS"] term ∧ g = loop ["STAR", "SLASH"] factor := by
  have hfactor := sound_expression.primary
  have hterm := sound_expression.product
  have hproducts : ∀ {bound}, AgreeBelow bound (primary e) factor →
      ∀ value, AgreeBelow bound (g value) (loop ["STAR", "SLASH"] factor value) := fun hless value =>
    Loops.agree products h.products_eq recursion.products_eq hless hfactor value
  have hterms : ∀ {bound}, AgreeBelow bound (primary e) factor → AgreeBelow bound t term := fun hless => by
    rw [h.term_eq]
    exact hless.bind hfactor (hproducts hless)
  have hsums : ∀ {bound}, AgreeBelow bound (primary e) factor →
      ∀ value, AgreeBelow bound (f value) (loop ["PLUS", "MINUS"] term value) := fun hless value =>
    Loops.agree sums h.sums_eq recursion.sums_eq (hterms hless) hterm value
  have hexpression : ∀ bound, AgreeBelow bound e expression := by
    intro bound
    induction bound with
    | zero => exact .zero _ _
    | succ bound ih =>
      rw [h.expression_eq, recursion.expression_eq]
      exact (hterms ih.primary).bind hterm (hsums ih.primary)
  have hall : ∀ bound, AgreeBelow bound (primary e) factor := fun bound =>
    (hexpression bound).primary.mono (Nat.le_succ bound)
  refine ⟨eq_of_agreeBelow hexpression, eq_of_agreeBelow fun bound => hterms (hall bound), ?_, ?_⟩
  · funext value
    exact eq_of_agreeBelow fun bound => hsums (hall bound) value
  · funext value
    exact eq_of_agreeBelow fun bound => hproducts (hall bound) value

end Descent.Calculator
