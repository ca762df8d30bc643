/-
  The calculator computes the values of the expressions of its grammar, and of nothing else.

  * `Calculator.Performs`: a production passes tokens and yields the value of their tree, or it objects to a division
    by zero where the tree has one.
  * `Calculator.Complete`: it does so for all tokens that derive a tree.  `Calculator.complete_expression`: expressions
    do.
  * `Calculator.parse_computes`: what a parse of any tokens comes to.
-/
import Descent.Proofs.Grammar.Recursion

namespace Descent.Calculator

open Production

variable {s mid after : Session Int} {p q : Production Int Int} {f : Int → Production Int Int}
  {ts us rest : List (Token Int)} {x : Except Trouble Int} {ops : List Operator}
  {R : List (Token Int) → Tree → Prop} {cats : List String} {bound : Nat}

/-! ## Performing an evaluation -/

/-- A production does to a session what an evaluation says: it passes the tokens and yields the value, or it objects
to a division by zero.  Nothing is said about results that do not fit. -/
def Performs (p : Production Int Int) (s : Session Int) (ts : List (Token Int)) : Except Trouble Int → Prop
  | .ok v => ∃ after, p.runOn s = (.ok v, after) ∧ Passes s after ts
  | .error .zeroDivisor => ∃ after, p.runOn s = (.error (after.cursor.objection "Division by zero"), after)
  | .error .overflow => True

theorem Performs.of_run (h : Performs q mid us x) (hpasses : Passes s mid ts) (hrun : p.runOn s = q.runOn mid) :
    Performs p s (ts ++ us) x := by
  rcases x with trouble | v
  · cases trouble with
    | overflow => trivial
    | zeroDivisor =>
      obtain ⟨after, hfail⟩ := h
      exact ⟨after, hrun.trans hfail⟩
  · obtain ⟨after, hok, hpasses'⟩ := h
    exact ⟨after, hrun.trans hok, hpasses.trans hpasses'⟩

/-- **Sequences perform sequences.** -/
theorem Performs.bind {k : Int → Except Trouble Int} (h : Performs p s ts x)
    (hnext : ∀ v mid, x = .ok v → Passes s mid ts → Performs (f v) mid us (k v)) :
    Performs (p >>= f) s (ts ++ us) (x >>= k) := by
  rcases x with trouble | v
  · cases trouble with
    | overflow => trivial
    | zeroDivisor =>
      obtain ⟨after, hfail⟩ := h
      exact ⟨after, runOn_bind_error hfail⟩
  · obtain ⟨mid, hok, hpasses⟩ := h
    exact (hnext v mid rfl hpasses).of_run hpasses (runOn_bind_ok hok)

theorem performs_apply (o : Operator) (a b : Int) (s : Session Int) :
    Performs (apply o.category a b) s [] (o.compute a b) := by
  rcases runOn_apply o a b s with ⟨hcompute, hrun⟩ | ⟨v, hcompute | hcompute, hrun⟩
  · rw [hcompute]
    exact ⟨s, hrun⟩
  · rw [hcompute]
    exact ⟨s, hrun, .refl s⟩
  · rw [hcompute]
    trivial

/-! ## Rules that perform -/

/-- A production performs the evaluation of each tree that fewer than a number of tokens derive, wherever they come
first and none of some categories comes after them. -/
def Complete (bound : Nat) (p : Production Int Int) (R : List (Token Int) → Tree → Prop) (cats : List String) :
    Prop :=
  ∀ ⦃s ts rest e⦄, ts.length < bound → R ts e → s.cursor.remaining = ts ++ rest → Clear cats rest →
    Performs p s ts e.eval

/-- **A loop performs what operators add** to the left of them. -/
theorem complete_loop (h : Complete bound p R cats) (hf : Loops (categories ops) p f)
    (hops : ∀ o ∈ ops, o.category ∉ cats) {a e : Tree} {v : Int} (htail : Tail ops R a ts e)
    (hlength : ts.length < bound) (hs : s.cursor.remaining = ts ++ rest) (hrest : Clear (categories ops ++ cats) rest)
    (ha : a.eval = .ok v) : Performs (f v) s ts e.eval := by
  induction htail generalizing s v with
  | nil =>
    rw [ha, hf v]
    have hclear : Clear (categories ops) s.cursor.remaining := by
      rw [hs]
      intro tok htok hmem
      exact hrest tok htok (List.mem_append_left _ hmem)
    exact ⟨s, runOn_turn_clear hclear _ _ _, .refl s⟩
  | @cons a b e o tok us vs ho htok hb htail ih =>
    simp only [List.length_cons, List.length_append] at hlength
    obtain ⟨mid, hfirst, hturn⟩ := runOn_turn hs ho htok
    have hmid : mid.cursor.remaining = us ++ (vs ++ rest) := by
      rw [← List.append_assoc]
      exact hfirst.left_eq hs
    have hbinary : (Tree.binary o a b).eval = b.eval >>= fun x => o.compute v x := by
      rw [Tree.eval, ha]
      rfl
    have heval : e.eval = b.eval >>= fun x => o.compute v x >>= fun _ => e.eval := by
      rw [← bind_assoc, ← hbinary]
      exact htail.eval_eq
    rw [heval, hf v]
    refine Performs.of_run ?_ hfirst (hturn p f v)
    refine (h (by omega) hb hmid (htail.clear hops hrest)).bind fun x next hx hnext => ?_
    refine (performs_apply o v x next).bind fun y last hy hlast => ?_
    refine ih (by omega) ?_ ?_
    · exact (hnext.trans hlast).left_eq (by simpa using hmid)
    · rw [hbinary, hx]
      exact hy

theorem Complete.operation (ops : List Operator) (h : Complete bound p R cats) (hsound : Sound p R)
    (hops : ∀ o ∈ ops, o.category ∉ cats) :
    Complete bound (operation (categories ops) p) (Chain ops R) (categories ops ++ cats) := by
  intro s ts rest e hlength hchain hs hrest
  obtain @⟨a, _, first, more, ha, htail⟩ := hchain
  rw [List.length_append] at hlength
  rw [List.append_assoc] at hs
  rw [htail.eval_eq]
  refine (h (by omega) ha hs (htail.clear hops hrest)).bind fun v mid hv hmid => ?_
  exact complete_loop h (loops_loop ops hsound) hops htail (by omega) (hmid.left_eq hs) hrest hv

theorem Complete.primary (h : Complete bound p Expression following) :
    Complete (bound + 1) (primary p) Factor [] := by
  intro s ts rest e hlength hfactor hs _
  cases hfactor with
  | number htok hvalue =>
    obtain ⟨after, hpasses, hrun⟩ := runOn_primary_number hs htok hvalue
    exact ⟨after, hrun p, hpasses⟩
  | @group opening closing ts e hopening hinner hclosing =>
    rw [List.cons_append, List.append_assoc] at hs
    simp only [List.length_cons, List.length_append] at hlength
    obtain ⟨mid, hpasses, hrun⟩ := runOn_primary_group hs hopening
    have hmid := hpasses.left_eq hs
    refine Performs.of_run ?_ hpasses (hrun p)
    rw [← bind_pure e.eval]
    refine (h (by omega) hinner hmid (clear_following hclosing rest)).bind fun v inner hv hpassed => ?_
    obtain ⟨after, hconsume, hpasses'⟩ := runOn_consume (hpassed.left_eq hmid) hclosing
    exact ⟨after, (runOn_bind_ok hconsume).trans rfl, hpasses'⟩

/-- **Expressions are performed**, whatever comes after them but operators. -/
theorem complete_expression (bound : Nat) : Complete bound expression Expression following := by
  induction bound with
  | zero =>
    intro s ts rest e hlength
    exact absurd hlength (Nat.not_lt_zero _)
  | succ bound ih =>
    rw [expression_eq]
    refine Complete.operation sums ?_ sound_expression.product (by decide)
    exact ih.primary.operation products sound_expression.primary (by decide)

/-! ## Parses -/

/-- The start rule performs an expression that all tokens make up. -/
theorem performs_start {e : Tree} (h : Expression s.cursor.remaining e) :
    Performs start s s.cursor.remaining e.eval := by
  have hexpression := complete_expression _ (Nat.lt_succ_self _) h (List.append_nil _).symm (.nil _)
  rw [← bind_pure e.eval, ← List.append_nil s.cursor.remaining]
  refine hexpression.bind fun v mid hv hpasses => ?_
  have hend : mid.cursor.atEnd = true := by
    rw [Cursor.atEnd_eq, hpasses.left_eq (List.append_nil _).symm]
    rfl
  refine ⟨mid, (runOn_bind_ok (runOn_look _ mid)).trans ?_, .refl mid⟩
  rw [hend]
  rfl

/-- **A start rule that succeeds has passed all tokens**, and they make up an expression. -/
theorem sound_start {v : Int} (h : start.runOn s = (.ok v, after)) :
    Passes s after s.cursor.remaining ∧ ∃ e, Expression s.cursor.remaining e ∧ e.Yields v := by
  obtain ⟨w, mid, hexpression, hrun⟩ := runOn_bind_cases h
  rw [runOn_bind_ok (runOn_look _ mid)] at hrun
  split at hrun
  · next hend =>
    cases hrun
    obtain ⟨ts, e, hpasses, he, hyields⟩ := sound_expression hexpression
    have hall : s.cursor.remaining = ts := by
      rw [hpasses.remaining, List.isEmpty_iff.1 ((Cursor.atEnd_eq _).symm.trans hend), List.append_nil]
    rw [hall]
    exact ⟨hpasses, e, he, hyields⟩
  · cases hrun

/-- **A parse of any tokens comes to the value of the expression that they make up.**  The recursion of the rules
ends: they are the only ones that fulfil the equations of the grammar, and expressions never nest deeper than tokens
are left.  Where no result is too large, a parse succeeds with just the value of the one tree that the tokens derive,
with all of them kept and passed and no message recorded; if they derive one with a division by zero, the parse
objects to that. -/
theorem parse_computes (tokens : Array (Token Int)) (source : Option String) (s : Session Int)
    (hrange : ∀ e, Expression tokens.toList e → e.eval ≠ .error .overflow) :
    (∃ sums products, Recursion expression term sums products) ∧
    (∀ e t sums products, Recursion e t sums products → e = expression) ∧
    (∀ (t : Session Int) depth, t.cursor.remaining.length ≤ depth →
      (nested depth).runOn t = expression.runOn t) ∧
    (∀ e e', Expression tokens.toList e → Expression tokens.toList e' → e = e') ∧
    ∃ result after, (parse start tokens source).runOn s = (result, after) ∧
      (∀ v, result = .ok v ↔ ∃ e, Expression tokens.toList e ∧ e.eval = .ok v) ∧
      (∀ e, Expression tokens.toList e → e.eval = .error .zeroDivisor →
        result = .error (after.cursor.objection "Division by zero")) ∧
      (∀ v, result = .ok v → after.cursor.tokens = tokens ∧ after.cursor.position = tokens.size ∧
        after.cursor.atEnd = true ∧ after.cursor.errors = #[]) := by
  refine ⟨⟨_, _, recursion⟩, fun e t sums products h => h.unique.1, fun t depth hdepth => ?_,
    fun e e' => Expression.unique, ?_⟩
  · have hsize : t.cursor.remaining.length ≤ t.cursor.tokens.size := by simp
    exact nested_budget depth t.cursor.tokens.size (by omega)
  rcases hrun : start.runOn (opened tokens source s) with ⟨result, after⟩
  have hperforms : ∀ e, Expression tokens.toList e →
      Performs start (opened tokens source s) tokens.toList e.eval := by
    intro e he
    exact performs_start he
  have hsound : ∀ v, result = .ok v → Passes (opened tokens source s) after tokens.toList ∧
      ∃ e, Expression tokens.toList e ∧ e.Yields v := by
    rintro v rfl
    exact sound_start hrun
  refine ⟨result, _, runOn_parse hrun, ?_, ?_, ?_⟩
  · intro v
    constructor
    · intro hok
      obtain ⟨-, e, he, hv | hv⟩ := hsound v hok
      · exact ⟨e, he, hv⟩
      · exact absurd hv (hrange e he)
    · rintro ⟨e, he, hv⟩
      have h := hperforms e he
      rw [hv] at h
      obtain ⟨after', hrun', -⟩ := h
      exact (Prod.mk.inj (hrun.symm.trans hrun')).1
  · intro e he hzero
    have h := hperforms e he
    rw [hzero] at h
    obtain ⟨after', hrun'⟩ := h
    obtain ⟨hresult, rfl⟩ := Prod.mk.inj (hrun.symm.trans hrun')
    exact hresult
  · intro v hok
    obtain ⟨hpasses, -⟩ := hsound v hok
    have hkept : after.cursor.tokens = tokens := hpasses.tokens
    have hpassed : after.cursor.position = tokens.size := by
      rw [hpasses.cursor, Cursor.position_forward, Array.length_toList]
      exact Nat.zero_add _
    have hend : after.cursor.atEnd = true := Cursor.atEnd_iff.2 (by rw [hkept, hpassed])
    exact ⟨hkept, hpassed, hend, hpasses.errors⟩

/-- The value of `9 - 2 - (1 - 8) / 2`. -/
theorem parse_computes_quotient :
    let token (category : String) (value : Option Int) : Token Int := ⟨category, "", 0, 0, 0, 0, value⟩
    let tokens := #[token "NUMBER" (some 9), token "MINUS" none, token "NUMBER" (some 2), token "MINUS" none,
      token "LPAREN" none, token "NUMBER" (some 1), token "MINUS" none, token "NUMBER" (some 8),
      token "RPAREN" none, token "SLASH" none, token "NUMBER" (some 2)]
    let s : Session Int := ⟨.new ⟨' ', false⟩, .debug, []⟩
    (∀ e, Expression tokens.toList e → e.eval ≠ .error .overflow) ∧
      ∃ after, (parse start tokens none).runOn s = (.ok 10, after) ∧ after.cursor.tokens = tokens ∧
        after.cursor.position = 11 ∧ after.cursor.atEnd = true ∧ after.cursor.errors = #[] := by
  intro token tokens s
  have number : ∀ n, Factor [token "NUMBER" (some n)] (.number n) := fun n => .number rfl rfl
  have single : ∀ n, Term [token "NUMBER" (some n)] (.number n) := fun n => .single (number n)
  have minus : ∀ {a b e us vs}, Term us b → Tail sums Term (.binary .minus a b) vs e →
      Tail sums Term a (token "MINUS" none :: (us ++ vs)) e := fun hb htail =>
    .cons (by decide : Operator.minus ∈ sums) rfl hb htail
  have hinner : Expression ([token "NUMBER" (some 1)] ++ token "MINUS" none :: ([token "NUMBER" (some 8)] ++ []))
      (.binary .minus (.number 1) (.number 8)) := .mk (single 1) (minus (single 8) .nil)
  have hslash : ∀ a, Tail products Factor a (token "SLASH" none :: ([token "NUMBER" (some 2)] ++ []))
      (.binary .slash a (.number 2)) := fun a =>
    .cons (by decide : Operator.slash ∈ products) rfl (number 2) .nil
  have hquotient := Chain.mk (Factor.group (rfl : (token "LPAREN" none).category = _) hinner
    (rfl : (token "RPAREN" none).category = _)) (hslash _)
  have htree : Expression tokens.toList (.binary .minus (.binary .minus (.number 9) (.number 2))
      (.binary .slash (.binary .minus (.number 1) (.number 8)) (.number 2))) :=
    Chain.mk (single 9) (minus (single 2) (minus hquotient .nil))
  have hrange : ∀ e, Expression tokens.toList e → e.eval ≠ .error .overflow := by
    intro e he
    obtain rfl := htree.unique he
    decide
  refine ⟨hrange, ?_⟩
  obtain ⟨-, -, -, -, result, after, hrun, hok, -, hend⟩ := parse_computes tokens none s hrange
  obtain rfl := (hok 10).2 ⟨_, htree, by decide⟩
  exact ⟨after, hrun, hend 10 rfl⟩

end Descent.Calculator
