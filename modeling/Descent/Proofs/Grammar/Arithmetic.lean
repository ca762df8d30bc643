/-
  Arithmetic expressions: which tokens make one up, and what it is worth.

  * `Calculator.Chain`: operands with operators of one line between them, which bind to the left.
    `Calculator.Expression`, `Calculator.Term` and `Calculator.Factor` are the rules of the grammar, with the trees
    that they derive.
  * `Calculator.Tree.eval`: the value of a tree, or what keeps it from having one.
  * `Calculator.Expression.unique`: tokens are derived in one way at most.
-/
import Descent.Lexical.Token
import Descent.Text.Word

namespace Descent.Calculator

/-! ## Values -/

/-- The operators. -/
inductive Operator where
  | plus
  | minus
  | star
  | slash
deriving DecidableEq, Repr

/-- The category of the tokens that stand for an operator. -/
def Operator.category : Operator → String
  | plus => "PLUS"
  | minus => "MINUS"
  | star => "STAR"
  | slash => "SLASH"

/-- The operators between the terms of an expression. -/
def sums : List Operator := [.plus, .minus]

/-- The operators between the factors of a term. -/
def products : List Operator := [.star, .slash]

/-- An expression without its parentheses. -/
inductive Tree where
  | number (n : Int)
  | binary (operator : Operator) (left right : Tree)
deriving DecidableEq, Repr

/-- Why an expression has no value. -/
inductive Trouble where
  /-- A result does not fit a signed word. -/
  | overflow
  /-- A number is to be divided by zero. -/
  | zeroDivisor
deriving DecidableEq, Repr

/-- The result of an operator over all whole numbers; quotients are rounded toward zero. -/
def Operator.exact : Operator → Int → Int → Int
  | plus, a, b => a + b
  | minus, a, b => a - b
  | star, a, b => a * b
  | slash, a, b => a.tdiv b

/-- The result of an operator over signed words. -/
def Operator.compute (o : Operator) (a b : Int) : Except Trouble Int :=
  if o = .slash ∧ b = 0 then .error .zeroDivisor
  else
    match Word.signed? (o.exact a b) with
    | some n => .ok n
    | none => .error .overflow

/-- The value of an expression: that of the left side first, that of the right side, and the result of both. -/
def Tree.eval : Tree → Except Trouble Int
  | number n => .ok n
  | binary o left right => do o.compute (← left.eval) (← right.eval)

/-! ## Derivations -/

variable {ops : List Operator} {R : List (Token Int) → Tree → Prop}

/-- What operators add to the left of them: `(operator operand)*`, where each operator takes all before it as its
left side. -/
inductive Tail (ops : List Operator) (R : List (Token Int) → Tree → Prop) :
    Tree → List (Token Int) → Tree → Prop
  | nil {a : Tree} : Tail ops R a [] a
  | cons {a b e : Tree} {o : Operator} {tok : Token Int} {us vs : List (Token Int)} :
      o ∈ ops → tok.category = o.category → R us b → Tail ops R (.binary o a b) vs e →
        Tail ops R a (tok :: (us ++ vs)) e

/-- `operand (operator operand)*`. -/
inductive Chain (ops : List Operator) (R : List (Token Int) → Tree → Prop) : List (Token Int) → Tree → Prop
  | mk {a e : Tree} {first more : List (Token Int)} :
      R first a → Tail ops R a more e → Chain ops R (first ++ more) e

/-- An operand alone is a chain. -/
theorem Chain.single {a : Tree} {ts : List (Token Int)} (h : R ts a) : Chain ops R ts a := by
  have hchain : Chain ops R (ts ++ []) a := .mk h .nil
  rwa [List.append_nil] at hchain

/-- `NUMBER | LPAREN expression RPAREN`. -/
inductive Factor : List (Token Int) → Tree → Prop
  | number {tok : Token Int} {n : Int} :
      tok.category = "NUMBER" → tok.value = some n → Factor [tok] (.number n)
  | group {opening closing : Token Int} {ts : List (Token Int)} {e : Tree} :
      opening.category = "LPAREN" → Chain sums (Chain products Factor) ts e → closing.category = "RPAREN" →
        Factor (opening :: (ts ++ [closing])) e

/-- `factor ((STAR | SLASH) factor)*`. -/
def Term : List (Token Int) → Tree → Prop := Chain products Factor

/-- `term ((PLUS | MINUS) term)*`. -/
def Expression : List (Token Int) → Tree → Prop := Chain sums Term

/-- A number that an expression stands for, if all results fit. -/
def Tree.Yields (e : Tree) (v : Int) : Prop := e.eval = .ok v ∨ e.eval = .error .overflow

/-- An operator joins what its sides stand for. -/
theorem Tree.Yields.binary {a b : Tree} {v w x : Int} {o : Operator} (ha : a.Yields v) (hb : b.Yields w)
    (hcompute : o.compute v w = .ok x ∨ o.compute v w = .error .overflow) :
    (Tree.binary o a b).Yields x := by
  rw [Yields, eval]
  rcases ha with ha | ha
  · rcases hb with hb | hb
    · rw [ha, hb]
      exact hcompute
    · rw [ha, hb]
      exact .inr rfl
  · rw [ha]
    exact .inr rfl

/-- Trouble on the left side of operators is trouble of the whole. -/
theorem Tail.eval_eq {a e : Tree} {ts : List (Token Int)} (h : Tail ops R a ts e) :
    e.eval = a.eval >>= fun _ => e.eval := by
  induction h with
  | @nil a => cases a.eval <;> rfl
  | @cons a b e o _ _ _ _ _ _ _ ih =>
    cases ha : a.eval with
    | ok v => rfl
    | error trouble => rw [ih, Tree.eval, ha]; rfl

/-! ## Uniqueness -/

/-- No token of the categories comes first. -/
def Clear (categories : List String) (rest : List (Token Int)) : Prop :=
  ∀ tok ∈ rest.head?, tok.category ∉ categories

theorem Operator.category_injective {o o' : Operator} (h : o.category = o'.category) : o = o' := by
  revert h
  cases o <;> cases o' <;> decide

/-- The categories of operators. -/
def categories (ops : List Operator) : List String := ops.map Operator.category

theorem Clear.nil (cats : List String) : Clear cats [] := by
  intro tok htok
  cases htok

theorem clear_cons {cats : List String} {tok : Token Int} {rest : List (Token Int)} :
    Clear cats (tok :: rest) ↔ tok.category ∉ cats := by
  simp [Clear]

/-- What may follow a chain may follow an operand of it, and so may the operators of the chain. -/
theorem Tail.clear {cats : List String} (hops : ∀ o ∈ ops, o.category ∉ cats) {a e : Tree}
    {more rest : List (Token Int)} (h : Tail ops R a more e) (hrest : Clear (categories ops ++ cats) rest) :
    Clear cats (more ++ rest) := by
  cases h with
  | nil =>
    intro tok htok hmem
    exact hrest tok htok (List.mem_append_right _ hmem)
  | cons ho htok _ _ =>
    rw [List.cons_append, clear_cons, htok]
    exact hops _ ho

/-- Where fewer than a number of tokens are derived, and none of some categories may follow them, they are found
in one way. -/
def Determined (bound : Nat) (R : List (Token Int) → Tree → Prop) (cats : List String) : Prop :=
  ∀ ⦃ts us rest rest' : List (Token Int)⦄ ⦃a b : Tree⦄, ts.length < bound → R ts a → R us b →
    ts ++ rest = us ++ rest' → Clear cats rest → Clear cats rest' → ts = us ∧ a = b

variable {cats : List String} {bound : Nat}

theorem Tail.determined (hR : Determined bound R cats) (hops : ∀ o ∈ ops, o.category ∉ cats)
    {a e e' : Tree} {ts us rest rest' : List (Token Int)} (h : Tail ops R a ts e) (hlength : ts.length < bound)
    (h' : Tail ops R a us e') (heq : ts ++ rest = us ++ rest') (hrest : Clear (categories ops ++ cats) rest)
    (hrest' : Clear (categories ops ++ cats) rest') : ts = us ∧ e = e' := by
  -- an operator comes next in both, or in none: after the chain there is none
  have hnone : ∀ {o : Operator} {tok : Token Int} {left : List (Token Int)}, o ∈ ops →
      tok.category = o.category → ¬Clear (categories ops ++ cats) (tok :: left) := by
    intro o tok left ho htok hclear
    rw [clear_cons, htok] at hclear
    exact hclear (List.mem_append_left _ (List.mem_map_of_mem ho))
  induction h generalizing us with
  | nil =>
    cases h' with
    | nil => exact ⟨rfl, rfl⟩
    | cons ho htok _ _ =>
      rw [List.nil_append] at heq
      exact absurd (heq ▸ hrest) (hnone ho htok)
  | @cons a b e o tok front more ho htok hoperand htail ih =>
    cases h' with
    | nil =>
      rw [List.nil_append] at heq
      exact absurd (heq ▸ hrest') (hnone ho htok)
    | @cons _ b' _ o' tok' front' more' ho' htok' hoperand' htail' =>
      simp only [List.cons_append, List.cons.injEq, List.append_assoc] at heq
      obtain ⟨rfl, heq⟩ := heq
      obtain rfl := Operator.category_injective (htok.symm.trans htok')
      simp only [List.length_cons, List.length_append] at hlength
      obtain ⟨rfl, rfl⟩ := hR (by omega) hoperand hoperand' heq (htail.clear hops hrest)
        (htail'.clear hops hrest')
      obtain ⟨rfl, rfl⟩ := ih (by omega) htail' (List.append_cancel_left heq)
      exact ⟨rfl, rfl⟩

theorem Chain.determined (hR : Determined bound R cats) (hops : ∀ o ∈ ops, o.category ∉ cats) :
    Determined bound (Chain ops R) (categories ops ++ cats) := by
  intro ts us rest rest' e e' hlength h h' heq hrest hrest'
  obtain @⟨a, _, first, more, hfirst, hmore⟩ := h
  obtain @⟨a', _, first', more', hfirst', hmore'⟩ := h'
  rw [List.length_append] at hlength
  rw [List.append_assoc, List.append_assoc] at heq
  obtain ⟨rfl, rfl⟩ := hR (by omega) hfirst hfirst' heq (hmore.clear hops hrest) (hmore'.clear hops hrest')
  obtain ⟨rfl, rfl⟩ := hmore.determined hR hops (by omega) hmore' (List.append_cancel_left heq) hrest hrest'
  exact ⟨rfl, rfl⟩

/-- The categories that may not follow an expression: all operators. -/
def following : List String := categories sums ++ (categories products ++ [])

theorem Expression.determined (h : Determined bound Factor []) : Determined bound Expression following :=
  Chain.determined (Chain.determined h (by decide)) (by decide)

/-- A parenthesis may follow an expression. -/
theorem clear_following {closing : Token Int} (h : closing.category = "RPAREN") (rest : List (Token Int)) :
    Clear following (closing :: rest) := by
  rw [clear_cons, h]
  decide

theorem Factor.determined (bound : Nat) : Determined bound Factor [] := by
  induction bound with
  | zero =>
    intro ts us rest rest' a b hlength
    exact absurd hlength (Nat.not_lt_zero _)
  | succ bound ih =>
    intro ts us rest rest' a b hlength h h' heq _ _
    cases h with
    | number hcategory hvalue =>
      cases h' with
      | number hcategory' hvalue' =>
        obtain ⟨rfl, -⟩ := List.cons_eq_cons.1 heq
        obtain rfl := Option.some.inj (hvalue.symm.trans hvalue')
        exact ⟨rfl, rfl⟩
      | group hopening' _ _ =>
        obtain ⟨rfl, -⟩ := List.cons_eq_cons.1 heq
        exact absurd (hcategory.symm.trans hopening') (by decide)
    | @group opening closing inner _ hopening hinner hclosing =>
      cases h' with
      | number hcategory' hvalue' =>
        obtain ⟨rfl, -⟩ := List.cons_eq_cons.1 heq
        exact absurd (hcategory'.symm.trans hopening) (by decide)
      | @group opening' closing' inner' _ hopening' hinner' hclosing' =>
        simp only [List.cons_append, List.cons.injEq, List.append_assoc, List.nil_append] at heq
        obtain ⟨rfl, heq⟩ := heq
        simp only [List.length_cons, List.length_append] at hlength
        obtain ⟨rfl, rfl⟩ := Expression.determined ih (by omega) hinner hinner' heq
          (clear_following hclosing rest) (clear_following hclosing' rest')
        obtain ⟨rfl, -⟩ := List.cons_eq_cons.1 (List.append_cancel_left heq)
        exact ⟨rfl, rfl⟩

/-- **Tokens make up an expression in one way at most.** -/
theorem Expression.unique {ts : List (Token Int)} {e e' : Tree} (h : Expression ts e) (h' : Expression ts e') :
    e = e' :=
  (Expression.determined (Factor.determined (ts.length + 1)) (Nat.lt_succ_self _) h h' rfl (.nil _) (.nil _)).2

end Descent.Calculator
