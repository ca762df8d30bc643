/-
  An attempt that fails leaves no trace on the cursor.

  * `Cursor.GrowsTo` is what all operations of a rule have in common: they keep the tokens and the text, and
    the diagnostics there were stay in front of those that are added.
  * `Production.Built` are the productions made of the cursor's operations, of attempts and of what combines
    them.  `Production.Built.growsTo`: these only let a cursor grow.
  * `Production.attempt_restores`: so going back to a place and cutting the diagnostics to their number
    gives back the cursor of before.
-/
import Descent.Parsing.Production
import Descent.Proofs.Parsing.Zipper

namespace Descent

variable {V α β : Type}

/-! ## What operations keep -/

namespace Cursor

variable {c d e : Cursor V}

/-- A cursor and what became of it: its place may be another, and diagnostics may have been added. -/
structure GrowsTo (c d : Cursor V) : Prop where
  tokens : d.tokens = c.tokens
  source : d.source = c.source
  preferences : d.preferences = c.preferences
  errors : c.errors.toList <+: d.errors.toList

namespace GrowsTo

theorem refl (c : Cursor V) : c.GrowsTo c := ⟨rfl, rfl, rfl, List.prefix_rfl⟩

theorem trans (h : c.GrowsTo d) (h' : d.GrowsTo e) : c.GrowsTo e :=
  ⟨h'.tokens.trans h.tokens, h'.source.trans h.source, h'.preferences.trans h.preferences,
    h.errors.trans h'.errors⟩

theorem forward (c : Cursor V) (n : Nat) : c.GrowsTo (c.forward n) := ⟨rfl, rfl, rfl, List.prefix_rfl⟩

theorem restore (c : Cursor V) (position : Nat) : c.GrowsTo (c.restore position) :=
  ⟨rfl, rfl, rfl, List.prefix_rfl⟩

theorem addError (c : Cursor V) (message : String) : c.GrowsTo (c.addError message) :=
  ⟨rfl, rfl, rfl, by rw [Cursor.addError, Array.toList_push]; exact List.prefix_append _ _⟩

/-- Whatever passes tokens. -/
theorem apply (op : Op V) (c : Cursor V) (h : op.passes = true) : c.GrowsTo (op.apply c) := by
  rcases op.apply_cases c h with ⟨n, -, he⟩ | ⟨_, message, _, -, -, he⟩ <;> rw [he]
  · exact .forward c n
  · exact .addError c message

/-- The diagnostics of before are the first ones. -/
theorem take_errors (h : c.GrowsTo d) : d.errors.take c.errors.size = c.errors := by
  have htake : (d.errors.take c.errors.size).toList = d.errors.toList.take c.errors.toList.length := by
    simp
  rw [← Array.toList_inj, htake]
  exact (List.prefix_iff_eq_take.1 h.errors).symm

/-- **Place and number of diagnostics are enough to go back.** -/
theorem rollback (h : c.GrowsTo d) (hplace : c.position ≤ c.tokens.size) :
    (d.restore c.position).truncateErrors c.errors.size = c := by
  have hposition : Nat.min c.position d.tokens.size = c.position := by
    rw [h.tokens]; exact Nat.min_eq_left hplace
  rw [truncateErrors, Cursor.restore, hposition, h.take_errors, h.tokens, h.source, h.preferences]

/-- Wherever the place was, going back loses none of the diagnostics of before. -/
theorem rolledBack (h : c.GrowsTo d) (position : Nat) :
    c.GrowsTo ((d.restore position).truncateErrors c.errors.size) where
  tokens := h.tokens
  source := h.source
  preferences := h.preferences
  errors := (congrArg Array.toList h.take_errors).symm ▸ List.prefix_rfl

end GrowsTo

end Cursor

/-! ## Productions built from the cursor's operations -/

namespace Production

/-- Productions made of operations on a cursor, in any order, with any branches, and nested in attempts to
any depth. -/
inductive Built : {α : Type} → Production V α → Prop
  | pure {α : Type} (a : α) : Built (pure a)
  | throw {α : Type} (e : ParseError) : Built (throw e : Production V α)
  | bind {α β : Type} {p : Production V α} {f : α → Production V β} :
      Built p → (∀ a, Built (f a)) → Built (p >>= f)
  | caught {α : Type} {p : Production V α} : Built p → Built (caught p)
  | attempt {α : Type} {p : Production V α} : Built p → Built (attempt p)
  /-- Any look at the cursor: at a token around, at its category, at the place to be saved. -/
  | look {α : Type} (f : Cursor V → α) : Built (look f)
  | advance : Built advance
  | matchAny (categories : List String) : Built (matchAny categories)
  | consume (category message : String) : Built (consume category message)
  | synchronize (categories : List String) : Built (synchronize categories)
  | addError (message : String) : Built (addError message)
  | object {α : Type} (message : String) : Built (object message : Production V α)
  /-- A place that was saved, or any other. -/
  | restore (position : Nat) : Built (change (·.restore position))

theorem runOn_bind_ok {p : Production V α} {f : α → Production V β} {s after : Session V} {a : α}
    (h : p.runOn s = (.ok a, after)) : (p >>= f).runOn s = (f a).runOn after := by
  show ExceptT.bindCont f (p.runOn s).1 (p.runOn s).2 = _
  rw [h]
  rfl

theorem runOn_bind_error {p : Production V α} {f : α → Production V β} {s after : Session V}
    {e : ParseError} (h : p.runOn s = (.error e, after)) : (p >>= f).runOn s = (.error e, after) := by
  show ExceptT.bindCont f (p.runOn s).1 (p.runOn s).2 = _
  rw [h]
  rfl

theorem runOn_attempt_ok {p : Production V α} {s after : Session V} {v : α}
    (h : p.runOn s = (.ok v, after)) : (attempt p).runOn s = (.ok (some v), after) := by
  rw [runOn] at h ⊢
  rw [attempt, h]

theorem runOn_attempt_error {p : Production V α} {s after : Session V} {e : ParseError}
    (h : p.runOn s = (.error e, after)) : ((attempt p).runOn s).1 = .ok none ∧
      ((attempt p).runOn s).2.cursor =
        (after.cursor.restore s.cursor.position).truncateErrors s.cursor.errors.size := by
  rw [runOn] at h ⊢
  rw [attempt, h]
  exact ⟨rfl, rfl⟩

/-- **Productions that are built of operations let the cursor grow**, whether they fail or not. -/
theorem Built.growsTo {p : Production V α} (hp : p.Built) (s : Session V) :
    s.cursor.GrowsTo (p.runOn s).2.cursor := by
  -- what the cursor is at the end of an attempt or a sequence depends on how the parts end
  induction hp generalizing s with
  | pure | throw | look | object => exact .refl _
  | advance => exact .apply .advance _ rfl
  | matchAny categories => exact .apply (.matchAny categories) _ rfl
  | consume category message => exact .apply (.consume category message) _ rfl
  | synchronize categories => exact .apply (.synchronize categories) _ rfl
  | addError message => exact .addError _ message
  | restore position => exact .restore _ position
  | caught _ ih => exact ih s
  | @bind _ _ p f _ _ ihp ihf =>
    have hfirst := ihp s
    rcases hrun : p.runOn s with ⟨e | a, after⟩ <;> rw [hrun] at hfirst
    · rw [runOn_bind_error hrun]
      exact hfirst
    · rw [runOn_bind_ok hrun]
      exact hfirst.trans (ihf a after)
  | @attempt _ p _ ih =>
    have hinner := ih s
    rcases hrun : p.runOn s with ⟨e | a, after⟩ <;> rw [hrun] at hinner
    · rw [(runOn_attempt_error hrun).2]
      exact hinner.rolledBack _
    · rw [runOn_attempt_ok hrun]
      exact hinner

theorem Built.map {p : Production V α} (hp : p.Built) (f : α → β) : Built (f <$> p) := by
  rw [map_eq_pure_bind]
  exact hp.bind fun a => .pure (f a)

/-! ## Attempts -/

/-- **What a failed production did to the cursor can be taken back.** -/
theorem runOn_attempt_built {p : Production V α} (hp : p.Built) {s after : Session V} {e : ParseError}
    (hplace : s.cursor.position ≤ s.cursor.tokens.size) (h : p.runOn s = (.error e, after)) :
    ((attempt p).runOn s).1 = .ok none ∧ ((attempt p).runOn s).2.cursor = s.cursor := by
  have hgrows := hp.growsTo s
  rw [h] at hgrows
  obtain ⟨hnone, hcursor⟩ := runOn_attempt_error h
  exact ⟨hnone, hcursor.trans (hgrows.rollback hplace)⟩

/-- **A failed attempt gives back the cursor of before**, and one that succeeds changes nothing of what the
production did. -/
theorem attempt_restores {p : Production V α} (hp : p.Built) (s : Session V)
    (hplace : s.cursor.position ≤ s.cursor.tokens.size) :
    (∀ e after, p.runOn s = (.error e, after) →
      ((attempt p).runOn s).1 = .ok none ∧ ((attempt p).runOn s).2.cursor = s.cursor) ∧
    (∀ v after, p.runOn s = (.ok v, after) → (attempt p).runOn s = (.ok (some v), after)) :=
  ⟨fun _ _ h => runOn_attempt_built hp hplace h, fun _ _ h => runOn_attempt_ok h⟩

/-- A rule that records a diagnostic, tries another one in vain and fails one token further on. -/
theorem attempt_restores_nested :
    let inner : Production Int (Token Int) := do
      let _ ← consume "LET" "Expected 'let'"
      consume "IDENT" "Expected variable name"
    let rule : Production Int (Token Int) := do
      addError "speculative"
      let _ ← attempt inner
      let _ ← advance
      consume "EQUALS" "Expected '='"
    let cursor : Cursor Int := ⟨#[⟨"LET", "let", 0, 3, 1, 4, none⟩, ⟨"SEMI", ";", 3, 4, 1, 5, none⟩], 0,
      #["earlier"], none, ⟨' ', false⟩⟩
    let s : Session Int := ⟨cursor, .debug, []⟩
    rule.Built ∧ cursor.position ≤ cursor.tokens.size ∧
      (∃ e after, rule.runOn s = (.error e, after) ∧ after.cursor.position = 1 ∧
        after.cursor.errors = #["earlier", "speculative", "Expected '='"]) ∧
      ((attempt rule).runOn s).1 = .ok none ∧ ((attempt rule).runOn s).2.cursor = cursor := by
  intro inner rule cursor s
  have hinner : inner.Built := (Built.consume _ _).bind fun _ => .consume _ _
  have hrule : rule.Built := (Built.addError _).bind fun _ => hinner.attempt.bind fun _ =>
    Built.advance.bind fun _ => .consume _ _
  have hplace : cursor.position ≤ cursor.tokens.size := Nat.zero_le _
  have hrun : ∃ e after, rule.runOn s = (.error e, after) ∧ after.cursor.position = 1 ∧
      after.cursor.errors = #["earlier", "speculative", "Expected '='"] := ⟨_, _, rfl, rfl, rfl⟩
  obtain ⟨e, after, hfails, hafter⟩ := hrun
  exact ⟨hrule, hplace, ⟨e, after, hfails, hafter⟩, (attempt_restores hrule s hplace).1 e after hfails⟩

end Production

end Descent
