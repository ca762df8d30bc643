/-
  A cursor is a zipper: the tokens passed, the tokens left, and the diagnostics.

  * `Cursor.Op` are the operations that change a cursor, and `Cursor.run` a sequence of them.
  * `Zipper` are tokens parted at a place; `Cursor.Op.move` says on lists what an operation does.
  * `Cursor.zipper_apply`: an operation on a cursor is its move on the zipper, and `Cursor.zipper_run`: so
    is a sequence of operations.
  * `Cursor.Op.apply_cases`: what operations that pass tokens can do; place, tokens and diagnostics are read
    off it.
  * `Cursor.simulates_zipper`: what holds of a cursor after any operations: its place stays among its
    tokens, which are those loaded last, and diagnostics come and go in the ways meant for it.
-/
import Descent.Proofs.Parsing.Cursor

namespace Descent

variable {V : Type}

/-! ## Operations -/

namespace Cursor

/-- The ways to make a cursor. -/
inductive Origin (V : Type) where
  | new
  | ofTokens (tokens : Array (Token V))
  | withSource (tokens : Array (Token V)) (source : String)

/-- The cursor that is made. -/
def Origin.cursor (preferences : CursorPreferences) : Origin V → Cursor V
  | new => .new preferences
  | ofTokens tokens => .ofTokens preferences tokens
  | withSource tokens source => .withSource preferences tokens source

/-- The tokens it is made of. -/
def Origin.tokens : Origin V → List (Token V)
  | new => []
  | ofTokens tokens | withSource tokens _ => tokens.toList

/-- The operations that change a cursor. -/
inductive Op (V : Type) where
  | load (tokens : Array (Token V)) (source : Option String)
  | reset
  | setSource (source : String)
  | advance
  | matchAny (categories : List String)
  | consume (category message : String)
  | synchronize (categories : List String)
  | restore (position : Nat)
  | addError (message : String)
  | takeErrors
  | truncateErrors (count : Nat)

namespace Op

/-- The cursor after an operation. -/
def apply : Op V → Cursor V → Cursor V
  | load tokens source, c => c.load tokens source
  | reset, c => c.reset
  | setSource source, c => c.setSource source
  | advance, c => c.advance.2
  | matchAny categories, c => (c.matchAny categories).2
  | consume category message, c => (c.consume category message).2
  | synchronize categories, c => (c.synchronize categories).cursor
  | restore position, c => c.restore position
  | addError message, c => c.addError message
  | takeErrors, c => c.clearErrors
  | truncateErrors count, c => c.truncateErrors count

/-- Whether an operation gives the cursor other tokens. -/
def reloads : Op V → Bool
  | load .. | reset => true
  | _ => false

/-- Whether an operation is one that passes tokens. -/
def passes : Op V → Bool
  | advance | matchAny _ | consume .. | synchronize _ => true
  | _ => false

/-- Whether an operation is one that forgets diagnostics. -/
def forgets : Op V → Bool
  | load .. | reset | takeErrors | truncateErrors _ => true
  | _ => false

/-- The tokens a cursor holds after an operation, by those it held before. -/
def held : Op V → List (Token V) → List (Token V)
  | load tokens _, _ => tokens.toList
  | reset, _ => []
  | _, tokens => tokens

end Op

/-- The cursor after a sequence of operations. -/
def run (c : Cursor V) (ops : List (Op V)) : Cursor V := ops.foldl (fun c op => op.apply c) c

end Cursor

/-! ## Zippers -/

/-- Tokens parted at a place, the one passed last in front, and diagnostics. -/
structure Zipper (V : Type) where
  passed : List (Token V)
  rest : List (Token V)
  errors : List String

namespace Zipper

/-- All tokens in their order. -/
def tokens (z : Zipper V) : List (Token V) := z.passed.reverse ++ z.rest

/-- Pass a number of tokens, or all that are left. -/
def forward (z : Zipper V) (n : Nat) : Zipper V :=
  { z with passed := (z.rest.take n).reverse ++ z.passed, rest := z.rest.drop n }

/-- Part the tokens elsewhere. -/
def part (z : Zipper V) (position : Nat) : Zipper V :=
  { z with passed := (z.tokens.take position).reverse, rest := z.tokens.drop position }

/-- Whether the next token is of one of some categories. -/
def faces (z : Zipper V) (categories : List String) : Bool :=
  z.rest.head?.any fun tok => categories.contains tok.category

/-- Record a diagnostic. -/
def note (z : Zipper V) (message : String) : Zipper V := { z with errors := z.errors ++ [message] }

theorem forward_min (z : Zipper V) (n : Nat) : z.forward (min n z.rest.length) = z.forward n := by
  rw [forward, forward, ← List.take_eq_take_min, ← List.drop_eq_drop_min]

end Zipper

namespace Cursor

variable {c : Cursor V}

/-- What an operation does to a zipper. -/
def Op.move : Op V → Zipper V → Zipper V
  | load tokens _, _ => ⟨[], tokens.toList, []⟩
  | reset, _ => ⟨[], [], []⟩
  | setSource _, z => z
  | advance, z => z.forward 1
  | matchAny categories, z => if z.faces categories then z.forward 1 else z
  | consume category message, z => if z.faces [category] then z.forward 1 else z.note message
  | synchronize categories, z => z.forward (min Limits.recoveryScan
      (z.rest.takeWhile fun tok => !categories.contains tok.category).length)
  | restore position, z => z.part position
  | addError message, z => z.note message
  | takeErrors, z => { z with errors := [] }
  | truncateErrors count, z => { z with errors := z.errors.take count }

/-- A cursor seen as a zipper. -/
def zipper (c : Cursor V) : Zipper V where
  passed := (c.tokens.toList.take c.position).reverse
  rest := c.remaining
  errors := c.errors.toList

/-! ## The simulation -/

@[simp] theorem tokens_zipper (c : Cursor V) : c.zipper.tokens = c.tokens.toList := by
  rw [Zipper.tokens, zipper, List.reverse_reverse, remaining, List.take_append_drop]

theorem zipper_forward (c : Cursor V) (n : Nat) : (c.forward n).zipper = c.zipper.forward n := by
  rw [zipper, remaining_forward, Zipper.forward, zipper, Zipper.mk.injEq]
  refine ⟨?_, rfl, rfl⟩
  rw [tokens_forward, position_forward, List.take_add, List.reverse_append]
  rfl

theorem zipper_restore (c : Cursor V) (position : Nat) :
    (c.restore position).zipper = c.zipper.part position := by
  have hmin : min position c.tokens.size = min position c.tokens.toList.length := by
    rw [Array.length_toList]
  rw [Zipper.part, tokens_zipper, zipper, restore, remaining, Zipper.mk.injEq]
  refine ⟨?_, ?_, rfl⟩
  · show (c.tokens.toList.take (min position c.tokens.size)).reverse = _
    rw [hmin, ← List.take_eq_take_min]
  · show c.tokens.toList.drop (min position c.tokens.size) = _
    rw [hmin, ← List.drop_eq_drop_min]

theorem zipper_addError (c : Cursor V) (message : String) :
    (c.addError message).zipper = c.zipper.note message := by
  simp [zipper, addError, Zipper.note, remaining]

theorem faces_zipper (c : Cursor V) (categories : List String) :
    c.zipper.faces categories = c.checkAny categories := by
  rw [checkAny_eq, Zipper.faces]; rfl

/-- **An operation on a cursor is its move on the zipper.** -/
theorem zipper_apply (op : Op V) (c : Cursor V) : (op.apply c).zipper = op.move c.zipper := by
  cases op with
  | load tokens source => simp [Op.apply, Op.move, zipper, load, remaining]
  | reset => simp [Op.apply, Op.move, zipper, reset, new, remaining]
  | setSource source => rfl
  | advance =>
    show c.advance.2.zipper = _
    rw [advance_eq, zipper_forward]
    exact c.zipper.forward_min 1
  | matchAny categories =>
    show (c.matchAny categories).2.zipper = if c.zipper.faces categories then _ else _
    rw [matchAny_eq, faces_zipper]
    split
    · exact zipper_forward c 1
    · rfl
  | consume category message =>
    have hfaces : c.zipper.faces [category] = c.check category := by
      rw [faces_zipper, checkAny, List.any_cons, List.any_nil, Bool.or_false]
    show (c.consume category message).2.zipper = if c.zipper.faces [category] then _ else _
    rw [hfaces]
    rcases c.consume_cases category message with ⟨tok, rest, -, hc, he⟩ | ⟨hc, he⟩
    · rw [he, hc, if_pos rfl]; exact zipper_forward c 1
    · rw [he, hc, if_neg Bool.false_ne_true]; exact zipper_addError c message
  | synchronize categories =>
    show (c.synchronize categories).cursor.zipper = _
    rw [(c.synchronize_eq categories).1, zipper_forward]
    rfl
  | restore position => exact zipper_restore c position
  | addError message => exact zipper_addError c message
  | takeErrors => rfl
  | truncateErrors count => simp [Op.apply, Op.move, zipper, truncateErrors, remaining]

/-- **A sequence of operations is a sequence of moves.** -/
theorem zipper_run (c : Cursor V) (ops : List (Op V)) :
    (c.run ops).zipper = ops.foldl (fun z op => op.move z) c.zipper :=
  (List.foldl_hom zipper fun c op => (zipper_apply op c).symm).symm

/-! ## Tokens and place -/

/-- **What passes tokens** moves the cursor on among them and does nothing else, but for a `consume` that
fails. -/
theorem Op.apply_cases (op : Op V) (c : Cursor V) (h : op.passes = true) :
    (∃ n ≤ c.remaining.length, op.apply c = c.forward n) ∨
    ∃ category message e, op = .consume category message ∧
      (c.consume category message).1 = .error e ∧ op.apply c = c.addError message := by
  cases op with
  | advance => exact .inl ⟨_, Nat.min_le_right _ _, by rw [apply, advance_eq]⟩
  | matchAny categories =>
    left
    rw [apply, matchAny_eq]
    split
    · next hc =>
      obtain ⟨tok, rest, hr⟩ := exists_cons_of_checkAny hc
      exact ⟨1, by simp [hr], rfl⟩
    · exact ⟨0, Nat.zero_le _, rfl⟩
  | consume category message =>
    rw [apply]
    rcases c.consume_cases category message with ⟨tok, rest, hr, -, he⟩ | ⟨-, he⟩ <;> rw [he]
    · exact .inl ⟨1, by simp [hr], rfl⟩
    · exact .inr ⟨category, message, _, rfl, by rw [he], rfl⟩
  | synchronize categories =>
    exact .inl ⟨_, (Nat.min_le_right Limits.recoveryScan _).trans (c.distance_le categories),
      (c.synchronize_eq categories).1⟩
  | load | reset | setSource | restore | addError | takeErrors | truncateErrors => cases h

theorem Op.toList_tokens_apply (op : Op V) (c : Cursor V) :
    (op.apply c).tokens.toList = op.held c.tokens.toList := by
  have hpass := op.apply_cases c
  cases op with
  | advance | matchAny | consume | synchronize =>
    rcases hpass rfl with ⟨n, -, he⟩ | ⟨_, _, _, -, -, he⟩ <;> rw [he] <;> rfl
  | load | reset | setSource | restore | addError | takeErrors | truncateErrors => rfl

/-- **Only loading and resetting change the tokens.** -/
theorem Op.tokens_apply {op : Op V} (h : op.reloads = false) (c : Cursor V) :
    (op.apply c).tokens = c.tokens := by
  rw [← Array.toList_inj, toList_tokens_apply]
  cases op with
  | load | reset => cases h
  | _ => rfl

theorem toList_tokens_run (c : Cursor V) (ops : List (Op V)) :
    (c.run ops).tokens.toList = ops.foldl (fun tokens op => op.held tokens) c.tokens.toList :=
  (List.foldl_hom (fun c : Cursor V => c.tokens.toList)
    fun c op => (op.toList_tokens_apply c).symm).symm

theorem tokens_run {ops : List (Op V)} (h : ∀ op ∈ ops, op.reloads = false) (c : Cursor V) :
    (c.run ops).tokens = c.tokens := by
  induction ops generalizing c with
  | nil => rfl
  | cons op ops ih =>
    obtain ⟨hop, hops⟩ := List.forall_mem_cons.1 h
    exact (ih hops (op.apply c)).trans (Op.tokens_apply hop c)

/-- Passing no more tokens than there are keeps the place among them. -/
theorem position_forward_le (h : c.position ≤ c.tokens.size) {n : Nat} (hn : n ≤ c.remaining.length) :
    (c.forward n).position ≤ (c.forward n).tokens.size := by
  rw [length_remaining] at hn
  rw [position_forward, tokens_forward]
  omega

/-- **The place stays among the tokens.** -/
theorem Op.position_le (op : Op V) (h : c.position ≤ c.tokens.size) :
    (op.apply c).position ≤ (op.apply c).tokens.size := by
  have hpass := op.apply_cases c
  cases op with
  | load | reset => exact Nat.zero_le _
  | setSource | addError | takeErrors | truncateErrors => exact h
  | restore position => exact Nat.min_le_right _ _
  | advance | matchAny | consume | synchronize =>
    rcases hpass rfl with ⟨n, hn, he⟩ | ⟨_, _, _, -, -, he⟩ <;> rw [he]
    · exact position_forward_le h hn
    · exact h

theorem position_run_le (h : c.position ≤ c.tokens.size) (ops : List (Op V)) :
    (c.run ops).position ≤ (c.run ops).tokens.size := by
  induction ops generalizing c with
  | nil => exact h
  | cons op ops ih => exact ih (op.position_le h)

/-- **Passing one token again and again** stops at the end. -/
theorem run_advance (n : Nat) (c : Cursor V) :
    c.run (List.replicate n .advance) = c.forward (min n c.remaining.length) := by
  induction n generalizing c with
  | zero => rw [Nat.zero_min]; rfl
  | succ n ih =>
    have hstep : c.run (List.replicate (n + 1) .advance) =
        c.advance.2.run (List.replicate n .advance) := rfl
    rw [hstep, ih, advance_eq, forward_forward, remaining_forward, List.length_drop]
    congr 1
    omega

/-! ## Diagnostics -/

/-- **Diagnostics stay, or one is added behind the others, or some are forgotten.** -/
theorem Op.errors_cases (op : Op V) (c : Cursor V) :
    (op.apply c).errors = c.errors ∨
    (∃ message, (op.apply c).errors = c.errors.push message ∧
      (op = .addError message ∨
        ∃ category e, op = .consume category message ∧ (c.consume category message).1 = .error e)) ∨
    (op.forgets = true ∧ (op.apply c).errors.size ≤ c.errors.size) := by
  have hpass := op.apply_cases c
  cases op with
  | load | reset | takeErrors => exact .inr (.inr ⟨rfl, Nat.zero_le _⟩)
  | truncateErrors count =>
    have hsize : (c.truncateErrors count).errors.size = min count c.errors.size := by
      simp [Cursor.truncateErrors]
    exact .inr (.inr ⟨rfl, hsize.trans_le (Nat.min_le_right _ _)⟩)
  | addError message => exact .inr (.inl ⟨message, rfl, .inl rfl⟩)
  | setSource | restore => exact .inl rfl
  | advance | matchAny | consume | synchronize =>
    rcases hpass rfl with ⟨n, -, he⟩ | ⟨category, message, e, hop, hfails, he⟩ <;> rw [he]
    · exact .inl rfl
    · exact .inr (.inl ⟨message, rfl, .inr ⟨category, e, hop, hfails⟩⟩)

/-- **Diagnostics grow only where one is recorded or a `consume` fails**, and by just its message. -/
theorem Op.errors_grow {op : Op V} (h : c.errors.size < (op.apply c).errors.size) :
    ∃ message, (op.apply c).errors = c.errors.push message ∧
      (op = .addError message ∨
        ∃ category e, op = .consume category message ∧ (c.consume category message).1 = .error e) := by
  rcases op.errors_cases c with heq | hpush | ⟨-, hle⟩
  · rw [heq] at h; exact absurd h (Nat.lt_irrefl _)
  · exact hpush
  · exact absurd h (Nat.not_lt.2 hle)

/-- **Diagnostics shrink only where some are forgotten.** -/
theorem Op.errors_shrink {op : Op V} (h : (op.apply c).errors.size < c.errors.size) :
    op.forgets = true := by
  rcases op.errors_cases c with heq | ⟨message, hpush, -⟩ | ⟨hforgets, -⟩
  · rw [heq] at h; exact absurd h (Nat.lt_irrefl _)
  · rw [hpush, Array.size_push] at h; omega
  · exact hforgets

/-! ## Going forward and back -/

/-- **Passing tokens never goes back.** -/
theorem Op.position_mono {op : Op V} (h : op.passes = true) (c : Cursor V) :
    c.position ≤ (op.apply c).position := by
  rcases op.apply_cases c h with ⟨n, -, he⟩ | ⟨_, _, _, -, -, he⟩ <;> rw [he]
  · exact Nat.le_add_right _ _
  · exact Nat.le_refl _

/-- **A saved place is found again** as long as the tokens are the same. -/
theorem position_restore_run (h : c.position ≤ c.tokens.size) {later : List (Op V)}
    (hlater : ∀ op ∈ later, op.reloads = false) :
    ((c.run later).restore c.position).position = c.position := by
  show Nat.min c.position (c.run later).tokens.size = c.position
  rw [tokens_run hlater c]
  exact Nat.min_eq_left h

/-! ## Cursors that were made and worked on -/

theorem Origin.tokens_cursor (origin : Origin V) (preferences : CursorPreferences) :
    (origin.cursor preferences).tokens.toList = origin.tokens := by
  cases origin <;> rfl

theorem Origin.zipper_cursor (origin : Origin V) (preferences : CursorPreferences) :
    (origin.cursor preferences).zipper = ⟨[], origin.tokens, []⟩ := by
  cases origin <;> rfl

theorem Origin.position_le (origin : Origin V) (preferences : CursorPreferences) :
    (origin.cursor preferences).position ≤ (origin.cursor preferences).tokens.size := by
  cases origin <;> exact Nat.zero_le _

/-- What makes a cursor that holds some tokens a zipper. -/
structure Simulates (c : Cursor V) (z : Zipper V) (held : List (Token V)) : Prop where
  zipper_eq : c.zipper = z
  position_le : c.position ≤ held.length
  take_append_remaining : held.take c.position ++ c.remaining = held
  lookAround_eq : ∀ (k : Int) (i : Nat), (c.position : Int) + k = i → c.lookAround k = held[i]?
  isSome_lookAround : ∀ k : Int, (c.lookAround k).isSome = true ↔
    0 ≤ (c.position : Int) + k ∧ (c.position : Int) + k < held.length
  position_advances : ∀ n,
    (c.run (List.replicate n .advance)).position = min (c.position + n) held.length
  /-- Only loading and resetting change the tokens. -/
  tokens_apply : ∀ op : Op V, op.reloads = false → (op.apply c).tokens = c.tokens
  errors_addError : ∀ message, (c.addError message).errors = c.errors.push message
  /-- A `consume` that fails records its message and does nothing else. -/
  consume_error : ∀ category message e, (c.consume category message).1 = .error e →
    (c.consume category message).2 = { c with errors := c.errors.push message }
  errors_grow : ∀ op : Op V, c.errors.size < (op.apply c).errors.size →
    ∃ message, op = .addError message ∨
      ∃ category e, op = .consume category message ∧ (c.consume category message).1 = .error e
  errors_shrink : ∀ op : Op V, (op.apply c).errors.size < c.errors.size → op.forgets = true
  position_mono : ∀ op : Op V, op.passes = true → c.position ≤ (op.apply c).position
  /-- The place saved now is found again while the tokens are the same. -/
  restore_saved : ∀ later : List (Op V), (∀ op ∈ later, op.reloads = false) →
    ((c.run later).restore c.position).position = c.position

/-- **A cursor is a zipper**, however it was made and whatever was done to it: it is what the moves make of
the tokens it was made of, and it holds those loaded last. -/
theorem simulates_zipper (origin : Origin V) (preferences : CursorPreferences) (ops : List (Op V)) :
    ((origin.cursor preferences).run ops).Simulates
      (ops.foldl (fun z op => op.move z) ⟨[], origin.tokens, []⟩)
      (ops.foldl (fun tokens op => op.held tokens) origin.tokens) := by
  generalize hc : (origin.cursor preferences).run ops = c
  generalize hheld : ops.foldl (fun tokens op => op.held tokens) origin.tokens = held
  have htokens : c.tokens.toList = held := by
    rw [← hc, ← hheld, toList_tokens_run, Origin.tokens_cursor]
  have hsize : c.tokens.size = held.length := by rw [← htokens, Array.length_toList]
  have hplace : c.position ≤ c.tokens.size :=
    hc ▸ position_run_le (origin.position_le preferences) ops
  exact {
    zipper_eq := by rw [← hc, zipper_run, Origin.zipper_cursor]
    position_le := hsize ▸ hplace
    take_append_remaining := by rw [remaining, htokens, List.take_append_drop]
    lookAround_eq := fun k i hi => by rw [Cursor.lookAround_eq hi, ← htokens, Array.getElem?_toList]
    isSome_lookAround := fun k => by rw [Cursor.isSome_lookAround, hsize]
    position_advances := fun n => by
      rw [run_advance, position_forward, length_remaining, hsize]
      have : c.position ≤ held.length := hsize ▸ hplace
      omega
    tokens_apply := fun op h => Op.tokens_apply h c
    errors_addError := fun _ => rfl
    consume_error := fun category message e h => consume_of_error h
    errors_grow := fun op h => by
      obtain ⟨message, -, hop⟩ := Op.errors_grow h
      exact ⟨message, hop⟩
    errors_shrink := fun op h => Op.errors_shrink h
    position_mono := fun op h => Op.position_mono h c
    restore_saved := fun later h => position_restore_run hplace h }

end Cursor

end Descent
