/-
  What registrations leave in a table.

  * `Tokenizer.RuleSpec.rule?` is the rule that is made where the pattern can be compiled, and
    `Tokenizer.RuleSpec.ruleFor_cases`: a table takes that rule if it has room.
  * `Tokenizer.toList_foldl_table`: calls that register rules fill a table with the first of these rules, as
    many as it has room for.
  * `Tokenizer.registrations_kept`: the table of a new tokenizer after any registrations, and what one more
    registration is answered.
-/
import Descent.Proofs.Lexical.History

namespace Descent

variable {V : Type}

/-- What a rule was registered with. -/
def Rule.spec (r : Rule V) : Tokenizer.RuleSpec V := ⟨r.category, r.pattern.source, r.transform⟩

namespace Tokenizer

variable {rules : Array (Rule V)} {spec : RuleSpec V}

/-! ## One registration -/

namespace RuleSpec

/-- Whether the pattern can be compiled. -/
def valid (spec : RuleSpec V) : Bool := (Pattern.compile spec.pattern).isOk

/-- The rule, if the pattern can be compiled. -/
def rule? (spec : RuleSpec V) : Option (Rule V) :=
  (Pattern.compile spec.pattern).toOption.map fun pattern => ⟨spec.category, pattern, spec.transform⟩

theorem rule?_of_error {e : PatternError} (h : Pattern.compile spec.pattern = .error e) :
    spec.rule? = none := by
  rw [rule?, h]
  rfl

theorem rule?_of_ok {pattern : Pattern} (h : Pattern.compile spec.pattern = .ok pattern) :
    spec.rule? = some ⟨spec.category, pattern, spec.transform⟩ := by
  rw [rule?, h]
  rfl

/-- The rule shows what it was registered with. -/
theorem map_spec_rule? (spec : RuleSpec V) : spec.rule?.map Rule.spec = Option.guard valid spec := by
  cases h : Pattern.compile spec.pattern with
  | error e =>
    have hvalid : spec.valid = false := by rw [valid, h]; rfl
    rw [rule?_of_error h, Option.guard, hvalid]
    rfl
  | ok pattern =>
    have hvalid : spec.valid = true := by rw [valid, h]; rfl
    rw [rule?_of_ok h, Option.guard, hvalid, Option.map_some, Rule.spec, Pattern.source_of_compile h]
    rfl

/-- **What a table does with a registration**: it refuses a pattern that cannot be compiled, whether or not it
has room, and any other rule if it is full. -/
theorem ruleFor_cases (spec : RuleSpec V) (rules : Array (Rule V)) :
    (spec.valid = false ∧ spec.rule? = none ∧
      ∃ reason, spec.ruleFor rules = .error (.invalidPattern spec.category reason)) ∨
    (spec.valid = true ∧ Limits.ruleCount ≤ rules.size ∧
      spec.ruleFor rules = .error (.tooManyRules (rules.size + 1))) ∨
    (spec.valid = true ∧ rules.size < Limits.ruleCount ∧
      ∃ rule, spec.rule? = some rule ∧ spec.ruleFor rules = .ok rule) := by
  cases h : Pattern.compile spec.pattern with
  | error e =>
    refine .inl ⟨by rw [valid, h]; rfl, rule?_of_error h, e.message, ?_⟩
    rw [ruleFor, h]
  | ok pattern =>
    have hvalid : spec.valid = true := by rw [valid, h]; rfl
    by_cases hfull : Limits.ruleCount ≤ rules.size
    · refine .inr (.inl ⟨hvalid, hfull, ?_⟩)
      rw [ruleFor, h]
      exact if_pos hfull
    · refine .inr (.inr ⟨hvalid, by omega, _, rule?_of_ok h, ?_⟩)
      rw [ruleFor, h]
      exact if_neg hfull

end RuleSpec

theorem table_of_error {e : LexicalError} (h : spec.ruleFor rules = .error e) :
    (Call.addRule spec).table rules = rules := by
  rw [Call.table, h]

theorem table_of_ok {rule : Rule V} (h : spec.ruleFor rules = .ok rule) :
    (Call.addRule spec).table rules = rules.push rule := by
  rw [Call.table, h]

/-! ## Registrations in a row -/

/-- **Calls that register rules fill a table**, in their order and as far as it has room, with the rules whose
patterns can be compiled. -/
theorem toList_foldl_table (h : rules.size ≤ Limits.ruleCount) (specs : List (RuleSpec V)) :
    ((specs.map Call.addRule).foldl Call.table rules).toList =
      rules.toList ++ (specs.filterMap RuleSpec.rule?).take (Limits.ruleCount - rules.size) := by
  induction specs generalizing rules with
  | nil => simp
  | cons spec specs ih =>
    rw [List.map_cons, List.foldl_cons]
    rcases spec.ruleFor_cases rules with
      ⟨-, hnone, reason, hrule⟩ | ⟨-, hfull, hrule⟩ | ⟨-, hroom, rule, hsome, hrule⟩
    · rw [table_of_error hrule, ih h, List.filterMap_cons_none hnone]
    · have hzero : Limits.ruleCount - rules.size = 0 := by omega
      rw [table_of_error hrule, ih h, hzero, List.take_zero, List.take_zero]
    · have hsucc : Limits.ruleCount - rules.size = Limits.ruleCount - (rules.push rule).size + 1 := by
        rw [Array.size_push]; omega
      have hle : (rules.push rule).size ≤ Limits.ruleCount := by rw [Array.size_push]; exact hroom
      rw [table_of_ok hrule, ih hle, List.filterMap_cons_some hsome, hsucc, List.take_succ_cons,
        Array.toList_push, List.append_assoc]
      rfl

/-- Calls that register rules, each with the level up to which details are logged when it is made. -/
def registrations (calls : List (Level × RuleSpec V)) : History V :=
  calls.map fun call => (call.1, .addRule call.2)

theorem work_registrations (calls : List (Level × RuleSpec V)) :
    work (registrations calls) = (calls.map Prod.snd).map Call.addRule := by
  rw [work, registrations, List.filterMap_map, List.map_map]
  exact congrFun List.filterMap_eq_map' calls

/-- **A tokenizer keeps the first registrations that can be compiled.**  After any registrations, the table of a
new tokenizer has the first 1024 rules whose patterns can be compiled, in their order, each with the category,
the pattern and the transform it was registered with.  One more is taken if its pattern can be compiled and the
table is not full; a pattern that cannot be compiled is told even of a full table, and a registration that is
refused changes nothing. -/
theorem registrations_kept (preferences : LexicalPreferences) (calls : List (Level × RuleSpec V)) :
    let specs := calls.map Prod.snd
    let t := (new preferences).run (registrations calls)
    t.rules.toList = (specs.filterMap RuleSpec.rule?).take 1024 ∧
    t.rules.toList.map Rule.spec = (specs.filter RuleSpec.valid).take 1024 ∧
    ∀ (least : Level) (spec : RuleSpec V),
      let answer := (t.addRule least spec.category spec.pattern spec.transform).value
      (answer.isOk = true ↔ spec.valid = true ∧ t.rules.size < 1024) ∧
      (spec.valid = false → ∃ reason, answer = .error (.invalidPattern spec.category reason)) ∧
      (spec.valid = true → 1024 ≤ t.rules.size → answer = .error (.tooManyRules 1025)) ∧
      ∀ e, answer = .error e → (Call.addRule spec).apply least t = t := by
  intro specs t
  have hlimit : Limits.ruleCount = 1024 := rfl
  have hrules : t.rules.toList = (specs.filterMap RuleSpec.rule?).take 1024 := by
    show ((new preferences).run (registrations calls)).rules.toList = _
    rw [rules_run, work_registrations]
    exact toList_foldl_table (Nat.zero_le _) specs
  have hsize : t.rules.size ≤ 1024 := by
    rw [← Array.length_toList, hrules]
    exact List.length_take_le ..
  refine ⟨hrules, ?_, fun least spec => ?_⟩
  · rw [hrules, List.map_take, List.map_filterMap]
    simp only [RuleSpec.map_spec_rule?, List.filterMap_eq_filter]
  intro answer
  have hanswer : answer = (spec.ruleFor t.rules).map fun rule => { t with rules := t.rules.push rule } :=
    t.value_addRule least spec
  rw [hanswer]
  rcases spec.ruleFor_cases t.rules with
    ⟨hvalid, -, reason, hrule⟩ | ⟨hvalid, hfull, hrule⟩ | ⟨hvalid, hroom, rule, -, hrule⟩
  all_goals rw [hrule, hvalid]
  · refine ⟨iff_of_false Bool.false_ne_true fun h => Bool.false_ne_true h.1, fun _ => ⟨reason, rfl⟩,
      fun h => ?_, fun _ _ => apply_of_error hrule⟩
    cases h
  · refine ⟨iff_of_false Bool.false_ne_true fun h => ?_, fun h => ?_, fun _ _ => ?_,
      fun _ _ => apply_of_error hrule⟩
    · omega
    · cases h
    · rw [Nat.le_antisymm hsize hfull]
      rfl
  · refine ⟨iff_of_true rfl ⟨rfl, hroom⟩, fun h => ?_, fun _ h => ?_, fun e h => ?_⟩
    · cases h
    · omega
    · cases h

end Tokenizer

end Descent
