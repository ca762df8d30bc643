/-
  What a tokenizer carries from call to call.

  * `Tokenizer.Call` are the calls on a tokenizer, and `Tokenizer.run` a history of them, in which each call
    has a level of details of its own.
  * `Tokenizer.RuleSpec.ruleFor` says whether a table takes a rule, and `Tokenizer.value_addRule`: registering
    does that to the table and nothing else.
  * `Tokenizer.rules_run` and `Tokenizer.strategy_run`: the rules and the strategy after a history.
  * `Tokenizer.tokenize_congr` and `Tokenizer.tokenize_settings`: a cut does not depend on earlier cuts, and of
    the settings and the level only its events and its counts by category do.
  * `Tokenizer.tokenize_history`: so after any history a text is cut as by a new tokenizer that was given the
    rules registered so far and the strategy and settings set last.
-/
import Descent.Proofs.Lexical.Accepted

namespace Descent.Tokenizer

variable {V : Type} {t t₁ t₂ : Tokenizer V} {least : Level} {spec : RuleSpec V}

/-! ## Calls -/

/-- The calls on a tokenizer. -/
inductive Call (V : Type) where
  | addRule (spec : RuleSpec V)
  | setStrategy (strategy : Strategy)
  | setPreferences (preferences : LexicalPreferences)
  | tokenize (text : String) (filter : List String)

/-- Calls in order, each with the level up to which details are logged when it is made. -/
abbrev History (V : Type) := List (Level × Call V)

namespace Call

/-- The tokenizer after a call; a rule that is refused leaves it as it was. -/
def apply (least : Level) (t : Tokenizer V) : Call V → Tokenizer V
  | addRule spec =>
    (t.addRule least spec.category spec.pattern spec.transform).value.toOption.getD t
  | setStrategy strategy => { t with strategy }
  | setPreferences preferences => { t with preferences }
  | tokenize text filter => (t.tokenize least text filter).tokenizer

/-- What a call registers: a rule, unless it is refused. -/
def registers (least : Level) (t : Tokenizer V) : Call V → List (RuleSpec V)
  | addRule spec =>
    if (t.addRule least spec.category spec.pattern spec.transform).value.isOk then [spec] else []
  | _ => []

/-- The strategy that a call sets. -/
def strategy? : Call V → Option Strategy
  | setStrategy strategy => some strategy
  | _ => none

/-- The settings that a call sets. -/
def preferences? : Call V → Option LexicalPreferences
  | setPreferences preferences => some preferences
  | _ => none

/-- A call that is about more than settings. -/
def work? : Call V → Option (Call V)
  | setPreferences _ => none
  | call => some call

end Call

/-- The tokenizer after a history. -/
def run (t : Tokenizer V) : History V → Tokenizer V
  | [] => t
  | (least, call) :: history => run (call.apply least t) history

/-- The registrations of a history that went through. -/
def registered (t : Tokenizer V) : History V → List (RuleSpec V)
  | [] => []
  | (least, call) :: history => call.registers least t ++ registered (call.apply least t) history

/-- What a history sets last, if it sets anything. -/
def last {α : Type} (sets : Call V → Option α) (history : History V) (initial : α) : α :=
  (history.filterMap fun entry => sets entry.2).getLast?.getD initial

/-- The calls of a history without their levels, but for those that are about settings. -/
def work (history : History V) : List (Call V) := history.filterMap fun entry => entry.2.work?

/-! ## Registering -/

/-- The rule that a table takes, or why it takes none. -/
def RuleSpec.ruleFor (spec : RuleSpec V) (rules : Array (Rule V)) : Except LexicalError (Rule V) :=
  match Pattern.compile spec.pattern with
  | .error e => .error (.invalidPattern spec.category e.message)
  | .ok pattern =>
    if Limits.ruleCount ≤ rules.size then .error (.tooManyRules (rules.size + 1))
    else .ok ⟨spec.category, pattern, spec.transform⟩

/-- **Registering a rule** puts it at the end of the table, if that takes it, and changes nothing else. -/
theorem value_addRule (t : Tokenizer V) (least : Level) (spec : RuleSpec V) :
    (t.addRule least spec.category spec.pattern spec.transform).value =
      (spec.ruleFor t.rules).map fun rule => { t with rules := t.rules.push rule } := by
  unfold addRule RuleSpec.ruleFor
  cases Pattern.compile spec.pattern with
  | error e => rfl
  | ok pattern =>
    dsimp only
    unfold register
    dsimp only
    split <;> rfl

theorem registers_of_ok {rule : Rule V} (h : spec.ruleFor t.rules = .ok rule) :
    (Call.addRule spec).registers least t = [spec] := by
  rw [Call.registers, value_addRule, h]
  rfl

theorem registers_of_error {e : LexicalError} (h : spec.ruleFor t.rules = .error e) :
    (Call.addRule spec).registers least t = [] := by
  rw [Call.registers, value_addRule, h]
  rfl

theorem apply_of_ok {rule : Rule V} (h : spec.ruleFor t.rules = .ok rule) :
    (Call.addRule spec).apply least t = { t with rules := t.rules.push rule } := by
  rw [Call.apply, value_addRule, h]
  rfl

theorem apply_of_error {e : LexicalError} (h : spec.ruleFor t.rules = .error e) :
    (Call.addRule spec).apply least t = t := by
  rw [Call.apply, value_addRule, h]
  rfl

/-- Of several rules, the others are registered after the first one. -/
theorem addRules_cons {rule : Rule V} (h : spec.ruleFor t.rules = .ok rule) (least : Level)
    (specs : List (RuleSpec V)) :
    (t.addRules least (spec :: specs)).error =
        ({ t with rules := t.rules.push rule }.addRules least specs).error ∧
      (t.addRules least (spec :: specs)).tokenizer =
        ({ t with rules := t.rules.push rule }.addRules least specs).tokenizer := by
  have hvalue := t.value_addRule least spec
  rw [h] at hvalue
  rw [addRules]
  cases hadd : t.addRule least spec.category spec.pattern spec.transform with
  | mk value events =>
    rw [hadd] at hvalue
    obtain rfl : value = _ := hvalue
    exact ⟨rfl, rfl⟩

/-! ## What a history leaves behind -/

/-- The table after a call. -/
def Call.table (rules : Array (Rule V)) : Call V → Array (Rule V)
  | addRule spec =>
    match spec.ruleFor rules with
    | .ok rule => rules.push rule
    | .error _ => rules
  | _ => rules

/-- **What a call can do** to the rules, the strategy and the settings; counts and place may be any
afterwards. -/
theorem Call.exists_apply_eq (least : Level) (t : Tokenizer V) (call : Call V) :
    ∃ metrics position, call.apply least t =
      ⟨call.table t.rules, call.strategy?.getD t.strategy, call.preferences?.getD t.preferences, metrics,
        position⟩ := by
  cases call with
  | addRule spec =>
    refine ⟨t.metrics, t.position, ?_⟩
    rw [table]
    cases h : spec.ruleFor t.rules with
    | ok rule => rw [apply_of_ok h]; rfl
    | error e => rw [apply_of_error h]; rfl
  | setStrategy | setPreferences => exact ⟨t.metrics, t.position, rfl⟩
  | tokenize text filter =>
    obtain ⟨accepted, cut, failure, hr, he⟩ := t.exists_run least text filter
    rw [apply, tokenize_eq hr he]
    cases failure with
    | none => exact ⟨_, _, rfl⟩
    | some failure => exact ⟨_, _, rfl⟩

theorem rules_run (t : Tokenizer V) (history : History V) :
    (t.run history).rules = (work history).foldl Call.table t.rules := by
  induction history generalizing t with
  | nil => rfl
  | cons entry history ih =>
    obtain ⟨least, call⟩ := entry
    obtain ⟨metrics, position, h⟩ := call.exists_apply_eq least t
    rw [run, ih, h]
    cases call <;> rfl

theorem last_cons {α : Type} (sets : Call V → Option α) (least : Level) (call : Call V) (history : History V)
    (initial : α) : last sets ((least, call) :: history) initial =
      last sets history ((sets call).getD initial) := by
  rw [last, last, List.filterMap_cons]
  cases sets call with
  | none => rfl
  | some a => rw [List.getLast?_cons]; rfl

/-- What only some calls set is what was set last. -/
theorem run_last {α : Type} (field : Tokenizer V → α) (sets : Call V → Option α)
    (h : ∀ least t call, field (Call.apply least t call) = (sets call).getD (field t)) (t : Tokenizer V)
    (history : History V) : field (t.run history) = last sets history (field t) := by
  induction history generalizing t with
  | nil => rfl
  | cons entry history ih => rw [run, ih, h, last_cons]

theorem strategy_run (t : Tokenizer V) (history : History V) :
    (t.run history).strategy = last Call.strategy? history t.strategy := by
  refine run_last (·.strategy) Call.strategy? (fun least t call => ?_) t history
  obtain ⟨metrics, position, h⟩ := call.exists_apply_eq least t
  rw [h]

theorem preferences_run (t : Tokenizer V) (history : History V) :
    (t.run history).preferences = last Call.preferences? history t.preferences := by
  refine run_last (·.preferences) Call.preferences? (fun least t call => ?_) t history
  obtain ⟨metrics, position, h⟩ := call.exists_apply_eq least t
  rw [h]

/-- The strategy set last does not depend on calls that are about settings. -/
theorem last_strategy_work (history : History V) (initial : Strategy) :
    last Call.strategy? history initial =
      ((work history).filterMap Call.strategy?).getLast?.getD initial := by
  rw [last, work, List.filterMap_filterMap]
  congr 3
  funext entry
  obtain ⟨least, call⟩ := entry
  cases call <;> rfl

/-- **A new tokenizer takes the rules that another has registered.** -/
theorem addRules_registered {fresh : Tokenizer V} (h : fresh.rules = t.rules) (level : Level)
    (history : History V) :
    (fresh.addRules level (t.registered history)).error = none ∧
      (fresh.addRules level (t.registered history)).tokenizer =
        { fresh with rules := (t.run history).rules } := by
  induction history generalizing t fresh with
  | nil => exact ⟨rfl, by rw [run, ← h]; rfl⟩
  | cons entry history ih =>
    obtain ⟨least, call⟩ := entry
    have hother (hnone : call.registers least t = []) (hrules : (call.apply least t).rules = t.rules) :
        (fresh.addRules level (t.registered ((least, call) :: history))).error = none ∧
          (fresh.addRules level (t.registered ((least, call) :: history))).tokenizer =
            { fresh with rules := (t.run ((least, call) :: history)).rules } := by
      rw [registered, hnone]
      exact ih (h.trans hrules.symm)
    cases call with
    | addRule spec =>
      cases hrule : spec.ruleFor t.rules with
      | error e => exact hother (registers_of_error hrule) (by rw [apply_of_error hrule])
      | ok rule =>
        rw [← h] at hrule
        obtain ⟨herror, htokenizer⟩ := addRules_cons hrule level
          ((Call.addRule spec |>.apply least t).registered history)
        rw [h] at hrule
        rw [registered, registers_of_ok hrule, List.singleton_append, herror, htokenizer]
        have hrules : { fresh with rules := fresh.rules.push rule }.rules =
            (Call.addRule spec |>.apply least t).rules := by
          rw [apply_of_ok hrule, h]
        exact ih hrules
    | setStrategy | setPreferences => exact hother rfl rfl
    | tokenize text filter =>
      obtain ⟨metrics, position, happly⟩ := (Call.tokenize text filter).exists_apply_eq least t
      exact hother rfl (by rw [happly]; rfl)

/-! ## What a cut depends on -/

/-- The loop does not see counts and places of earlier cuts. -/
theorem cutFrom_forget (t : Tokenizer V) (metrics : Metrics) (position : Position)
    (rules : List (Rule V × Nat)) (least : Level) (text : String) (filter : List String) (budget : Nat)
    (cut : Cut V) : { t with metrics, position }.cutFrom rules least text filter budget cut =
      t.cutFrom rules least text filter budget cut := by
  induction budget generalizing cut with
  | zero => rfl
  | succ budget ih =>
    have hturn : { t with metrics, position }.turn rules text cut.scan = t.turn rules text cut.scan := rfl
    rw [cutFrom, cutFrom, hturn]
    cases t.turn rules text cut.scan with
    | fail failure => rfl
    | accept choice ambiguous =>
      dsimp only
      rw [ih]
      rfl

/-- **A cut does not depend on earlier cuts**, but on the rules, the strategy and the settings alone. -/
theorem tokenize_congr (hrules : t₁.rules = t₂.rules) (hstrategy : t₁.strategy = t₂.strategy)
    (hpreferences : t₁.preferences = t₂.preferences) (least : Level) (text : String)
    (filter : List String) : t₁.tokenize least text filter = t₂.tokenize least text filter := by
  obtain ⟨rules, strategy, preferences, metrics, position⟩ := t₁
  subst hrules hstrategy hpreferences
  have hnumbered : numbered ⟨t₂.rules, t₂.strategy, t₂.preferences, metrics, position⟩ = t₂.numbered := rfl
  have hbegin : begin ⟨t₂.rules, t₂.strategy, t₂.preferences, metrics, position⟩ least text =
    t₂.begin least text := rfl
  rw [tokenize, tokenize, cutFrom_forget t₂ metrics position, hnumbered, hbegin]
  generalize t₂.cutFrom t₂.numbered least text filter Limits.tokenCount (t₂.begin least text) = ended
  obtain ⟨failure, cut⟩ := ended
  cases failure <;> rfl

theorem turn_congr (hrules : t₁.rules = t₂.rules) (hstrategy : t₁.strategy = t₂.strategy) (text : String)
    (scan : Scan) : t₁.turn t₁.numbered text scan = t₂.turn t₂.numbered text scan := by
  rw [turn, turn, numbered, numbered, hrules, hstrategy]

theorem ambiguousAt_congr (hrules : t₁.rules = t₂.rules) (text : String) :
    t₁.ambiguousAt text = t₂.ambiguousAt text := by
  funext tok
  rw [ambiguousAt, ambiguousAt, choicesAt, choicesAt, numbered, numbered, hrules]

/-- **Settings and levels do not matter to a cut**, but to its events and its counts by category. -/
theorem tokenize_settings (hrules : t₁.rules = t₂.rules) (hstrategy : t₁.strategy = t₂.strategy)
    (least₁ least₂ : Level) (text : String) (filter : List String) :
    let out₁ := t₁.tokenize least₁ text filter
    let out₂ := t₂.tokenize least₂ text filter
    out₁.result = out₂.result ∧ out₁.tokenizer.position = out₂.tokenizer.position ∧
      { out₁.tokenizer.metrics with categoryCounts := .empty } =
        { out₂.tokenizer.metrics with categoryCounts := .empty } := by
  intro out₁ out₂
  -- turns see neither settings nor level, so both loops take the same ones
  have hturn := turn_congr hrules hstrategy text
  obtain ⟨accepted, cut₂, failure, hr₂, he₂⟩ := t₂.exists_run least₂ text filter
  obtain ⟨cut₁, hr₁⟩ := hr₂.follow (P := fun _ => True) (fun _ _ ht => ⟨_, (hturn _).trans ht⟩)
    (fun _ _ => trivial) least₁ filter
  have he₁ : t₁.Ends text accepted.length cut₁.scan failure := by
    rw [hr₁.scan_eq hr₂]
    cases he₂ with
    | covered hrest => exact .covered hrest
    | spent hrest hn => exact .spent hrest hn
    | failed hrest hn ht => exact .failed hrest hn ((hturn _).trans ht)
  refine ⟨?_, ?_, ?_⟩
  · rw [hr₁.result_tokenize he₁, hr₂.result_tokenize he₂]
  · rw [hr₁.position_tokenize he₁, hr₂.position_tokenize he₂]
  · rw [hr₁.metrics_tokenize he₁, hr₂.metrics_tokenize he₂, ambiguousAt_congr hrules]
    rfl

/-- **A tokenizer carries nothing from call to call but rules, strategy and settings.**  After any history, a
text is cut as by a new tokenizer that was given the rules registered so far, all of which it takes, and the
strategy and settings set last: the whole outcome is the same.  Of settings and levels, those of the history
included, only the events and the counts by category depend. -/
theorem tokenize_history (preferences : LexicalPreferences) (history : History V) (least : Level)
    (text : String) (filter : List String) :
    let out := ((new preferences).run history).tokenize least text filter
    (∀ level, let fresh := (new preferences).addRules level ((new preferences).registered history)
      fresh.error = none ∧
      { fresh.tokenizer with
        strategy := last Call.strategy? history .longest
        preferences := last Call.preferences? history preferences }.tokenize least text filter = out) ∧
    ∀ preferences' history' least', work history' = work history →
      let out' := ((new preferences').run history').tokenize least' text filter
      out'.result = out.result ∧ out'.tokenizer.position = out.tokenizer.position ∧
        { out'.tokenizer.metrics with categoryCounts := .empty } =
          { out.tokenizer.metrics with categoryCounts := .empty } := by
  intro out
  refine ⟨fun level => ?_, fun preferences' history' least' hwork => ?_⟩
  · obtain ⟨herror, htokenizer⟩ := addRules_registered
      (rfl : (new preferences : Tokenizer V).rules = (new preferences).rules) level history
    refine ⟨herror, tokenize_congr ?_ ?_ ?_ least text filter⟩
    · rw [htokenizer]
    · rw [strategy_run]
      rfl
    · rw [preferences_run]
      rfl
  · refine tokenize_settings ?_ ?_ least' least text filter
    · rw [rules_run, rules_run, hwork]
      rfl
    · rw [strategy_run, strategy_run, last_strategy_work, last_strategy_work, hwork]
      rfl

/-- A rule that is refused, a cut that fails and settings leave nothing behind: the text is cut as if only the
one rule had been registered. -/
theorem tokenize_history_refused :
    let history : History Int := [(.debug, .addRule ⟨"WORD", "é+", none⟩), (.info, .addRule ⟨"OPEN", "(", none⟩),
      (.debug, .tokenize "é?" ["WORD"]), (.info, .setPreferences ⟨true, true, true⟩)]
    let plain : History Int := [(.info, .addRule ⟨"WORD", "é+", none⟩), (.info, .addRule ⟨"OPEN", "(", none⟩),
      (.error, .tokenize "é?" ["WORD"])]
    let quiet : LexicalPreferences := ⟨false, false, false⟩
    work plain = work history ∧ ((new quiet).registered history).map (·.category) = ["WORD"] ∧
      (((new quiet).run history).tokenize .debug "éé" []).result.isOk = true ∧
      (((new quiet).run plain).tokenize .info "éé" []).result =
        (((new quiet).run history).tokenize .debug "éé" []).result := by
  intro history plain quiet
  have hwork : work plain = work history := rfl
  have hresult := ((tokenize_history quiet history .debug "éé" []).2 quiet plain .info hwork).1
  exact ⟨hwork, by decide +kernel, by decide +kernel, hresult⟩

end Descent.Tokenizer
