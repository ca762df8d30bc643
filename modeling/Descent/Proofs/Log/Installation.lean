/-
  What is installed stays, and what a start that fails leaves behind.

  * `Installation.Call` are the ways to install something, and `Installation.run` a sequence of them.
  * `Installation.KeepsTo`: what is installed once is never exchanged.  No call does that (`Call.keepsTo`), so
    no sequence of calls does (`keepsTo_run`).
  * `Installation.start_cases`: a start goes through if nothing is installed, and stops at what is.  The checks
    on the way never stop it (`checkLimits_eq`, `startLexical_eq`, `startCursor_eq`).
  * `Installation.failed_start_keeps`: a start that fails changes nothing that was installed, but where only a
    logger was, its preferences stay (`start_not_atomic`).
  * `Installation.start_final`: after a start, however it went, no other one changes anything.
-/
import Descent.Log.Installation

namespace Descent.Installation

variable {s t u : Installation} {env : Environment} {config : Config} {e : InstallError}

/-! ## Calls -/

/-- The ways to install something. -/
inductive Call where
  | start (env : Environment) (config : Config)
  | installPreferences (preferences : LoggingPreferences)
  | startLogging (env : Environment)
  | installLogger (service : Service)

/-- What is installed after a call; one that fails, but for a start, installs nothing. -/
def Call.apply : Call → Installation → Installation
  | start env config, s => (s.start env config).installation
  | installPreferences preferences, s => (s.installPreferences preferences).toOption.getD s
  | startLogging env, s => ((s.startLogging env).toOption.map Prod.fst).getD s
  | installLogger service, s => (s.installLogger service).toOption.getD s

/-- What is installed after a sequence of calls. -/
def run (s : Installation) (calls : List Call) : Installation := calls.foldl (fun s call => call.apply s) s

/-! ## Checks that always succeed -/

theorem checkLimits_eq : checkLimits = .ok () := rfl

theorem checkCodes_eq_ok {part : String} {codes : List Code} :
    checkCodes part codes = .ok () ↔ ∀ code ∈ codes, code.info?.isSome = true := by
  unfold checkCodes
  cases hfind : codes.find? fun code => code.info?.isNone with
  | none =>
    have hall := List.find?_eq_none.1 hfind
    refine ⟨fun _ code hc => ?_, fun _ => rfl⟩
    simpa [Option.isSome_iff_ne_none] using hall code hc
  | some code =>
    refine ⟨fun h => (by cases h), fun h => ?_⟩
    have hmissing : code.info? = Option.none := by simpa using List.find?_some hfind
    have hregistered := h code (List.mem_of_find?_eq_some hfind)
    rw [hmissing] at hregistered
    cases hregistered

/-- The codes of cutting texts are registered. -/
theorem startLexical_eq (least : Level) : startLexical least = .ok (lexicalLimits least) := by
  have hcodes : checkCodes "Lexical" Code.lexical = .ok () := checkCodes_eq_ok.2 (by decide)
  rw [startLexical, hcodes]
  rfl

/-- The codes of walking tokens are registered. -/
theorem startCursor_eq (least : Level) : startCursor least = .ok (cursorLimits least) := by
  have hcodes : checkCodes "Syntax" Code.parsing = .ok () := checkCodes_eq_ok.2 (by decide)
  rw [startCursor, hcodes]
  rfl

/-! ## What a call can do -/

theorem installPreferences_cases (s : Installation) (p : LoggingPreferences) :
    (s.preferences.isSome = true ∧ s.installPreferences p = .error .preferences) ∨
    (s.preferences = Option.none ∧ s.installPreferences p = .ok ⟨some p, s.logger⟩) := by
  unfold installPreferences
  cases hp : s.preferences with
  | some => exact .inl ⟨rfl, rfl⟩
  | none => exact .inr ⟨rfl, rfl⟩

theorem installLogger_cases (s : Installation) (service : Service) :
    (s.logger.isSome = true ∧ s.installLogger service = .error .logger) ∨
    (s.logger = Option.none ∧ s.installLogger service = .ok ⟨s.preferences, some service⟩) := by
  unfold installLogger
  cases hl : s.logger with
  | some => exact .inl ⟨rfl, rfl⟩
  | none => exact .inr ⟨rfl, rfl⟩

theorem startLogging_cases (s : Installation) (env : Environment) :
    (s.logger.isSome = true ∧ s.startLogging env = .error .logger) ∨
    (s.logger = Option.none ∧ ∃ events, s.startLogging env =
      .ok (⟨s.preferences, some (.ofPreferences (s.effective env))⟩, events)) := by
  rw [startLogging, checkLimits_eq]
  rcases s.installLogger_cases (.ofPreferences (s.effective env)) with ⟨hl, h⟩ | ⟨hl, h⟩ <;> rw [h]
  · exact .inl ⟨hl, rfl⟩
  · exact .inr ⟨hl, _, rfl⟩

/-- **A start stops at what is installed.**  It finds the preferences first, and has installed its own when it
finds a logger. -/
theorem start_cases (s : Installation) (env : Environment) (config : Config) :
    (s.preferences.isSome = true ∧ s.start env config = ⟨s, [], some .preferences⟩) ∨
    (s.preferences = Option.none ∧ s.logger.isSome = true ∧
      s.start env config = ⟨⟨some config.logging, s.logger⟩, [], some .logger⟩) ∨
    (s.preferences = Option.none ∧ s.logger = Option.none ∧ ∃ events, s.start env config =
      ⟨⟨some config.logging, some (.ofPreferences config.logging)⟩, events, Option.none⟩) := by
  unfold start
  rcases s.installPreferences_cases config.logging with ⟨hp, h⟩ | ⟨hp, h⟩
  · rw [h]
    exact .inl ⟨hp, rfl⟩
  · right
    rw [h]
    dsimp only
    rcases startLogging_cases ⟨some config.logging, s.logger⟩ env with ⟨hl, h⟩ | ⟨hl, events, h⟩
    · rw [h]
      exact .inl ⟨hp, hl, rfl⟩
    · rw [h]
      dsimp only
      rw [startLexical_eq, startCursor_eq]
      exact .inr ⟨hp, hl, _, rfl⟩

/-! ## What is installed stays -/

/-- Whatever is installed is still installed later. -/
structure KeepsTo (s t : Installation) : Prop where
  preferences : ∀ p, s.preferences = some p → t.preferences = some p
  logger : ∀ service, s.logger = some service → t.logger = some service

namespace KeepsTo

theorem refl (s : Installation) : s.KeepsTo s := ⟨fun _ h => h, fun _ h => h⟩

theorem trans (h : s.KeepsTo t) (h' : t.KeepsTo u) : s.KeepsTo u :=
  ⟨fun p hp => h'.preferences p (h.preferences p hp), fun l hl => h'.logger l (h.logger l hl)⟩

/-- Preferences may be added where there are none. -/
theorem addPreferences (h : s.preferences = Option.none) (p : LoggingPreferences) :
    s.KeepsTo ⟨some p, s.logger⟩ := by
  refine ⟨fun q hq => ?_, fun _ hl => hl⟩
  rw [h] at hq
  cases hq

/-- A logger may be added where there is none. -/
theorem addLogger (h : s.logger = Option.none) (service : Service) :
    s.KeepsTo ⟨s.preferences, some service⟩ := by
  refine ⟨fun _ hp => hp, fun l hl => ?_⟩
  rw [h] at hl
  cases hl

end KeepsTo

/-- **No call exchanges what is installed.** -/
theorem Call.keepsTo (call : Call) (s : Installation) : s.KeepsTo (call.apply s) := by
  cases call with
  | start env config =>
    rw [apply]
    rcases s.start_cases env config with ⟨-, h⟩ | ⟨hp, -, h⟩ | ⟨hp, hl, events, h⟩ <;> rw [h]
    · exact .refl s
    · exact .addPreferences hp _
    · exact (KeepsTo.addPreferences hp config.logging).trans
        (.addLogger (s := ⟨some config.logging, s.logger⟩) hl _)
  | installPreferences p =>
    rw [apply]
    rcases s.installPreferences_cases p with ⟨-, h⟩ | ⟨hp, h⟩ <;> rw [h]
    · exact .refl s
    · exact .addPreferences hp p
  | startLogging env =>
    rw [apply]
    rcases s.startLogging_cases env with ⟨-, h⟩ | ⟨hl, events, h⟩ <;> rw [h]
    · exact .refl s
    · exact .addLogger hl _
  | installLogger service =>
    rw [apply]
    rcases s.installLogger_cases service with ⟨-, h⟩ | ⟨hl, h⟩ <;> rw [h]
    · exact .refl s
    · exact .addLogger hl service

/-- **What is installed stays installed**, whatever is called later. -/
theorem keepsTo_run (s : Installation) (calls : List Call) : s.KeepsTo (s.run calls) := by
  induction calls generalizing s with
  | nil => exact .refl s
  | cons call calls ih => exact (call.keepsTo s).trans (ih (call.apply s))

/-! ## Starts -/

/-- After a start there are preferences, whether it failed or not. -/
theorem isSome_preferences_start (s : Installation) (env : Environment) (config : Config) :
    (s.start env config).installation.preferences.isSome = true := by
  rcases s.start_cases env config with ⟨hp, h⟩ | ⟨-, -, h⟩ | ⟨-, -, events, h⟩ <;> rw [h]
  · exact hp
  · rfl
  · rfl

/-- **Only the first start installs anything.**  After it, whether it failed or not and whatever is called in
between, every other one fails and changes nothing. -/
theorem start_final (s : Installation) (env env' : Environment) (config config' : Config)
    (calls : List Call) :
    let later := (s.start env config).installation.run calls
    later.start env' config' = ⟨later, [], some .preferences⟩ := by
  intro later
  obtain ⟨p, hp⟩ := Option.isSome_iff_exists.1 (s.isSome_preferences_start env config)
  have hlater : later.preferences = some p := (keepsTo_run _ calls).preferences p hp
  rcases later.start_cases env' config' with ⟨-, h⟩ | ⟨hnone, -⟩ | ⟨hnone, -⟩
  · exact h
  · rw [hlater] at hnone; cases hnone
  · rw [hlater] at hnone; cases hnone

/-- **A start that fails changes nothing that was installed**, whatever was called before.  Preferences that
were there are there still, and then nothing at all has changed.  If there were none, there was a logger, which
the start stopped at, and it has left its own preferences.  The error says which of the two was there. -/
theorem failed_start_keeps (calls : List Call) (env : Environment) (config : Config) (e : InstallError)
    (h : ((run none calls).start env config).error = some e) :
    let before := run none calls
    let after := ((run none calls).start env config).installation
    after.logger = before.logger ∧
    (before.preferences.isSome = true → e = .preferences ∧
      e.message = "Runtime preferences already initialized" ∧ after = before) ∧
    (before.preferences = Option.none → e = .logger ∧
      e.message = "Global logger already initialized" ∧ before.logger.isSome = true ∧
      after.preferences = some config.logging) := by
  intro before after
  have hafter : after = (before.start env config).installation := rfl
  rcases before.start_cases env config with ⟨hp, hs⟩ | ⟨hp, hl, hs⟩ | ⟨-, -, events, hs⟩
  · rw [hs] at h hafter
    cases h
    refine ⟨by rw [hafter], fun _ => ⟨rfl, rfl, hafter⟩, fun hnone => ?_⟩
    rw [hnone] at hp
    cases hp
  · rw [hs] at h hafter
    cases h
    refine ⟨by rw [hafter], fun hsome => ?_, fun _ => ⟨rfl, rfl, hl, by rw [hafter]⟩⟩
    rw [hp] at hsome
    cases hsome
  · rw [hs] at h
    cases h

/-- Settings that ask for JSON and every detail, and for no output at all. -/
def chatty : Config := ⟨⟨false, false, false⟩, ⟨' ', false⟩, ⟨true, false, .debug⟩⟩

/-- Preferences that were installed survive a start that fails, and so does a logger installed after them. -/
theorem failed_start_keeps_both :
    let calls := [Call.installPreferences ⟨false, true, .info⟩, .installLogger .disabled]
    ((run none calls).start .empty chatty).error = some .preferences ∧
      ((run none calls).start .empty chatty).installation = ⟨some ⟨false, true, .info⟩, some .disabled⟩ := by
  intro calls
  have hfails : ((run none calls).start .empty chatty).error = some .preferences := rfl
  have hkeeps := (failed_start_keeps calls .empty chatty .preferences hfails).2.1 rfl
  exact ⟨hfails, hkeeps.2.2⟩

/-- A start that fails may leave something behind: where only a logger was installed, there are preferences
afterwards. -/
theorem start_not_atomic :
    ¬ ∀ (calls : List Call) (env : Environment) (config : Config) (e : InstallError),
      ((run none calls).start env config).error = some e →
        ((run none calls).start env config).installation = run none calls := by
  intro h
  have hsame := h [.installLogger .disabled] .empty chatty .logger rfl
  have hpreferences : some chatty.logging = Option.none := congrArg preferences hsame
  cases hpreferences

end Descent.Installation
