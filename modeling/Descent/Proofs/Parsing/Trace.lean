/-
  The events of a parse.

  * `Production.Closes` says what an event tells of how a parse ended.
  * `Production.exists_runOn_parse`: a parse is the start rule between an opening and one closing event.
  * `Production.Built.appends`: productions that are built of operations only add events to those there are.
  * `Production.logged_once`: what a logger that keeps everything has of a cut and of a parse; each ends with
    one event that tells how it ended, and a text that cannot be cut has no events of a parse.
  * `Production.events_parseSource`: all events of the parse of a text, from the first to the last.
-/
import Descent.Proofs.Lexical.Trace
import Descent.Proofs.Parsing.Pipeline

namespace Descent.Production

variable {V α : Type} {start p : Production V α} {least : Level}

/-! ## Parses -/

/-- An event tells how a parse ended: where the cursor stands and how many diagnostics are recorded, or with
what error. -/
def Closes (result : Except ParseError α) (cursor : Cursor V) (e : Event) : Prop :=
  match result with
  | .ok _ => e.level = .info ∧ e.code = ⟨"I040"⟩ ∧
      e.context.get? "tokens_consumed" = some (toString cursor.position) ∧
      e.context.get? "soft_errors" = some (toString cursor.errors.size)
  | .error error => e.level = .error ∧ e.code = error.code

theorem closes_closing (result : Except ParseError α) (cursor : Cursor V) :
    Closes result cursor (closing result cursor) := by
  cases result with
  | error e => exact ⟨rfl, rfl⟩
  | ok value =>
    refine ⟨rfl, rfl, ?_, ?_⟩
    · exact Event.get?_withContext rfl (by simp) (.head _)
    · exact Event.get?_withContext rfl (by simp) (.tail _ (.head _))

/-- **A parse is the start rule between an opening and one closing event.** -/
theorem exists_runOn_parse (start : Production V α) (tokens : Array (Token V)) (source : Option String)
    (s : Session V) : ∃ opening, Event.Opens s.least "Starting syntax analysis" opening ∧
      let ruled := start.runOn ⟨s.cursor.load tokens source, s.least, opening ++ s.events⟩
      let parsed := (parse start tokens source).runOn s
      seen parsed = seen ruled ∧ parsed.2.events = closing ruled.1 ruled.2.cursor :: ruled.2.events :=
  ⟨_, Event.opens_debugEvent s.least (by decide) _, rfl, rfl⟩

/-! ## Events are only added -/

/-- The events of before stay, and others come after them. -/
def Appends (p : Production V α) : Prop := ∀ s, ∃ own, (p.runOn s).2.events = own ++ s.events

theorem runOn_attempt_events (p : Production V α) (s : Session V) :
    ∃ own, ((attempt p).runOn s).2.events = own ++ (p.runOn s).2.events := by
  rw [runOn, attempt, runOn]
  rcases p s with ⟨e | a, after⟩
  · exact ⟨_, rfl⟩
  · exact ⟨[], rfl⟩

/-- **Productions that are built of operations only add events.** -/
theorem Built.appends (hp : p.Built) : p.Appends := by
  -- a sequence and an attempt add what their parts add, however these end
  induction hp with
  | pure | throw | look | object | addError | restore => exact fun s => ⟨[], rfl⟩
  | advance | matchAny | consume => exact fun s => ⟨movement s.least s.cursor _, rfl⟩
  | synchronize categories => exact fun s => ⟨[_], rfl⟩
  | caught _ ih => exact ih
  | @bind _ _ p f _ _ ihp ihf =>
    intro s
    obtain ⟨first, hfirst⟩ := ihp s
    rcases hrun : p.runOn s with ⟨e | a, after⟩ <;> rw [hrun] at hfirst
    · exact ⟨first, by rw [runOn_bind_error hrun]; exact hfirst⟩
    · obtain ⟨second, hsecond⟩ := ihf a after
      refine ⟨second ++ first, ?_⟩
      rw [runOn_bind_ok hrun, hsecond, hfirst, List.append_assoc]
  | @attempt _ p _ ih =>
    intro s
    obtain ⟨inner, hinner⟩ := ih s
    obtain ⟨outer, houter⟩ := runOn_attempt_events p s
    exact ⟨outer ++ inner, by rw [houter, hinner, List.append_assoc]⟩

/-! ## Texts -/

variable {t : Tokenizer V} {text : String} {filter : List String} {s : Session V}

/-- **Each cut and each parse logs once how it ended.**  A logger that keeps everything has, of a cut, its
opening, one event for each accepted token and one that tells how the cut ended; of a parse, after the events
of the start rule, one that tells how the parse ended; and of a text that cannot be cut, the events of the cut
alone. -/
theorem logged_once {service : Service} (hkeeps : service.KeepsAll) {installed : Installation}
    (hlogger : installed.logger = some service) (env : Environment) (time : String) (start : Production V α)
    (t : Tokenizer V) (text : String) (filter : List String) :
    let least := installed.least env
    let out := t.tokenize least text filter
    let logged := fun s : Session V => installed.dispatch s.events.reverse time
    (∃ accepted cut failure events, t.Reaches least text filter accepted cut ∧
      t.Ends text accepted.length cut.scan failure ∧ t.Trace least filter accepted out events ∧
      installed.dispatch out.events time = events.map .kept) ∧
    (∀ tokens source (s : Session V), s.least = least →
      ∃ opening closing, Event.Opens least "Starting syntax analysis" opening ∧
        let ruled := start.runOn ⟨s.cursor.load tokens source, least, opening ++ s.events⟩
        let parsed := (parse start tokens source).runOn s
        seen parsed = seen ruled ∧ logged parsed.2 = logged ruled.2 ++ [.kept closing] ∧
          Closes ruled.1 ruled.2.cursor closing) ∧
    ∀ (s : Session V) e, s.least = least → out.result = .error e →
      logged (parseSource start t text filter s).1.2 = logged s ++ installed.dispatch out.events time := by
  intro least out logged
  have hdispatch (events : List Event) : installed.dispatch events time = events.map .kept :=
    hkeeps.dispatch hlogger events time
  refine ⟨?_, fun tokens source s hs => ?_, fun s e hs he => ?_⟩
  · obtain ⟨accepted, cut, failure, hr, hends⟩ := t.exists_run least text filter
    exact ⟨accepted, cut, failure, out.events, hr, hends, Tokenizer.trace_tokenize hr hends, hdispatch _⟩
  · obtain ⟨opening, hopens, hparse⟩ := exists_runOn_parse start tokens source s
    rw [hs] at hopens hparse
    obtain ⟨hseen, hevents⟩ := hparse
    refine ⟨opening, _, hopens, hseen, ?_, closes_closing _ _⟩
    show installed.dispatch _ time = installed.dispatch _ time ++ _
    rw [hevents, hdispatch, hdispatch, List.reverse_cons, List.map_append]
    rfl
  · have hcut : t.tokenize s.least text filter = out := by rw [hs]
    have hevents : (parseSource start t text filter s).1.2.events = out.events.reverse ++ s.events := by
      rw [parseSource, fromText_of_error ((congrArg Outcome.result hcut).trans he), hcut]
    show installed.dispatch _ time = installed.dispatch _ time ++ _
    rw [hevents, hdispatch, hdispatch, hdispatch, List.reverse_append, List.reverse_reverse, List.map_append]

/-- A memory has five events of a text of two words and a blank, and two of a text whose second character no
rule matches, where tokens are not logged. -/
theorem logged_once_memory :
    let service := Service.new .memory .debug
    let installed : Installation := ⟨some ⟨false, true, .debug⟩, some service⟩
    let quiet := Tokenizer.ofRules Tokenizer.lexicon
    let chatty := { quiet with preferences := ⟨false, false, true⟩ }
    let word : Production Int (Token Int) := consume "WORD" "Expected word"
    let fresh : Session Int := ⟨.new ⟨' ', false⟩, .debug, []⟩
    service.KeepsAll ∧ installed.logger = some service ∧
      (∃ accepted events, events.length = 5 ∧
        chatty.Trace .debug ["BLANK"] accepted (chatty.tokenize .debug "é î" ["BLANK"]) events) ∧
      (installed.dispatch (parseSource word quiet "é?" [] fresh).1.2.events.reverse "").length = 2 := by
  intro service installed quiet chatty word fresh
  have hkeeps : service.KeepsAll := Service.keepsAll_iff.2 rfl
  have hlogger : installed.logger = some service := rfl
  refine ⟨hkeeps, hlogger, ?_, ?_⟩
  · obtain ⟨accepted, cut, failure, events, -, -, htrace, hkept⟩ :=
      (logged_once hkeeps hlogger .empty "" word chatty "é î" ["BLANK"]).1
    refine ⟨accepted, events, ?_, htrace⟩
    have hlength : _ = events.length := (congrArg List.length hkept).trans (List.length_map _)
    rw [← hlength]
    decide +kernel
  · have hfails : ∃ e, (quiet.tokenize .debug "é?" []).result = .error e := ⟨_, rfl⟩
    obtain ⟨e, he⟩ := hfails
    have hlogged := (logged_once hkeeps hlogger .empty "" word quiet "é?" []).2.2 fresh e rfl he
    refine (congrArg List.length hlogged).trans ?_
    decide +kernel

/-- **The events of a text that is parsed**, the latest first: after those of before and of the cut come the
opening of the parse, those of the start rule, and the closing. -/
theorem events_parseSource (hstart : start.Appends) {tokens : List (Token V)}
    (hok : (t.tokenize s.least text filter).result = .ok tokens) :
    let cut := t.tokenize s.least text filter
    let parsed := (parseSource start t text filter s).1
    ∃ opening own closing, Event.Opens s.least "Starting syntax analysis" opening ∧
      parsed.2.events = closing :: (own ++ (opening ++ (cut.events.reverse ++ s.events))) ∧
      Closes parsed.1 parsed.2.cursor closing := by
  intro cut parsed
  have hparsed : parsed = (parse start tokens.toArray (some text)).runOn
    { s with events := cut.events.reverse ++ s.events } := fromText_of_ok hok (parse start)
  obtain ⟨opening, hopens, hseen, hevents⟩ := exists_runOn_parse start tokens.toArray (some text)
    { s with events := cut.events.reverse ++ s.events }
  obtain ⟨own, hown⟩ := hstart
    ⟨s.cursor.load tokens.toArray (some text), s.least, opening ++ (cut.events.reverse ++ s.events)⟩
  rw [← hparsed] at hseen hevents
  refine ⟨opening, own, _, hopens, hevents.trans (congrArg _ hown), ?_⟩
  obtain ⟨hresult, hcursor⟩ := Prod.mk.inj hseen
  rw [hresult, hcursor]
  exact closes_closing _ _

end Descent.Production
