/-
  The events of a cut.

  * `Event.Opens`, `Tokenizer.Accepts` and `Tokenizer.Closes` say what events tell: that a cut starts, that a
    token is accepted, and how the cut ended.
  * `Tokenizer.Reaches.events_eq`: on its way the loop emits one event for each token it accepts.
  * `Tokenizer.Ends.reports`: a failure has an event with its code, at the place where the loop stops.
  * `Tokenizer.Trace` is the order of all these, and `Tokenizer.trace_tokenize`: a cut emits the one of its run.
    So one of its events is not a detail (`Tokenizer.Trace.filter_level`).
-/
import Descent.Proofs.Lexical.Run
import Descent.Proofs.Log.Event

namespace Descent

variable {V : Type}

/-- What tells that something begins: one event with a message if details are logged, and none if not. -/
def Event.Opens (least : Level) (message : String) (events : List Event) : Prop :=
  if least = .debug then ∃ e, events = [e] ∧ e.level = .debug ∧ e.message = message else events = []

/-- Details that are logged in any case open something. -/
theorem Event.opens_debugEvent (least : Level) {message : String}
    (h : message.length ≤ Limits.messageLength) (context : List (String × String)) :
    Opens least message (debugEvent least true message context) := by
  rw [Opens, debugEvent_eq]
  by_cases hl : least = .debug
  · rw [if_pos hl, if_pos ⟨rfl, hl⟩]
    exact ⟨_, rfl, rfl, truncateMessage_eq h⟩
  · rw [if_neg hl, if_neg fun h => hl h.2]

theorem Event.level_of_opens {least : Level} {message : String} {events : List Event}
    (h : Opens least message events) : ∀ e ∈ events, e.level = .debug := by
  rw [Opens] at h
  split at h
  · obtain ⟨e, rfl, hlevel, -⟩ := h
    exact List.forall_mem_singleton.2 hlevel
  · rw [h]
    exact List.forall_mem_nil _

namespace Tokenizer

variable {t : Tokenizer V} {least : Level} {text : String} {filter : List String}
  {accepted : List (Token V)} {cut : Cut V} {failure : Option (LexicalError × Event)} {e : Event}

/-! ## What events tell -/

/-- An event tells that a token is accepted. -/
structure Accepts (filter : List String) (tok : Token V) (e : Event) : Prop where
  level : e.level = .debug
  message : e.message = "Token accepted"
  category : e.context.get? "category" = some tok.category
  line : e.context.get? "line" = some (toString tok.line)
  column : e.context.get? "column" = some (toString tok.column)
  filtered : e.context.get? "filtered" = some (toString (filter.contains tok.category))

/-- An event tells how a cut ended: with what counts it was completed, or with what error and where it
failed. -/
def Closes (out : Outcome V) (e : Event) : Prop :=
  match out.result with
  | .ok tokens => e.level = .info ∧ e.code = ⟨"I020"⟩ ∧
      e.context.get? "tokens" = some (toString tokens.length) ∧
      e.context.get? "filtered" = some (toString out.tokenizer.metrics.filteredTokens) ∧
      e.context.get? "lines" = some (toString out.tokenizer.metrics.linesScanned)
  | .error error => e.level = .error ∧ e.code = error.code ∧
      e.span = some (.point out.tokenizer.position)

/-- The events of a cut that accepts some tokens: the opening and one for each token, where these are logged,
and the closing. -/
def Trace (t : Tokenizer V) (least : Level) (filter : List String) (accepted : List (Token V))
    (out : Outcome V) (events : List Event) : Prop :=
  ∃ opening steps closing, events = opening ++ steps ++ [closing] ∧
    Event.Opens least "Starting tokenization" opening ∧
    (if t.preferences.logTokenEvents = true ∧ least = .debug then
      List.Forall₂ (Accepts filter) accepted steps else steps = []) ∧
    Closes out closing

/-! ## The events of the loop -/

/-- What is told of an accepted token. -/
def details (filter : List String) (tok : Token V) : List (String × String) :=
  [("category", tok.category), ("lexeme", Text.escape tok.lexeme), ("line", toString tok.line),
    ("column", toString tok.column), ("filtered", toString (filter.contains tok.category))]

/-- The event of accepting a token. -/
def acceptance (filter : List String) (tok : Token V) : Event :=
  (Event.debug "Token accepted").withContext (details filter tok)

theorem accepts_acceptance (filter : List String) (tok : Token V) :
    Accepts filter tok (acceptance filter tok) := by
  have hfound {name value : String} (hmem : (name, value) ∈ details filter tok) :
      (acceptance filter tok).context.get? name = some value :=
    Event.get?_withContext rfl (by simp [details]) hmem
  refine ⟨rfl, rfl, hfound ?_, hfound ?_, hfound ?_, hfound ?_⟩ <;> simp [details]

theorem events_accept (choice : Choice V) (ambiguous : Bool) :
    (t.accept least filter cut choice ambiguous).events =
      debugEvent least t.preferences.logTokenEvents "Token accepted" (details filter (token cut.scan choice)) ++
        cut.events := rfl

/-- **The loop emits one event for each token it accepts**, if tokens are logged. -/
theorem Reaches.events_eq (h : t.Reaches least text filter accepted cut) : cut.events.reverse =
    (t.begin least text).events ++
      if t.preferences.logTokenEvents = true ∧ least = .debug then accepted.map (acceptance filter)
      else [] := by
  -- events are held the latest first; a turn adds at most one
  induction h with
  | start =>
    simp only [begin, debugEvent_eq]
    split <;> split <;> rfl
  | @turn accepted cut choice ambiguous _ _ _ _ ih =>
    rw [events_accept, debugEvent_eq, List.reverse_append, ih, List.append_assoc]
    split
    · rw [List.map_append]
      rfl
    · rfl

/-! ## The last event -/

/-- **A failure has an event with its code**, at the place where the loop stops. -/
theorem Ends.reports {f : LexicalError × Event} {passed : List Char} (hs : cut.scan.At text passed)
    (h : t.Ends text accepted.length cut.scan (some f)) :
    f.2.level = .error ∧ f.2.code = f.1.code ∧ f.2.span = some (.point cut.scan.position) := by
  cases h with
  | spent => exact ⟨rfl, rfl, rfl⟩
  | failed _ _ ht => rcases (turn_eq_fail hs).1 ht with ⟨-, rfl⟩ | ⟨c, -, -, rfl⟩ <;> exact ⟨rfl, rfl, rfl⟩

/-- What is concluded from a run ends with one more event, which tells how the cut ended. -/
theorem exists_closes (hr : t.Reaches least text filter accepted cut)
    (he : t.Ends text accepted.length cut.scan failure) :
    ∃ closing, (t.conclude text failure cut).events = cut.events.reverse ++ [closing] ∧
      Closes (t.conclude text failure cut) closing := by
  cases failure with
  | some f => exact ⟨f.2, List.reverse_cons, he.reports hr.at⟩
  | none =>
    refine ⟨_, List.reverse_cons, rfl, rfl, ?_, ?_, ?_⟩
    · exact Event.get?_withContext rfl (by simp) (.head _)
    · exact Event.get?_withContext rfl (by simp) (.tail _ (.head _))
    · exact Event.get?_withContext rfl (by simp) (.tail _ (.tail _ (.head _)))

/-- **The events of a cut**: its opening, one event for each accepted token, and one that tells how it
ended. -/
theorem trace_tokenize (hr : t.Reaches least text filter accepted cut)
    (he : t.Ends text accepted.length cut.scan failure) :
    t.Trace least filter accepted (t.tokenize least text filter) (t.tokenize least text filter).events := by
  rw [tokenize_eq hr he]
  obtain ⟨closing, hevents, hcloses⟩ := exists_closes hr he
  rw [hr.events_eq] at hevents
  refine ⟨_, _, closing, hevents, Event.opens_debugEvent least (by decide) _, ?_, hcloses⟩
  split
  · rw [List.forall₂_map_right_iff, List.forall₂_same]
    exact fun tok _ => accepts_acceptance filter tok
  · rfl

theorem level_of_closes {out : Outcome V} (h : Closes out e) : e.level ≠ .debug := by
  unfold Closes at h
  split at h <;> simp [h.1]

/-- **Of what a cut emits, one event is not a detail**: the one that tells how it ended. -/
theorem Trace.filter_level {out : Outcome V} {events : List Event}
    (h : t.Trace least filter accepted out events) :
    ∃ closing, events.filter (fun e => e.level ≠ .debug) = [closing] ∧ Closes out closing := by
  obtain ⟨opening, steps, closing, rfl, hopens, hsteps, hcloses⟩ := h
  have hdetails : ∀ e ∈ opening ++ steps, e.level = .debug := by
    refine List.forall_mem_append.2 ⟨Event.level_of_opens hopens, ?_⟩
    split at hsteps
    · exact (List.forall₂_and_left _ _ |>.1 (hsteps.flip.imp fun _ _ h => ⟨h.level, h⟩)).1
    · rw [hsteps]
      exact List.forall_mem_nil _
  refine ⟨closing, ?_, hcloses⟩
  rw [List.filter_append, List.filter_eq_nil_iff.2 fun e he => by simp [hdetails e he], List.nil_append]
  simp [level_of_closes hcloses]

end Tokenizer

end Descent
