/-
  Where settings come from.

  Every setting has a key in one of three sections of a document, and a variable of the environment.

  * `Variable.Layered`: a setting is what its key holds, if the document gives one; else what its variable spells, if it
    spells anything; else a constant.
  * `Group.lists`: the settings of each section are for its variables (`Section.Lists`), so that reading a
    document takes over what it gives them (`Config.takenOver_value`) and fails if that cannot be held
    (`Config.exists_read_iff`).
  * `Config.layered`: settings that are read from a text are layered.
-/
import Descent.Proofs.Config.Value

namespace Descent

open Toml (Entries Extent Key Node)

/-! ## Sections and keys -/

/-- The sections of a document. -/
inductive Group where
  | lexical
  | cursor
  | logging
deriving DecidableEq

namespace Variable

/-- The section that the setting of a variable is in. -/
def group : Variable → Group
  | detailedMetrics | logRules | logTokens => .lexical
  | markerFiller | logCursor => .cursor
  | useStructured | enableConsole | minLevel => .logging

/-- The key of the setting of a variable. -/
def key : Variable → String
  | detailedMetrics => "collect_detailed_metrics"
  | logRules => "log_rule_registration"
  | logTokens => "log_token_events"
  | markerFiller => "marker_filler"
  | logCursor => "log_cursor_movement"
  | useStructured => "use_structured_logging"
  | enableConsole => "enable_console_logging"
  | minLevel => "min_log_level"

/-- The place of the setting in its section. -/
def place : Variable → Nat
  | detailedMetrics | markerFiller | useStructured => 0
  | logRules | logCursor | enableConsole => 1
  | logTokens | minLevel => 2

/-- The kind of the setting. -/
def kind : Variable → Setting.Kind
  | markerFiller => .character
  | minLevel => .level
  | detailedMetrics | logRules | logTokens | logCursor | useStructured | enableConsole => .truth

/-- What the setting is where nothing else is said. -/
def constant : (v : Variable) → v.kind.Value
  | markerFiller => ' '
  | minLevel => Level.info
  | enableConsole => true
  | detailedMetrics | logRules | logTokens | logCursor | useStructured => false

end Variable

namespace Group

/-- The name of a section. -/
def name : Group → String
  | lexical => "lexical"
  | cursor => "syntax"
  | logging => "logging"

/-- The sections in order. -/
def all : List Group := [lexical, cursor, logging]

/-- The variables of a section in the order of its settings. -/
def members : Group → List Variable
  | lexical => [.detailedMetrics, .logRules, .logTokens]
  | cursor => [.markerFiller, .logCursor]
  | logging => [.useStructured, .enableConsole, .minLevel]

/-- What is read of a section. -/
def Preferences : Group → Type
  | lexical => LexicalPreferences
  | cursor => CursorPreferences
  | logging => LoggingPreferences

/-- The settings of a section. -/
def settings : (g : Group) → Section g.Preferences
  | lexical => LexicalPreferences.sections
  | cursor => CursorPreferences.sections
  | logging => LoggingPreferences.sections

end Group

namespace Config

/-- The setting of a variable. -/
def value (c : Config) : (v : Variable) → v.kind.Value
  | .detailedMetrics => c.lexical.collectDetailedMetrics
  | .logRules => c.lexical.logRuleRegistration
  | .logTokens => c.lexical.logTokenEvents
  | .markerFiller => c.cursor.markerFiller
  | .logCursor => c.cursor.logCursorMovement
  | .useStructured => c.logging.useStructured
  | .enableConsole => c.logging.enableConsole
  | .minLevel => c.logging.minLevel

/-- The settings of a section. -/
def preferences (c : Config) : (g : Group) → g.Preferences
  | .lexical => c.lexical
  | .cursor => c.cursor
  | .logging => c.logging

/-- Settings with those of a section exchanged. -/
def exchange (c : Config) : (g : Group) → g.Preferences → Config
  | .lexical => fun p => { c with lexical := p }
  | .cursor => fun p => { c with cursor := p }
  | .logging => fun p => { c with logging := p }

theorem exchange_preferences (c : Config) (g : Group) : c.exchange g (c.preferences g) = c := by
  cases g <;> rfl

theorem value_exchange (c default : Config) (v : Variable) :
    (c.exchange v.group (default.preferences v.group)).value v = default.value v := by
  cases v <;> rfl

/-- Settings that agree for every variable are the same. -/
theorem ext_value {c c' : Config} (h : ∀ v, c.value v = c'.value v) : c = c' := by
  obtain ⟨⟨metrics, rules, tokens⟩, ⟨filler, cursor⟩, ⟨structured, console, least⟩⟩ := c
  obtain rfl := h .detailedMetrics
  obtain rfl := h .logRules
  obtain rfl := h .logTokens
  obtain rfl := h .markerFiller
  obtain rfl := h .logCursor
  obtain rfl := h .useStructured
  obtain rfl := h .enableConsole
  obtain rfl := h .minLevel
  rfl

end Config

/-! ## Reading a document -/

theorem Group.isFor {g : Group} {c : Config} (v : Variable) {write : g.Preferences → v.kind.Value → g.Preferences}
    (hget : ∀ p x, (c.exchange g (write p x)).value v = x)
    (hleaves : ∀ p x w, w ≠ v → (c.exchange g (write p x)).value w = (c.exchange g p).value w) :
    (Setting.new v.key v.kind.decoder write).IsFor Variable.key (fun v p => (c.exchange g p).value v)
      (fun v => v.kind.Holds) v :=
  Section.isFor_new (fun _ _ => exists_congr fun _ => Setting.Kind.decoder_eq_ok)
    (fun _ _ _ => Setting.Kind.decoder_eq_ok.1) hget hleaves

/-- **The settings of a section are for its variables**, and each of them is kept in a place of its own. -/
theorem Group.lists (g : Group) (c : Config) : g.settings.Lists Variable.key
    (fun v p => (c.exchange g p).value v) (fun v => v.kind.Holds) g.members := by
  constructor
  · cases g <;> [
      refine .cons (isFor .detailedMetrics (fun _ _ => rfl) ?_)
        (.cons (isFor .logRules (fun _ _ => rfl) ?_) (.cons (isFor .logTokens (fun _ _ => rfl) ?_) .nil));
      refine .cons (isFor .markerFiller (fun _ _ => rfl) ?_) (.cons (isFor .logCursor (fun _ _ => rfl) ?_) .nil);
      refine .cons (isFor .useStructured (fun _ _ => rfl) ?_)
        (.cons (isFor .enableConsole (fun _ _ => rfl) ?_) (.cons (isFor .minLevel (fun _ _ => rfl) ?_) .nil))]
    -- no setting writes where another variable is kept
    all_goals
      intro p x w hw
      cases w <;> first | rfl | contradiction
  · cases g <;> decide

theorem Group.members_getElem? {g : Group} {index : Nat} {v : Variable} :
    g.members[index]? = some v ↔ v.group = g ∧ v.place = index := by
  constructor
  · intro h
    cases g <;> rcases index with _ | _ | _ | index <;> cases h <;> exact ⟨rfl, rfl⟩
  · rintro ⟨rfl, rfl⟩
    cases v <;> rfl

/-- What a document gives the setting of a variable. -/
def Variable.given? (v : Variable) (entries : Entries) : Option Node :=
  (Entries.get? v.group.name entries).bind (·.given? v.key v.place)

/-- A document can be read: its sections may stand for sections, and what it gives a setting is a value. -/
structure Readable (entries : Entries) : Prop where
  sections : ∀ g : Group, ∀ n ∈ Entries.get? g.name entries, n.IsSection
  values : ∀ v : Variable, ∀ n ∈ v.given? entries, ∃ x, v.kind.Holds n x

namespace Config

theorem preferences_exchange (c : Config) (g : Group) (p : g.Preferences) : (c.exchange g p).preferences g = p := by
  cases g <;> rfl

theorem preferences_exchange_of_ne {g g' : Group} (h : g' ≠ g) (c : Config) (p : g.Preferences) :
    (c.exchange g p).preferences g' = c.preferences g' := by
  cases g <;> cases g' <;> first | rfl | contradiction

variable {c default : Config} {fallback : Extent} {extent : Option Extent} {origin : Toml.Origin} {entries : Entries}

theorem isFor_group (default : Config) (g : Group) :
    (Setting.new g.name (g.settings.read (default.preferences g)) fun (c : Config) p => c.exchange g p).IsFor
      Group.name (fun g c => c.preferences g)
      (fun g n p => ∃ fallback, g.settings.read (default.preferences g) fallback n = .ok p) g := by
  refine Section.isFor_new (fun fallback n => ?_) (fun fallback n p h => ⟨fallback, h⟩) (fun c p => ?_) ?_
  · constructor
    · rintro ⟨p, h⟩
      exact ⟨p, fallback, h⟩
    · rintro ⟨p, fallback', h⟩
      exact ((g.lists default).exists_read_congr fallback' fallback n).1 ⟨p, h⟩
  · exact preferences_exchange ..
  · exact fun c p g' hne => preferences_exchange_of_ne hne ..

/-- The settings of a document are its sections. -/
theorem groups (default : Config) : (sections default).Lists Group.name (fun g c => c.preferences g)
    (fun g n p => ∃ fallback, g.settings.read (default.preferences g) fallback n = .ok p) Group.all where
  settings := .cons (isFor_group default .lexical)
    (.cons (isFor_group default .cursor) (.cons (isFor_group default .logging) .nil))
  keys := by decide

variable (hentries : Entries.Unique entries)
include hentries

/-- **What is read of a document** is, for each variable, what the document gives it, or the default. -/
theorem takenOver_value (hread : (sections default).read default fallback (.table extent origin entries) = .ok c)
    (v : Variable) :
    Section.TakenOver (fun v (c : Config) => c.value v) (fun v => v.kind.Holds) v default c (v.given? entries) := by
  obtain ⟨index, hg⟩ : ∃ index : Nat, Group.all[index]? = some v.group :=
    List.mem_iff_getElem?.1 (by cases v <;> decide)
  have hgroup := (groups default).read (.table hentries.names hentries.values) hread hg
  have hdefault : (c.exchange v.group (default.preferences v.group)).value v = default.value v := c.value_exchange ..
  have hsame : c.exchange v.group (c.preferences v.group) = c := c.exchange_preferences _
  simp only [Toml.Node.given?] at hgroup
  rw [Variable.given?]
  cases hsection : Entries.get? v.group.name entries with
  | none =>
    -- the section keeps its defaults as a whole
    rw [hsection] at hgroup
    have hkept : c.preferences v.group = default.preferences v.group := hgroup
    rw [← hkept, hsame] at hdefault
    exact hdefault
  | some n =>
    rw [hsection] at hgroup
    obtain ⟨fallback', hread'⟩ := hgroup
    have hn : n.Unique := hentries.get? hsection
    have hvalue := (v.group.lists c).read hn hread' (Group.members_getElem?.2 ⟨rfl, rfl⟩)
    rw [Option.bind_some]
    cases hgiven : n.given? v.key v.place with
    | none =>
      rw [hgiven, Section.TakenOver, hsame, hdefault] at hvalue
      exact hvalue
    | some m =>
      rw [hgiven, Section.TakenOver, hsame] at hvalue
      exact hvalue

theorem exists_read_iff :
    (∃ c, (sections default).read default fallback (.table extent origin entries) = .ok c) ↔ Readable entries := by
  have hgroup (g : Group) (n : Node) (hn : Entries.get? g.name entries = some n) :
      (∃ p fallback, g.settings.read (default.preferences g) fallback n = .ok p) ↔ n.IsSection ∧
        ∀ v : Variable, v.group = g → ∀ m ∈ n.given? v.key v.place, ∃ x, v.kind.Holds m x := by
    have hread (fallback : Extent) : (∃ p, g.settings.read (default.preferences g) fallback n = .ok p) ↔
        n.IsSection ∧ ∀ (index : Nat) (v : Variable), g.members[index]? = some v →
          ∀ m ∈ n.given? v.key index, ∃ x, v.kind.Holds m x :=
      (g.lists default).exists_read_iff (hentries.get? hn)
    constructor
    · rintro ⟨p, fallback, h⟩
      obtain ⟨hsection, hvalues⟩ := (hread fallback).1 ⟨p, h⟩
      exact ⟨hsection, fun v hv => hvalues v.place v (Group.members_getElem?.2 ⟨hv, rfl⟩)⟩
    · rintro ⟨hsection, hvalues⟩
      have hplaces (index : Nat) (v : Variable) (hv : g.members[index]? = some v) :
          ∀ m ∈ n.given? v.key index, ∃ x, v.kind.Holds m x := by
        obtain ⟨hg, rfl⟩ := Group.members_getElem?.1 hv
        exact hvalues v hg
      obtain ⟨p, h⟩ := (hread ⟨0, 0⟩).2 ⟨hsection, hplaces⟩
      exact ⟨p, _, h⟩
  rw [(groups default).exists_read_iff (.table hentries.names hentries.values)]
  constructor
  · rintro ⟨-, hall⟩
    have hread (g : Group) (n : Node) (hn : Entries.get? g.name entries = some n) :
        ∃ p fallback, g.settings.read (default.preferences g) fallback n = .ok p := by
      obtain ⟨index, hg⟩ : ∃ index : Nat, Group.all[index]? = some g :=
        List.mem_iff_getElem?.1 (by cases g <;> decide)
      exact hall index g hg n hn
    refine ⟨fun g n hn => ((hgroup g n hn).1 (hread g n hn)).1, fun v m hm => ?_⟩
    obtain ⟨n, hn, hm⟩ := Option.bind_eq_some_iff.1 hm
    exact ((hgroup v.group n hn).1 (hread v.group n hn)).2 v rfl m hm
  · intro h
    refine ⟨trivial, fun index g _ n hn => (hgroup g n hn).2 ⟨h.sections g n hn, ?_⟩⟩
    rintro v rfl m hm
    exact h.values v m (Option.bind_eq_some_iff.2 ⟨n, hn, hm⟩)

end Config

/-! ## Layers -/

namespace Setting.Kind

variable {k : Kind} {n : Node} {text : String} {x y : k.Value}

theorem Holds.unique (h : k.Holds n x) (h' : k.Holds n y) : x = y := by
  have hx : k.decoder ⟨0, 0⟩ n = .ok x := decoder_eq_ok.2 h
  rw [decoder_eq_ok.2 h'] at hx
  exact (Except.ok.inj hx).symm

theorem Spells.unique (h : k.Spells text x) (h' : k.Spells text y) : x = y := by
  have hx : k.read? text = some x := read?_eq_some.2 h
  rw [read?_eq_some.2 h'] at hx
  exact (Option.some.inj hx).symm

end Setting.Kind

namespace Variable

variable {env env' : Environment} {entries entries' : Entries} {v : Variable} {x x' : v.kind.Value}

/-- The setting of a variable: what the document gives it, or else what the variable spells, or else the constant. -/
inductive Layered (env : Environment) (entries : Entries) (v : Variable) : v.kind.Value → Prop
  | document {n : Node} {x : v.kind.Value} : v.given? entries = some n → v.kind.Holds n x → Layered env entries v x
  | environment {text : String} {x : v.kind.Value} : v.given? entries = none → env.get? v = some text →
      v.kind.Spells text x → Layered env entries v x
  | constant : v.given? entries = none → (∀ text ∈ env.get? v, ∀ x, ¬v.kind.Spells text x) →
      Layered env entries v v.constant

/-- Two documents say the same of the setting of a variable, wherever they say it. -/
def SameIn (v : Variable) (entries entries' : Entries) : Prop :=
  Option.Rel (fun n n' => ∀ x, v.kind.Holds n x ↔ v.kind.Holds n' x) (v.given? entries) (v.given? entries')

/-- **A setting depends on its own key and its own variable** and on nothing else. -/
theorem Layered.unique (h : v.Layered env entries x) (h' : v.Layered env' entries' x')
    (henv : env.get? v = env'.get? v) (hsame : v.SameIn entries entries') : x = x' := by
  rw [SameIn] at hsame
  cases h with
  | document hn hx =>
    cases h' with
    | document hn' hx' =>
      rw [hn, hn'] at hsame
      cases hsame with
      | some hiff => exact ((hiff x).1 hx).unique hx'
    | environment hnone _ _ | constant hnone _ =>
      rw [hn, hnone] at hsame
      cases hsame
  | environment hnone htext hx =>
    cases h' with
    | document hn _ =>
      rw [hnone, hn] at hsame
      cases hsame
    | environment _ htext' hx' =>
      rw [htext, htext'] at henv
      cases henv
      exact hx.unique hx'
    | constant _ hspells => exact absurd hx (hspells _ (henv ▸ htext) _)
  | constant hnone hspells =>
    cases h' with
    | document hn _ =>
      rw [hnone, hn] at hsame
      cases hsame
    | environment _ htext hx' => exact absurd hx' (hspells _ (henv ▸ htext) _)
    | constant _ _ => rfl

theorem layered_ofEnvironment (env : Environment) (h : v.given? entries = none) :
    v.Layered env entries ((Config.ofEnvironment env).value v) := by
  have hvalue : (Config.ofEnvironment env).value v = ((env.get? v).bind v.kind.read?).getD v.constant := by
    cases v <;> rfl
  rw [hvalue]
  cases hread : (env.get? v).bind v.kind.read? with
  | none =>
    refine .constant h fun text htext x hx => ?_
    rw [htext, Option.bind_some, Setting.Kind.read?_eq_some.2 hx] at hread
    cases hread
  | some x =>
    obtain ⟨text, htext, hx⟩ := Option.bind_eq_some_iff.1 hread
    exact .environment h htext (Setting.Kind.read?_eq_some.1 hx)

end Variable

/-- Two documents say the same of all settings, whatever else they hold: what they have for sections may stand for
sections in both, and they give every setting the same. -/
structure SameSettings (entries entries' : Entries) : Prop where
  sections : ∀ g : Group, Option.Rel (fun n n' => n.IsSection ↔ n'.IsSection)
    (Entries.get? g.name entries) (Entries.get? g.name entries')
  values : ∀ v : Variable, v.SameIn entries entries'

theorem rel_symm {α : Type} {r : α → α → Prop} {a b : Option α} (h : Option.Rel r a b)
    (hr : ∀ x y, r x y → r y x) : Option.Rel r b a := by
  cases h with
  | some h => exact .some (hr _ _ h)
  | none => exact .none

theorem rel_carries {α : Type} {r : α → α → Prop} {p : α → Prop} {a b : Option α} (h : Option.Rel r a b)
    (hr : ∀ x y, r x y → p x → p y) (ha : ∀ x ∈ a, p x) : ∀ y ∈ b, p y := by
  cases h with
  | some h =>
    rintro y ⟨⟩
    exact hr _ _ h (ha _ rfl)
  | none => exact fun y hy => by cases hy

namespace SameSettings

variable {entries entries' : Entries} (h : SameSettings entries entries')
include h

theorem symm : SameSettings entries' entries where
  sections g := rel_symm (h.sections g) fun _ _ => Iff.symm
  values v := rel_symm (h.values v) fun _ _ hiff x => (hiff x).symm

theorem readable (hr : Readable entries) : Readable entries' where
  sections g := rel_carries (h.sections g) (fun _ _ => Iff.mp) (hr.sections g)
  values v := rel_carries (h.values v) (fun _ _ hiff => Exists.imp fun x => (hiff x).1) (hr.values v)

end SameSettings

namespace Config

variable {env : Environment} {text : String} {c : Config} {extent : Option Extent} {origin : Toml.Origin}
  {entries : Entries}

theorem ofToml_eq_ok : ofToml env text = .ok c ↔
    ∃ document, Toml.parse? text = some document ∧ ofNode env document = .ok c := by
  unfold ofToml
  cases hparse : Toml.parse? text with
  | none => simp
  | some document => cases hread : ofNode env document <;> simp [hread]

theorem unique_of_parse? (hparse : Toml.parse? text = some (.table extent origin entries)) :
    Entries.Unique entries := by
  obtain ⟨extent', origin', entries', heq, hunique⟩ := Toml.parse?_unique hparse
  cases heq
  exact hunique

/-- A text is accepted if its document can be read. -/
theorem exists_ofToml_iff (hparse : Toml.parse? text = some (.table extent origin entries)) :
    (∃ c, ofToml env text = .ok c) ↔ Readable entries := by
  rw [← exists_read_iff (unique_of_parse? hparse)]
  refine exists_congr fun c => ofToml_eq_ok.trans
    ⟨fun ⟨document, hdocument, hread⟩ => ?_, fun hread => ⟨_, hparse, hread⟩⟩
  rw [hparse] at hdocument
  cases hdocument
  exact hread

theorem layered_value (hparse : Toml.parse? text = some (.table extent origin entries)) (h : ofToml env text = .ok c)
    (v : Variable) : v.Layered env entries (c.value v) := by
  obtain ⟨document, hdocument, hread⟩ := ofToml_eq_ok.1 h
  rw [hparse] at hdocument
  cases hdocument
  have htaken := takenOver_value (unique_of_parse? hparse) hread v
  cases hgiven : v.given? entries with
  | some n =>
    rw [hgiven] at htaken
    exact .document hgiven htaken
  | none =>
    rw [hgiven] at htaken
    have hvalue : c.value v = (ofEnvironment env).value v := htaken
    rw [hvalue]
    exact Variable.layered_ofEnvironment env hgiven

/-- Documents that say the same of all settings are read alike. -/
theorem ofToml_congr {text' : String} {extent' : Option Extent} {origin' : Toml.Origin} {entries' : Entries}
    (hparse : Toml.parse? text = some (.table extent origin entries))
    (hparse' : Toml.parse? text' = some (.table extent' origin' entries')) (h : SameSettings entries entries') :
    (ofToml env text).toOption = (ofToml env text').toOption := by
  by_cases hr : Readable entries
  · obtain ⟨c, hc⟩ : ∃ c, ofToml env text = .ok c := (exists_ofToml_iff hparse).2 hr
    obtain ⟨c', hc'⟩ : ∃ c', ofToml env text' = .ok c' := (exists_ofToml_iff hparse').2 (h.readable hr)
    have hsame : c = c' := ext_value fun v =>
      (layered_value hparse hc v).unique (layered_value hparse' hc' v) rfl (h.values v)
    rw [hc, hc', hsame]
  · have hnone {text : String} (h : ¬∃ c, ofToml env text = .ok c) : (ofToml env text).toOption = none := by
      cases hread : ofToml env text with
      | error e => rfl
      | ok c => exact absurd ⟨c, hread⟩ h
    rw [hnone (mt (exists_ofToml_iff hparse).1 hr),
      hnone (mt (exists_ofToml_iff hparse').1 (mt h.symm.readable hr))]

/-- **Settings that are read from a text are layered.**  A text is accepted if it is a document whose sections may stand
for sections and whose keys hold values of their kinds, and not at all otherwise.  Every setting is then what its key
holds, or else what its variable spells, or else a constant; it depends on that key and that variable alone; and
whatever else a document holds changes nothing. -/
theorem layered :
    (∀ (env : Environment) (text : String), (∃ c, ofToml env text = .ok c) ↔ ∃ extent origin entries,
      Toml.parse? text = some (.table extent origin entries) ∧ Readable entries) ∧
    (∀ (env : Environment) (text : String) (c : Config) (extent : Option Extent) (origin : Toml.Origin)
      (entries : Entries), ofToml env text = .ok c → Toml.parse? text = some (.table extent origin entries) →
      ∀ v : Variable, v.Layered env entries (c.value v)) ∧
    (∀ (v : Variable) (env env' : Environment) (entries entries' : Entries) (x x' : v.kind.Value),
      v.Layered env entries x → v.Layered env' entries' x' → env.get? v = env'.get? v → v.SameIn entries entries' →
      x = x') ∧
    ∀ (env : Environment) (text text' : String) (extent extent' : Option Extent) (origin origin' : Toml.Origin)
      (entries entries' : Entries), Toml.parse? text = some (.table extent origin entries) →
      Toml.parse? text' = some (.table extent' origin' entries') → SameSettings entries entries' →
      (ofToml env text).toOption = (ofToml env text').toOption := by
  refine ⟨fun env text => ⟨?_, ?_⟩, fun env text c _ _ _ h hparse => layered_value hparse h,
    fun v env env' _ _ x x' h h' henv hsame => h.unique h' henv hsame,
    fun env text text' _ _ _ _ _ _ hparse hparse' h => ofToml_congr hparse hparse' h⟩
  · rintro ⟨c, hc⟩
    obtain ⟨document, hparse, -⟩ := ofToml_eq_ok.1 hc
    obtain ⟨extent, origin, entries, rfl, -⟩ := Toml.parse?_unique hparse
    exact ⟨extent, origin, entries, hparse, (exists_ofToml_iff hparse).1 ⟨c, hc⟩⟩
  · rintro ⟨extent, origin, entries, hparse, hr⟩
    exact (exists_ofToml_iff hparse).2 hr

/-- A truth value from a document, a level from the environment, and constants where a variable is not set or cannot be
read; neither other variables nor a section that is not known change anything. -/
theorem layered_sources :
    let env : Environment := ⟨[("RDP_LEXICAL_LOG_TOKENS", "false"), ("RDP_LOGGING_MIN_LEVEL", "WARN"),
      ("RDP_LEXICAL_LOG_RULES", "yes"), ("RDP_SYNTAX_MARKER_FILLER", "")]⟩
    let env' : Environment := ⟨[("RDP_LEXICAL_LOG_TOKENS", "false")]⟩
    ∃ c c' entries, ofToml env "lexical.log_token_events=true" = .ok c ∧
      ofToml env' "lexical.log_token_events=true" = .ok c' ∧
      Toml.parse? "lexical.log_token_events=true" = some (.table none .header entries) ∧
      c.value .logTokens = true ∧ c.value .minLevel = Level.warning ∧ c.value .logRules = false ∧
      c.value .markerFiller = ' ' ∧ (∀ v, Variable.Layered env entries v (c.value v)) ∧
      c.value .logTokens = c'.value .logTokens ∧
      (ofToml env "").toOption = (ofToml env "[other]").toOption := by
  intro env env'
  have hparse : Toml.parse? "lexical.log_token_events=true" = some (.table none .header
      [(⟨"lexical", ⟨0, 7⟩⟩, .table none .dotted
        [(⟨"log_token_events", ⟨8, 24⟩⟩, .leaf ⟨25, 29⟩ (.bool true))])]) := by rfl
  have hempty : Toml.parse? "" = some (.table none .header []) := by rfl
  have hother : Toml.parse? "[other]" =
      some (.table none .header [(⟨"other", ⟨1, 6⟩⟩, .table (some ⟨0, 7⟩) .header [])]) := by rfl
  have hread : ofToml env "lexical.log_token_events=true" =
      .ok ⟨⟨false, false, true⟩, ⟨' ', false⟩, ⟨false, true, .warning⟩⟩ := by
    decide +kernel
  have hread' : ofToml env' "lexical.log_token_events=true" =
      .ok ⟨⟨false, false, true⟩, ⟨' ', false⟩, ⟨false, true, .info⟩⟩ := by
    decide +kernel
  have hunknown : SameSettings [] [(⟨"other", ⟨1, 6⟩⟩, .table (some ⟨0, 7⟩) .header [])] := by
    refine ⟨fun g => ?_, fun v => ?_⟩
    · cases g <;> exact .none
    · cases v <;> exact .none
  have hlayered := layered.2.1 env _ _ _ _ _ hread hparse
  have hlayered' := layered.2.1 env' _ _ _ _ _ hread' hparse
  exact ⟨_, _, _, hread, hread', hparse, rfl, rfl, rfl, rfl, hlayered,
    layered.2.2.1 .logTokens env env' _ _ _ _ (hlayered _) (hlayered' _) rfl (.some fun _ => Iff.rfl),
    layered.2.2.2 env "" "[other]" _ _ _ _ _ _ hempty hother hunknown⟩

end Config

/-- What a table gives the setting of a variable by its key. -/
def Variable.keyed? (v : Variable) (entries : Entries) : Option Node :=
  match Entries.get? v.group.name entries with
  | some (.table _ _ settings) => Entries.get? v.key settings
  | _ => none

/-- A setting that neither has its key in a document nor its variable in the environment need not be the constant:
arrays give settings by their places. -/
theorem Config.array_gives_setting :
    ¬∀ (env : Environment) (text : String) (c : Config) (extent : Option Extent) (origin : Toml.Origin)
      (entries : Entries) (v : Variable), ofToml env text = .ok c →
      Toml.parse? text = some (.table extent origin entries) → v.keyed? entries = none → env.get? v = none →
      c.value v = v.constant := by
  intro h
  have hread : ofToml .empty "lexical = [true]" = .ok ⟨⟨true, false, false⟩, ⟨' ', false⟩, ⟨false, true, .info⟩⟩ := by
    decide +kernel
  have hparse : Toml.parse? "lexical = [true]" = some (.table none .header
      [(⟨"lexical", ⟨0, 7⟩⟩, .array ⟨10, 16⟩ [.leaf ⟨11, 15⟩ (.bool true)])]) := by rfl
  have hvalue : true = false := h .empty "lexical = [true]" _ _ _ _ .detailedMetrics hread hparse rfl rfl
  exact Bool.false_ne_true hvalue.symm

end Descent
