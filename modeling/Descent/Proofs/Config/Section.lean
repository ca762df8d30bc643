/-
  What is taken over from a section.

  * `Toml.Node.given?` is what a section gives a setting: in a table the value of its name, in an array the item at its
    place.
  * `Setting.IsFor`: a setting takes over what a variable may hold, keeps it in the part of the section that belongs to
    the variable, and changes no other part.  `Section.Lists`: the settings of a section are for some variables in
    order.
  * `Section.Lists.read`: when a section is read, the part of each of these variables is taken from what the section
    gives it, or stays as it was.
  * `Section.Lists.exists_read_iff`: a section is read if every variable may hold what it is given, and not at all
    otherwise.
-/
import Descent.Config.Document
import Descent.Proofs.Toml.Unique

namespace Descent

open Toml (Entries Extent Key Node)

variable {α β ε : Type}

theorem bind_eq_ok {x : Except ε α} {f : α → Except ε β} {b : β} :
    x >>= f = .ok b ↔ ∃ a, x = .ok a ∧ f a = .ok b := by
  cases x with
  | error e =>
    refine ⟨fun h => ?_, fun ⟨a, h, _⟩ => ?_⟩ <;> cases h
  | ok a =>
    refine ⟨fun h => ⟨a, rfl, h⟩, fun ⟨a', ha, h⟩ => ?_⟩
    cases ha
    exact h

theorem map_eq_ok {x : Except ε α} {f : α → β} {b : β} : x.map f = .ok b ↔ ∃ a, x = .ok a ∧ f a = b := by
  cases x with
  | error e =>
    refine ⟨fun h => ?_, fun ⟨a, h, _⟩ => ?_⟩ <;> cases h
  | ok a =>
    refine ⟨fun h => ⟨a, rfl, Except.ok.inj h⟩, fun ⟨a', ha, h⟩ => ?_⟩
    cases ha
    exact congrArg Except.ok h

/-! ## What a section gives -/

namespace Toml

namespace Node

/-- What a section gives the setting of a name and a place. -/
def given? (name : String) (index : Nat) : Node → Option Node
  | table _ _ entries => Entries.get? name entries
  | array _ items | tables items => items[index]?
  | leaf .. => none

/-- Whether a value may stand for a section: of the single values only a point in time may. -/
def IsSection : Node → Prop
  | leaf _ scalar => scalar = .moment
  | _ => True

end Node

end Toml

/-! ## Settings and variables -/

section

variable {σ ι : Type} {γ : ι → Type} (key : ι → String) (get : (v : ι) → σ → γ v) (holds : (v : ι) → Node → γ v → Prop)

/-- A setting is for a variable: it takes over what the variable may hold, and nothing else, as the value of the
variable. -/
structure Setting.IsFor (setting : Setting σ) (v : ι) : Prop where
  name : setting.name = key v
  accepts : ∀ s fallback n, (∃ s', setting.put s fallback n = .ok s') ↔ ∃ x, holds v n x
  stores : ∀ s fallback n s', setting.put s fallback n = .ok s' → holds v n (get v s')
  leaves : ∀ s fallback n s', setting.put s fallback n = .ok s' → ∀ w, w ≠ v → get w s' = get w s

/-- The settings of a section are for some variables in order, which have different names. -/
structure Section.Lists (sec : Section σ) (vars : List ι) : Prop where
  settings : List.Forall₂ (Setting.IsFor key get holds) sec.settings vars
  keys : (vars.map key).Nodup

/-- The value of a variable is what was given, or as it was. -/
def Section.TakenOver (v : ι) (s s' : σ) : Option Node → Prop
  | some n => holds v n (get v s')
  | none => get v s' = get v s

end

namespace Section

variable {σ ι : Type} {γ : ι → Type} {key : ι → String} {get : (v : ι) → σ → γ v} {holds : (v : ι) → Node → γ v → Prop}
  {sec : Section σ} {setting : Setting σ} {settings : List (Setting σ)} {vars : List ι} {v w : ι} {s s' s₁ : σ}
  {fallback : Extent} {given : Option Node} {e : Key × Node} {entries : Entries} {items : List Node}

/-- A setting that reads what its variable may hold and writes it to where the variable is kept is for the variable. -/
theorem isFor_new {read : Decoder (γ v)} {write : σ → γ v → σ}
    (haccepts : ∀ fallback n, (∃ x, read fallback n = .ok x) ↔ ∃ x, holds v n x)
    (hholds : ∀ fallback n x, read fallback n = .ok x → holds v n x) (hget : ∀ s x, get v (write s x) = x)
    (hleaves : ∀ s x w, w ≠ v → get w (write s x) = get w s) :
    (Setting.new (key v) read write).IsFor key get holds v where
  name := rfl
  accepts s fallback n := by
    rw [← haccepts fallback]
    constructor
    · rintro ⟨s', hput⟩
      obtain ⟨x, hx, -⟩ := map_eq_ok.1 hput
      exact ⟨x, hx⟩
    · rintro ⟨x, hx⟩
      exact ⟨write s x, map_eq_ok.2 ⟨x, hx, rfl⟩⟩
  stores s fallback n s' hput := by
    obtain ⟨x, hx, rfl⟩ := map_eq_ok.1 hput
    rw [hget]
    exact hholds fallback n x hx
  leaves s fallback n s' hput w hw := by
    obtain ⟨x, -, rfl⟩ := map_eq_ok.1 hput
    exact hleaves s x w hw

namespace TakenOver

theorem after (h : TakenOver get holds v s₁ s' given) (hs : get v s₁ = get v s) :
    TakenOver get holds v s s' given := by
  cases given with
  | none => exact Eq.trans h hs
  | some n => exact h

theorem before (h : TakenOver get holds v s s₁ given) (hs : get v s' = get v s₁) :
    TakenOver get holds v s s' given := by
  cases given with
  | none => exact hs.trans h
  | some n =>
    rw [TakenOver, hs]
    exact h

end TakenOver

/-! ## Arrays -/

theorem putItems_leaves (h : List.Forall₂ (Setting.IsFor key get holds) settings vars) (hw : w ∉ vars)
    (hput : putItems fallback s settings items = .ok s') : get w s' = get w s := by
  induction h generalizing s items with
  | nil => cases hput; rfl
  | @cons setting v settings vars hsetting _ ih =>
    cases items with
    | nil => cases hput; rfl
    | cons item items =>
      obtain ⟨s₁, hfirst, hrest⟩ := bind_eq_ok.1 hput
      rw [List.mem_cons, not_or] at hw
      obtain ⟨hne, hw⟩ := hw
      exact (ih hw hrest).trans (hsetting.leaves _ _ _ _ hfirst _ hne)

/-- Items are taken over by their places. -/
theorem putItems_takenOver (h : List.Forall₂ (Setting.IsFor key get holds) settings vars) (hvars : vars.Nodup)
    (hput : putItems fallback s settings items = .ok s') {index : Nat} (hv : vars[index]? = some v) :
    TakenOver get holds v s s' items[index]? := by
  induction h generalizing s items index with
  | nil => cases hv
  | @cons setting w settings vars hsetting hsettings ih =>
    obtain ⟨hw, hvars⟩ := List.nodup_cons.1 hvars
    cases items with
    | nil => cases hput; exact rfl
    | cons item items =>
      obtain ⟨s₁, hfirst, hrest⟩ := bind_eq_ok.1 hput
      cases index with
      | zero =>
        cases hv
        have hitem : TakenOver get holds v s s₁ (some item) := hsetting.stores _ _ _ _ hfirst
        exact hitem.before (putItems_leaves hsettings hw hrest)
      | succ index =>
        have hne : v ≠ w := fun heq => hw (heq ▸ List.mem_of_getElem? hv)
        exact (ih hvars hrest hv).after (hsetting.leaves _ _ _ _ hfirst _ hne)

theorem exists_putItems_iff (h : List.Forall₂ (Setting.IsFor key get holds) settings vars) :
    (∃ s', putItems fallback s settings items = .ok s') ↔
      ∀ (index : Nat) (v : ι), vars[index]? = some v → ∀ n ∈ items[index]?, ∃ x, holds v n x := by
  induction h generalizing s items with
  | nil =>
    refine ⟨fun _ _ _ hv => ?_, fun _ => ⟨s, ?_⟩⟩
    · cases hv
    · cases items <;> rfl
  | @cons setting w settings vars hsetting _ ih =>
    cases items with
    | nil =>
      refine ⟨fun _ _ _ _ n hn => ?_, fun _ => ⟨s, rfl⟩⟩
      cases hn
    | cons item items =>
      constructor
      · rintro ⟨s', hput⟩ index v hv n hn
        obtain ⟨s₁, hfirst, hrest⟩ := bind_eq_ok.1 hput
        cases index with
        | zero =>
          cases hv
          cases hn
          exact (hsetting.accepts _ _ _).1 ⟨s₁, hfirst⟩
        | succ index => exact ih.1 ⟨s', hrest⟩ index v hv n hn
      · intro hall
        obtain ⟨s₁, hfirst⟩ := (hsetting.accepts s fallback item).2 (hall 0 w rfl item rfl)
        obtain ⟨s', hrest⟩ := (ih (s := s₁)).2 fun index v hv n hn => hall (index + 1) v hv n hn
        exact ⟨s', bind_eq_ok.2 ⟨s₁, hfirst, hrest⟩⟩

/-! ## Tables -/

/-- The setting of a name is for a variable of that name. -/
theorem find?_cases (h : List.Forall₂ (Setting.IsFor key get holds) settings vars) (name : String) :
    (∃ setting, ∃ v ∈ vars, settings.find? (fun setting => setting.name == name) = some setting ∧
      setting.IsFor key get holds v ∧ key v = name) ∨
    (settings.find? (fun setting => setting.name == name) = none ∧ ∀ v ∈ vars, key v ≠ name) := by
  induction h with
  | nil => exact .inr ⟨rfl, List.forall_mem_nil _⟩
  | @cons setting v settings vars hsetting _ ih =>
    by_cases hname : key v = name
    · refine .inl ⟨setting, v, List.mem_cons_self, ?_, hsetting, hname⟩
      exact List.find?_cons_of_pos (beq_iff_eq.2 (hsetting.name.trans hname))
    · have hskip : (setting :: settings).find? (fun setting => setting.name == name) =
          settings.find? fun setting => setting.name == name :=
        List.find?_cons_of_neg (mt beq_iff_eq.1 (hsetting.name ▸ hname))
      rw [hskip]
      rcases ih with ⟨setting, w, hw, hfind⟩ | ⟨hfind, hnames⟩
      · exact .inl ⟨setting, w, List.mem_cons_of_mem _ hw, hfind⟩
      · exact .inr ⟨hfind, List.forall_mem_cons.2 ⟨hname, hnames⟩⟩

namespace Lists

variable (h : sec.Lists key get holds vars)
include h

theorem eq_of_key (hv : v ∈ vars) (hw : w ∈ vars) (heq : key v = key w) : v = w :=
  List.inj_on_of_nodup_map h.keys hv hw heq

theorem putEntry (hv : v ∈ vars) (hput : sec.putEntry s e = .ok s') :
    TakenOver get holds v s s' (if e.1.name = key v then some e.2 else none) := by
  unfold Section.putEntry at hput
  rcases find?_cases h.settings e.1.name with ⟨setting, w, hw, hfind, hsetting, hkey⟩ | ⟨hfind, hnames⟩ <;>
    rw [hfind] at hput
  · split
    · next hname =>
      obtain rfl := h.eq_of_key hv hw (hname.symm.trans hkey.symm)
      exact hsetting.stores _ _ _ _ hput
    · next hname => exact hsetting.leaves _ _ _ _ hput v fun heq => hname (heq ▸ hkey.symm)
  · cases hput
    rw [if_neg fun hname => hnames v hv hname.symm]
    exact rfl

theorem exists_putEntry_iff :
    (∃ s', sec.putEntry s e = .ok s') ↔ ∀ v ∈ vars, key v = e.1.name → ∃ x, holds v e.2 x := by
  unfold Section.putEntry
  rcases find?_cases h.settings e.1.name with ⟨setting, w, hw, hfind, hsetting, hkey⟩ | ⟨hfind, hnames⟩ <;>
    rw [hfind]
  · refine (hsetting.accepts ..).trans ⟨fun hx v hv hname => ?_, fun hall => hall w hw hkey⟩
    obtain rfl := h.eq_of_key hv hw (hname.trans hkey.symm)
    exact hx
  · exact ⟨fun _ v hv hname => absurd hname (hnames v hv), fun _ => ⟨s, rfl⟩⟩

/-- Entries are taken over by their names. -/
theorem foldlM_putEntry (hentries : (Entries.names entries).Nodup) (hv : v ∈ vars)
    (hfold : entries.foldlM sec.putEntry s = .ok s') :
    TakenOver get holds v s s' (Entries.get? (key v) entries) := by
  induction entries generalizing s with
  | nil => cases hfold; exact rfl
  | cons e entries ih =>
    rw [Entries.names_cons, List.nodup_cons] at hentries
    obtain ⟨he, hentries⟩ := hentries
    rw [List.foldlM_cons] at hfold
    obtain ⟨s₁, hfirst, hrest⟩ := bind_eq_ok.1 hfold
    have hentry := h.putEntry hv hfirst
    have hothers := ih hentries hrest
    rw [Entries.get?_cons]
    by_cases hname : e.1.name = key v
    · -- the name does not come again
      rw [hname] at he
      rw [if_pos hname] at hentry ⊢
      rw [Entries.get?_eq_none_iff.2 he] at hothers
      exact hentry.before hothers
    · rw [if_neg hname] at hentry ⊢
      exact hothers.after hentry

theorem exists_foldlM_iff (hentries : (Entries.names entries).Nodup) :
    (∃ s', entries.foldlM sec.putEntry s = .ok s') ↔
      ∀ v ∈ vars, ∀ n ∈ Entries.get? (key v) entries, ∃ x, holds v n x := by
  have hall : (∃ s', entries.foldlM sec.putEntry s = .ok s') ↔
      ∀ e ∈ entries, ∀ v ∈ vars, key v = e.1.name → ∃ x, holds v e.2 x := by
    clear hentries
    induction entries generalizing s with
    | nil => exact ⟨fun _ => List.forall_mem_nil _, fun _ => ⟨s, rfl⟩⟩
    | cons e entries ih =>
      rw [List.foldlM_cons, List.forall_mem_cons, ← h.exists_putEntry_iff (s := s)]
      constructor
      · rintro ⟨s', hfold⟩
        obtain ⟨s₁, hfirst, hrest⟩ := bind_eq_ok.1 hfold
        exact ⟨⟨s₁, hfirst⟩, ih.1 ⟨s', hrest⟩⟩
      · rintro ⟨⟨s₁, hfirst⟩, hrest⟩
        obtain ⟨s', hfold⟩ := (ih (s := s₁)).2 hrest
        exact ⟨s', bind_eq_ok.2 ⟨s₁, hfirst, hfold⟩⟩
  refine hall.trans ⟨fun hx v hv n hn => ?_, fun hx e he v hv hname => hx v hv e.2 ?_⟩
  · obtain ⟨e, he, hname, rfl⟩ := Entries.exists_mem_of_get? hn
    exact hx e he v hv hname.symm
  · rw [hname]
    exact Entries.get?_of_mem hentries he

/-! ## Sections -/

/-- Whether a section is read does not depend on the stretch to name in its place. -/
theorem exists_read_congr (fallback fallback' : Extent) (n : Node) :
    (∃ s', sec.read s fallback n = .ok s') ↔ ∃ s', sec.read s fallback' n = .ok s' := by
  cases n with
  | leaf extent scalar => cases scalar <;> exact Iff.rfl
  | array extent items => exact (exists_putItems_iff h.settings).trans (exists_putItems_iff h.settings).symm
  | tables items => exact (exists_putItems_iff h.settings).trans (exists_putItems_iff h.settings).symm
  | table extent origin entries => exact Iff.rfl

variable {n : Node} (hn : n.Unique)
include hn

/-- **What is read of a section** is, for each variable, what the section gives it, or as it was. -/
theorem read (hread : sec.read s fallback n = .ok s') {index : Nat} (hv : vars[index]? = some v) :
    TakenOver get holds v s s' (n.given? (key v) index) := by
  have hmem : v ∈ vars := List.mem_of_getElem? hv
  cases n with
  | leaf extent scalar =>
    cases scalar <;> cases hread
    exact rfl
  | array extent items => exact putItems_takenOver h.settings (.of_map _ h.keys) hread hv
  | tables items => exact putItems_takenOver h.settings (.of_map _ h.keys) hread hv
  | table extent origin entries => exact h.foldlM_putEntry hn.entries.names hmem hread

/-- **A section is read** if every variable may hold what it is given. -/
theorem exists_read_iff : (∃ s', sec.read s fallback n = .ok s') ↔ n.IsSection ∧
    ∀ (index : Nat) (v : ι), vars[index]? = some v → ∀ m ∈ n.given? (key v) index, ∃ x, holds v m x := by
  cases n with
  | leaf extent scalar =>
    constructor
    · rintro ⟨s', hread⟩
      cases scalar <;> cases hread
      exact ⟨rfl, fun _ _ _ m hm => by cases hm⟩
    · rintro ⟨rfl, -⟩
      exact ⟨s, rfl⟩
  | array extent items => exact (exists_putItems_iff h.settings).trans ⟨.intro trivial, And.right⟩
  | tables items => exact (exists_putItems_iff h.settings).trans ⟨.intro trivial, And.right⟩
  | table extent origin entries =>
    refine (h.exists_foldlM_iff hn.entries.names).trans ⟨fun hall => ⟨trivial, fun index v hv => ?_⟩, ?_⟩
    · exact hall v (List.mem_of_getElem? hv)
    · rintro ⟨-, hall⟩ v hv
      obtain ⟨index, hv⟩ := List.mem_iff_getElem?.1 hv
      exact hall index v hv

end Lists

end Section

end Descent
