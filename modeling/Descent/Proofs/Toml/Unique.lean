/-
  Documents hold every key once.

  * `Toml.Node.Unique`: no table of a node has two entries of one name, however deep it is.  Finding the table at the
    end of a path and changing it keeps that, if the change does (`Toml.Node.Keeps.within`).
  * `Toml.Draft.Unique`: so every line that is read keeps it for documents in the making.
  * `Toml.Reader.Yields` is what holds of whatever a reader gives, and `Toml.parse?_unique` says it of documents: they
    are tables in which no name stands twice.
-/
import Descent.Toml.Reader
import Mathlib.Data.List.Nodup

namespace Descent.Toml

variable {α β : Type} {P : α → Prop} {Q : β → Prop} {n n' v child : Node} {es : Entries} {name : String} {key : Key}

/-! ## Nodes -/

/-- The names of the entries. -/
def Entries.names (es : Entries) : List String := es.map fun e => e.1.name

namespace Node

/-- No table has two entries of one name. -/
inductive Unique : Node → Prop
  | leaf (extent : Extent) (scalar : Scalar) : Unique (leaf extent scalar)
  | array {extent : Extent} {items : List Node} : (∀ n ∈ items, Unique n) → Unique (array extent items)
  | tables {items : List Node} : (∀ n ∈ items, Unique n) → Unique (tables items)
  | table {extent : Option Extent} {origin : Origin} {entries : Entries} :
      (Entries.names entries).Nodup → (∀ e ∈ entries, Unique e.2) → Unique (table extent origin entries)

end Node

namespace Entries

theorem names_cons (e : Key × Node) (es : Entries) : names (e :: es) = e.1.name :: names es := rfl

theorem get?_cons (name : String) (e : Key × Node) (es : Entries) :
    get? name (e :: es) = if e.1.name = name then some e.2 else get? name es := by
  rw [get?, List.find?_cons]
  split <;> simp_all [get?]

theorem get?_eq_none_iff : get? name es = none ↔ name ∉ es.names := by
  rw [get?, Option.map_eq_none_iff, List.find?_eq_none]
  simp only [names, beq_iff_eq, List.mem_map, not_exists, not_and]

theorem exists_mem_of_get? (h : get? name es = some n) : ∃ e ∈ es, e.1.name = name ∧ e.2 = n := by
  obtain ⟨e, he, rfl⟩ := Option.map_eq_some_iff.1 h
  exact ⟨e, List.mem_of_find?_eq_some he, by simpa using List.find?_some he, rfl⟩

/-- Of entries without two of one name, each is found. -/
theorem get?_of_mem {e : Key × Node} (h : es.names.Nodup) (he : e ∈ es) : get? e.1.name es = some e.2 := by
  induction es with
  | nil => cases he
  | cons first es ih =>
    rw [names_cons, List.nodup_cons] at h
    obtain ⟨hfirst, hrest⟩ := h
    rw [get?_cons]
    rcases List.mem_cons.1 he with rfl | he
    · exact if_pos rfl
    · have hmem : e.1.name ∈ names es := List.mem_map_of_mem he
      have hne : first.1.name ≠ e.1.name := by
        intro heq
        rw [heq] at hfirst
        exact hfirst hmem
      rw [if_neg hne]
      exact ih hrest he

/-- Entries of a table without two of one name. -/
structure Unique (es : Entries) : Prop where
  names : es.names.Nodup
  values : ∀ e ∈ es, e.2.Unique

theorem unique_nil : Unique [] := ⟨List.nodup_nil, List.forall_mem_nil _⟩

namespace Unique

variable (h : es.Unique)
include h

theorem get? (hget : Entries.get? name es = some n) : n.Unique := by
  obtain ⟨e, he, -, rfl⟩ := exists_mem_of_get? hget
  exact h.values e he

theorem concat (hkey : Entries.get? key.name es = none) (hv : v.Unique) : Unique (es ++ [(key, v)]) := by
  constructor
  · rw [Entries.names, List.map_append, List.map_singleton, ← List.concat_eq_append]
    exact h.names.concat (get?_eq_none_iff.1 hkey)
  · exact List.forall_mem_append.2 ⟨h.values, List.forall_mem_singleton.2 hv⟩

theorem replace (name : String) (hv : v.Unique) : (replace name v es).Unique := by
  have hnames : (Entries.replace name v es).names = es.names := by
    rw [Entries.names, Entries.replace, List.map_map]
    refine List.map_congr_left fun e _ => ?_
    rw [Function.comp_apply]
    split <;> rfl
  constructor
  · rw [hnames]
    exact h.names
  · refine List.forall_mem_map.2 fun e he => ?_
    split
    · exact hv
    · exact h.values e he

theorem erase (name : String) : (erase name es).Unique :=
  ⟨h.names.sublist (List.filter_sublist.map _), fun e he => h.values e (List.mem_filter.1 he).1⟩

end Unique

end Entries

namespace Node

/-- A table, whose entries have different names. -/
def UniqueTable (n : Node) : Prop := ∃ extent origin entries, n = table extent origin entries ∧ Entries.Unique entries

theorem Unique.entries {extent : Option Extent} {origin : Origin} (h : (Node.table extent origin es).Unique) :
    es.Unique := by
  cases h with
  | table hnames hvalues => exact ⟨hnames, hvalues⟩

theorem UniqueTable.unique (h : n.UniqueTable) : n.Unique := by
  obtain ⟨extent, origin, entries, rfl, h⟩ := h
  exact .table h.names h.values

theorem uniqueTable_table (extent : Option Extent) (origin : Origin) (h : es.Unique) :
    (table extent origin es).UniqueTable := ⟨extent, origin, es, rfl, h⟩

theorem uniqueTable_emptyTable (extent : Option Extent) (origin : Origin) : (emptyTable extent origin).UniqueTable :=
  uniqueTable_table extent origin Entries.unique_nil

/-! ## Changes -/

/-- Of what is unique a change makes a table that is, and something else besides that has a property. -/
def Keeps (P : α → Prop) (change : Change α) : Prop :=
  ∀ n a n', n.Unique → change n = some (a, n') → P a ∧ n'.UniqueTable

variable {change : Change α} {a : α}

theorem Keeps.enter (h : Keeps P change) {byKey : Bool} (hn : n.Unique)
    (henter : enter byKey change n = some (a, n')) : P a ∧ n'.Unique := by
  cases n with
  | leaf | array => cases henter
  | table extent origin entries =>
    rw [Node.enter] at henter
    split at henter
    · cases henter
    · exact (h _ _ _ hn henter).imp_right UniqueTable.unique
  | tables items =>
    simp only [Node.enter, Option.bind_eq_bind, Option.bind_eq_some_iff, Option.pure_def, Option.some.injEq,
      Prod.mk.injEq] at henter
    obtain ⟨last, hlast, ⟨a', last'⟩, hchange, rfl, rfl⟩ := henter
    cases hn with
    | tables hitems =>
      obtain ⟨ha, hlast'⟩ := h _ _ _ (hitems last (List.mem_of_getLast? hlast)) hchange
      refine ⟨ha, .tables (List.forall_mem_append.2 ⟨fun n hn => ?_, List.forall_mem_singleton.2 hlast'.unique⟩)⟩
      exact hitems n (List.dropLast_subset items hn)

/-- **A change at the end of a path** keeps what the change keeps. -/
theorem Keeps.within (h : Keeps P change) (byKey : Bool) (path : List Key) : Keeps P (within byKey path change) := by
  induction path with
  | nil => exact h
  | cons key path ih =>
    intro n a n' hn hwithin
    cases n with
    | leaf | array | tables => cases hwithin
    | table extent origin entries =>
      rw [Node.within] at hwithin
      split at hwithin
      · next hkey =>
        simp only [Option.bind_eq_bind, Option.bind_eq_some_iff, Option.pure_def, Option.some.injEq,
          Prod.mk.injEq] at hwithin
        obtain ⟨⟨a', child⟩, hmade, rfl, rfl⟩ := hwithin
        obtain ⟨ha, hchild⟩ := ih _ _ _ (uniqueTable_emptyTable _ _).unique hmade
        exact ⟨ha, uniqueTable_table _ _ (hn.entries.concat hkey hchild.unique)⟩
      · next child hkey =>
        simp only [Option.bind_eq_bind, Option.bind_eq_some_iff, Option.pure_def, Option.some.injEq,
          Prod.mk.injEq] at hwithin
        obtain ⟨⟨a', child'⟩, henter, rfl, rfl⟩ := hwithin
        obtain ⟨ha, hchild⟩ := ih.enter (hn.entries.get? hkey) henter
        exact ⟨ha, uniqueTable_table _ _ (hn.entries.replace _ hchild)⟩

theorem Unique.add {path : List Key} (hn : n.Unique) (hv : v.Unique) (h : n.add path key v = some n') :
    n'.UniqueTable := by
  obtain ⟨⟨⟨⟩, n''⟩, hwithin, rfl⟩ := Option.map_eq_some_iff.1 h
  refine (Keeps.within (P := fun _ => True) ?_ true path n () n'' hn hwithin).2
  intro n a n' hn hput
  cases n with
  | leaf | array | tables => cases hput
  | table extent origin entries =>
    dsimp only at hput
    split at hput
    · next hfree =>
      cases hput
      exact ⟨trivial, uniqueTable_table _ _ (hn.entries.concat (Option.isNone_iff_eq_none.1 hfree.2) hv)⟩
    · cases hput

end Node

/-! ## Documents in the making -/

namespace Draft

open Node (Keeps UniqueTable uniqueTable_table uniqueTable_emptyTable)

variable {d d' : Draft} {repeated : Bool} {path : List Key}

/-- The tables of a draft hold every key once. -/
structure Unique (d : Draft) : Prop where
  root : d.root.UniqueTable
  current : d.current.UniqueTable

theorem unique_empty : empty.Unique := ⟨uniqueTable_emptyTable _ _, uniqueTable_emptyTable _ _⟩

theorem keeps_place (repeated : Bool) (key : Key) (hv : v.Unique) : Keeps (fun _ => True) (place repeated key v) := by
  intro n a n' hn h
  cases n with
  | leaf | array | tables => cases h
  | table extent origin entries =>
    unfold place at h
    dsimp only at h
    split at h
    · next items hitems =>
      cases h
      refine ⟨trivial, uniqueTable_table _ _ (hn.entries.replace _ ?_)⟩
      cases hn.entries.get? hitems with
      | tables hunique => exact .tables (List.forall_mem_append.2 ⟨hunique, List.forall_mem_singleton.2 hv⟩)
    · next hfree =>
      cases h
      exact ⟨trivial, uniqueTable_table _ _ (hn.entries.concat hfree hv)⟩
    · cases h

theorem keeps_reserve (key : Key) : Keeps (fun _ => True) (reserve key) := by
  intro n a n' hn h
  cases n with
  | leaf | array | tables => cases h
  | table extent origin entries =>
    rw [reserve] at h
    split at h
    · next hfree =>
      cases h
      exact ⟨trivial, uniqueTable_table _ _ (hn.entries.concat hfree (.tables (List.forall_mem_nil _)))⟩
    · cases h
      exact ⟨trivial, uniqueTable_table _ _ hn.entries⟩
    · cases h

theorem keeps_vacate (key : Key) : Keeps Entries.Unique (vacate key) := by
  intro n a n' hn h
  cases n with
  | leaf | array | tables => cases h
  | table extent origin entries =>
    rw [vacate] at h
    split at h
    · cases h
      exact ⟨Entries.unique_nil, uniqueTable_table _ _ hn.entries⟩
    · next held hheld =>
      cases h
      exact ⟨(hn.entries.get? hheld).entries, uniqueTable_table _ _ (hn.entries.erase _)⟩
    · cases h

namespace Unique

variable (h : d.Unique)
include h

theorem close (hclose : d.close = some n) : n.UniqueTable := by
  rw [Draft.close] at hclose
  split at hclose
  · cases hclose
    exact h.current
  · obtain ⟨⟨⟨⟩, n'⟩, hwithin, rfl⟩ := Option.map_eq_some_iff.1 hclose
    exact ((keeps_place _ _ h.current.unique).within false _ _ _ _ h.root.unique hwithin).2

theorem begin? {extent : Extent} (hbegin : d.begin? repeated path extent = some d') : d'.Unique := by
  simp only [Draft.begin?, Option.bind_eq_bind, Option.bind_eq_some_iff] at hbegin
  obtain ⟨root, hroot, key, -, hbegin⟩ := hbegin
  have hunique : root.Unique := (h.close hroot).unique
  split at hbegin <;> obtain ⟨⟨held, root'⟩, hwithin, hbegin⟩ := Option.bind_eq_some_iff.1 hbegin <;> cases hbegin
  · exact ⟨((keeps_reserve key).within false _ _ _ _ hunique hwithin).2, uniqueTable_emptyTable _ _⟩
  · obtain ⟨hheld, hroot'⟩ := (keeps_vacate key).within false _ _ _ _ hunique hwithin
    exact ⟨hroot', uniqueTable_table _ _ hheld⟩

theorem add {stop : Nat} (hv : v.Unique) (hadd : d.add path key v stop = some d') : d'.Unique := by
  simp only [Draft.add, Option.bind_eq_bind, Option.bind_eq_some_iff] at hadd
  obtain ⟨n, hn, hadd⟩ := hadd
  cases hadd
  obtain ⟨extent, origin, entries, rfl, hentries⟩ := h.current.unique.add hv hn
  refine ⟨h.root, ?_⟩
  cases extent <;> exact uniqueTable_table _ _ hentries

end Unique

end Draft

/-! ## What a reader gives -/

namespace Reader

open Node (UniqueTable)

variable {r : Reader α} {f : α → Reader β} {d : Draft} {value : Reader Node}

/-- Whatever a reader gives has a property. -/
def Yields (r : Reader α) (P : α → Prop) : Prop := ∀ s a s', r.run s = some (a, s') → P a

theorem yields_pure {a : α} (h : P a) : Yields (pure a) P := by
  intro s b s' hrun
  cases hrun
  exact h

theorem yields_failure : Yields failure P := fun _ _ _ hrun => by cases hrun

theorem yields_lift {x : Option α} (h : ∀ a, x = some a → P a) : Yields (liftM x) P := by
  intro s a s' hrun
  obtain ⟨b, hb, heq⟩ := Option.bind_eq_some_iff.1 hrun
  cases heq
  exact h a hb

theorem Yields.bind (hr : Yields r P) (hf : ∀ a, P a → Yields (f a) Q) : Yields (r >>= f) Q := by
  intro s b s' hrun
  obtain ⟨⟨a, t⟩, hfirst, hrest⟩ := Option.bind_eq_some_iff.1 hrun
  exact hf a (hr s a t hfirst) t b s' hrest

/-- What is read first need not matter. -/
theorem yields_bind (hf : ∀ a, Yields (f a) Q) : Yields (r >>= f) Q :=
  Yields.bind (P := fun _ => True) (fun _ _ _ _ => trivial) fun a _ => hf a

theorem yields_ite {c : Prop} [Decidable c] {r r' : Reader α} (h : Yields r P) (h' : Yields r' P) :
    Yields (if c then r else r') P := by
  split
  · exact h
  · exact h'

theorem yields_keyValue (h : Yields value Node.Unique) : Yields (keyValue value) fun r => r.2.2.Unique := by
  refine yields_bind fun _ => yields_bind fun _ => yields_bind fun _ => ?_
  exact h.bind fun v hv => yields_pure hv

theorem yields_items (h : Yields value Node.Unique) (fuel : Nat) {done : List Node} (hdone : ∀ v ∈ done, v.Unique) :
    Yields (items value fuel done) fun items => ∀ v ∈ items, v.Unique := by
  have hreverse {vs : List Node} (hvs : ∀ v ∈ vs, v.Unique) : ∀ v ∈ vs.reverse, v.Unique :=
    fun v hv => hvs v (List.mem_reverse.1 hv)
  induction fuel generalizing done with
  | zero => exact yields_failure
  | succ fuel ih =>
    rw [items]
    refine yields_bind fun _ => yields_bind fun _ => yields_ite ?_ ?_
    · exact yields_bind fun _ => yields_pure (hreverse hdone)
    · refine h.bind fun v hv => yields_bind fun _ => yields_bind fun _ => ?_
      have hdone' : ∀ v' ∈ v :: done, v'.Unique := List.forall_mem_cons.2 ⟨hv, hdone⟩
      exact yields_ite (yields_bind fun _ => ih hdone') (yields_bind fun _ => yields_pure (hreverse hdone'))

theorem yields_entries (h : Yields value Node.Unique) (fuel : Nat) {t : Node} (ht : t.UniqueTable) :
    Yields (entries value fuel t) UniqueTable := by
  induction fuel generalizing t with
  | zero => exact yields_failure
  | succ fuel ih =>
    rw [entries]
    refine (yields_keyValue h).bind fun entry hentry => ?_
    obtain ⟨path, key, v⟩ := entry
    refine Yields.bind (yields_lift fun t' ht' => ht.unique.add hentry ht') fun t' ht' => ?_
    refine yields_bind fun _ => yields_bind fun _ => yields_ite ?_ ?_
    · exact yields_bind fun _ => ih ht'
    · exact yields_bind fun _ => yields_pure ht'

theorem yields_braces (h : Yields value Node.Unique) : Yields (braces value) UniqueTable := by
  have hempty : (Node.emptyTable none .braces).UniqueTable := Node.uniqueTable_emptyTable _ _
  refine yields_bind fun _ => yields_bind fun _ => yields_bind fun _ => yields_ite ?_ ?_
  · exact yields_bind fun _ => yields_pure hempty
  · exact yields_bind fun _ => yields_entries h _ hempty

theorem yields_stretched (start : Nat) {t : Node} (ht : t.UniqueTable) : Yields (stretched start t) Node.Unique := by
  obtain ⟨extent, origin, entries, rfl, hentries⟩ := ht
  exact yields_bind fun _ => yields_pure (.table hentries.names hentries.values)

theorem yields_valueWith {inner : Option (Reader Node)} (h : ∀ value ∈ inner, Yields value Node.Unique) :
    Yields (valueWith inner) Node.Unique := by
  refine yields_bind fun start => yields_bind fun c => ?_
  split
  · exact yields_bind fun _ => yields_bind fun _ => yields_pure (.leaf _ _)
  · exact yields_bind fun _ => yields_bind fun _ => yields_pure (.leaf _ _)
  · next value =>
    refine yields_bind fun _ => yields_bind fun _ => ?_
    refine (yields_items (h value rfl) _ (List.forall_mem_nil _)).bind fun items hitems => ?_
    exact yields_bind fun _ => yields_pure (.array hitems)
  · next value => exact (yields_braces (h value rfl)).bind fun t ht => yields_stretched start ht
  · exact yields_bind fun _ => yields_bind fun _ => yields_pure (.leaf _ _)

/-- **Values hold every key once.** -/
theorem yields_valueAt (depth : Nat) : Yields (valueAt depth) Node.Unique := by
  induction depth with
  | zero => exact yields_valueWith fun _ h => by cases h
  | succ depth ih =>
    refine yields_valueWith fun value h => ?_
    cases h
    exact ih

theorem yields_header (hd : d.Unique) : Yields (header d) Draft.Unique := by
  refine yields_bind fun start => yields_bind fun _ => yields_bind fun _ => yields_bind fun entry => ?_
  obtain ⟨path, key⟩ := entry
  have hbegin (repeated : Bool) (extent : Extent) :
      Yields (liftM (d.begin? repeated (path ++ [key]) extent)) Draft.Unique :=
    yields_lift fun d' hd' => hd.begin? hd'
  refine yields_bind fun _ => yields_ite ?_ ?_
  · exact yields_bind fun _ => yields_bind fun _ => yields_bind fun _ => hbegin _ _
  · exact yields_bind fun _ => yields_bind fun _ => hbegin _ _

theorem yields_assignment (hd : d.Unique) : Yields (assignment d) Draft.Unique := by
  refine (yields_keyValue (yields_valueAt _)).bind fun entry hentry => ?_
  obtain ⟨path, key, v⟩ := entry
  exact yields_bind fun _ => yields_bind fun _ => yields_lift fun d' hd' => hd.add hentry hd'

theorem yields_line (hd : d.Unique) : Yields (line d) Draft.Unique := by
  refine yields_bind fun c => ?_
  split
  · exact yields_header hd
  · exact yields_ite (yields_bind fun _ => yields_pure hd) (yields_assignment hd)
  · exact yields_pure hd

/-- **After any lines** every key is held once. -/
theorem yields_lines (fuel : Nat) (hd : d.Unique) : Yields (lines fuel d) Draft.Unique := by
  induction fuel generalizing d with
  | zero => exact yields_pure hd
  | succ fuel ih =>
    rw [lines]
    refine yields_bind fun _ => yields_bind fun _ => yields_ite (yields_pure hd) ?_
    exact (yields_line hd).bind fun d' hd' => ih hd'

theorem yields_document : Yields document UniqueTable := by
  have hlines (fuel : Nat) : Yields (do liftM (← lines fuel .empty).close) UniqueTable :=
    (yields_lines fuel Draft.unique_empty).bind fun d hd => yields_lift fun n hn => hd.close hn
  refine yields_bind fun _ => yields_ite ?_ ?_
  · exact yields_bind fun _ => yields_bind fun _ => hlines _
  · exact yields_bind fun _ => hlines _

end Reader

/-- **A document is a table that holds every key once**, and so does every table in it. -/
theorem parse?_unique {text : String} {document : Node} (h : parse? text = some document) :
    ∃ extent origin entries, document = .table extent origin entries ∧ Entries.Unique entries := by
  obtain ⟨⟨n, s⟩, hrun, rfl⟩ := Option.map_eq_some_iff.1 h
  exact Reader.yields_document _ _ _ hrun

end Descent.Toml
