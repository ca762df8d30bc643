/-
  Events, and what a logger keeps of them.

  * `Event.get?_withContext`: every detail of an event is found under its name.
  * `debugEvent_eq`: details of the work are logged where the least level is theirs.
  * `Service.KeepsAll` are the services that keep whatever comes, which are the memories for all levels
    (`Service.keepsAll_iff`).  `Service.KeepsAll.dispatch`: what is logged then is what was emitted.
-/
import Descent.Log.Installation
import Descent.Proofs.Log.Message
import Descent.Proofs.Text.SortedMap

namespace Descent

/-! ## Details -/

namespace SortedMap

variable {α : Type} {m : SortedMap α} {name : String}

theorem ordered_insert (h : Ordered m.entries) (name : String) (value : α) :
    Ordered (m.insert name value).entries :=
  h.upsertIn name _

theorem get?_insert (h : Ordered m.entries) (name : String) (value : α) (other : String) :
    (m.insert name value).get? other = if other = name then some value else m.get? other :=
  h.lookup_upsertIn name _ other

theorem get?_foldl_insert_of_notMem {pairs : List (String × α)} (h : Ordered m.entries)
    (hname : name ∉ pairs.map Prod.fst) :
    (pairs.foldl (fun m p => m.insert p.1 p.2) m).get? name = m.get? name := by
  induction pairs generalizing m with
  | nil => rfl
  | cons pair pairs ih =>
    rw [List.map_cons, List.mem_cons, not_or] at hname
    rw [List.foldl_cons, ih (ordered_insert h ..) hname.2, get?_insert h, if_neg hname.1]

/-- Of names with values that are put into a map, each is found there with its value. -/
theorem get?_foldl_insert_of_mem {pairs : List (String × α)} {value : α} (h : Ordered m.entries)
    (hnames : (pairs.map Prod.fst).Nodup) (hmem : (name, value) ∈ pairs) :
    (pairs.foldl (fun m p => m.insert p.1 p.2) m).get? name = some value := by
  induction pairs generalizing m with
  | nil => cases hmem
  | cons pair pairs ih =>
    obtain ⟨hfirst, hrest⟩ := List.nodup_cons.1 hnames
    rw [List.foldl_cons]
    rcases List.mem_cons.1 hmem with rfl | hmem
    · exact (get?_foldl_insert_of_notMem (ordered_insert h ..) hfirst).trans
        ((get?_insert h ..).trans (if_pos rfl))
    · exact ih (ordered_insert h ..) hrest hmem

end SortedMap

namespace Event

variable {e : Event} {pairs : List (String × String)}

/-- **Every detail of an event is found under its name.** -/
theorem get?_withContext {name value : String} (h : e.context = .empty)
    (hnames : (pairs.map Prod.fst).Nodup) (hmem : (name, value) ∈ pairs) :
    (e.withContext pairs).context.get? name = some value := by
  refine SortedMap.get?_foldl_insert_of_mem ?_ hnames hmem
  rw [h]
  exact List.Pairwise.nil

end Event

theorem Level.passes_debug (least : Level) : Level.debug.passes least = decide (least = .debug) := by
  cases least <;> rfl

/-- **Details of the work are logged** where they are wanted and the least level is theirs. -/
theorem debugEvent_eq (least : Level) (wanted : Bool) (message : String) (context : List (String × String)) :
    debugEvent least wanted message context =
      if wanted = true ∧ least = .debug then [(Event.debug message).withContext context] else [] := by
  rw [debugEvent, Level.passes_debug]
  simp only [Bool.and_eq_true, decide_eq_true_eq]

/-! ## Services that keep everything -/

/-- Whatever comes is kept. -/
def Service.KeepsAll (service : Service) : Prop := ∀ e time, service.deliver e time = some (.kept e)

/-- **The services that keep everything** are the memories for all levels. -/
theorem Service.keepsAll_iff {service : Service} : service.KeepsAll ↔ service = .new .memory .debug := by
  constructor
  · intro h
    obtain ⟨sink, least⟩ := service
    have hdetail := h (.debug "") ""
    cases sink with
    | none => cases hdetail
    | some sink =>
      cases sink with
      | memory => cases least <;> first | rfl | cases hdetail
      | lines format level =>
        simp only [deliver, Sink.deliver] at hdetail
        split at hdetail
        · split at hdetail <;> cases hdetail
        · cases hdetail
  · rintro rfl e time
    have hpasses : e.level.passes .debug = true := by cases e.level <;> rfl
    exact if_pos hpasses

/-- **What is logged is what was emitted.** -/
theorem Service.KeepsAll.dispatch {service : Service} (h : service.KeepsAll) {s : Installation}
    (hs : s.logger = some service) (events : List Event) (time : String) :
    s.dispatch events time = events.map .kept := by
  rw [Installation.dispatch, hs]
  have hkept : (fun e => service.deliver e time) = fun e => some (.kept e) := funext fun e => h e time
  dsimp only
  rw [hkept, List.filterMap_eq_map']

end Descent
