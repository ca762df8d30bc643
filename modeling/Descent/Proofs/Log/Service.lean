/-
  Which events are delivered, however the least level is changed.

  * `Service.Origin` are the ways to make a service, and `Service.setAll` changes its least level again and again.
    The last level counts (`least_setAll`), and the sink stays as it was made (`sink_setAll`).
  * `Service.deliver_eq`: a service delivers what it wants and its sink takes.  A sink that writes lines takes what the
    settings let through that it was made from (`Service.Origin.bound`), whatever is changed later.
  * `Service.delivers_exactly`: so what is wanted is what is delivered for as long as the least level does not pass that
    bound, and no longer; a level that was raised is not heard (`Service.raised_level_unheard`).
-/
import Descent.Log.Service

namespace Descent

namespace Level

variable {level least bound : Level}

theorem passes_iff : level.passes least = true ↔ level.rank ≤ least.rank := decide_eq_true_iff

theorem passes_self (level : Level) : level.passes level = true := passes_iff.2 (Nat.le_refl _)

theorem passes_least_debug (level : Level) : level.passes debug = true := by
  cases level <;> rfl

theorem passes_trans (h : level.passes least = true) (h' : least.rank ≤ bound.rank) : level.passes bound = true :=
  passes_iff.2 (Nat.le_trans (passes_iff.1 h) h')

end Level

namespace Service

/-! ## Changes of the least level -/

/-- The service after its least level was set to each of some levels. -/
def setAll (s : Service) (levels : List Level) : Service := levels.foldl setLeast s

theorem sink_setAll (s : Service) (levels : List Level) : (s.setAll levels).sink = s.sink := by
  induction levels generalizing s with
  | nil => rfl
  | cons level levels ih => exact ih (s.setLeast level)

theorem least_setAll (s : Service) (levels : List Level) :
    (s.setAll levels).least = levels.getLast?.getD s.least := by
  induction levels generalizing s with
  | nil => rfl
  | cons level levels ih => rw [List.getLast?_cons, Option.getD_some]; exact (ih (s.setLeast level)).trans rfl

/-! ## Ways to make a service -/

/-- The ways to make a service. -/
inductive Origin where
  /-- For a memory. -/
  | memory (least : Level)
  /-- From settings. -/
  | preferences (p : LoggingPreferences)
  /-- Without a sink. -/
  | disabled

namespace Origin

/-- The service that is made. -/
def service : Origin → Service
  | memory least => .new .memory least
  | preferences p => .ofPreferences p
  | disabled => .disabled

/-- The least grave level that the sink takes. -/
def bound : Origin → Level
  | memory _ => .debug
  | preferences p => p.minLevel
  | disabled => .debug

/-- What becomes of an event that is not dropped. -/
def delivery (e : Event) (time : String) : Origin → Delivery
  | preferences p => .written e.stream (e.line time (if p.useStructured then .structured else .plain))
  | _ => .kept e

/-- The sink takes what its bound lets through. -/
theorem deliver_sink (o : Origin) (e : Event) (time : String) :
    (o.service.sink.bind fun sink => sink.deliver e time) =
      if o.service.isEnabled ∧ e.level.passes o.bound then some (o.delivery e time) else none := by
  cases o with
  | memory least => rw [if_pos ⟨rfl, e.level.passes_least_debug⟩]; rfl
  | preferences p =>
    obtain ⟨structured, console, least⟩ := p
    cases console with
    | false => rw [if_neg fun h => Bool.false_ne_true h.1]; rfl
    | true =>
      have henabled : (service (preferences ⟨structured, true, least⟩)).isEnabled = true := rfl
      simp only [henabled, true_and]
      rfl
  | disabled => rw [if_neg fun h => Bool.false_ne_true h.1]; rfl

end Origin

/-! ## What is delivered -/

/-- **A service delivers what it wants and its sink takes.** -/
theorem deliver_eq (o : Origin) (levels : List Level) (e : Event) (time : String) :
    let s := o.service.setAll levels
    s.deliver e time = if s.wants e.level ∧ e.level.passes o.bound then some (o.delivery e time) else none := by
  intro s
  have hsink : s.sink = o.service.sink := sink_setAll ..
  have hsent := o.deliver_sink e time
  simp only [deliver, wants, isEnabled, hsink] at hsent ⊢
  cases hs : o.service.sink with
  | none => rfl
  | some sink =>
    simp only [hs, Option.bind_some, Option.isSome_some, true_and, Bool.true_and] at hsent ⊢
    by_cases hleast : e.level.passes s.least = true <;> simp [hleast, hsent]

/-- **When what is wanted is delivered.**  However the least level of a service is changed, an event is delivered once
if the service wants it and its sink takes it, and not at all otherwise.  So all wanted events are delivered just if
the least level that is in force does not pass the one that the sink was made with, and events are never delivered
that are not wanted. -/
theorem delivers_exactly (o : Origin) (levels : List Level) :
    let s := o.service.setAll levels
    s.least = levels.getLast?.getD o.service.least ∧
    (∀ e time, s.deliver e time =
      if s.wants e.level ∧ e.level.passes o.bound then some (o.delivery e time) else none) ∧
    ((∀ e time, (s.deliver e time).isSome = s.wants e.level) ↔ s.isEnabled → s.least.rank ≤ o.bound.rank) := by
  intro s
  have hdeliver : ∀ e time, s.deliver e time =
      if s.wants e.level ∧ e.level.passes o.bound then some (o.delivery e time) else none := deliver_eq o levels
  refine ⟨least_setAll .., hdeliver, fun h henabled => ?_, fun h e time => ?_⟩
  · -- an event of the least level is wanted, so it must pass the bound
    let e : Event := ⟨s.least, .genericInfo, "", none, .empty⟩
    have hwants : s.wants e.level = true := by rw [wants, henabled, Level.passes_self]; rfl
    have hsome := h e ""
    rw [hdeliver, hwants] at hsome
    refine Decidable.byContradiction fun hbound => ?_
    rw [if_neg fun hpasses => hbound (Level.passes_iff.1 hpasses.2)] at hsome
    cases hsome
  · rw [hdeliver]
    by_cases hwants : s.wants e.level = true
    · obtain ⟨henabled, hleast⟩ := Bool.and_eq_true_iff.1 hwants
      rw [if_pos ⟨hwants, Level.passes_trans hleast (h henabled)⟩, hwants]
      rfl
    · rw [if_neg fun hpasses => hwants hpasses.1, Bool.eq_false_iff.2 hwants]
      rfl

/-- A level that was raised is not heard: details are wanted then, and dropped by the sink of settings that let through
no more than information. -/
theorem raised_level_unheard :
    ¬∀ (o : Origin) (levels : List Level) (e : Event) (time : String),
      ((o.service.setAll levels).deliver e time).isSome = (o.service.setAll levels).wants e.level := by
  intro h
  have hraised := h (.preferences ⟨false, true, .info⟩) [.debug] (.debug "m") ""
  exact Bool.false_ne_true hraised

end Service

end Descent
