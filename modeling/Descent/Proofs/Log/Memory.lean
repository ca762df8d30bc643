/-
  What a memory holds after any calls.

  * `Memory.Call` are the calls that change a memory, `Memory.run` a sequence of them, and `Memory.logged` the
    events that came after it was cleared last.
  * `Memory.Latest` says that a memory holds the latest of some events, as many as it has room for.  One more
    event keeps that (`Memory.Latest.record`), and so does a sequence of calls (`Memory.latest_run`).
  * `Memory.keeps_latest`: so questions about a memory are answered from the latest events.
-/
import Descent.Log.Memory
import Mathlib.Data.List.DropRight

namespace Descent.Memory

variable {m : Memory} {e : Event} {events : List Event} {calls : List Call}

/-! ## Calls -/

/-- The calls that change a memory. -/
inductive Call where
  | log (event : Event)
  | clear

/-- The memory after a call. -/
def Call.apply (m : Memory) : Call → Memory
  | log e => m.record e
  | clear => .empty

/-- The event that a call logs. -/
def Call.event? : Call → Option Event
  | log e => some e
  | clear => none

/-- The memory after a sequence of calls. -/
def run (m : Memory) (calls : List Call) : Memory := calls.foldl Call.apply m

/-- The events that were logged after the last call that cleared the memory. -/
def logged (calls : List Call) : List Event :=
  (calls.rtakeWhile fun call => call.event?.isSome).filterMap Call.event?

theorem logged_log (calls : List Call) (e : Event) : logged (calls ++ [.log e]) = logged calls ++ [e] := by
  rw [logged, List.rtakeWhile_concat_pos _ _ _ rfl, List.filterMap_append]
  rfl

theorem logged_clear (calls : List Call) : logged (calls ++ [.clear]) = [] := by
  rw [logged, List.rtakeWhile_concat_neg _ _ _ Bool.false_ne_true]
  rfl

/-! ## The latest events -/

/-- A memory holds the latest of some events, as many as there is room for. -/
def Latest (events : List Event) (m : Memory) : Prop := m.toList = events.rtake Limits.logBuffer

theorem latest_empty : Latest [] .empty := rfl

theorem Latest.length_eq (h : Latest events m) :
    m.toList.length = min events.length Limits.logBuffer := by
  rw [h, List.rtake, List.length_drop]
  omega

/-- **With one more event** a memory holds the latest of these. -/
theorem Latest.record (h : Latest events m) (e : Event) : Latest (events ++ [e]) (m.record e) := by
  have hlength := h.length_eq
  have hroom : m.toList.length ≤ Limits.logBuffer := hlength.trans_le (Nat.min_le_right _ _)
  have hfront : events.length - Limits.logBuffer ≤ events.length := Nat.sub_le _ _
  have hskip : events.length - Limits.logBuffer + (m.toList.length + 1 - Limits.logBuffer) =
      events.length + 1 - Limits.logBuffer := by omega
  rw [Latest, toList_record hroom, List.rtake, List.length_append, List.length_singleton, ← hskip,
    ← List.drop_drop, List.drop_append_of_le_length hfront]
  exact congrArg (fun kept => (kept ++ [e]).drop _) h

/-- **After any calls** a memory holds the latest of the events logged since it was cleared. -/
theorem latest_run (calls : List Call) : Latest (logged calls) (empty.run calls) := by
  induction calls using List.reverseRecOn with
  | nil => exact latest_empty
  | append_singleton calls call ih =>
    rw [run, List.foldl_concat]
    cases call with
    | log e =>
      rw [logged_log]
      exact ih.record e
    | clear =>
      rw [logged_clear]
      exact latest_empty

/-! ## Questions -/

theorem hasError_iff {code : Code} :
    m.hasError code = true ↔ ∃ e ∈ m.toList, e.level = .error ∧ e.code = code := by
  simp [hasError]

theorem hasSuccess_iff {code : Code} :
    m.hasSuccess code = true ↔ ∃ e ∈ m.toList, e.level = .info ∧ e.code = code := by
  simp [hasSuccess]

theorem errors_summary (m : Memory) : (Summary.ofList m.toList).errors = m.errors.length :=
  List.countP_eq_length_filter

/-- **A memory keeps the latest events.**  After any calls it holds, in their order, the last 10000 of the
events that were logged since it was cleared, or all of them if there are fewer; their number is counted right
and is never greater.  The errors and the events with a code are those among them, whether there is one is
answered by whether one is among them, and the summary counts each of them at its level. -/
theorem keeps_latest (calls : List Call) :
    let m := empty.run calls
    let summary := Summary.ofList m.toList
    m.toList = (logged calls).rtake 10000 ∧ m.toList.length = min (logged calls).length 10000 ∧
    m.count = m.toList.length ∧ m.count ≤ 10000 ∧
    m.errors = m.toList.filter (·.level = .error) ∧
    (∀ code, m.withCode code = m.toList.filter (·.code = code)) ∧
    (∀ code, m.hasError code = true ↔ ∃ e ∈ m.toList, e.level = .error ∧ e.code = code) ∧
    (∀ code, m.hasSuccess code = true ↔ ∃ e ∈ m.toList, e.level = .info ∧ e.code = code) ∧
    summary.errors + summary.warnings + summary.infos + summary.debugs = summary.total ∧
    summary.total = m.count ∧ summary.errors = m.errors.length := by
  intro m summary
  have hlatest : Latest (logged calls) m := latest_run calls
  have hcount : m.count = m.toList.length := m.count_eq_length
  have hlength : m.toList.length = min (logged calls).length 10000 := hlatest.length_eq
  refine ⟨hlatest, hlength, hcount, ?_, rfl, fun _ => rfl, fun _ => hasError_iff, fun _ => hasSuccess_iff,
    Summary.ofList_total m.toList, hcount.symm, errors_summary m⟩
  rw [hcount, hlength]
  exact Nat.min_le_right _ _

end Descent.Memory
