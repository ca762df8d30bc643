/-
  A memory of the latest events.

  A `Memory` keeps up to `Limits.logBuffer` events and forgets the oldest one for each that comes after.
  It is a queue of two lists: the front holds the oldest events in order, the back the latest ones in
  reverse.  `toList` are its events, the oldest first.

  * `toList_record`: of the events with a new one, the latest are kept.
  * `count_eq_length`: `count` is the number of events.
  * `Summary.ofList_total`: every event is counted at its level.
-/
import Descent.Log.Event

namespace Descent

/-- The latest events, with their number. -/
structure Memory where
  front : List Event
  back : List Event
  count : Nat
  count_eq : count = front.length + back.length

/-- How many events there are, in all and at each level. -/
structure Summary where
  total : Nat
  errors : Nat
  warnings : Nat
  infos : Nat
  debugs : Nat
deriving DecidableEq, Repr

namespace Memory

/-- A memory without events. -/
def empty : Memory := ⟨[], [], 0, rfl⟩

/-- The events, the oldest first. -/
def toList (m : Memory) : List Event := m.front ++ m.back.reverse

/-- Forget the oldest event. -/
def forgetOldest (m : Memory) : Memory :=
  match m with
  | ⟨_ :: front, back, _, _⟩ => ⟨front, back, front.length + back.length, rfl⟩
  | ⟨[], back, _, _⟩ => ⟨back.reverse.tail, [], back.reverse.tail.length, by simp⟩

/-- Put an event after the others. -/
def push (m : Memory) (e : Event) : Memory :=
  ⟨m.front, e :: m.back, m.count + 1, by simp [m.count_eq, Nat.add_assoc]⟩

/-- Remember an event, in the place of the oldest one if there is no room. -/
def record (m : Memory) (e : Event) : Memory :=
  (if Limits.logBuffer ≤ m.count then m.forgetOldest else m).push e

/-! ## The events as a list -/

@[simp] theorem toList_empty : empty.toList = [] := rfl

@[simp] theorem toList_push (m : Memory) (e : Event) : (m.push e).toList = m.toList ++ [e] := by
  simp [push, toList]

@[simp] theorem toList_forgetOldest (m : Memory) : m.forgetOldest.toList = m.toList.tail := by
  obtain ⟨front, back, count, h⟩ := m
  cases front <;> simp [forgetOldest, toList]

theorem count_eq_length (m : Memory) : m.count = m.toList.length := by
  simp [toList, m.count_eq]

/-- Of the events with a new one, the latest are kept. -/
theorem toList_record {m : Memory} (h : m.toList.length ≤ Limits.logBuffer) (e : Event) :
    (m.record e).toList = (m.toList ++ [e]).drop (m.toList.length + 1 - Limits.logBuffer) := by
  unfold record
  split
  · rename_i full
    rw [count_eq_length] at full
    have one : m.toList.length + 1 - Limits.logBuffer = 1 := by omega
    rw [toList_push, toList_forgetOldest, one, List.drop_one, List.tail_append_of_ne_nil]
    intro none
    simp [none, Limits.logBuffer] at full
  · rename_i room
    rw [count_eq_length] at room
    have zero : m.toList.length + 1 - Limits.logBuffer = 0 := by omega
    rw [toList_push, zero, List.drop_zero]

/-! ## Asking for events -/

/-- The errors. -/
def errors (m : Memory) : List Event := m.toList.filter (·.level = .error)

/-- The events with a code. -/
def withCode (m : Memory) (code : Code) : List Event := m.toList.filter (·.code = code)

/-- Whether there is an error with a code. -/
def hasError (m : Memory) (code : Code) : Bool := m.toList.any fun e => e.level = .error && e.code = code

/-- Whether there is information with a code. -/
def hasSuccess (m : Memory) (code : Code) : Bool := m.toList.any fun e => e.level = .info && e.code = code

end Memory

namespace Summary

/-- How many events of a list have a level. -/
def countAt (level : Level) (events : List Event) : Nat := events.countP (·.level = level)

/-- The summary of a list of events. -/
def ofList (events : List Event) : Summary where
  total := events.length
  errors := countAt .error events
  warnings := countAt .warning events
  infos := countAt .info events
  debugs := countAt .debug events

/-- Every event is counted at its level. -/
theorem ofList_total (events : List Event) :
    (ofList events).errors + (ofList events).warnings + (ofList events).infos + (ofList events).debugs =
      (ofList events).total := by
  induction events with
  | nil => rfl
  | cons e es ih =>
    simp only [ofList, countAt, List.countP_cons, List.length_cons] at ih ⊢
    cases e.level <;> simp <;> omega

end Summary

end Descent
