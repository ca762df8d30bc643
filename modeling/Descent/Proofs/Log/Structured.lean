/-
  Events as lines of JSON, which lose nothing.

  * `Event.DescribedBy`: what the members of an object say of an event.  The object of an event says all of it
    (`Event.exists_describedBy`), and what it says determines the event but for the offsets of its span
    (`Event.DescribedBy.agrees`).
  * `Event.structured_lossless`: an event is written on one line, which denotes the object of the event.
-/
import Descent.Log.Service
import Descent.Proofs.Json.RoundTrip

namespace Descent

/-- Line and column of the start, then of the end. -/
def Span.corners (s : Span) : (Nat × Nat) × (Nat × Nat) :=
  ((s.start.line, s.start.column), (s.stop.line, s.stop.column))

namespace Event

open Json (Value member?)

variable {e e' : Event} {members : List (String × Value)} {time : String}

/-! ## What an object says of an event -/

/-- The lines and columns of a span. -/
def cornersObject (s : Span) : Value :=
  .obj [("end_column", .int s.stop.column), ("end_line", .int s.stop.line),
    ("start_column", .int s.start.column), ("start_line", .int s.start.line)]

/-- Names with their texts. -/
def contextObject (details : SortedMap String) : Value :=
  .obj (details.entries.map fun detail => (detail.1, .str detail.2))

/-- **What members say of an event**: its level, code and message, the category and the severity of the code, what is
known about an error and of nothing else, the lines and columns of its span, if it has one, and its details, if there
are any. -/
structure DescribedBy (e : Event) (members : List (String × Value)) : Prop where
  level : member? "level" members = some (some (.str e.level.label))
  code : member? "code" members = some (some (.str e.code.text))
  message : member? "message" members = some (some (.str e.message))
  category : member? "category" members = some (some (.str e.code.category))
  severity : member? "severity" members = some (some (.str e.code.severity.name))
  metadata : member? "error_metadata" members = some (if e.level = .error then
    some (.obj [("description", .str e.code.description), ("recoverable", .bool e.code.recoverable),
      ("requires_halt", .bool e.code.requiresHalt)]) else none)
  span : member? "span" members = some (e.span.map cornersObject)
  context : member? "context" members = some (if e.context.entries = [] then none else
    some (contextObject e.context))

/-- **The object of an event describes it.** -/
theorem exists_describedBy (e : Event) (time : String) :
    ∃ members, e.json time = .obj members ∧ e.DescribedBy members := by
  refine ⟨_, rfl, ?_⟩
  obtain ⟨level, code, message, span, ⟨details⟩⟩ := e
  cases level <;> cases span <;> cases details <;> exact ⟨rfl, rfl, rfl, rfl, rfl, rfl, rfl, rfl⟩

/-! ## What is determined -/

/-- Two events agree in all but the offsets of their spans. -/
structure Agrees (e e' : Event) : Prop where
  level : e.level = e'.level
  code : e.code = e'.code
  message : e.message = e'.message
  corners : e.span.map Span.corners = e'.span.map Span.corners
  context : e.context = e'.context

theorem level_eq_of_label {a b : Level} (h : a.label = b.label) : a = b := by
  revert h
  cases a <;> cases b <;> decide

theorem corners_eq_of_object {a b : Span} (h : cornersObject a = cornersObject b) : a.corners = b.corners := by
  simp only [cornersObject, Value.obj.injEq, List.cons.injEq, Prod.mk.injEq, Value.int.injEq, Int.natCast_inj,
    true_and, and_true] at h
  obtain ⟨hendColumn, hendLine, hstartColumn, hstartLine⟩ := h
  rw [Span.corners, Span.corners, hstartLine, hstartColumn, hendLine, hendColumn]

theorem context_eq_of_object {a b : SortedMap String} (h : contextObject a = contextObject b) : a = b := by
  have hdetails : a.entries = b.entries := by
    refine (List.map_inj_right ?_).1 (Value.obj.inj h)
    rintro ⟨name, text⟩ ⟨name', text'⟩ heq
    cases heq
    rfl
  exact congrArg SortedMap.mk hdetails

/-- **What is said of an event determines it** but for the offsets of its span. -/
theorem DescribedBy.agrees (h : e.DescribedBy members) (h' : e'.DescribedBy members) : e.Agrees e' := by
  have hlevel := h.level.symm.trans h'.level
  have hcode := h.code.symm.trans h'.code
  have hmessage := h.message.symm.trans h'.message
  have hspan := h.span.symm.trans h'.span
  have hcontext := h.context.symm.trans h'.context
  simp only [Option.some.injEq, Value.str.injEq] at hlevel hcode hmessage hspan hcontext
  refine ⟨level_eq_of_label hlevel, ?_, hmessage, ?_, ?_⟩
  · obtain ⟨level, ⟨code⟩, message, span, context⟩ := e
    obtain ⟨level', ⟨code'⟩, message', span', context'⟩ := e'
    exact congrArg Code.mk hcode
  · cases hs : e.span <;> cases hs' : e'.span <;> simp only [hs, hs', Option.map_none, Option.map_some] at hspan ⊢
    · cases hspan
    · cases hspan
    · exact congrArg some (corners_eq_of_object (Option.some.inj hspan))
  · split at hcontext <;> split at hcontext
    · next hempty hempty' => exact congrArg SortedMap.mk (hempty.trans hempty'.symm)
    · cases hcontext
    · cases hcontext
    · exact context_eq_of_object (Option.some.inj hcontext)

/-! ## Lines -/

/-- The object of an event is read as it is written, if the coordinates of its span are words. -/
theorem plain_json (h : ∀ s ∈ e.span, s.Fits) (time : String) : (e.json time).Plain := by
  have hcontext : ∀ m ∈ e.contextMember, m.2.Plain := by
    rw [contextMember]
    split
    · exact List.forall_mem_nil _
    · exact List.forall_mem_singleton.2 (.obj (List.forall_mem_map.2 fun detail _ => .str detail.2))
  have herror : ∀ m ∈ e.errorMember, m.2.Plain := by
    rw [errorMember]
    split
    · refine List.forall_mem_singleton.2 (.obj ?_)
      simp only [List.forall_mem_cons]
      exact ⟨.str _, .bool _, .bool _, List.forall_mem_nil _⟩
    · exact List.forall_mem_nil _
  have hspan : ∀ m ∈ e.spanMember, m.2.Plain := by
    rw [spanMember]
    split
    · exact List.forall_mem_nil _
    · next s hs =>
      obtain ⟨hstart, hstop⟩ := h s hs
      refine List.forall_mem_singleton.2 (.obj ?_)
      simp only [List.forall_mem_cons]
      exact ⟨Json.plain_natCast hstop.column, Json.plain_natCast hstop.line, Json.plain_natCast hstart.column,
        Json.plain_natCast hstart.line, List.forall_mem_nil _⟩
  refine .obj ?_
  simp only [List.forall_mem_append, List.forall_mem_cons]
  exact ⟨⟨⟨⟨⟨⟨.str _, .str _, List.forall_mem_nil _⟩, hcontext⟩, herror⟩, .str _, .str _, .str _,
    List.forall_mem_nil _⟩, hspan⟩, .str _, List.forall_mem_nil _⟩

/-- **Lines of JSON lose nothing.**  An event is written without control characters, so on one line; the line denotes
an object that describes the event; and events that are written alike, at whatever times, agree in all but the offsets
of their spans. -/
theorem structured_lossless :
    (∀ (e : Event) (time : String), (∀ s ∈ e.span, s.Fits) →
      Json.Printable (e.line time .structured).toList ∧
      ∃ members, Json.parse? (e.line time .structured) = some (.obj members) ∧ e.DescribedBy members) ∧
    ∀ (e e' : Event) (time time' : String), (∀ s ∈ e.span, s.Fits) → (∀ s ∈ e'.span, s.Fits) →
      e.line time .structured = e'.line time' .structured → e.Agrees e' := by
  have hread (e : Event) (time : String) (h : ∀ s ∈ e.span, s.Fits) :
      ∃ members, Json.parse? (e.line time .structured) = some (.obj members) ∧ e.DescribedBy members := by
    obtain ⟨members, hjson, hdescribed⟩ := exists_describedBy e time
    refine ⟨members, ?_, hdescribed⟩
    rw [line, (plain_json h time).parse?_render, hjson]
  refine ⟨fun e time h => ⟨?_, hread e time h⟩, fun e e' time time' h h' heq => ?_⟩
  · rw [line, Value.render, String.toList_ofList]
    exact (plain_json h time).printable
  · obtain ⟨members, hparse, hdescribed⟩ := hread e time h
    obtain ⟨members', hparse', hdescribed'⟩ := hread e' time' h'
    rw [heq, hparse'] at hparse
    cases hparse
    exact hdescribed.agrees hdescribed'

/-- Two errors whose spans end before they start and differ in their offsets, with quotes and line feeds in the
details. -/
theorem structured_lossless_offsets :
    let details : SortedMap String := ⟨[("\"\n", "\\"), ("b", "\u2028😀")]⟩
    let e : Event := ⟨.error, .unexpectedToken, "a\"\nb", some ⟨⟨7, 0, Word.limit - 1⟩, .start⟩, details⟩
    let e' : Event := e.withSpan ⟨⟨8, 0, Word.limit - 1⟩, .start⟩
    e ≠ e' ∧ (∃ members, Json.parse? (e.line "t" .structured) = some (.obj members) ∧ e.DescribedBy members) ∧
      e.line "t" .structured = e'.line "t" .structured ∧ e.Agrees e' := by
  intro details e e'
  have hstart : Position.start.Fits := ⟨by decide, by decide, by decide⟩
  have h : ∀ s ∈ e.span, s.Fits := by
    rintro s ⟨⟩
    exact ⟨⟨by decide, by decide, by decide⟩, hstart⟩
  have h' : ∀ s ∈ e'.span, s.Fits := by
    rintro s ⟨⟩
    exact ⟨⟨by decide, by decide, by decide⟩, hstart⟩
  exact ⟨by decide, (structured_lossless.1 e "t" h).2, rfl, structured_lossless.2 e e' "t" "t" h h' rfl⟩

end Event

end Descent
