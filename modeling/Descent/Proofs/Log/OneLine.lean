/-
  Events on one line.

  * `Event.Unbroken`: the code, the message and the details of an event are on one line.  Events made of such
    parts are unbroken (`Event.Unbroken.ofMessage`, `Event.Unbroken.withContext`).
  * `Event.Unbroken.oneLine_render`: an unbroken event is written on one line.
-/
import Descent.Proofs.Log.Event
import Descent.Proofs.Text.OneLine

namespace Descent

variable {code : Code} {message : String} {context : List (String × String)} {least : Level} {wanted : Bool}

/-- Cutting a message puts no line breaks into it. -/
theorem OneLine.truncateMessage (h : OneLine message) : OneLine (truncateMessage message) := by
  rcases truncateMessage_cases message with ⟨-, he⟩ | ⟨kept, rest, rfl, -, -, he⟩
  · rwa [he]
  · rw [he, oneLine_append]
    exact ⟨(oneLine_append.1 h).1, by decide⟩

/-- Names and values on one line each. -/
def OneLinePairs (pairs : List (String × String)) : Prop := ∀ pair ∈ pairs, OneLine pair.1 ∧ OneLine pair.2

theorem oneLinePairs_nil : OneLinePairs [] := List.forall_mem_nil _

theorem oneLinePairs_cons {name value : String} : OneLinePairs ((name, value) :: context) ↔
    (OneLine name ∧ OneLine value) ∧ OneLinePairs context := List.forall_mem_cons

namespace Event

variable {e : Event}

/-- Code, message and details are on one line. -/
structure Unbroken (e : Event) : Prop where
  code : OneLine e.code.text
  message : OneLine e.message
  context : OneLinePairs e.context.entries

namespace Unbroken

theorem ofMessage (level : Level) (hcode : OneLine code.text) (hmessage : OneLine message) :
    (ofMessage level code message).Unbroken :=
  ⟨hcode, hmessage.truncateMessage, oneLinePairs_nil⟩

theorem withSpan (h : e.Unbroken) (span : Span) : (e.withSpan span).Unbroken :=
  ⟨h.code, h.message, h.context⟩

theorem withContext (h : e.Unbroken) (hcontext : OneLinePairs context) : (e.withContext context).Unbroken := by
  induction context generalizing e with
  | nil => exact h
  | cons pair context ih =>
    obtain ⟨hpair, hcontext⟩ := oneLinePairs_cons.1 hcontext
    refine ih (e := e.withContext [pair]) ⟨h.code, h.message, fun detail hdetail => ?_⟩ hcontext
    rcases SortedMap.mem_insert hdetail with rfl | hdetail
    · exact hpair
    · exact h.context detail hdetail

theorem oneLine_place (e : Event) : OneLine e.place := by
  have hcolon : OneLine ":" := by decide
  have hat : OneLine " at " := by decide
  rw [place]
  split
  · next span _ =>
    exact oneLine_append.2 ⟨hat, oneLine_append.2 ⟨oneLine_append.2 ⟨oneLine_toString _, hcolon⟩,
      oneLine_toString _⟩⟩
  · decide

theorem oneLine_details (h : e.Unbroken) : OneLine e.details := by
  have hequals : OneLine "=" := by decide
  have hcomma : OneLine ", " := by decide
  have hopening : OneLine " (" := by decide
  have hclosing : OneLine ")" := by decide
  rw [details]
  split
  · decide
  · refine oneLine_append.2 ⟨oneLine_append.2 ⟨hopening, hcomma.intercalate ?_⟩, hclosing⟩
    rw [List.forall_mem_map]
    exact fun detail hdetail => oneLine_append.2 ⟨oneLine_append.2 ⟨(h.context detail hdetail).1, hequals⟩,
      (h.context detail hdetail).2⟩

theorem oneLine_label (level : Level) : OneLine level.label := by
  cases level <;> decide

/-- **An unbroken event is written on one line.** -/
theorem oneLine_render (h : e.Unbroken) : OneLine e.render := by
  have hopening : OneLine "[" := by decide
  have hclosing : OneLine "] " := by decide
  have hdash : OneLine " - " := by decide
  simp [render, hopening, oneLine_label, hclosing, h.code, hdash, h.message, oneLine_place, h.oneLine_details]

end Unbroken

/-- Details that are logged are unbroken, if their parts are. -/
theorem unbroken_of_mem_debugEvent (hmessage : OneLine message) (hcontext : OneLinePairs context)
    (he : e ∈ debugEvent least wanted message context) : e.Unbroken := by
  have hcode : OneLine Code.genericDebug.text := by decide
  rw [debugEvent] at he
  split at he
  · obtain rfl := List.mem_singleton.1 he
    exact (Unbroken.ofMessage .debug hcode hmessage).withContext hcontext
  · cases he

end Event

end Descent
