/-
  Messages that are too long.

  * `messageCut?_append`: a message is cut after the characters that there is room for, and no shorter one is cut
    (`messageCut?_eq_none`).
  * `truncateMessage_append`: what is kept are those characters, and dots follow.  These two cases are all
    (`truncateMessage_cases`).
  * `truncateMessage_truncateMessage`: a message that was cut stays as it is, and `truncateMessage_eq_self_iff`
    says which others do.
-/
import Descent.Log.Event
import Descent.Proofs.Text.Offset

namespace Descent

variable {message kept rest : String}

/-! ## Where a message is cut -/

theorem messageCut?_eq_none : messageCut? message = none ↔ message.length ≤ Limits.messageLength := by
  rw [messageCut?, Utf8.start?_eq, String.length_toList]
  simp

/-- **A message is cut after the characters that there is room for.** -/
theorem messageCut?_append (hkept : kept.length = Limits.messageLength) (hrest : rest ≠ "") :
    messageCut? (kept ++ rest) = some kept.utf8ByteSize := by
  rw [messageCut?, ← hkept, Utf8.start?_length hrest]

/-- A message that is too long begins with as many characters as there is room for. -/
theorem exists_kept (h : Limits.messageLength < message.length) :
    ∃ kept rest, message = kept ++ rest ∧ kept.length = Limits.messageLength ∧ rest ≠ "" := by
  rw [← String.length_toList] at h
  refine ⟨String.ofList (message.toList.take Limits.messageLength),
    String.ofList (message.toList.drop Limits.messageLength), ?_, ?_, ?_⟩
  · rw [← String.ofList_append, List.take_append_drop, String.ofList_toList]
  · rw [String.length_ofList, List.length_take_of_le (Nat.le_of_lt h)]
  · intro hempty
    have hdrop := congrArg String.toList hempty
    rw [String.toList_ofList, String.toList_empty, List.drop_eq_nil_iff] at hdrop
    omega

/-- **A cut is between two characters.** -/
theorem isValid_of_messageCut? {cut : Nat} (h : messageCut? message = some cut) :
    (String.Pos.Raw.mk cut).IsValid message := by
  have hlong : Limits.messageLength < message.length := by
    by_contra hshort
    rw [messageCut?_eq_none.2 (Nat.not_lt.1 hshort)] at h
    cases h
  obtain ⟨kept, rest, rfl, hkept, hrest⟩ := exists_kept hlong
  rw [messageCut?_append hkept hrest] at h
  obtain rfl := Option.some.inj h
  exact String.Pos.Raw.isValid_iff_exists_append.2 ⟨kept, rest, rfl, rfl⟩

/-! ## What is left -/

/-- A message that is not too long is not cut. -/
theorem truncateMessage_eq (h : message.length ≤ Limits.messageLength) : truncateMessage message = message := by
  rw [truncateMessage, messageCut?_eq_none.2 h]

/-- **Of a message that is too long** the first characters are kept, and dots follow. -/
theorem truncateMessage_append (hkept : kept.length = Limits.messageLength) (hrest : rest ≠ "") :
    truncateMessage (kept ++ rest) = kept ++ "..." := by
  rw [truncateMessage, messageCut?_append hkept hrest]
  dsimp only
  rw [Utf8.slice?_first, Option.getD_some, String.ofList_toList]

/-- A message is short enough, or it is cut after its first characters. -/
theorem truncateMessage_cases (message : String) :
    message.length ≤ Limits.messageLength ∧ truncateMessage message = message ∨
      ∃ kept rest, message = kept ++ rest ∧ kept.length = Limits.messageLength ∧ rest ≠ "" ∧
        truncateMessage message = kept ++ "..." := by
  rcases Nat.lt_or_ge Limits.messageLength message.length with hlong | hshort
  · obtain ⟨kept, rest, rfl, hkept, hrest⟩ := exists_kept hlong
    exact .inr ⟨kept, rest, rfl, hkept, hrest, truncateMessage_append hkept hrest⟩
  · exact .inl ⟨hshort, truncateMessage_eq hshort⟩

theorem length_truncateMessage_le (message : String) :
    (truncateMessage message).length ≤ Limits.messageLength + 3 := by
  rcases truncateMessage_cases message with ⟨hshort, he⟩ | ⟨kept, rest, -, hkept, -, he⟩
  · rw [he]
    exact Nat.le_trans hshort (Nat.le_add_right _ _)
  · rw [he, String.length_append, hkept]
    exact Nat.le_refl _

/-- **Cutting again changes nothing**, although a message that was cut is too long itself: its dots are what is
cut off, and dots take their place. -/
theorem truncateMessage_truncateMessage (message : String) :
    truncateMessage (truncateMessage message) = truncateMessage message := by
  rcases truncateMessage_cases message with ⟨-, he⟩ | ⟨kept, rest, -, hkept, -, he⟩
  · rw [he, he]
  · rw [he]
    exact truncateMessage_append hkept (by decide)

/-- **Which messages stay as they are**: those that are not too long, and those that look as if they were cut. -/
theorem truncateMessage_eq_self_iff : truncateMessage message = message ↔
    message.length ≤ Limits.messageLength ∨
      message.length = Limits.messageLength + 3 ∧ ∃ first, message = first ++ "..." := by
  constructor
  · intro hself
    rcases truncateMessage_cases message with ⟨hshort, -⟩ | ⟨kept, rest, -, hkept, -, he⟩
    · exact .inl hshort
    · rw [hself] at he
      refine .inr ⟨?_, kept, he⟩
      rw [he, String.length_append, hkept]
      rfl
  · rintro (hshort | ⟨hlength, first, rfl⟩)
    · exact truncateMessage_eq hshort
    · rw [String.length_append] at hlength
      exact truncateMessage_append (Nat.add_right_cancel hlength) (by decide)

/-- **A message keeps its first characters.**  One of at most 4096 characters is not cut.  A longer one is cut at
the byte after its first 4096, which is never inside a character, so that these can be taken out of it, and three
dots follow them.  What comes out has at most 4099 characters, and cutting it again changes nothing.  A message
stays as it is exactly if it has at most 4096 characters, or 4099 the last three of which are dots. -/
theorem truncateMessage_keeps_first (message : String) :
    (message.length ≤ 4096 → messageCut? message = none ∧ truncateMessage message = message) ∧
    (4096 < message.length → ∃ kept rest, message = kept ++ rest ∧ kept.length = 4096 ∧
      messageCut? message = some kept.utf8ByteSize ∧
      Utf8.slice? message.toList 0 kept.utf8ByteSize = some kept.toList ∧
      truncateMessage message = kept ++ "...") ∧
    (∀ cut, messageCut? message = some cut → (String.Pos.Raw.mk cut).IsValid message) ∧
    (truncateMessage message).length ≤ 4099 ∧
    truncateMessage (truncateMessage message) = truncateMessage message ∧
    (truncateMessage message = message ↔
      message.length ≤ 4096 ∨ message.length = 4099 ∧ ∃ first, message = first ++ "...") := by
  refine ⟨fun hshort => ⟨messageCut?_eq_none.2 hshort, truncateMessage_eq hshort⟩, fun hlong => ?_,
    fun cut => isValid_of_messageCut?, length_truncateMessage_le message, truncateMessage_truncateMessage message,
    truncateMessage_eq_self_iff⟩
  obtain ⟨kept, rest, rfl, hkept, hrest⟩ := exists_kept hlong
  exact ⟨kept, rest, rfl, hkept, messageCut?_append hkept hrest, Utf8.slice?_first kept rest,
    truncateMessage_append hkept hrest⟩

end Descent
