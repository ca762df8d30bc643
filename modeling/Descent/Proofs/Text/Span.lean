/-
  Merging spans.

  * `Position.pick` takes one of two places by their offsets, the second one at a tie.  The choice among three
    places does not depend on how they are grouped (`Position.pick_assoc`), but at a tie it depends on their order
    (`Position.pick_comm_iff`).
  * `Span.Covers`: one span covers another by its offsets.  A merged span is the least one that covers both
    (`Span.covers_merge_iff`).
  * `Span.merge_least_cover`: so spans can be merged in any grouping, to one that runs from the least start to the
    greatest end.
-/
import Descent.Text.Position
import Mathlib.Data.Nat.Basic
import Mathlib.Order.RelClasses

namespace Descent

namespace Position

/-! ## One of two places -/

/-- Of two places the first one, if its offset comes before the other's in an order of offsets, and else the second
one. -/
def pick (r : ℕ → ℕ → Prop) [DecidableRel r] (p q : Position) : Position :=
  if r p.offset q.offset then p else q

variable {r : ℕ → ℕ → Prop} [DecidableRel r] {p q s : Position}

theorem pick_left (h : r p.offset q.offset) : pick r p q = p := if_pos h

theorem pick_right (h : ¬ r p.offset q.offset) : pick r p q = q := if_neg h

theorem pick_self (r : ℕ → ℕ → Prop) [DecidableRel r] (p : Position) : pick r p p = p := ite_self p

/-- **Of three places the same one is picked in either grouping**: the last of those whose offset no other's comes
before. -/
theorem pick_assoc [IsStrictTotalOrder ℕ r] (p q s : Position) :
    pick r (pick r p q) s = pick r p (pick r q s) := by
  by_cases hpq : r p.offset q.offset
  · rw [pick_left hpq]
    by_cases hqs : r q.offset s.offset
    · rw [pick_left hqs, pick_left hpq, pick_left (trans_of r hpq hqs)]
    · rw [pick_right hqs]
  · rw [pick_right hpq]
    by_cases hqs : r q.offset s.offset
    · rw [pick_left hqs, pick_right hpq]
    · have hps : ¬ r p.offset s.offset := by
        intro hps
        rcases trichotomous_of r p.offset q.offset with h | h | h
        · exact hpq h
        · exact hqs (h ▸ hps)
        · exact hqs (trans_of r h hps)
      rw [pick_right hqs, pick_right hps]

/-- **The order of two places matters** if they have one offset and differ otherwise. -/
theorem pick_comm_iff [IsStrictTotalOrder ℕ r] : pick r p q = pick r q p ↔ (p.offset = q.offset → p = q) := by
  rcases trichotomous_of r p.offset q.offset with h | h | h
  · rw [pick_left h, pick_right (asymm_of r h)]
    exact iff_of_true rfl fun heq => absurd (heq ▸ h) (irrefl_of r _)
  · rw [pick_right (h ▸ irrefl_of r _), pick_right (h ▸ irrefl_of r _)]
    exact ⟨fun he _ => he.symm, fun he => (he h).symm⟩
  · rw [pick_left h, pick_right (asymm_of r h)]
    exact iff_of_true rfl fun heq => absurd (heq ▸ h) (irrefl_of r _)

end Position

namespace Span

open Position

variable {a b s t : Span} {p : Position}

/-! ## Merging -/

theorem merge_eq_pick (a b : Span) :
    a.merge b = ⟨pick (· < ·) a.start b.start, pick (· > ·) a.stop b.stop⟩ := rfl

theorem merge_self (a : Span) : a.merge a = a := by
  rw [merge_eq_pick, pick_self, pick_self]

/-- **Spans can be merged in either grouping.** -/
theorem merge_assoc (a b c : Span) : (a.merge b).merge c = a.merge (b.merge c) := by
  simp only [merge_eq_pick, pick_assoc]

theorem merge_comm_iff : a.merge b = b.merge a ↔
    (a.start.offset = b.start.offset → a.start = b.start) ∧ (a.stop.offset = b.stop.offset → a.stop = b.stop) := by
  rw [merge_eq_pick, merge_eq_pick, mk.injEq, pick_comm_iff, pick_comm_iff]

theorem start_merge (a b : Span) : (a.merge b).start.offset = min a.start.offset b.start.offset := by
  show (if a.start.offset < b.start.offset then a.start else b.start).offset = _
  split
  · next h => exact (Nat.min_eq_left (Nat.le_of_lt h)).symm
  · next h => exact (Nat.min_eq_right (Nat.not_lt.1 h)).symm

theorem stop_merge (a b : Span) : (a.merge b).stop.offset = max a.stop.offset b.stop.offset := by
  show (if a.stop.offset > b.stop.offset then a.stop else b.stop).offset = _
  split
  · next h => exact (Nat.max_eq_left (Nat.le_of_lt h)).symm
  · next h => exact (Nat.max_eq_right (Nat.not_lt.1 h)).symm

/-! ## Covering -/

/-- A span that does not end before it starts. -/
def Ordered (s : Span) : Prop := s.start.offset ≤ s.stop.offset

/-- One span starts no later than another and ends no earlier. -/
structure Covers (s t : Span) : Prop where
  start : s.start.offset ≤ t.start.offset
  stop : t.stop.offset ≤ s.stop.offset

theorem Covers.refl (s : Span) : s.Covers s := ⟨Nat.le_refl _, Nat.le_refl _⟩

theorem Covers.contains (h : s.Covers t) (hp : t.contains p = true) : s.contains p = true := by
  simp only [Span.contains, Bool.and_eq_true, decide_eq_true_eq] at hp ⊢
  exact ⟨Nat.le_trans h.start hp.1, Nat.lt_of_lt_of_le hp.2 h.stop⟩

theorem Covers.ordered (h : s.Covers t) (ht : t.Ordered) : s.Ordered :=
  Nat.le_trans h.start (Nat.le_trans ht h.stop)

/-- **A merged span is the least one that covers both.** -/
theorem covers_merge_iff : s.Covers (a.merge b) ↔ s.Covers a ∧ s.Covers b := by
  constructor
  · rintro ⟨hstart, hstop⟩
    rw [start_merge, Nat.le_min] at hstart
    rw [stop_merge, Nat.max_le] at hstop
    exact ⟨⟨hstart.1, hstop.1⟩, ⟨hstart.2, hstop.2⟩⟩
  · rintro ⟨ha, hb⟩
    constructor
    · rw [start_merge]
      exact Nat.le_min.2 ⟨ha.start, hb.start⟩
    · rw [stop_merge]
      exact Nat.max_le.2 ⟨ha.stop, hb.stop⟩

theorem merge_covers (a b : Span) : (a.merge b).Covers a ∧ (a.merge b).Covers b :=
  covers_merge_iff.1 (.refl _)

theorem Ordered.length?_eq (h : s.Ordered) : s.length? = .ok (s.stop.offset - s.start.offset) :=
  Word.sub?_eq_ok.2 ⟨h, rfl⟩

/-- **Merging is taking the least span that covers both.**  The grouping of spans does not matter, and a span merged
with itself is itself, lines and columns included.  The offsets of a merged span are the least of the starts and the
greatest of the ends, which are the same in either order; the places are, too, unless they differ at a tie.  A merged
span does not end before it starts if one of the two does not, and then it has a length.  It contains what one of
them contains, and it is covered by just those spans that cover both. -/
theorem merge_least_cover (a b c : Span) :
    (a.merge b).merge c = a.merge (b.merge c) ∧ a.merge a = a ∧
    (a.merge b).start.offset = min a.start.offset b.start.offset ∧
    (a.merge b).stop.offset = max a.stop.offset b.stop.offset ∧
    (a.merge b).start.offset = (b.merge a).start.offset ∧ (a.merge b).stop.offset = (b.merge a).stop.offset ∧
    (a.merge b = b.merge a ↔ (a.start.offset = b.start.offset → a.start = b.start) ∧
      (a.stop.offset = b.stop.offset → a.stop = b.stop)) ∧
    (a.Ordered ∨ b.Ordered → (a.merge b).Ordered ∧ (a.merge b).length? =
      .ok (max a.stop.offset b.stop.offset - min a.start.offset b.start.offset)) ∧
    (∀ p, a.contains p = true ∨ b.contains p = true → (a.merge b).contains p = true) ∧
    ∀ s : Span, s.Covers (a.merge b) ↔ s.Covers a ∧ s.Covers b := by
  obtain ⟨ha, hb⟩ := merge_covers a b
  refine ⟨merge_assoc a b c, merge_self a, start_merge a b, stop_merge a b, ?_, ?_, merge_comm_iff,
    fun hordered => ?_, fun p hp => hp.elim ha.contains hb.contains, fun s => covers_merge_iff⟩
  · rw [start_merge, start_merge, Nat.min_comm]
  · rw [stop_merge, stop_merge, Nat.max_comm]
  · have hmerged : (a.merge b).Ordered := hordered.elim ha.ordered hb.ordered
    refine ⟨hmerged, ?_⟩
    rw [hmerged.length?_eq, start_merge, stop_merge]

/-- At a tie the second span's place is taken, so that the order of the two shows. -/
example : (merge ⟨⟨2, 0, 2⟩, ⟨5, 0, 5⟩⟩ ⟨⟨2, 1, 0⟩, ⟨4, 1, 2⟩⟩, merge ⟨⟨2, 1, 0⟩, ⟨4, 1, 2⟩⟩ ⟨⟨2, 0, 2⟩, ⟨5, 0, 5⟩⟩) =
    (⟨⟨2, 1, 0⟩, ⟨5, 0, 5⟩⟩, ⟨⟨2, 0, 2⟩, ⟨5, 0, 5⟩⟩) := rfl

end Span

end Descent
