/-
  Recovery skips tokens in bounded goes, and no go passes a wanted token.

  * `Cursor.distance_eq_findIdx`: the tokens before the first wanted one are counted by its index.
  * `Cursor.synchronizeTimes` is a cursor after a number of goes, and `Cursor.synchronizeTimes_eq`: together they
    skip what one go would skip with as many times the limit.
  * `Cursor.synchronize_skips`: what one go skips, and where goes end that are made until nothing is skipped.
-/
import Descent.Proofs.Parsing.Cursor

namespace Descent.Cursor

variable {V : Type} {c : Cursor V} {categories : List String}

/-! ## The first wanted token -/

theorem distance_eq_findIdx (c : Cursor V) (categories : List String) :
    c.distance categories = c.remaining.findIdx fun tok => categories.contains tok.category := by
  rw [distance, List.takeWhile_eq_take_findIdx_not, List.length_take]
  simp only [Bool.not_not]
  exact Nat.min_eq_left List.findIdx_le_length

/-- The tokens up to the first wanted one are not wanted. -/
theorem notMem_of_mem_take_distance {tok : Token V}
    (h : tok ∈ c.remaining.take (c.distance categories)) : tok.category ∉ categories := by
  have htake : c.remaining.take (c.distance categories) =
      c.remaining.takeWhile fun tok => !categories.contains tok.category :=
    (List.prefix_iff_eq_take.1 (List.takeWhile_prefix _)).symm
  rw [htake] at h
  simpa using List.mem_takeWhile_imp h

/-- Where nothing stands before the first wanted token, it is the current one, or there is none. -/
theorem atEnd_or_checkAny_of_distance (h : c.distance categories = 0) :
    c.atEnd = true ∨ c.checkAny categories = true := by
  cases hend : c.atEnd with
  | true => exact .inl rfl
  | false =>
    have hr : c.remaining ≠ [] := by simpa [atEnd_eq] using hend
    obtain ⟨tok, rest, hr⟩ := List.exists_cons_of_ne_nil hr
    cases hcheck : c.checkAny categories with
    | true => exact .inr rfl
    | false =>
      rw [distance_cons hr hcheck] at h
      omega

/-- Tokens passed on the way to the first wanted one no longer stand before it. -/
theorem distance_forward {n : Nat} (h : n ≤ c.distance categories) :
    (c.forward n).distance categories = c.distance categories - n := by
  induction n with
  | zero => rfl
  | succ n ih =>
    have hrest := ih (Nat.le_of_succ_le h)
    have hbefore : ¬((c.forward n).atEnd = true ∨ (c.forward n).checkAny categories = true) := fun hend => by
      have := distance_eq_zero hend
      omega
    rw [not_or, Bool.not_eq_true, Bool.not_eq_true] at hbefore
    have hr : (c.forward n).remaining ≠ [] := by simpa [atEnd_eq] using hbefore.1
    obtain ⟨tok, rest, hr⟩ := List.exists_cons_of_ne_nil hr
    have hd := distance_cons hr hbefore.2
    rw [forward_forward] at hd
    omega

/-! ## One go after the other -/

/-- A cursor after a number of goes to the same categories. -/
def synchronizeTimes (categories : List String) : Nat → Cursor V → Cursor V
  | 0, c => c
  | n + 1, c => synchronizeTimes categories n (c.synchronize categories).cursor

/-- **Goes add up**: together they skip the tokens up to the first wanted one, as far as the limit allows for
so many goes. -/
theorem synchronizeTimes_eq (n : Nat) (c : Cursor V) : synchronizeTimes categories n c =
    c.forward (min (n * Limits.recoveryScan) (c.distance categories)) := by
  induction n generalizing c with
  | zero => rw [Nat.zero_mul, Nat.zero_min]; rfl
  | succ n ih =>
    rw [synchronizeTimes, ih, (c.synchronize_eq categories).1, distance_forward (Nat.min_le_right _ _),
      forward_forward, Nat.succ_mul]
    congr 1
    omega

/-- What the next go skips. -/
theorem skipped_synchronizeTimes (n : Nat) (c : Cursor V) :
    ((synchronizeTimes categories n c).synchronize categories).skipped =
      min Limits.recoveryScan (c.distance categories - min (n * Limits.recoveryScan) (c.distance categories)) := by
  rw [(synchronize_eq _ categories).2, synchronizeTimes_eq, distance_forward (Nat.min_le_right _ _)]

/-- **One go skips the tokens up to the first wanted one**, but no more than the limit, and does nothing else to
the cursor.  Goes that are made until nothing is skipped come to an end, on the first wanted token or past the
last one, and no go passes a wanted token. -/
theorem synchronize_skips (c : Cursor V) (categories : List String) :
    let first := c.remaining.findIdx fun tok => categories.contains tok.category
    let skipped := (c.synchronize categories).skipped
    skipped = min 1000 (min c.remaining.length first) ∧
    (c.synchronize categories).cursor = { c with position := c.position + skipped } ∧
    (∃ n, (∀ m < n, ((synchronizeTimes categories m c).synchronize categories).skipped ≠ 0) ∧
      ((synchronizeTimes categories n c).synchronize categories).skipped = 0 ∧
      synchronizeTimes categories n c = { c with position := c.position + first } ∧
      ((synchronizeTimes categories n c).atEnd = true ∨
        ∃ tok, (synchronizeTimes categories n c).current = some tok ∧ tok.category ∈ categories)) ∧
    ∀ m, ∀ tok ∈ c.remaining.take ((synchronizeTimes categories m c).position - c.position),
      tok.category ∉ categories := by
  intro first skipped
  have hlimit : Limits.recoveryScan = 1000 := rfl
  have hfirst : first = c.distance categories := (c.distance_eq_findIdx categories).symm
  have hle := c.distance_le categories
  obtain ⟨hcursor, hskipped⟩ := c.synchronize_eq categories
  have hskip : skipped = min 1000 (min c.remaining.length first) := by
    show (c.synchronize categories).skipped = _
    rw [hskipped, hfirst, hlimit, Nat.min_eq_right hle]
  refine ⟨hskip, ?_, ⟨(c.distance categories + 999) / 1000, fun m hm => ?_, ?_, ?_, ?_⟩, fun m tok htok => ?_⟩
  · rw [hcursor, ← hskipped]
    rfl
  · rw [skipped_synchronizeTimes, hlimit]
    omega
  · rw [skipped_synchronizeTimes, hlimit]
    omega
  · rw [synchronizeTimes_eq, hfirst, hlimit, Nat.min_eq_right (by omega)]
    rfl
  · rw [synchronizeTimes_eq, hlimit, Nat.min_eq_right (by omega)]
    have hzero : (c.forward (c.distance categories)).distance categories = 0 := by
      rw [distance_forward (Nat.le_refl _), Nat.sub_self]
    refine (atEnd_or_checkAny_of_distance hzero).imp_right fun hcheck => ?_
    rw [checkAny_eq, ← current_eq, Option.any_eq_true] at hcheck
    obtain ⟨tok, hcurrent, hwanted⟩ := hcheck
    exact ⟨tok, hcurrent, by simpa using hwanted⟩
  · have hplace : (synchronizeTimes categories m c).position - c.position ≤ c.distance categories := by
      rw [synchronizeTimes_eq, position_forward, Nat.add_sub_cancel_left]
      exact Nat.min_le_right _ _
    exact notMem_of_mem_take_distance (List.take_subset_take_left _ hplace htok)

end Descent.Cursor
