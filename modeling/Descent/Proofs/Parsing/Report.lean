/-
  What a recovery reports.

  * `RecoveryEnd.Holds` says what is the case of a cursor when skipping stops for a reason, and
    `RecoveryEnd.Tells` what an event tells of it.
  * `Cursor.ending_synchronize`: for which reason skipping stops, by the tokens before the first wanted one, and
    `Cursor.ending_eq_of_iff`: when this is the case.
  * `Production.synchronize_reports`: a recovery logs one event, which tells what is the case unless the limit
    is reached together with a wanted token or the end.
-/
import Descent.Parsing.Production
import Descent.Proofs.Log.Event
import Descent.Proofs.Parsing.Recovery

namespace Descent

variable {V : Type} {c : Cursor V} {categories : List String}

namespace RecoveryEnd

/-- What is the case of a cursor when skipping stops: a wanted token is current, or all are passed, or one
that is not wanted is current. -/
def Holds (c : Cursor V) (categories : List String) : RecoveryEnd → Prop
  | found => ∃ tok, c.current = some tok ∧ tok.category ∈ categories
  | reachedEnd => c.atEnd = true
  | exhausted => ∃ tok, c.current = some tok ∧ tok.category ∉ categories

/-- The one reason that is the case of a cursor. -/
def of (c : Cursor V) (categories : List String) : RecoveryEnd :=
  if c.atEnd then .reachedEnd else if c.checkAny categories then .found else .exhausted

theorem holds_iff (ending : RecoveryEnd) : ending.Holds c categories ↔ ending = of c categories := by
  rw [of, Cursor.atEnd_eq, Cursor.checkAny_eq]
  cases hr : c.remaining with
  | nil =>
    cases ending <;> simp [Holds, Cursor.current_eq, Cursor.atEnd_eq, hr]
  | cons tok rest =>
    by_cases hwanted : tok.category ∈ categories <;> cases ending <;>
      simp [Holds, Cursor.current_eq, Cursor.atEnd_eq, hr, hwanted]

/-- What an event tells of the reason why skipping stopped. -/
def Tells (e : Event) : RecoveryEnd → Prop
  | found => e.level = .info ∧ e.code = ⟨"I041"⟩ ∧ e.message = "Found recovery point"
  | reachedEnd => e.level = .warning ∧ e.code = ⟨"W000"⟩ ∧
      e.message = "No recovery point found, reached end of input"
  | exhausted => e.level = .error ∧ e.code = ⟨"E045"⟩ ∧
      e.message = "Recovery scan limit reached without finding recovery point"

/-- No event tells of two reasons, as each has a level of its own. -/
theorem Tells.unique {e : Event} {ending other : RecoveryEnd} (h : ending.Tells e) (ho : other.Tells e) :
    ending = other := by
  cases ending <;> cases other <;> simp_all [Tells]

theorem tells_own (r : Recovery V) (start : Nat) : r.ending.Tells (r.event start) := by
  obtain ⟨cursor, skipped, ending⟩ := r
  cases ending with
  | found => exact ⟨rfl, rfl, rfl⟩
  | reachedEnd => exact ⟨rfl, rfl, rfl⟩
  | exhausted => exact ⟨rfl, rfl, rfl⟩

/-- The event of a recovery tells why it ended, and nothing else. -/
theorem tells_event (r : Recovery V) (start : Nat) (ending : RecoveryEnd) :
    ending.Tells (r.event start) ↔ ending = r.ending := by
  constructor
  · intro h
    exact h.unique (tells_own r start)
  · rintro rfl
    exact tells_own r start

end RecoveryEnd

namespace Cursor

/-! ## Why skipping stops -/

theorem ending_skipTo (categories : List String) (budget skipped : Nat) (c : Cursor V) :
    (skipTo categories budget skipped c).ending =
      if budget ≤ c.distance categories then .exhausted
      else if c.distance categories < c.remaining.length then .found else .reachedEnd := by
  induction budget generalizing skipped c with
  | zero => rw [if_pos (Nat.zero_le _)]; rfl
  | succ budget ih =>
    rw [skipTo]
    split
    · next hend =>
      rw [atEnd_eq, List.isEmpty_iff] at hend
      rw [distance_eq_zero (.inl (by rw [atEnd_eq, hend]; rfl)), hend]
      rfl
    · next hend =>
      split
      · next hfound =>
        obtain ⟨tok, rest, hr⟩ := exists_cons_of_checkAny hfound
        rw [distance_eq_zero (.inr hfound), hr]
        rfl
      · next hfound =>
        have hr : c.remaining ≠ [] := by simpa [atEnd_eq] using hend
        obtain ⟨tok, rest, hr⟩ := List.exists_cons_of_ne_nil hr
        have hd := distance_cons hr (by simpa using hfound)
        have hn : c.remaining.length = (c.forward 1).remaining.length + 1 := by
          rw [remaining_forward, hr]
          rfl
        have hnext := ih (skipped + 1) (c.forward 1)
        rw [hd, hn]
        simp only [Nat.add_le_add_iff_right, Nat.add_lt_add_iff_right]
        exact hnext

/-- **Why skipping stops**: the limit is reached, or the first wanted token, or the end if there is none. -/
theorem ending_synchronize (c : Cursor V) (categories : List String) : (c.synchronize categories).ending =
    if Limits.recoveryScan ≤ c.distance categories then .exhausted
    else if c.distance categories < c.remaining.length then .found else .reachedEnd :=
  ending_skipTo categories Limits.recoveryScan 0 c

/-- Neither a wanted token nor the end is reached while tokens stand before. -/
theorem of_eq_exhausted : RecoveryEnd.of c categories = .exhausted ↔ c.distance categories ≠ 0 := by
  constructor
  · intro h hzero
    rw [RecoveryEnd.of] at h
    rcases atEnd_or_checkAny_of_distance hzero with hend | hfound
    · rw [if_pos hend] at h
      cases h
    · rw [if_pos hfound] at h
      split at h <;> cases h
  · intro h
    rw [RecoveryEnd.of, if_neg fun hend => h (distance_eq_zero (.inl hend)),
      if_neg fun hfound => h (distance_eq_zero (.inr hfound))]

/-- Past the tokens before the first wanted one a cursor is on that, or at the end if there is none. -/
theorem of_forward_distance (c : Cursor V) (categories : List String) :
    RecoveryEnd.of (c.forward (c.distance categories)) categories =
      if c.distance categories < c.remaining.length then .found else .reachedEnd := by
  have hzero : (c.forward (c.distance categories)).distance categories = 0 := by
    rw [distance_forward (Nat.le_refl _), Nat.sub_self]
  have hend : (c.forward (c.distance categories)).atEnd = true ↔
      ¬ c.distance categories < c.remaining.length := by
    rw [atEnd_eq, remaining_forward, List.isEmpty_iff, List.drop_eq_nil_iff, Nat.not_lt]
  rw [RecoveryEnd.of]
  by_cases hlt : c.distance categories < c.remaining.length
  · have hleft := mt hend.1 (not_not.2 hlt)
    rw [if_neg hleft, if_pos ((atEnd_or_checkAny_of_distance hzero).resolve_left hleft), if_pos hlt]
  · rw [if_pos (hend.2 hlt), if_neg hlt]

/-- **The reason why skipping stops is the case** unless as many tokens as the limit allows stand before the
first wanted one or the end: this is then reached, but the reason is the limit. -/
theorem ending_eq_of_iff (c : Cursor V) (categories : List String) :
    (c.synchronize categories).ending = .of (c.synchronize categories).cursor categories ↔
      c.distance categories ≠ Limits.recoveryScan := by
  have hleft : ((c.synchronize categories).cursor.distance categories) =
      c.distance categories - min Limits.recoveryScan (c.distance categories) := by
    rw [(c.synchronize_eq categories).1, distance_forward (Nat.min_le_right _ _)]
  rw [ending_synchronize]
  by_cases hlimit : Limits.recoveryScan ≤ c.distance categories
  · rw [if_pos hlimit, eq_comm, of_eq_exhausted, hleft, Nat.min_eq_left hlimit]
    omega
  · have hmin := Nat.min_eq_right (Nat.le_of_not_le hlimit)
    rw [if_neg hlimit, (c.synchronize_eq categories).1, hmin, of_forward_distance]
    exact iff_of_true rfl (by omega)

theorem ending_eq_exhausted : (c.synchronize categories).ending = .exhausted ↔
    (c.synchronize categories).skipped = Limits.recoveryScan := by
  rw [ending_synchronize, (c.synchronize_eq categories).2]
  by_cases hlimit : Limits.recoveryScan ≤ c.distance categories
  · rw [if_pos hlimit, Nat.min_eq_left hlimit]
    exact iff_of_true rfl rfl
  · rw [if_neg hlimit, Nat.min_eq_right (Nat.le_of_not_le hlimit)]
    refine iff_of_false ?_ (by omega)
    split
    · exact RecoveryEnd.noConfusion
    · exact RecoveryEnd.noConfusion

end Cursor

/-! ## What is logged -/

namespace Production

/-- **A recovery logs one event.**  It is a success if a wanted token is reached before the limit, a warning
if the end is, and an error if as many tokens are skipped as the limit allows.  So it tells what is the case,
unless that many tokens stand before the first wanted one or the end: then it tells that none was found. -/
theorem synchronize_reports (categories : List String) (s : Session V) :
    let after := ((synchronize categories).runOn s).2
    let skipped := (s.cursor.synchronize categories).skipped
    let first := s.cursor.remaining.findIdx fun tok => categories.contains tok.category
    ∃ e, after.events = e :: s.events ∧
      (RecoveryEnd.found.Tells e ↔ skipped < 1000 ∧ RecoveryEnd.found.Holds after.cursor categories) ∧
      (RecoveryEnd.reachedEnd.Tells e ↔
        skipped < 1000 ∧ RecoveryEnd.reachedEnd.Holds after.cursor categories) ∧
      (RecoveryEnd.exhausted.Tells e ↔ skipped = 1000) ∧
      ((∀ ending : RecoveryEnd, ending.Tells e ↔ ending.Holds after.cursor categories) ↔ first ≠ 1000) := by
  intro after skipped first
  have hfirst : first = s.cursor.distance categories := (s.cursor.distance_eq_findIdx categories).symm
  have hskipped : skipped = min 1000 (s.cursor.distance categories) :=
    (s.cursor.synchronize_eq categories).2
  have hexhausted : (s.cursor.synchronize categories).ending = .exhausted ↔ skipped = 1000 :=
    Cursor.ending_eq_exhausted
  have hcase : (s.cursor.synchronize categories).ending = .of after.cursor categories ↔
      s.cursor.distance categories ≠ 1000 := s.cursor.ending_eq_of_iff categories
  -- below the limit the event tells what is the case, and at the limit no reason but that
  have htells {ending : RecoveryEnd} (hne : ending ≠ .exhausted) :
      ending = (s.cursor.synchronize categories).ending ↔
        skipped < 1000 ∧ ending = .of after.cursor categories := by
    by_cases hlimit : skipped = 1000
    · rw [hexhausted.2 hlimit]
      exact iff_of_false hne fun h => absurd h.1 (by omega)
    · rw [hcase.2 (by omega)]
      exact (and_iff_right (by omega)).symm
  refine ⟨(s.cursor.synchronize categories).event s.cursor.position, rfl, ?_⟩
  simp only [RecoveryEnd.tells_event, RecoveryEnd.holds_iff]
  refine ⟨htells RecoveryEnd.noConfusion, htells RecoveryEnd.noConfusion, ?_, ?_⟩
  · rw [eq_comm, hexhausted]
  · rw [hfirst, ← hcase]
    exact ⟨fun h => (h _).1 rfl, fun h ending => by rw [h]⟩

/-- The one case in which the event tells what is not the case. -/
theorem synchronize_misreports {s : Session V} (h : s.cursor.distance categories = Limits.recoveryScan) :
    ∃ e, ((synchronize categories).runOn s).2.events = e :: s.events ∧ RecoveryEnd.exhausted.Tells e ∧
      RecoveryEnd.of ((synchronize categories).runOn s).2.cursor categories =
        if Limits.recoveryScan < s.cursor.remaining.length then .found else .reachedEnd := by
  refine ⟨(s.cursor.synchronize categories).event s.cursor.position, rfl, ?_, ?_⟩
  · rw [RecoveryEnd.tells_event, Cursor.ending_synchronize, h, if_pos (Nat.le_refl _)]
  · show RecoveryEnd.of (s.cursor.synchronize categories).cursor categories = _
    rw [(s.cursor.synchronize_eq categories).1, h, Nat.min_self, ← h, Cursor.of_forward_distance]

/-- A semicolon that is current after a thousand words is reported not to be found, and so is the end right
after them. -/
theorem misreported_at_limit :
    let words := List.replicate 1000 (⟨"WORD", "ab", 3, 5, 0, 5, none⟩ : Token Int)
    let semi : Token Int := ⟨"SEMI", ";", 5000, 5001, 0, 5001, none⟩
    let recovered := fun tokens : List (Token Int) =>
      ((synchronize ["SEMI"]).runOn ⟨.ofTokens ⟨' ', false⟩ tokens.toArray, .info, []⟩).2
    (∃ e, (recovered (words ++ [semi])).events = [e] ∧ RecoveryEnd.exhausted.Tells e ∧
      RecoveryEnd.found.Holds (recovered (words ++ [semi])).cursor ["SEMI"]) ∧
    ∃ e, (recovered words).events = [e] ∧ RecoveryEnd.exhausted.Tells e ∧
      RecoveryEnd.reachedEnd.Holds (recovered words).cursor ["SEMI"] := by
  intro words semi recovered
  have hremaining (tokens : List (Token Int)) :
      (Cursor.ofTokens ⟨' ', false⟩ tokens.toArray).remaining = tokens := by
    simp [Cursor.remaining, Cursor.ofTokens]
  have hwords : words.takeWhile (fun tok => !(["SEMI"].contains tok.category)) = words := by
    rw [List.takeWhile_replicate]
    rfl
  have hsemi : (Cursor.ofTokens ⟨' ', false⟩ (words ++ [semi]).toArray).distance ["SEMI"] = 1000 := by
    rw [Cursor.distance, hremaining, List.takeWhile_append, hwords, if_pos rfl, List.length_append,
      List.length_replicate]
    rfl
  have hend : (Cursor.ofTokens ⟨' ', false⟩ words.toArray).distance ["SEMI"] = 1000 := by
    rw [Cursor.distance, hremaining, hwords]
    exact List.length_replicate
  constructor
  · obtain ⟨e, hevents, htells, hof⟩ := synchronize_misreports
      (s := ⟨.ofTokens ⟨' ', false⟩ (words ++ [semi]).toArray, .info, []⟩) hsemi
    refine ⟨e, hevents, htells, RecoveryEnd.holds_iff _ |>.2 (hof.trans (if_pos ?_)).symm⟩
    rw [hremaining, List.length_append, List.length_replicate]
    decide
  · obtain ⟨e, hevents, htells, hof⟩ := synchronize_misreports
      (s := ⟨.ofTokens ⟨' ', false⟩ words.toArray, .info, []⟩) hend
    refine ⟨e, hevents, htells, RecoveryEnd.holds_iff _ |>.2 (hof.trans (if_neg ?_)).symm⟩
    rw [hremaining, List.length_replicate]
    decide

end Production

end Descent
