/-
  What is found in a sorted map.

  * `SortedMap.Ordered`: the names of the entries ascend, so that none stands there twice.  Changing a value keeps
    that (`Ordered.upsertIn`) and changes nothing else (`Ordered.lookup_upsertIn`).
  * `SortedMap.get?_count`: a name of a list is found with how often it occurs, and no other name is found.
-/
import Descent.Text.SortedMap
import Mathlib.Data.List.Induction
import Mathlib.Data.String.Basic

namespace Descent.SortedMap

variable {α : Type} {name : String} {change : Option α → α} {entries : List (String × α)}
  {e : String × α}

/-- The names of the entries ascend. -/
def Ordered (entries : List (String × α)) : Prop := entries.Pairwise fun a b => a.1 < b.1

/-- A name before the first one is before all. -/
theorem Ordered.lt_of_lt_head {k : String} {v : α} (h : Ordered ((k, v) :: entries)) (hlt : name < k) :
    ∀ e ∈ (k, v) :: entries, name < e.1 :=
  List.forall_mem_cons.2 ⟨hlt, fun e he => hlt.trans ((List.pairwise_cons.1 h).1 e he)⟩

/-- An entry after a change is the changed one or was there before. -/
theorem mem_upsertIn (h : e ∈ upsertIn name change entries) :
    (∃ old, e = (name, change old)) ∨ e ∈ entries := by
  induction entries with
  | nil => exact .inl ⟨_, List.mem_singleton.1 h⟩
  | cons head entries ih =>
    obtain ⟨k, v⟩ := head
    rw [upsertIn] at h
    split at h
    · next hk =>
      rcases List.mem_cons.1 h with rfl | h
      · exact .inl ⟨some v, by rw [hk]⟩
      · exact .inr (List.mem_cons_of_mem _ h)
    · split at h
      · exact (List.mem_cons.1 h).imp_left fun he => ⟨_, he⟩
      · rcases List.mem_cons.1 h with rfl | h
        · exact .inr (List.mem_cons_self ..)
        · exact (ih h).imp_right (List.mem_cons_of_mem _)

theorem mem_insert {m : SortedMap α} {value : α} (h : e ∈ (m.insert name value).entries) :
    e = (name, value) ∨ e ∈ m.entries :=
  (mem_upsertIn h).imp_left fun ⟨_, he⟩ => he

/-- Changing the value of a name keeps the names in order. -/
theorem Ordered.upsertIn (h : Ordered entries) (name : String) (change : Option α → α) :
    Ordered (upsertIn name change entries) := by
  induction entries with
  | nil => exact List.pairwise_singleton _ _
  | cons head entries ih =>
    obtain ⟨k, v⟩ := head
    obtain ⟨hhead, htail⟩ := List.pairwise_cons.1 h
    rw [SortedMap.upsertIn]
    split
    · exact List.pairwise_cons.2 ⟨hhead, htail⟩
    · next hne =>
      split
      · next hlt => exact List.pairwise_cons.2 ⟨h.lt_of_lt_head hlt, h⟩
      · next hnlt =>
        have hk : k < name := lt_of_le_of_ne (not_lt.1 hnlt) (Ne.symm hne)
        refine List.pairwise_cons.2 ⟨fun e he => ?_, ih htail⟩
        rcases mem_upsertIn he with ⟨_, rfl⟩ | he
        · exact hk
        · exact hhead e he

theorem lookup_cons_eq_ite (k : String) (v : α) (entries : List (String × α)) (other : String) :
    ((k, v) :: entries).lookup other = if other = k then some v else entries.lookup other := by
  by_cases hk : other = k <;> simp [List.lookup_cons, hk, beq_eq_false_iff_ne.2]

theorem lookup_eq_none_of_lt (h : ∀ e ∈ entries, name < e.1) : entries.lookup name = none :=
  List.lookup_eq_none_iff.2 fun e he => by simpa using (h e he).ne

/-- **Changing the value of a name** changes what is found there and nothing else. -/
theorem Ordered.lookup_upsertIn (h : Ordered entries) (name : String) (change : Option α → α)
    (other : String) : (SortedMap.upsertIn name change entries).lookup other =
      if other = name then some (change (entries.lookup name)) else entries.lookup other := by
  induction entries with
  | nil => exact lookup_cons_eq_ite ..
  | cons head entries ih =>
    obtain ⟨k, v⟩ := head
    rw [SortedMap.upsertIn]
    split
    · next hk =>
      subst hk
      rw [lookup_cons_eq_ite, lookup_cons_eq_ite, lookup_cons_eq_ite, if_pos rfl]
      split <;> rfl
    · next hne =>
      split
      · next hlt =>
        -- the name comes before all others, so it is new
        have hnew : ((k, v) :: entries).lookup name = none := lookup_eq_none_of_lt (h.lt_of_lt_head hlt)
        rw [hnew, lookup_cons_eq_ite name]
      · rw [lookup_cons_eq_ite, lookup_cons_eq_ite, lookup_cons_eq_ite, if_neg hne, ih (List.pairwise_cons.1 h).2]
        by_cases hk : other = k
        · have ho : other ≠ name := fun ho => hne (ho.symm.trans hk)
          rw [if_pos hk, if_pos hk, if_neg ho]
        · rw [if_neg hk, if_neg hk]

/-! ## Counting -/

theorem get?_increment {m : SortedMap Nat} (h : Ordered m.entries) (name other : String) :
    (m.increment name).get? other =
      if other = name then some ((m.get? name).getD 0 + 1) else m.get? other :=
  h.lookup_upsertIn name _ other

theorem count_concat (names : List String) (name : String) :
    count (names ++ [name]) = (count names).increment name := List.foldl_append

theorem ordered_count (names : List String) : Ordered (count names).entries := by
  induction names using List.reverseRecOn with
  | nil => exact List.Pairwise.nil
  | append_singleton names name ih => rw [count_concat]; exact ih.upsertIn ..

/-- **A name is found with how often it occurs.** -/
theorem get?_count (names : List String) (name : String) :
    (count names).get? name = if name ∈ names then some (names.count name) else none := by
  induction names using List.reverseRecOn generalizing name with
  | nil => rfl
  | append_singleton names last ih =>
    rw [count_concat, get?_increment (ordered_count names), ih, ih]
    by_cases hn : name = last
    · subst hn
      by_cases hm : name ∈ names
      · simp [hm]
      · simp [hm, List.count_eq_zero.2 hm]
    · simp [hn, Ne.symm hn]

end Descent.SortedMap
