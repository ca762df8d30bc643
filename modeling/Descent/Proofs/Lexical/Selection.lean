/-
  Which candidate and which choice a strategy selects.

  * `Strategy.Ranks.select_eq_some`: a strategy that ranks candidates selects the one that prevails over the
    candidates before it and against those after it.
  * `Strategy.select_strict` and `Strategy.select_lax`: so a strategy that prefers greater keys selects the
    earliest candidate of the greatest key, and one that prefers keys that are not less the latest.
  * `Choice.select?_eq_some`: where the choices have different numbers, the selected one is the choice
    of the selected candidate.
  * `Choice.select?_longest` and `Choice.select?_first` say which choice that is under the two named
    strategies.
-/
import Descent.Lexical.Rule
import Mathlib.Data.List.Induction
import Mathlib.Data.List.Nodup
import Mathlib.Order.Lattice
import Mathlib.Order.Nat

namespace Descent

namespace Strategy

variable {s : Strategy} {cs : List Candidate} {c d : Candidate}

/-! ## Strategies that rank -/

theorem select_concat (s : Strategy) (cs : List Candidate) (c : Candidate) :
    s.select (cs ++ [c]) = s.challenge (s.select cs) c := by
  rw [select, List.foldl_append]
  rfl

/-- `c` takes the place of all candidates before it and keeps it against all after it. -/
def Prevails (s : Strategy) (cs : List Candidate) (c : Candidate) : Prop :=
  ∃ pre post, cs = pre ++ c :: post ∧ (∀ d ∈ pre, s.prefers d c = true) ∧
    ∀ d ∈ post, s.prefers c d = false

/-- Of two candidates the later one cannot take the place that the earlier one keeps. -/
theorem eq_of_keeps {between post₁ post₂ : List Candidate} (h : c :: post₁ = between ++ d :: post₂)
    (hkeeps : ∀ e ∈ post₁, s.prefers c e = false) (htakes : ∀ e ∈ between, s.prefers e d = true) : c = d := by
  cases between with
  | nil => exact (List.cons.inj h).1
  | cons e between =>
    obtain ⟨rfl, rfl⟩ := List.cons.inj h
    have hkept := hkeeps d (by simp)
    rw [htakes c (by simp)] at hkept
    cases hkept

theorem Prevails.unique (hc : s.Prevails cs c) (hd : s.Prevails cs d) : c = d := by
  obtain ⟨pre₁, post₁, h₁, hpre₁, hpost₁⟩ := hc
  obtain ⟨pre₂, post₂, rfl, hpre₂, hpost₂⟩ := hd
  rcases List.append_eq_append_iff.1 h₁ with ⟨between, rfl, h⟩ | ⟨between, rfl, h⟩
  · exact (eq_of_keeps h hpost₂ fun e he => hpre₁ e (List.mem_append_right _ he)).symm
  · exact eq_of_keeps h hpost₁ fun e he => hpre₂ e (List.mem_append_right _ he)

/-- A strategy that ranks candidates: whoever beats a candidate beats all that lose to it, and of a loser and
its winner any third candidate beats the one or loses to the other. -/
structure Ranks (s : Strategy) : Prop where
  trans {b c d : Candidate} : s.prefers b c = true → s.prefers c d = true → s.prefers b d = true
  between {b d : Candidate} (c : Candidate) :
    s.prefers b d = true → s.prefers b c = true ∨ s.prefers c d = true

/-- The incumbent prevails over the candidates so far. -/
theorem Ranks.prevails_of_select (h : s.Ranks) (hs : s.select cs = some c) : s.Prevails cs c := by
  induction cs using List.reverseRecOn generalizing c with
  | nil => cases hs
  | append_singleton cs d ih =>
    rw [select_concat] at hs
    cases hbest : s.select cs with
    | none =>
      obtain rfl := select_eq_none.1 hbest
      rw [hbest] at hs
      obtain rfl := Option.some.inj hs
      exact ⟨[], [], rfl, by simp, by simp⟩
    | some best =>
      rw [hbest, challenge] at hs
      obtain rfl := Option.some.inj hs
      obtain ⟨pre, post, rfl, hpre, hpost⟩ := ih hbest
      cases hwins : s.prefers best d with
      | false =>
        refine ⟨pre, post ++ [d], by simp, hpre, ?_⟩
        exact List.forall_mem_append.2 ⟨hpost, List.forall_mem_singleton.2 hwins⟩
      | true =>
        -- whoever lost to the incumbent, before or after it, loses to the challenger too
        refine ⟨pre ++ best :: post, [], rfl, ?_, by simp⟩
        refine List.forall_mem_append.2 ⟨fun e he => h.trans (hpre e he) hwins, ?_⟩
        refine List.forall_mem_cons.2 ⟨hwins, fun e he => ?_⟩
        refine (h.between e hwins).resolve_left ?_
        rw [hpost e he]
        exact Bool.false_ne_true

/-- **A strategy that ranks selects the candidate that prevails.** -/
theorem Ranks.select_eq_some (h : s.Ranks) : s.select cs = some c ↔ s.Prevails cs c := by
  refine ⟨h.prevails_of_select, fun hc => ?_⟩
  cases hs : s.select cs with
  | none =>
    obtain ⟨pre, post, hcs, -⟩ := hc
    rw [select_eq_none.1 hs] at hcs
    simp at hcs
  | some d => rw [(h.prevails_of_select hs).unique hc]

/-! ## Keys -/

variable {β : Type*} [LinearOrder β] {key : Candidate → β}

/-- `c` is the earliest candidate of the greatest key. -/
def FirstMax (key : Candidate → β) (cs : List Candidate) (c : Candidate) : Prop :=
  ∃ pre post, cs = pre ++ c :: post ∧ (∀ d ∈ pre, key d < key c) ∧ ∀ d ∈ post, key d ≤ key c

/-- `c` is the latest candidate of the greatest key. -/
def LastMax (key : Candidate → β) (cs : List Candidate) (c : Candidate) : Prop :=
  ∃ pre post, cs = pre ++ c :: post ∧ (∀ d ∈ pre, key d ≤ key c) ∧ ∀ d ∈ post, key d < key c

/-- **Preferring greater keys selects the earliest candidate of the greatest key.** -/
theorem select_strict (hs : ∀ b c, s.prefers b c = true ↔ key b < key c) :
    s.select cs = some c ↔ FirstMax key cs c := by
  have hranks : s.Ranks := by
    refine ⟨fun hbc hcd => ?_, fun {b d} c hbd => ?_⟩
    · rw [hs] at hbc hcd ⊢
      exact hbc.trans hcd
    · rw [hs] at hbd ⊢
      rw [hs]
      exact hbd.gt_or_lt (key c)
  rw [hranks.select_eq_some, Prevails, FirstMax]
  simp only [hs, ← Bool.not_eq_true, not_lt]

/-- **Preferring keys that are not less selects the latest candidate of the greatest key.** -/
theorem select_lax (hs : ∀ b c, s.prefers b c = true ↔ key b ≤ key c) :
    s.select cs = some c ↔ LastMax key cs c := by
  have hranks : s.Ranks := by
    refine ⟨fun hbc hcd => ?_, fun {b d} c hbd => ?_⟩
    · rw [hs] at hbc hcd ⊢
      exact hbc.trans hcd
    · rw [hs] at hbd ⊢
      rw [hs]
      exact (le_total (key b) (key c)).imp_right hbd.trans'
  rw [hranks.select_eq_some, Prevails, LastMax]
  simp only [hs, ← Bool.not_eq_true, not_le]

theorem select_longest : longest.select cs = some c ↔ FirstMax Candidate.width cs c :=
  select_strict (by simp [longest])

/-- The first strategy prefers greater keys where all keys are equal. -/
theorem select_first (cs : List Candidate) : first.select cs = cs.head? := by
  cases cs with
  | nil => rfl
  | cons c cs =>
    have hs : ∀ b c, first.prefers b c = true ↔ (fun _ => 0 : Candidate → Nat) b < (fun _ => 0) c := by
      simp [first]
    exact (select_strict hs).2 ⟨[], cs, rfl, by simp, by simp⟩

end Strategy

namespace Choice

variable {V : Type} {s : Strategy} {choices : List (Choice V)} {c d : Choice V}

/-- The choices are in the order of their numbers, no two of which are equal. -/
def Ordered (choices : List (Choice V)) : Prop := choices.Pairwise fun c d => c.number < d.number

theorem Ordered.eq (ho : Ordered choices) (hc : c ∈ choices) (hd : d ∈ choices)
    (h : c.number = d.number) : c = d := by
  have hn : (choices.map Choice.number).Nodup :=
    (List.pairwise_map.2 ho).imp fun hlt => Nat.ne_of_lt hlt
  exact List.inj_on_of_nodup_map hn hc hd h

/-- Looking the selected candidate up by its number finds the choice it comes from. -/
theorem select?_eq_some (ho : Ordered choices) :
    select? s choices = some c ↔ c ∈ choices ∧ s.select (choices.map candidate) = some c.candidate := by
  simp only [select?, Option.bind_eq_some_iff]
  constructor
  · rintro ⟨chosen, hs, hf⟩
    obtain ⟨d, hd, rfl⟩ := List.mem_map.1 (Strategy.select_mem hs)
    have hn : c.number = d.number := by simpa [candidate] using List.find?_some hf
    have hc := List.mem_of_find?_eq_some hf
    exact ⟨hc, by rw [hs, ho.eq hc hd hn]⟩
  · rintro ⟨hc, hs⟩
    refine ⟨_, hs, ?_⟩
    obtain ⟨d, hf⟩ := Option.isSome_iff_exists.1
      (List.find?_isSome (p := fun d => d.number == c.number).2 ⟨c, hc, beq_self_eq_true c.number⟩)
    have hn : d.number = c.number := by simpa [candidate] using List.find?_some hf
    rwa [ho.eq (List.mem_of_find?_eq_some hf) hc hn] at hf

theorem select?_eq_none (ho : Ordered choices) : select? s choices = none ↔ choices = [] := by
  constructor
  · intro h
    cases hs : s.select (choices.map candidate) with
    | none => exact List.map_eq_nil_iff.1 (Strategy.select_eq_none.1 hs)
    | some chosen =>
      obtain ⟨d, hd, rfl⟩ := List.mem_map.1 (Strategy.select_mem hs)
      rw [(select?_eq_some ho).2 ⟨hd, hs⟩] at h
      exact absurd h (Option.some_ne_none d)
  · rintro rfl; rfl

/-- The selected candidate cuts the choices where the selected choice stands. -/
theorem exists_append_of_select (ho : Ordered choices) (hc : c ∈ choices) {pre post : List Candidate}
    (h : choices.map candidate = pre ++ c.candidate :: post) :
    ∃ p q, choices = p ++ c :: q ∧ p.map candidate = pre ∧ q.map candidate = post := by
  obtain ⟨p, r, rfl, rfl, hr⟩ := List.map_eq_append_iff.1 h
  obtain ⟨e, q, rfl, he, rfl⟩ := List.map_eq_cons_iff.1 hr
  have : e = c := ho.eq (by simp) hc (congrArg Candidate.rule he)
  exact ⟨p, q, by rw [this], rfl, rfl⟩

/-- **The longest lexeme is selected, of several that of the earliest rule.** -/
theorem select?_longest (ho : Ordered choices) :
    select? .longest choices = some c ↔ c ∈ choices ∧ ∀ d ∈ choices,
      d.lexeme.length ≤ c.lexeme.length ∧ (d.number < c.number → d.lexeme.length < c.lexeme.length) := by
  have key : ∀ e, select? .longest choices = some e → e ∈ choices ∧ ∀ d ∈ choices,
      d.lexeme.length ≤ e.lexeme.length ∧
        (d.number < e.number → d.lexeme.length < e.lexeme.length) := by
    intro e h
    obtain ⟨he, hs⟩ := (select?_eq_some ho).1 h
    obtain ⟨pre, post, hcs, hpre, hpost⟩ := Strategy.select_longest.1 hs
    obtain ⟨p, q, rfl, rfl, rfl⟩ := exists_append_of_select ho he hcs
    refine ⟨he, fun d hd => ?_⟩
    have hlater : ∀ d ∈ q, e.number < d.number :=
      (List.pairwise_cons.1 (List.pairwise_append.1 ho).2.1).1
    rcases List.mem_append.1 hd with hd | hd
    · have := hpre d.candidate (List.mem_map_of_mem hd)
      exact ⟨this.le, fun _ => this⟩
    · rcases List.mem_cons.1 hd with rfl | hd
      · exact ⟨le_rfl, fun h => absurd h (lt_irrefl _)⟩
      · exact ⟨hpost d.candidate (List.mem_map_of_mem hd), fun h => absurd h (hlater d hd).asymm⟩
  refine ⟨key c, fun ⟨hc, hmax⟩ => ?_⟩
  cases h : select? .longest choices with
  | none => rw [(select?_eq_none ho).1 h] at hc; simp at hc
  | some e =>
    obtain ⟨he, hmax'⟩ := key e h
    have hwidth := Nat.le_antisymm (hmax e he).1 (hmax' c hc).1
    have hnumber : e.number = c.number := by
      rcases Nat.lt_trichotomy e.number c.number with hlt | heq | hgt
      · exact absurd hwidth (Nat.ne_of_lt ((hmax e he).2 hlt))
      · exact heq
      · exact absurd hwidth.symm (Nat.ne_of_lt ((hmax' c hc).2 hgt))
    rw [ho.eq he hc hnumber]

/-- **The earliest rule that matches is selected.** -/
theorem select?_first (ho : Ordered choices) : select? .first choices = choices.head? := by
  cases choices with
  | nil => rfl
  | cons c cs =>
    cases h : select? .first (c :: cs) with
    | none => exact absurd ((select?_eq_none ho).1 h) (List.cons_ne_nil c cs)
    | some d =>
      obtain ⟨hd, hs⟩ := (select?_eq_some ho).1 h
      rw [Strategy.select_first] at hs
      have hn : c.number = d.number := congrArg Candidate.rule (Option.some.inj hs)
      rw [ho.eq (List.mem_cons_self ..) hd hn]; rfl

end Choice

end Descent
