/-
  Numbers that are read from their digits.

  * `Digits.number?_toDigits`: the digits of a number denote it.
  * `Digits.head?_toDigits`: no number but zero starts with the digit zero.
-/
import Descent.Text.Digits

namespace Descent.Digits

variable {base n : Nat} {c : Char}

/-- Digits come after the zero among the characters. -/
theorem toNat_of_isDigit (h : isDigit base c = true) : '0'.toNat ≤ c.toNat := by
  have hbefore : 'A'.toNat ≤ c.toNat → '0'.toNat ≤ c.toNat := Nat.le_trans (by decide)
  rw [isDigit, value?] at h
  split at h
  · next hc => exact hc.1
  · split at h
    · next hc => exact hbefore (Nat.le_trans (by decide) hc.1)
    · split at h
      · next hc => exact hbefore hc.1
      · cases h

theorem value?_digitChar {d : Nat} (h : d < 16) : value? d.digitChar = some d := by
  have hall : ∀ d < 16, value? d.digitChar = some d := by decide
  exact hall d h

theorem accumulate?_digitChar {d : Nat} (hbase : base ≤ 16) (hd : d < base) (n : Nat) :
    accumulate? base n d.digitChar = some (n * base + d) := by
  rw [accumulate?, value?_digitChar (Nat.lt_of_lt_of_le hd hbase)]
  exact if_pos hd

theorem isDigit_of_mem_toDigits (hbase : 1 < base) (hlast : base ≤ 16) (hc : c ∈ Nat.toDigits base n) :
    isDigit base c = true := by
  have hdigit {d : Nat} (hd : d < base) : isDigit base d.digitChar = true := by
    rw [isDigit, value?_digitChar (Nat.lt_of_lt_of_le hd hlast)]
    exact decide_eq_true hd
  induction n using Nat.strongRecOn with
  | ind n ih =>
    rw [Nat.toDigits_eq_if hbase] at hc
    split at hc
    · next hn =>
      rw [List.mem_singleton.1 hc]
      exact hdigit hn
    · next hn =>
      rcases List.mem_append.1 hc with hc | hc
      · exact ih (n / base) (Nat.div_lt_self (by omega) hbase) hc
      · rw [List.mem_singleton.1 hc]
        exact hdigit (Nat.mod_lt n (by omega))

theorem foldlM_toDigits (hbase : 1 < base) (hlast : base ≤ 16) (n : Nat) :
    (Nat.toDigits base n).foldlM (accumulate? base) 0 = some n := by
  induction n using Nat.strongRecOn with
  | ind n ih =>
    rw [Nat.toDigits_eq_if hbase]
    split
    · next hn =>
      rw [List.foldlM_cons, accumulate?_digitChar hlast hn, Nat.zero_mul, Nat.zero_add]
      rfl
    · next hn =>
      have hlow : n % base < base := Nat.mod_lt n (by omega)
      rw [List.foldlM_append, ih (n / base) (Nat.div_lt_self (by omega) hbase), Option.bind_eq_bind,
        Option.bind_some, List.foldlM_cons, accumulate?_digitChar hlast hlow, Nat.div_add_mod']
      rfl

/-- **The digits of a number denote it.** -/
theorem number?_toDigits (hbase : 1 < base) (hlast : base ≤ 16) (n : Nat) :
    number? base (Nat.toDigits base n) = some n := by
  rw [number?, if_neg (by rw [List.isEmpty_iff]; exact Nat.toDigits_ne_nil)]
  exact foldlM_toDigits hbase hlast n

/-- No number but zero starts with the digit zero. -/
theorem head?_toDigits (hbase : 1 < base) (hlast : base ≤ 16) (hn : n ≠ 0) :
    (Nat.toDigits base n).head? ≠ some '0' := by
  induction n using Nat.strongRecOn with
  | ind n ih =>
    rw [Nat.toDigits_eq_if hbase]
    split
    · next hlt =>
      intro h
      have hzero : some n = some 0 := (value?_digitChar (Nat.lt_of_lt_of_le hlt hlast)).symm.trans
        (congrArg value? (Option.some.inj h))
      exact hn (Option.some.inj hzero)
    · next hge =>
      have hpos : 0 < n / base := Nat.div_pos (by omega) (by omega)
      have hsome : (Nat.toDigits base (n / base)).head? ≠ none := mt List.head?_eq_none_iff.1 Nat.toDigits_ne_nil
      rw [List.head?_append, Option.or_of_isSome (Option.isSome_iff_ne_none.2 hsome)]
      exact ih (n / base) (Nat.div_lt_self (by omega) hbase) (by omega)

end Descent.Digits
