import Docroot.Number.Digits

/-!
# Decimal digits are read back

A number comes back from its decimal digits, with zeros in front or without (`value_padded`), and
the digits are nothing but digits, so they are read as a number by the strict reading too
(`read?_decimal`). Zeros in front bring the digits of a small number to a given length
(`length_padded`).
-/

namespace Docroot.Digits

theorem toNat_of_isDigit {c : Char} (h : c.isDigit = true) : 48 ≤ c.toNat ∧ c.toNat ≤ 57 := by
  simp only [Char.isDigit, Bool.and_eq_true, decide_eq_true_eq] at h
  exact h

theorem value_eq_ofDigitChars (ds : Text) : value ds = Nat.ofDigitChars 10 ds 0 := by
  unfold value Nat.ofDigitChars
  congr 1
  funext n d
  rw [Nat.mul_comm]
  rfl

theorem all_isDigit_decimal (n : Nat) : (decimal n).all Char.isDigit = true := by
  rw [List.all_eq_true]
  intro c hc
  exact Nat.isDigit_of_mem_toDigits (by decide) (by decide) hc

theorem notMem_decimal {c : Char} (hc : c.isDigit = false) (n : Nat) : c ∉ decimal n := by
  intro hm
  have h := List.all_eq_true.1 (all_isDigit_decimal n) c hm
  rw [hc] at h
  cases h

theorem decimal_ne_nil (n : Nat) : decimal n ≠ [] := Nat.toDigits_ne_nil

/-- A number begins with a digit. -/
theorem exists_decimal_eq_cons (n : Nat) : ∃ d ds, decimal n = d :: ds ∧ d.isDigit = true := by
  obtain ⟨d, ds, hcons⟩ := List.exists_cons_of_ne_nil (decimal_ne_nil n)
  have hall := all_isDigit_decimal n
  rw [hcons, List.all_cons, Bool.and_eq_true] at hall
  exact ⟨d, ds, hcons, hall.1⟩

/-- **A number comes back from its digits.** -/
theorem value_decimal (n : Nat) : value (decimal n) = n := by
  rw [value_eq_ofDigitChars]
  exact Nat.ofDigitChars_toDigits (by decide) (by decide)

theorem decimal_injective {m n : Nat} (h : decimal m = decimal n) : m = n := by
  rw [← value_decimal m, h, value_decimal]

/-- **A number is read back as written.** -/
theorem read?_decimal (n : Nat) : read? (decimal n) = some n := by
  unfold read?
  rw [if_pos ⟨Nat.toDigits_ne_nil, all_isDigit_decimal n⟩, value_decimal]

/-- The digits of a number that is not zero do not begin with one. -/
theorem head?_decimal_ne {n : Nat} (h : 0 < n) : (decimal n).head? ≠ some '0' := by
  have hdigit : ∀ d < 10, 0 < d → Nat.digitChar d ≠ '0' := by decide
  unfold decimal
  induction n using Nat.strongRecOn with
  | ind n ih =>
    rw [Nat.toDigits_eq_if (by decide)]
    split
    · next hsmall => exact fun e => hdigit n hsmall h (Option.some.inj e)
    · next hlarge =>
      rw [List.head?_append, Option.or_of_isSome (List.isSome_head?.2 Nat.toDigits_ne_nil)]
      exact ih (n / 10) (by omega) (by omega)

/-- No zero stands in front of other digits. -/
theorem no_zero_in_front (n : Nat) :
    ¬(1 < (decimal n).length ∧ (decimal n).head? = some '0') := by
  rintro ⟨hlength, hhead⟩
  rcases Nat.eq_zero_or_pos n with rfl | hpos
  · exact absurd hlength (by decide)
  · exact head?_decimal_ne hpos hhead

/-! ## Zeros in front -/

theorem all_isDigit_padded (width n : Nat) : (padded width n).all Char.isDigit = true := by
  unfold padded Text.padLeft
  rw [List.all_append, all_isDigit_decimal, Bool.and_true, List.all_eq_true]
  intro c hc
  rw [(List.mem_replicate.1 hc).2]
  rfl

theorem value_padded (width n : Nat) : value (padded width n) = n := by
  unfold padded Text.padLeft
  rw [value_eq_ofDigitChars, Nat.ofDigitChars_append, Nat.ofDigitChars_replicate_zero,
    Nat.mul_zero, ← value_eq_ofDigitChars, value_decimal]

theorem length_padded {width n : Nat} (h : (decimal n).length ≤ width) :
    (padded width n).length = width := by
  unfold padded Text.padLeft
  rw [List.length_append, List.length_replicate]
  omega

end Docroot.Digits
