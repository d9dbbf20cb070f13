import Mathlib.Algebra.Order.Field.Rat
import Mathlib.Data.Rat.Cast.Order
import FederatedLogin.Number.Binary64

/-! # Values of doubles

A double stands for a rational number. It is read as the whole number that it stands for, and not
read where it stands for none.
-/

namespace FederatedLogin.Binary64

/-- The number a double stands for. -/
def value (x : Binary64) : ℚ :=
  (if x.negative then -1 else 1) * (x.significand * 2 ^ x.exponent)

theorem two_zpow_eq (e : ℤ) : (2 : ℚ) ^ e = (2 ^ e.toNat : ℕ) / (2 ^ (-e).toNat : ℕ) := by
  rcases Int.le_total 0 e with he | he
  · obtain ⟨n, rfl⟩ := Int.eq_ofNat_of_zero_le he
    simp
  · obtain ⟨n, hn⟩ := Int.eq_ofNat_of_zero_le (Int.neg_nonneg_of_nonpos he)
    obtain rfl : e = -(n : ℤ) := by omega
    simp

theorem value_eq_ratio (x : Binary64) :
    x.value = (if x.negative then -1 else 1) * ((x.ratio.1 : ℚ) / x.ratio.2) := by
  rw [value, two_zpow_eq, ← mul_div_assoc, ← Nat.cast_mul]
  rfl

theorem cast_div_eq_iff {num den : ℕ} (h : 0 < den) {m : ℤ} :
    (num : ℚ) / den = m ↔ num % den = 0 ∧ ((num / den : ℕ) : ℤ) = m := by
  have hden : (den : ℚ) ≠ 0 := Nat.cast_ne_zero.mpr (Nat.ne_of_gt h)
  rw [div_eq_iff hden]
  constructor
  · intro hnum
    have hnum : (num : ℤ) = m * den := by exact_mod_cast hnum
    have hdvd : den ∣ num := Int.natCast_dvd_natCast.mp ⟨m, by rw [hnum, Int.mul_comm]⟩
    refine ⟨Nat.mod_eq_zero_of_dvd hdvd, ?_⟩
    rw [Int.natCast_ediv, hnum, Int.mul_ediv_cancel m (by omega)]
  · rintro ⟨hmod, rfl⟩
    exact_mod_cast (Nat.div_mul_cancel (Nat.dvd_of_mod_eq_zero hmod)).symm

theorem toInt?_eq_some_iff {x : Binary64} {n : ℤ} : x.toInt? = some n ↔ x.value = n := by
  have hden : 0 < x.ratio.2 := Nat.pow_pos (by decide)
  rw [value_eq_ratio, toInt?]
  cases x.negative with
  | false => simp [cast_div_eq_iff hden]
  | true =>
    rw [if_pos rfl, neg_one_mul, neg_eq_iff_eq_neg, ← Int.cast_neg, cast_div_eq_iff hden]
    simp [neg_eq_iff_eq_neg]

end FederatedLogin.Binary64
