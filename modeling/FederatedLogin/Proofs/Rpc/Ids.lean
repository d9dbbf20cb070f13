import Mathlib.Order.Lattice
import FederatedLogin.Proofs.Number.Binary64
import FederatedLogin.Proofs.Rpc.Loose

/-! # Ids and the numbers behind them

A value stands for an id if there is a whole number at its front, in whatever form it is written.
The id is that number where it fits 64 bits with a sign, and else the limit nearest to it, so that
beyond a limit all numbers stand for the same id.
-/

namespace FederatedLogin

open Json (minInt64 maxInt64)

namespace Rpc.Loose

/-! ## The nearest number of 64 bits -/

def nearestInt64 (n : ℤ) : ℤ := max minInt64 (min maxInt64 n)

section Nearest

variable {m n : ℤ}

theorem limits_eq : minInt64 = -2 ^ 63 ∧ maxInt64 = 2 ^ 63 - 1 := by
  decide

theorem isInt64_iff : isInt64 n = true ↔ minInt64 ≤ n ∧ n ≤ maxInt64 := by
  simp [isInt64]

theorem nearestInt64_eq_self_iff : nearestInt64 n = n ↔ minInt64 ≤ n ∧ n ≤ maxInt64 := by
  obtain ⟨hmin, hmax⟩ := limits_eq
  unfold nearestInt64
  omega

/-- Different numbers have the same nearest one if and only if they lie on or beyond one limit. -/
theorem nearestInt64_eq_iff : nearestInt64 m = nearestInt64 n ↔
    m = n ∨ (maxInt64 ≤ m ∧ maxInt64 ≤ n) ∨ (m ≤ minInt64 ∧ n ≤ minInt64) := by
  obtain ⟨hmin, hmax⟩ := limits_eq
  unfold nearestInt64
  omega

theorem nearestInt64_pos_iff : 0 < nearestInt64 n ↔ 0 < n := by
  obtain ⟨hmin, hmax⟩ := limits_eq
  unfold nearestInt64
  omega

end Nearest

/-! ## Numbers held -/

def value? : Loose → Option ℚ
  | .integer n => some n
  | .double x => some x.value
  | _ => none

/-- The number at the front of a value: the value itself, or what is at the front of the first item
of an array. -/
def front? : Json → Option Json.Number
  | .number n => some n
  | .array (first :: _) => front? first
  | _ => none

/-- The number that the loose form of the number at the front holds. -/
def held? (v : Json) : Option ℚ := (front? v).bind fun n => (ofJson (.number n)).value?

theorem idOfDouble?_eq_some_iff {x : Binary64} {i : ℤ} :
    idOfDouble? x = some i ↔ ∃ n : ℤ, x.value = n ∧ i = nearestInt64 n := by
  rw [idOfDouble?, Option.map_eq_some_iff]
  constructor
  · rintro ⟨n, hn, rfl⟩
    exact ⟨n, Binary64.toInt?_eq_some_iff.mp hn, rfl⟩
  · rintro ⟨n, hn, rfl⟩
    exact ⟨n, Binary64.toInt?_eq_some_iff.mpr hn, rfl⟩

theorem id?_number_eq_some_iff {n : Json.Number} {i : ℤ} :
    (ofJson (.number n)).id? = some i ↔
      ∃ m : ℤ, (ofJson (.number n)).value? = some (m : ℚ) ∧ i = nearestInt64 m := by
  cases n with
  | float x => simp [ofJson, id?, value?, idOfDouble?_eq_some_iff]
  | int n =>
    cases hn : isInt64 n with
    | false => simp [ofJson, hn, id?, value?, idOfDouble?_eq_some_iff]
    | true =>
      have hself : nearestInt64 n = n := nearestInt64_eq_self_iff.mpr (isInt64_iff.mp hn)
      simp [ofJson, hn, id?, value?, hself, eq_comm]

/-- The id of a value is that of the number at its front, however deep that is. -/
theorem id?_eq_front (v : Json) :
    (ofJson v).id? = (front? v).bind fun n => (ofJson (.number n)).id? := by
  rw [id?_ofJson]
  fun_induction front? v with
  | case1 n => exact (id?_ofJson _).symm
  | case2 first rest ih => rw [idOfJson?, ih]
  | case3 v hnumber harray =>
    cases v with
    | number n => exact absurd rfl (hnumber n)
    | array items =>
      cases items with
      | nil => rfl
      | cons first rest => exact absurd rfl (harray first rest)
    | _ => rfl

theorem id?_eq_some_iff {v : Json} {i : ℤ} :
    (ofJson v).id? = some i ↔ ∃ n : ℤ, held? v = some (n : ℚ) ∧ i = nearestInt64 n := by
  rw [id?_eq_front, held?]
  cases front? v with
  | none => simp
  | some n => exact id?_number_eq_some_iff

/-- A value has no id but the number it holds if and only if that number, if whole, fits. -/
theorem id?_faithful_iff {v : Json} :
    (∀ i, (ofJson v).id? = some i → held? v = some (i : ℚ)) ↔
      ∀ n : ℤ, held? v = some (n : ℚ) → minInt64 ≤ n ∧ n ≤ maxInt64 := by
  constructor
  · intro h n hn
    have hid : (ofJson v).id? = some (nearestInt64 n) := id?_eq_some_iff.mpr ⟨n, hn, rfl⟩
    have hheld : some (n : ℚ) = some (nearestInt64 n : ℚ) := hn.symm.trans (h _ hid)
    have hself : n = nearestInt64 n := Int.cast_injective (Option.some.inj hheld)
    exact nearestInt64_eq_self_iff.mp hself.symm
  · intro h i hid
    obtain ⟨n, hn, rfl⟩ := id?_eq_some_iff.mp hid
    rw [nearestInt64_eq_self_iff.mpr (h n hn)]
    exact hn

end Rpc.Loose

end FederatedLogin
