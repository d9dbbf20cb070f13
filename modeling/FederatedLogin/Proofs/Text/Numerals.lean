import Mathlib.Data.Nat.Digits.Defs
import FederatedLogin.Proofs.Text.Decimal
import FederatedLogin.Proofs.Text.Strip

/-! # Numerals

What is read as a number: digits, one at least, that have its value in base ten, after a sign or
none. Leading zeros do not matter. The numeral that is written for a number is read back as it.
-/

namespace FederatedLogin.Text

variable {s : List Char} {n : Nat}

structure IsDigits (s : List Char) (n : Nat) : Prop where
  ne_nil : s ≠ []
  digits : ∀ c ∈ s, '0' ≤ c ∧ c ≤ '9'
  value : Nat.ofDigits 10 (s.reverse.map fun c => c.toNat - '0'.toNat) = n

/-- Digits after a plus sign or none. -/
inductive IsUnsigned : List Char → Nat → Prop where
  | bare {s : List Char} {n : Nat} : IsDigits s n → IsUnsigned s n
  | plus {s : List Char} {n : Nat} : IsDigits s n → IsUnsigned ('+' :: s) n

inductive IsSigned : List Char → Int → Prop where
  | unsigned {s : List Char} {n : Nat} : IsUnsigned s n → IsSigned s n
  | minus {s : List Char} {n : Nat} : IsDigits s n → IsSigned ('-' :: s) (-n)

/-! ## What is read -/

theorem isDigit_iff {c : Char} : isDigit c = true ↔ '0' ≤ c ∧ c ≤ '9' := by
  simp [isDigit]

theorem digitsValue_eq (s : List Char) :
    digitsValue s = Nat.ofDigits 10 (s.reverse.map fun c => c.toNat - '0'.toNat) := by
  rw [← List.reverse_reverse s]
  induction s.reverse with
  | nil => rfl
  | cons c s ih =>
    rw [List.reverse_cons, digitsValue_snoc, ih, List.reverse_append, List.reverse_singleton,
      List.singleton_append, List.map_cons, Nat.ofDigits_cons, Nat.add_comm, Nat.mul_comm]
    rfl

theorem nat?_eq_some_iff : nat? s = some n ↔ IsDigits s n := by
  have hall : (!s.isEmpty && s.all isDigit) = true ↔ s ≠ [] ∧ ∀ c ∈ s, '0' ≤ c ∧ c ≤ '9' := by
    simp [isDigit_iff]
  rw [nat?, Option.ite_none_right_eq_some, hall, Option.some_inj, digitsValue_eq]
  exact ⟨fun ⟨⟨hne, hdigits⟩, hvalue⟩ => ⟨hne, hdigits, hvalue⟩,
    fun h => ⟨⟨h.ne_nil, h.digits⟩, h.value⟩⟩

theorem not_isDigits_cons {c : Char} (h : isDigit c = false) : ¬ IsDigits (c :: s) n := by
  intro hdigits
  have hc := isDigit_iff.mpr (hdigits.digits c List.mem_cons_self)
  exact absurd hc (by simp [h])

theorem unsigned?_eq_some_iff : unsigned? s = some n ↔ IsUnsigned s n := by
  unfold unsigned?
  split
  next s =>
    rw [nat?_eq_some_iff]
    constructor
    · exact .plus
    · rintro (h | h)
      · exact absurd h (not_isDigits_cons (by decide))
      · exact h
  next hplus =>
    rw [nat?_eq_some_iff]
    constructor
    · exact .bare
    · rintro (h | _)
      · exact h
      · exact absurd rfl (hplus _)

theorem signed?_eq_some_iff {n : Int} : signed? s = some n ↔ IsSigned s n := by
  unfold signed?
  split
  next s =>
    rw [Option.map_eq_some_iff]
    constructor
    · rintro ⟨k, hk, rfl⟩
      obtain ⟨m, hm, hcast⟩ := Option.bind_eq_some_iff.mp hk
      obtain rfl := Option.some.inj hcast
      exact .minus (nat?_eq_some_iff.mp hm)
    · rintro (⟨h | _⟩ | h)
      · exact absurd h (not_isDigits_cons (by decide))
      · exact ⟨_, Option.bind_eq_some_iff.mpr ⟨_, nat?_eq_some_iff.mpr h, rfl⟩, rfl⟩
  next hminus =>
    rw [Option.map_eq_some_iff]
    constructor
    · rintro ⟨k, hk, rfl⟩
      exact .unsigned (unsigned?_eq_some_iff.mp hk)
    · rintro (h | _)
      · exact ⟨_, unsigned?_eq_some_iff.mpr h, rfl⟩
      · exact absurd rfl (hminus _)

/-! ## What is written -/

theorem isDigits_natDigits (n : Nat) : IsDigits (natDigits n) n where
  ne_nil := intDigits_ne_nil (.ofNat n)
  digits := forall_mem_natDigits (by decide) n
  value := by rw [← digitsValue_eq, digitsValue_natDigits]

theorem isSigned_intDigits (n : Int) : IsSigned (intDigits n) n := by
  match n with
  | .ofNat n => exact .unsigned (.bare (isDigits_natDigits n))
  | .negSucc n => exact .minus (isDigits_natDigits (n + 1))

theorem trim_decimal (n : Int) : trim (decimal n) = decimal n := by
  have hnone : ∀ c ∈ intDigits n, isBlank c = false :=
    forall_mem_intDigits (by decide) (by decide) n
  refine trim_eq_self_iff.mpr fun c hc => hnone c ?_
  rw [decimal, String.toList_ofList] at hc
  rcases hc with hc | hc
  · exact List.mem_of_mem_head? hc
  · exact List.mem_of_getLast? hc

end FederatedLogin.Text
