import FederatedLogin.Text.Ascii
import FederatedLogin.Text.Decimal

/-! # Numerals stand for their numbers

The digits of a number have its value, so different numbers have different numerals, and that is so
too where the case of letters is ignored.
-/

namespace FederatedLogin.Text

theorem forall_mem_natDigits {P : Char → Prop} (h : ∀ k < 10, P (digitChar k)) (n : Nat) :
    ∀ c ∈ natDigits n, P c := by
  induction n using natDigits.induct with
  | case1 n hn =>
    rw [natDigits, if_pos hn]
    exact List.forall_mem_singleton.mpr (h n hn)
  | case2 n hn ih =>
    rw [natDigits, if_neg hn]
    exact List.forall_mem_append.mpr
      ⟨ih, List.forall_mem_singleton.mpr (h _ (Nat.mod_lt _ (by decide)))⟩

theorem forall_mem_intDigits {P : Char → Prop} (hminus : P '-') (h : ∀ k < 10, P (digitChar k))
    (n : Int) : ∀ c ∈ intDigits n, P c := by
  match n with
  | .ofNat n => exact forall_mem_natDigits h n
  | .negSucc n => exact List.forall_mem_cons.mpr ⟨hminus, forall_mem_natDigits h (n + 1)⟩

theorem forall_mem_hexDigits {P : Char → Prop} (h : ∀ k < 16, P (hexDigit k)) (width n : Nat) :
    ∀ c ∈ hexDigits width n, P c := by
  induction width generalizing n with
  | zero => exact List.forall_mem_nil _
  | succ width ih =>
    rw [hexDigits]
    exact List.forall_mem_append.mpr
      ⟨ih _, List.forall_mem_singleton.mpr (h _ (Nat.mod_lt _ (by decide)))⟩

theorem length_hexDigits (width n : Nat) : (hexDigits width n).length = width := by
  induction width generalizing n with
  | zero => rfl
  | succ width ih => rw [hexDigits, List.length_append, ih, List.length_singleton]

theorem toNat_digitChar : ∀ k < 10, (digitChar k).toNat - 0x30 = k := by
  decide

theorem digitsValue_snoc (s : List Char) (c : Char) :
    digitsValue (s ++ [c]) = digitsValue s * 10 + (c.toNat - 0x30) := by
  simp [digitsValue]

theorem digitsValue_natDigits (n : Nat) : digitsValue (natDigits n) = n := by
  induction n using natDigits.induct with
  | case1 n h =>
    rw [natDigits, if_pos h]
    simp [digitsValue, toNat_digitChar n h]
  | case2 n h ih =>
    rw [natDigits, if_neg h, digitsValue_snoc, ih, toNat_digitChar _ (Nat.mod_lt _ (by decide))]
    omega

theorem natDigits_injective {m n : Nat} (h : natDigits m = natDigits n) : m = n := by
  rw [← digitsValue_natDigits m, h, digitsValue_natDigits]

theorem natDigits_ne_minus (n : Nat) (s : List Char) : natDigits n ≠ '-' :: s := by
  intro h
  have hminus : ∀ c ∈ natDigits n, c ≠ '-' := forall_mem_natDigits (by decide) n
  exact hminus '-' (h ▸ List.mem_cons_self) rfl

theorem intDigits_injective {a b : Int} (h : intDigits a = intDigits b) : a = b := by
  match a, b with
  | .ofNat m, .ofNat n => exact congrArg Int.ofNat (natDigits_injective h)
  | .ofNat m, .negSucc n => exact absurd h (natDigits_ne_minus m _)
  | .negSucc m, .ofNat n => exact absurd h.symm (natDigits_ne_minus n _)
  | .negSucc m, .negSucc n =>
    exact congrArg Int.negSucc (Nat.succ.inj (natDigits_injective (List.cons.inj h).2))

theorem decimal_injective {a b : Int} (h : decimal a = decimal b) : a = b :=
  intDigits_injective (String.ofList_inj.mp h)

theorem intDigits_ne_nil (n : Int) : intDigits n ≠ [] := by
  match n with
  | .ofNat n =>
    rw [intDigits, natDigits]
    split
    · exact List.cons_ne_nil _ _
    · exact List.append_ne_nil_of_right_ne_nil _ (List.cons_ne_nil _ _)
  | .negSucc n => exact List.cons_ne_nil _ _

theorem decimal_ne_empty (n : Int) : decimal n ≠ "" := by
  intro h
  exact intDigits_ne_nil n (by simpa [decimal] using congrArg String.toList h)

theorem decimal_zero : decimal 0 = "0" := by
  have h : natDigits 0 = ['0'] := by rw [natDigits]; rfl
  exact congrArg String.ofList h

theorem foldAscii_append (a b : String) : foldAscii (a ++ b) = foldAscii a ++ foldAscii b := by
  rw [foldAscii, String.toList_append, List.map_append]
  rfl

theorem foldAscii_decimal (n : Int) : foldAscii (decimal n) = intDigits n := by
  have h : ∀ c ∈ intDigits n, c.toLower = id c := forall_mem_intDigits (by decide) (by decide) n
  rw [foldAscii, decimal, String.toList_ofList, List.map_congr_left h, List.map_id]

end FederatedLogin.Text
