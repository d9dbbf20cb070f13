/-! # Names bound in a list

What a name is bound to in a list of pairs, of which the first with that name counts.
-/

namespace FederatedLogin

variable {α : Type}

theorem lookup_cons_eq_ite (k name : String) (v : α) (pairs : List (String × α)) :
    ((k, v) :: pairs).lookup name = if name = k then some v else pairs.lookup name := by
  rw [List.lookup_cons]
  by_cases h : name = k
  · rw [if_pos h, beq_iff_eq.mpr h]
  · rw [if_neg h, beq_false_of_ne h]

theorem lookup_filter (keeps : String → Bool) (pairs : List (String × α)) (name : String) :
    (pairs.filter fun p => keeps p.1).lookup name =
      if keeps name then pairs.lookup name else none := by
  induction pairs with
  | nil => simp
  | cons pair pairs ih =>
    obtain ⟨k, v⟩ := pair
    rw [List.filter_cons, lookup_cons_eq_ite]
    by_cases hk : name = k
    · subst hk
      by_cases hkeep : keeps name = true <;> simp [hkeep, ih]
    · by_cases hkeep : keeps k = true
      · rw [if_pos hkeep, lookup_cons_eq_ite, ih, if_neg hk, if_neg hk]
      · rw [if_neg hkeep, ih, if_neg hk]

end FederatedLogin
