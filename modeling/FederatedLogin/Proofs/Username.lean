import FederatedLogin.Identity
import FederatedLogin.Proofs.Text.Strip

/-! # Usernames are not empty

A cleaned login starts with a letter, which no cut at its end removes, and a generated name starts
with one by its form. The username that an identity proposes is therefore never empty.
-/

namespace FederatedLogin

namespace Username

theorem isPunctuation_of_isLowerLetter {c : Char} (h : Text.isLowerLetter c = true) :
    isPunctuation c = false := by
  refine Bool.eq_false_iff.mpr fun hp => ?_
  simp only [isPunctuation, Bool.or_eq_true, beq_iff_eq] at hp
  rcases hp with (rfl | rfl) | rfl <;> exact absurd h (by decide)

theorem startWithLetter_eq_cons (s : List Char) :
    ∃ c rest, startWithLetter s = c :: rest ∧ Text.isLowerLetter c = true := by
  cases s with
  | nil => exact ⟨'u', [], rfl, rfl⟩
  | cons c s =>
    by_cases hc : Text.isLowerLetter c = true
    · exact ⟨c, s, by simp [startWithLetter, hc], hc⟩
    · exact ⟨'u', c :: s, by simp [startWithLetter, hc], rfl⟩

theorem cut_ne_nil (s : List Char) :
    Text.dropEndWhile isPunctuation ((startWithLetter s).take maxLength) ≠ [] := by
  obtain ⟨c, rest, hs, hc⟩ := startWithLetter_eq_cons s
  have hmem : c ∈ (startWithLetter s).take maxLength := by
    rw [hs, maxLength, List.take_succ_cons]
    exact List.mem_cons_self
  exact List.ne_nil_of_mem
    (Text.mem_dropEndWhile_of_not hmem (isPunctuation_of_isLowerLetter hc))

theorem ofList_ne_empty {s : List Char} (h : s ≠ []) : String.ofList s ≠ "" := by
  intro he
  have he := congrArg String.toList he
  rw [String.toList_ofList] at he
  exact h he

theorem clean_ne_empty {raw name : String} (h : clean raw = some name) : name ≠ "" := by
  unfold clean at h
  split at h
  next => cases h
  next =>
    dsimp only at h
    split at h
    next => cases h
    next =>
      rw [← Option.some.inj h]
      exact ofList_ne_empty (cut_ne_nil _)

theorem generated_ne_empty (serial : Nat) : generated serial ≠ "" :=
  ofList_ne_empty (List.cons_ne_nil _ _)

end Username

theorem Identity.localUsername_ne_empty (i : Identity) {generated : String}
    (hg : generated ≠ "") : i.localUsername generated ≠ "" := by
  unfold Identity.localUsername
  cases hc : Username.clean (Text.before '@' i.loginName) with
  | none => exact hg
  | some name => exact Username.clean_ne_empty hc

end FederatedLogin
