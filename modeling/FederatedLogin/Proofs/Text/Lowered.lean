import FederatedLogin.Proofs.Text.Lowercase

/-! # Lower-casing twice

No lower-case form has another one, so a text that has been lower-cased stays as it is. Lower-casing
makes nothing empty, and a digit comes of itself alone.
-/

namespace FederatedLogin.Text

/-! ## Ranges and their images -/

namespace CaseRange

variable {r : CaseRange} {low high n : Nat} {sparse : Bool}

theorem contains_iff :
    r.contains n = true ↔ (r.first ≤ n ∧ n ≤ r.last) ∧ (n - r.first) % r.step = 0 := by
  simp [contains]

/-- Whether a range has none of the code points from `low` to `high`, of which every other one
counts if they are `sparse`. -/
def avoids (low high : Nat) (sparse : Bool) (r : CaseRange) : Bool :=
  high.blt r.first || r.last.blt low || (r.step == 2 && sparse && (low + r.first) % 2 == 1)

theorem contains_of_avoids (h : r.avoids low high sparse = true) (hlow : low ≤ n) (hhigh : n ≤ high)
    (hsparse : sparse = true → (n - low) % 2 = 0) : r.contains n = false := by
  refine Bool.eq_false_iff.mpr fun hn => ?_
  obtain ⟨hrange, hstep⟩ := contains_iff.mp hn
  simp only [avoids, Nat.blt_eq, Bool.or_eq_true, Bool.and_eq_true, beq_iff_eq] at h
  rcases h with (hbefore | hafter) | ⟨⟨htwo, hsparse'⟩, hodd⟩
  · omega
  · omega
  · have heven := hsparse hsparse'
    rw [htwo] at hstep
    omega

/-- Whether every other code point at most is in the range. -/
def isSparse (r : CaseRange) : Bool := r.step == 2 || r.first == r.last

theorem even_of_isSparse (h : r.isSparse = true) (hn : r.contains n = true) :
    (n - r.first) % 2 = 0 := by
  obtain ⟨hrange, hstep⟩ := contains_iff.mp hn
  rw [isSparse, Bool.or_eq_true, beq_iff_eq, beq_iff_eq] at h
  rcases h with htwo | hsingle
  · rwa [htwo] at hstep
  · omega

end CaseRange

theorem avoids_images : (lowerRanges.all fun r =>
    lowerRanges.all (·.avoids (r.apply r.first) (r.apply r.last) r.isSparse)) = true := by
  decide +kernel

/-- The capital I with a dot is no image. -/
theorem lowerRanges_beside : ∀ r ∈ lowerRanges,
    (r.last : Int) + r.shift < 0x130 ∨ 0x130 < (r.first : Int) + r.shift := by
  decide +kernel

section Image

variable {r r' : CaseRange} {n : Nat}

theorem apply_eq (hr : r ∈ lowerRanges) (hn : r.first ≤ n) : (r.apply n : Int) = n + r.shift := by
  have habove := lowerRanges_above r hr
  rw [CaseRange.apply]
  omega

theorem contains_apply (hr : r ∈ lowerRanges) (hr' : r' ∈ lowerRanges)
    (hn : r.contains n = true) : r'.contains (r.apply n) = false := by
  have hrange := (CaseRange.contains_iff.mp hn).1
  have hfirst := apply_eq hr (Nat.le_refl r.first)
  have hlast := apply_eq hr (Nat.le_trans hrange.1 hrange.2)
  have happly := apply_eq hr hrange.1
  refine CaseRange.contains_of_avoids
    (List.all_eq_true.mp (List.all_eq_true.mp avoids_images r hr) r' hr') ?_ ?_ fun hsparse => ?_
  · omega
  · omega
  · have heven := CaseRange.even_of_isSparse hsparse hn
    omega

end Image

/-! ## Characters -/

theorem isLowered_of_not_contains {c : Char} (hascii : 0x80 ≤ c.toNat) (hdotted : c ≠ 'İ')
    (h : ∀ r ∈ lowerRanges, r.contains c.toNat = false) : IsLowered c := by
  constructor
  · rintro rfl
    have hsigma : ∃ r ∈ lowerRanges, r.contains capitalSigma.toNat = true := by decide +kernel
    obtain ⟨r, hr, hc⟩ := hsigma
    exact Bool.false_ne_true ((h r hr).symm.trans hc)
  · have hnone : lowerRanges.find? (·.contains c.toNat) = none :=
      List.find?_eq_none.mpr fun r hr => by simp [h r hr]
    rw [lowerChar, if_neg (Nat.not_lt.mpr hascii), beq_false_of_ne hdotted,
      if_neg Bool.false_ne_true, hnone]

theorem isLowered_ofNat_apply {r : CaseRange} {n : Nat} (hr : r ∈ lowerRanges)
    (hn : r.contains n = true) : IsLowered (.ofNat (r.apply n)) := by
  have habove := lowerRanges_above r hr
  have hrange := (CaseRange.contains_iff.mp hn).1
  have happly := apply_eq hr hrange.1
  rcases toNat_ofNat_or (r.apply n) with hvalue | hzero
  · by_cases hascii : r.apply n < 0x80
    · exact isLowered_of_ascii (hvalue.symm ▸ hascii) (not_isCapital_ofNat (by omega))
    · refine isLowered_of_not_contains (by omega) ?_ fun r' hr' => ?_
      · intro hdotted
        have hvalue' : r.apply n = 0x130 := by
          rw [← hvalue, hdotted]
          rfl
        have hbeside := lowerRanges_beside r hr
        omega
      · rw [hvalue]
        exact contains_apply hr hr' hn
  · rw [hzero]
    decide

theorem isLowered_of_mem_lowerChar {c d : Char} (h : d ∈ lowerChar c) : IsLowered d := by
  unfold lowerChar at h
  split at h
  next hascii =>
    obtain rfl := List.mem_singleton.mp h
    exact isLowered_of_ascii (toNat_toLower_lt hascii) (not_isCapital_toLower c)
  next hascii =>
    split at h
    next =>
      rcases List.mem_cons.mp h with rfl | h
      · decide +kernel
      · obtain rfl := List.mem_singleton.mp h
        decide +kernel
    next hdotted =>
      split at h
      next r hr =>
        obtain rfl := List.mem_singleton.mp h
        have hc := List.find?_some hr
        exact isLowered_ofNat_apply (List.mem_of_find?_eq_some hr) hc
      next hnone =>
        obtain rfl := List.mem_singleton.mp h
        refine isLowered_of_not_contains (Nat.not_lt.mp hascii) (by simpa using hdotted) ?_
        simpa using hnone

theorem isLowered_of_mem_lowerAfter {before s : List Char} :
    ∀ d ∈ lowerAfter before s, IsLowered d := by
  induction s generalizing before with
  | nil => exact List.forall_mem_nil _
  | cons c s ih =>
    rw [lowerAfter]
    refine List.forall_mem_append.mpr ⟨?_, ih⟩
    split
    next => split <;> exact List.forall_mem_singleton.mpr (by decide +kernel)
    next => exact fun d hd => isLowered_of_mem_lowerChar hd

/-! ## Texts -/

theorem lower_lower (s : String) : lower (lower s) = lower s := by
  have hchars : ∀ c ∈ (lower s).toList, IsLowered c := by
    rw [lower, String.toList_ofList]
    exact isLowered_of_mem_lowerAfter
  rw [lower, lowerChars, lowerAfter_of_isLowered hchars, String.ofList_toList]

/-! ## What lower-cased texts come of -/

theorem lowerChar_ne_nil (c : Char) : lowerChar c ≠ [] := by
  unfold lowerChar
  repeat' split
  all_goals exact List.cons_ne_nil _ _

theorem lowerAfter_eq_nil_iff {before s : List Char} : lowerAfter before s = [] ↔ s = [] := by
  cases s with
  | nil => exact iff_of_true rfl rfl
  | cons c s =>
    refine iff_of_false (List.append_ne_nil_of_left_ne_nil ?_ _) (List.cons_ne_nil c s)
    split
    next => exact List.cons_ne_nil _ _
    next => exact lowerChar_ne_nil c

theorem lower_eq_empty_iff {s : String} : lower s = "" ↔ s = "" := by
  rw [← String.toList_inj, ← String.toList_inj, lower, String.toList_ofList]
  exact lowerAfter_eq_nil_iff

theorem toNat_of_isDigit {d : Char} (h : isDigit d = true) : 0x30 ≤ d.toNat ∧ d.toNat ≤ 0x39 := by
  simpa [isDigit, Char.le_def, UInt32.le_iff_toNat_le] using h

theorem ofNat_ne_digit {d : Char} (hd : isDigit d = true) {n : Nat} (hn : 0x39 < n) :
    Char.ofNat n ≠ d := by
  rintro rfl
  have hdigit := toNat_of_isDigit hd
  rcases toNat_ofNat_or n with hvalue | hzero
  · omega
  · rw [hzero] at hdigit
    exact absurd hdigit (by decide)

theorem eq_of_lowerChar_eq {c d : Char} (hd : isDigit d = true) (h : lowerChar c = [d]) :
    c = d := by
  have hdigit := toNat_of_isDigit hd
  unfold lowerChar at h
  split at h
  next =>
    have hlow := List.singleton_inj.mp h
    by_cases hc : IsCapital c
    · have htoLower := toNat_toLower hc
      rw [hlow] at htoLower
      unfold IsCapital at hc
      omega
    · rwa [toLower_of_not_isCapital hc] at hlow
  next =>
    split at h
    next => cases h
    next =>
      split at h
      next r hr =>
        have hc := List.find?_some hr
        have habove := lowerRanges_above r (List.mem_of_find?_eq_some hr)
        have happly := apply_eq (List.mem_of_find?_eq_some hr) (CaseRange.contains_iff.mp hc).1.1
        have hfirst := (CaseRange.contains_iff.mp hc).1.1
        exact absurd (List.singleton_inj.mp h) (ofNat_ne_digit hd (by omega))
      next => exact List.singleton_inj.mp h

theorem eq_of_lowerAfter_eq {before s : List Char} {d : Char} (hd : isDigit d = true)
    (h : lowerAfter before s = [d]) : s = [d] := by
  cases s with
  | nil => cases h
  | cons c s =>
    rw [lowerAfter, List.append_eq_singleton_iff] at h
    rcases h with ⟨hnil, _⟩ | ⟨hc, hs⟩
    · split at hnil
      next => cases hnil
      next => exact absurd hnil (lowerChar_ne_nil c)
    · obtain rfl := lowerAfter_eq_nil_iff.mp hs
      split at hc
      next =>
        have hsigma : isDigit 'ς' = false ∧ isDigit 'σ' = false := by decide
        rw [← List.singleton_inj.mp hc] at hd
        split at hd
        · exact absurd (hd.symm.trans hsigma.1) (by decide)
        · exact absurd (hd.symm.trans hsigma.2) (by decide)
      next => rw [eq_of_lowerChar_eq hd hc]

theorem lower_eq_digit_iff {s : String} {d : Char} (hd : isDigit d = true) :
    lower s = .ofList [d] ↔ s = .ofList [d] := by
  rw [lower, String.ofList_inj, ← String.toList_inj, String.toList_ofList]
  constructor
  · exact eq_of_lowerAfter_eq hd
  · intro h
    have hdigit := toNat_of_isDigit hd
    rw [h]
    refine lowerAfter_of_isLowered (List.forall_mem_singleton.mpr (isLowered_of_ascii ?_ ?_))
    · omega
    · unfold IsCapital
      omega

end FederatedLogin.Text
