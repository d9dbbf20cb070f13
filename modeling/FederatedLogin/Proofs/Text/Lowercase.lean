import FederatedLogin.Proofs.Store.Effect
import FederatedLogin.Proofs.Text.Decimal
import FederatedLogin.Text.Lowercase

/-! # Lower-cased texts

A lower-cased text has no ASCII capitals left, so that to ignore their case makes no difference to
it. Where a text has a character that no sigma looks past, such as a blank, the parts around it are
lower-cased by themselves.
-/

namespace FederatedLogin.Text

/-! ## No capitals are left -/

def IsCapital (c : Char) : Prop := 0x41 ≤ c.toNat ∧ c.toNat ≤ 0x5A

instance (c : Char) : Decidable (IsCapital c) :=
  inferInstanceAs (Decidable (0x41 ≤ c.toNat ∧ c.toNat ≤ 0x5A))

theorem toLower_of_not_isCapital {c : Char} (h : ¬ IsCapital c) : c.toLower = c :=
  dif_neg h

theorem toNat_toLower {c : Char} (h : IsCapital c) : c.toLower.toNat = c.toNat + 0x20 := by
  have hlow : c.toLower.toNat = (c.val + 0x20).toNat := congrArg Char.toNat (dif_pos h)
  rw [hlow, UInt32.toNat_add]
  exact Nat.mod_eq_of_lt (Nat.lt_of_le_of_lt (Nat.add_le_add_right h.2 _) (by decide))

theorem not_isCapital_toLower (c : Char) : ¬ IsCapital c.toLower := by
  by_cases h : IsCapital c
  · have hc := toNat_toLower h
    unfold IsCapital at h ⊢
    omega
  · rwa [toLower_of_not_isCapital h]

theorem toNat_toLower_lt {c : Char} (hascii : c.toNat < 0x80) : c.toLower.toNat < 0x80 := by
  by_cases h : IsCapital c
  · have hc := toNat_toLower h
    unfold IsCapital at h
    omega
  · rwa [toLower_of_not_isCapital h]

theorem toNat_ofNat_or (n : Nat) : (Char.ofNat n).toNat = n ∨ Char.ofNat n = '\x00' := by
  by_cases h : n.isValidChar
  · rw [Char.ofNat, dif_pos h]
    exact .inl rfl
  · rw [Char.ofNat, dif_neg h]
    exact .inr rfl

theorem not_isCapital_ofNat {n : Nat} (h : 0x5A < n) : ¬ IsCapital (.ofNat n) := by
  rcases toNat_ofNat_or n with hvalue | hzero
  · unfold IsCapital
    omega
  · rw [hzero]
    decide

/-- No mapping outside ASCII leads to a capital. -/
theorem lowerRanges_above : ∀ r ∈ lowerRanges, 0x5A < (r.first : Int) + r.shift := by
  decide +kernel

theorem not_isCapital_lowerChar (c : Char) : ∀ d ∈ lowerChar c, ¬ IsCapital d := by
  unfold lowerChar
  split
  next => exact List.forall_mem_singleton.mpr (not_isCapital_toLower c)
  next hc =>
    split
    next =>
      exact List.forall_mem_cons.mpr ⟨by decide, List.forall_mem_singleton.mpr (by decide)⟩
    next =>
      split
      next r hr =>
        have habove := lowerRanges_above r (List.mem_of_find?_eq_some hr)
        have hfirst : r.first ≤ c.toNat := by
          have hr := List.find?_some hr
          simp only [CaseRange.contains, Bool.and_eq_true, decide_eq_true_eq] at hr
          exact hr.1.1
        refine List.forall_mem_singleton.mpr (not_isCapital_ofNat ?_)
        rw [CaseRange.apply]
        omega
      next =>
        refine List.forall_mem_singleton.mpr ?_
        unfold IsCapital
        omega

theorem not_isCapital_lowerAfter (before s : List Char) :
    ∀ d ∈ lowerAfter before s, ¬ IsCapital d := by
  induction s generalizing before with
  | nil => exact List.forall_mem_nil _
  | cons c s ih =>
    rw [lowerAfter]
    refine List.forall_mem_append.mpr ⟨?_, ih _⟩
    split
    next => split <;> exact List.forall_mem_singleton.mpr (by decide)
    next => exact not_isCapital_lowerChar c

theorem foldAscii_lower (s : String) : foldAscii (lower s) = (lower s).toList := by
  have h : ∀ c ∈ (lower s).toList, c.toLower = id c := by
    intro c hc
    rw [lower, String.toList_ofList] at hc
    exact toLower_of_not_isCapital (not_isCapital_lowerAfter [] s.toList c hc)
  rw [foldAscii, List.map_congr_left h, List.map_id]

/-- Of lower-cased texts those alone are the same that are equal. -/
theorem sameIgnoringCase_lower_iff {s t : String} :
    sameIgnoringCase (lower s) (lower t) = true ↔ lower s = lower t := by
  rw [sameIgnoringCase_iff, foldAscii_lower, foldAscii_lower, String.toList_inj]

/-! ## Parts of a text -/

/-- A character at which the search for the letters around a sigma ends. -/
structure IsBarrier (b : Char) : Prop where
  uncased : isCased b = false
  counted : isCaseIgnorable b = false
  ne_sigma : b ≠ capitalSigma

section Barrier

variable {b : Char} {before s t : List Char}

theorem startsCased_append (h : IsBarrier b) (s t : List Char) :
    startsCased (s ++ b :: t) = startsCased s := by
  rw [startsCased, startsCased]
  induction s with
  | nil => simp [h.counted, h.uncased]
  | cons c s ih =>
    rw [List.cons_append, List.dropWhile_cons, List.dropWhile_cons]
    split
    next => exact ih
    next => rfl

/-- What stands before a barrier has no part in what comes after. -/
theorem lowerAfter_append_before (h : IsBarrier b) (seen before s : List Char) :
    lowerAfter (seen ++ b :: before) s = lowerAfter seen s := by
  induction s generalizing seen with
  | nil => rfl
  | cons c s ih =>
    rw [lowerAfter, lowerAfter, startsCased_append h, ← List.cons_append, ih]

theorem lowerAfter_append (h : IsBarrier b) (before s t : List Char) :
    lowerAfter before (s ++ b :: t) = lowerAfter before s ++ lowerChar b ++ lowerChars t := by
  -- the sigmas of `s` look no further than the barrier, and those of `t` not back beyond it
  induction s generalizing before with
  | nil =>
    have hb : (b == capitalSigma) = false := beq_false_of_ne h.ne_sigma
    have ht : lowerAfter (b :: before) t = lowerChars t := lowerAfter_append_before h [] before t
    simp only [List.nil_append, lowerAfter, hb, Bool.false_eq_true, if_false, ht]
  | cons c s ih =>
    rw [List.cons_append, lowerAfter, lowerAfter, startsCased_append h, ih]
    simp only [List.append_assoc]

theorem lowerChars_append (h : IsBarrier b) (s t : List Char) :
    lowerChars (s ++ b :: t) = lowerChars s ++ lowerChar b ++ lowerChars t :=
  lowerAfter_append h [] s t

end Barrier

/-! ## What stays as it is -/

def IsLowered (c : Char) : Prop := c ≠ capitalSigma ∧ lowerChar c = [c]

instance (c : Char) : Decidable (IsLowered c) :=
  inferInstanceAs (Decidable (c ≠ capitalSigma ∧ lowerChar c = [c]))

theorem lowerAfter_of_isLowered {before s : List Char} (h : ∀ c ∈ s, IsLowered c) :
    lowerAfter before s = s := by
  induction s generalizing before with
  | nil => rfl
  | cons c s ih =>
    obtain ⟨⟨hne, hc⟩, hs⟩ := List.forall_mem_cons.mp h
    rw [lowerAfter, beq_false_of_ne hne, if_neg Bool.false_ne_true, hc, ih hs]
    rfl

theorem isLowered_of_ascii {c : Char} (hascii : c.toNat < 0x80) (hcapital : ¬ IsCapital c) :
    IsLowered c := by
  constructor
  · rintro rfl
    exact absurd hascii (by decide)
  · rw [lowerChar, if_pos hascii, toLower_of_not_isCapital hcapital]

theorem lowerAfter_eq_self {before s : List Char} (h : ∀ c ∈ s, c.toNat < 0x80 ∧ ¬ IsCapital c) :
    lowerAfter before s = s :=
  lowerAfter_of_isLowered fun c hc => isLowered_of_ascii (h c hc).1 (h c hc).2

theorem ascii_of_isLowerAlphanumeric {c : Char} (h : isLowerAlphanumeric c = true) :
    c.toNat < 0x80 ∧ ¬ IsCapital c := by
  simp only [isLowerAlphanumeric, isLowerLetter, isDigit, Bool.or_eq_true, Bool.and_eq_true,
    decide_eq_true_eq, Char.le_def, UInt32.le_iff_toNat_le] at h
  unfold IsCapital
  change (0x61 ≤ c.toNat ∧ c.toNat ≤ 0x7A) ∨ (0x30 ≤ c.toNat ∧ c.toNat ≤ 0x39) at h
  omega

def blankCodes : List Nat := blankRanges.flatMap fun r => List.range' r.1 (r.2 + 1 - r.1)

theorem mem_blankCodes {c : Char} (h : isBlank c = true) : c.toNat ∈ blankCodes := by
  rw [isBlank, inRanges, List.any_eq_true] at h
  obtain ⟨r, hr, hc⟩ := h
  simp only [Bool.and_eq_true, decide_eq_true_eq] at hc
  refine List.mem_flatMap.mpr ⟨r, hr, List.mem_range'_1.mpr ?_⟩
  omega

theorem forall_mem_blankCodes : ∀ n ∈ blankCodes, isCased (.ofNat n) = false ∧
    isCaseIgnorable (.ofNat n) = false ∧ Char.ofNat n ≠ capitalSigma ∧
    lowerChar (.ofNat n) = [.ofNat n] := by
  decide +kernel

theorem not_isBlank_of_isLowerAlphanumeric {c : Char} (h : isLowerAlphanumeric c = true) :
    isBlank c = false := by
  refine Bool.eq_false_iff.mpr fun hblank => ?_
  have hnone : ∀ n ∈ blankCodes, isLowerAlphanumeric (.ofNat n) = false := by decide +kernel
  have hc := hnone _ (mem_blankCodes hblank)
  rw [Char.ofNat_toNat, h] at hc
  cases hc

theorem isBarrier_of_isBlank {c : Char} (h : isBlank c = true) :
    IsBarrier c ∧ lowerChar c = [c] := by
  have hc := forall_mem_blankCodes c.toNat (mem_blankCodes h)
  rw [Char.ofNat_toNat] at hc
  obtain ⟨hcased, hcounted, hne, hlower⟩ := hc
  exact ⟨⟨hcased, hcounted, hne⟩, hlower⟩

theorem lowerChars_append_blank {c : Char} (h : isBlank c = true) (s t : List Char) :
    lowerChars (s ++ c :: t) = lowerChars s ++ c :: lowerChars t := by
  obtain ⟨hbarrier, hc⟩ := isBarrier_of_isBlank h
  rw [lowerChars_append hbarrier, hc, List.append_assoc, List.singleton_append]

end FederatedLogin.Text
