import FederatedLogin.Proofs.Text.Lowercase

/-! # Search in lower-cased texts

A word is searched for in a text that has been lower-cased. Lower-casing is more than a change of
ASCII letters: it can depend on the letters around, make two characters of one, and make ASCII
letters of others. For words without the letter k that do not end in i, the search finds what a
search in the original text finds that ignores the case of ASCII letters alone.
-/

namespace FederatedLogin.Text

/-- Some part of a text is the same as another, up to the case of ASCII letters. -/
def HasPart (s part : String) : Prop :=
  ∃ early m late, s = early ++ m ++ late ∧ sameIgnoringCase m part = true

/-! ## Plain words -/

/-- The blank and the letters but for the k, to which the Kelvin sign is lower-cased. -/
def isPlain (c : Char) : Bool := c == ' ' || (isLowerLetter c && c != 'k')

/-- A word of plain characters. It does not end in i, since the capital I with a dot is lower-cased
to that letter and a dot after it. -/
def IsKeyword (k : List Char) : Prop := k.all isPlain = true ∧ k.getLast? ≠ some 'i'

instance (k : List Char) : Decidable (IsKeyword k) :=
  inferInstanceAs (Decidable (k.all isPlain = true ∧ k.getLast? ≠ some 'i'))

theorem ascii_of_isPlain {c : Char} (h : isPlain c = true) : c.toNat < 0x80 ∧ ¬ IsCapital c := by
  rw [isPlain, Bool.or_eq_true, Bool.and_eq_true, beq_iff_eq] at h
  rcases h with rfl | ⟨h, _⟩
  · decide
  · exact ascii_of_isLowerAlphanumeric (by rw [isLowerAlphanumeric, h, Bool.true_or])

theorem isPlain_eq_false {c : Char} (h : 0x80 ≤ c.toNat) : isPlain c = false := by
  refine Bool.eq_false_iff.mpr fun hplain => ?_
  have hascii := (ascii_of_isPlain hplain).1
  omega

theorem IsKeyword.isPlain_of_mem {c : Char} {k : List Char} (h : IsKeyword k) (hc : c ∈ k) :
    isPlain c = true :=
  List.all_eq_true.mp h.1 c hc

theorem IsKeyword.tail {a : Char} {k : List Char} (h : IsKeyword (a :: k)) : IsKeyword k := by
  obtain ⟨hplain, hlast⟩ := h
  rw [List.all_cons, Bool.and_eq_true] at hplain
  refine ⟨hplain.2, ?_⟩
  cases k with
  | nil => simp
  | cons b k => rwa [List.getLast?_cons_cons] at hlast

/-! ## What is made of a character -/

theorem isPlain_ofNat_eq_false {n : Nat} (h : 0x80 ≤ n ∨ n = 0x6B) :
    isPlain (.ofNat n) = false := by
  rcases h with h | rfl
  · rcases toNat_ofNat_or n with hvalue | hzero
    · exact isPlain_eq_false (hvalue.symm ▸ h)
    · rw [hzero]
      decide
  · decide

/-- The Kelvin sign alone is mapped to one ASCII character from outside. -/
theorem lowerRanges_plain : ∀ r ∈ lowerRanges, 0x80 ≤ (r.first : Int) + r.shift ∨
    r.first = r.last ∧ (r.first : Int) + r.shift = 0x6B := by
  decide +kernel

theorem exists_lowerChar_eq {c : Char} (h : 0x80 ≤ c.toNat) (hc : c ≠ 'İ') :
    ∃ d, lowerChar c = [d] ∧ isPlain d = false := by
  rw [lowerChar, if_neg (Nat.not_lt.mpr h), beq_false_of_ne hc, if_neg Bool.false_ne_true]
  split
  next r hr =>
    refine ⟨_, rfl, isPlain_ofNat_eq_false ?_⟩
    have hmem := lowerRanges_plain r (List.mem_of_find?_eq_some hr)
    have hrange := List.find?_some hr
    simp only [CaseRange.contains, Bool.and_eq_true, decide_eq_true_eq] at hrange
    rw [CaseRange.apply]
    omega
  next => exact ⟨c, rfl, isPlain_eq_false h⟩

/-- An ASCII character is put in lower case. From any other comes no plain character, but from the
capital I with a dot. -/
theorem lowerAfter_cons_cases (before : List Char) (c : Char) (s : List Char) :
    (c.toNat < 0x80 ∧ lowerAfter before (c :: s) = c.toLower :: lowerAfter (c :: before) s) ∨
    0x80 ≤ c.toNat ∧
      (lowerAfter before (c :: s) = 'i' :: '\u0307' :: lowerAfter (c :: before) s ∨
      ∃ d, isPlain d = false ∧ lowerAfter before (c :: s) = d :: lowerAfter (c :: before) s) := by
  by_cases hsigma : c = capitalSigma
  · subst hsigma
    refine .inr ⟨by decide, .inr ⟨_, ?_, rfl⟩⟩
    split <;> decide
  · rw [lowerAfter, beq_false_of_ne hsigma, if_neg Bool.false_ne_true]
    by_cases hascii : c.toNat < 0x80
    · refine .inl ⟨hascii, ?_⟩
      rw [lowerChar, if_pos hascii, List.singleton_append]
    · have h := Nat.not_lt.mp hascii
      refine .inr ⟨h, ?_⟩
      by_cases hc : c = 'İ'
      · subst hc
        exact .inl rfl
      · obtain ⟨d, hd, hplain⟩ := exists_lowerChar_eq h hc
        exact .inr ⟨d, hplain, by rw [hd, List.singleton_append]⟩

/-! ## Search -/

section Search

variable {k before s : List Char}

theorem IsKeyword.eq_nil_of_prefix {d : Char} (h : IsKeyword k) (hd : isPlain d = false)
    (hk : k <+: d :: s) : k = [] := by
  cases k with
  | nil => rfl
  | cons a k =>
    obtain ⟨rfl, _⟩ := List.cons_prefix_cons.mp hk
    cases hd.symm.trans (h.isPlain_of_mem List.mem_cons_self)

theorem IsKeyword.prefix_lowerAfter_iff (h : IsKeyword k) :
    k <+: lowerAfter before s ↔ k <+: s.map Char.toLower := by
  induction s generalizing k before with
  | nil => rfl
  | cons c s ih =>
    cases k with
    | nil => exact iff_of_true List.nil_prefix List.nil_prefix
    | cons a k =>
      have hout (d : Char) (t : List Char) (hd : isPlain d = false) : ¬ a :: k <+: d :: t :=
        fun hk => List.cons_ne_nil a k (h.eq_nil_of_prefix hd hk)
      rw [List.map_cons]
      rcases lowerAfter_cons_cases before c s with ⟨_, he⟩ | ⟨hc, he⟩
      · rw [he, List.cons_prefix_cons, List.cons_prefix_cons, ih h.tail]
      · have hright : ¬ a :: k <+: c.toLower :: s.map Char.toLower := by
          refine hout _ _ (isPlain_eq_false ?_)
          rw [toLower_of_not_isCapital fun hcapital => ?_]
          · exact hc
          · unfold IsCapital at hcapital
            omega
        refine iff_of_false ?_ hright
        rcases he with he | ⟨d, hd, he⟩
        · rw [he, List.cons_prefix_cons]
          rintro ⟨rfl, hk⟩
          -- what comes after the i of a keyword is not a combining dot
          obtain rfl := h.tail.eq_nil_of_prefix (by decide) hk
          exact h.2 rfl
        · rw [he]
          exact hout d _ hd

theorem IsKeyword.infix_lowerAfter_iff (h : IsKeyword k) :
    k <:+: lowerAfter before s ↔ k <:+: s.map Char.toLower := by
  induction s generalizing before with
  | nil => rfl
  | cons c s ih =>
    have hhead : k <+: lowerAfter before (c :: s) ↔ k <+: (c :: s).map Char.toLower :=
      h.prefix_lowerAfter_iff
    have hlater : k <:+: lowerAfter (c :: before) s ↔ k <:+: s.map Char.toLower := ih
    rw [List.map_cons, List.infix_cons_iff, ← List.map_cons, ← hhead, ← hlater]
    rcases lowerAfter_cons_cases before c s with ⟨_, he⟩ | ⟨_, he | ⟨d, _, he⟩⟩
    · rw [he, List.infix_cons_iff]
    · rw [he, List.infix_cons_iff, List.infix_cons_iff]
      refine or_congr_right ⟨?_, .inr⟩
      rintro (hk | hk)
      · obtain rfl := h.eq_nil_of_prefix (by decide) hk
        exact List.nil_infix
      · exact hk
    · rw [he, List.infix_cons_iff]

theorem occursIn_iff {α : Type} [BEq α] [LawfulBEq α] {part s : List α} :
    occursIn part s = true ↔ part <:+: s := by
  induction s with
  | nil => rw [occursIn, List.isEmpty_iff, List.infix_nil]
  | cons c s ih =>
    rw [occursIn, Bool.or_eq_true, List.isPrefixOf_iff_prefix, ih, List.infix_cons_iff]

end Search

theorem hasPart_iff {s part : String} :
    HasPart s part ↔ foldAscii part <:+: s.toList.map Char.toLower := by
  rw [List.infix_map_iff]
  constructor
  · rintro ⟨early, m, late, rfl, hm⟩
    refine ⟨m.toList, ?_, (sameIgnoringCase_iff.mp hm).symm⟩
    exact ⟨early.toList, late.toList, by simp only [String.toList_append]⟩
  · rintro ⟨m, ⟨early, late, hs⟩, hm⟩
    refine ⟨.ofList early, .ofList m, .ofList late, ?_, ?_⟩
    · rw [← String.ofList_append, ← String.ofList_append, hs, String.ofList_toList]
    · rw [sameIgnoringCase_iff, hm, foldAscii, String.toList_ofList]

/-- A keyword is found in a lower-cased text if and only if it is a part of the text, up to the case
of ASCII letters. -/
theorem contains_lower_iff {s k : String} (h : IsKeyword k.toList) :
    contains (lower s) k = true ↔ HasPart s k := by
  have hfold : foldAscii k = k.toList := by
    rw [foldAscii, List.map_congr_left fun c hc =>
      toLower_of_not_isCapital (ascii_of_isPlain (h.isPlain_of_mem hc)).2, List.map_id']
  rw [contains, occursIn_iff, lower, String.toList_ofList, lowerChars, h.infix_lowerAfter_iff,
    hasPart_iff, hfold]

end FederatedLogin.Text
