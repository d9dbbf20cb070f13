import FederatedLogin.Proofs.Text.Decimal
import FederatedLogin.Proofs.Text.Lowercase
import FederatedLogin.Proofs.Username

/-! # The form of usernames

What cleaning a login comes to: a name of a fixed form that is not reserved. The names of this form
are those that cleaning leaves as they are, and generated names are among them. As a text holds
ASCII characters alone when it is cut, it makes no difference that the cut counts bytes.
-/

namespace FederatedLogin.Username

/-- The characters of usernames: lower-case ASCII letters, digits and `.`, `_`, `-`. -/
def IsNameChar (c : Char) : Prop :=
  Text.isLowerAlphanumeric c = true ∨ c = '.' ∨ c = '_' ∨ c = '-'

structure IsProper (name : String) : Prop where
  length : 1 ≤ name.length ∧ name.length ≤ 64
  chars : ∀ c ∈ name.toList, IsNameChar c
  first : ∃ c, name.toList.head? = some c ∧ Text.isLowerLetter c = true
  last : ∃ c, name.toList.getLast? = some c ∧ Text.isLowerAlphanumeric c = true
  unreserved : isReserved name = false

/-- What is left of a login before it is cut: its masked characters without the punctuation at the
ends. -/
def core (raw : String) : List Char :=
  Text.stripWhile isPunctuation ((Text.lower (Text.trim raw)).toList.map mask)

/-- A name without what exceeds the greatest length, and without punctuation at its end. -/
def cut (s : List Char) : List Char := Text.dropEndWhile isPunctuation (s.take maxLength)

theorem clean_eq (raw : String) : clean raw =
    if core raw = [] ∨ isReserved (.ofList (cut (startWithLetter (core raw)))) = true then none
    else some (.ofList (cut (startWithLetter (core raw)))) := by
  unfold clean core
  generalize Text.stripWhile isPunctuation ((Text.lower (Text.trim raw)).toList.map mask) = s
  cases s with
  | nil => simp
  | cons c s => simp [cut]

theorem clean_eq_some_iff {raw name : String} : clean raw = some name ↔
    core raw ≠ [] ∧ isReserved name = false ∧
      name = .ofList (cut (startWithLetter (core raw))) := by
  rw [clean_eq]
  split
  next h =>
    simp only [reduceCtorEq, false_iff]
    rintro ⟨hne, hfree, rfl⟩
    rcases h with h | h
    · exact hne h
    · exact Bool.false_ne_true (hfree.symm.trans h)
  next h =>
    obtain ⟨hne, hfree⟩ := not_or.mp h
    rw [Option.some.injEq]
    constructor
    · rintro rfl
      exact ⟨hne, Bool.eq_false_iff.mpr hfree, rfl⟩
    · rintro ⟨_, _, rfl⟩
      rfl

/-! ## Characters -/

section Chars

variable {c : Char} {s : List Char} {raw name : String}

theorem isPunctuation_iff : isPunctuation c = true ↔ c = '.' ∨ c = '_' ∨ c = '-' := by
  simp [isPunctuation, or_assoc]

theorem isPunctuation_of_isLowerAlphanumeric (h : Text.isLowerAlphanumeric c = true) :
    isPunctuation c = false := by
  refine Bool.eq_false_iff.mpr fun hp => ?_
  rcases isPunctuation_iff.mp hp with rfl | rfl | rfl <;> exact absurd h (by decide)

theorem isNameChar_iff :
    IsNameChar c ↔ Text.isLowerAlphanumeric c = true ∨ isPunctuation c = true := by
  rw [IsNameChar, isPunctuation_iff]

theorem isNameChar_of_isLowerLetter (h : Text.isLowerLetter c = true) : IsNameChar c :=
  .inl (by rw [Text.isLowerAlphanumeric, h, Bool.true_or])

theorem IsNameChar.ascii (h : IsNameChar c) : c.toNat < 0x80 ∧ ¬ Text.IsCapital c := by
  rcases h with h | rfl | rfl | rfl
  · exact Text.ascii_of_isLowerAlphanumeric h
  all_goals decide

theorem IsNameChar.mask_eq (h : IsNameChar c) : mask c = c := by
  refine if_pos ?_
  rcases isNameChar_iff.mp h with h | h
  · rw [Text.isAsciiAlphanumeric, h]
    rfl
  · rw [h, Bool.or_true]

/-- Of what has been lower-cased, no capital passes the mask. -/
theorem isNameChar_mask (h : ¬ Text.IsCapital c) : IsNameChar (mask c) := by
  have hcapital : (decide ('A' ≤ c) && decide (c ≤ 'Z')) = false := by
    refine Bool.eq_false_iff.mpr fun hc => h ?_
    simpa [Char.le_def, UInt32.le_iff_toNat_le, Text.IsCapital] using hc
  unfold mask
  split
  next hc =>
    rw [Text.isAsciiAlphanumeric, hcapital, Bool.or_false, Bool.or_eq_true] at hc
    exact isNameChar_iff.mpr hc
  next => exact .inr (.inr (.inr rfl))

theorem isNameChar_of_mem_core : ∀ c ∈ core raw, IsNameChar c := by
  intro c hc
  obtain ⟨d, hd, rfl⟩ := List.mem_map.mp (Text.stripWhile_subset _ _ hc)
  rw [Text.lower, String.toList_ofList] at hd
  exact isNameChar_mask (Text.not_isCapital_lowerAfter _ _ d hd)

theorem isNameChar_startWithLetter (h : ∀ c ∈ s, IsNameChar c) :
    ∀ c ∈ startWithLetter s, IsNameChar c := by
  have hu : IsNameChar 'u' := isNameChar_of_isLowerLetter rfl
  cases s with
  | nil => exact List.forall_mem_singleton.mpr hu
  | cons c s =>
    rw [startWithLetter]
    split
    next => exact h
    next => exact List.forall_mem_cons.mpr ⟨hu, h⟩

/-! ## Cutting -/

theorem utf8ByteSize_eq_length (h : ∀ c ∈ s, IsNameChar c) :
    (String.ofList s).utf8ByteSize = s.length := by
  induction s with
  | nil => rfl
  | cons c s ih =>
    obtain ⟨hc, hs⟩ := List.forall_mem_cons.mp h
    have hone : c.utf8Size = 1 := by
      have hascii := hc.ascii.1
      rw [Char.utf8Size_eq_one_iff, UInt32.le_iff_toNat_le]
      exact Nat.le_of_lt_succ hascii
    rw [String.ofList_cons, String.utf8ByteSize_append, String.utf8ByteSize_singleton, hone, ih hs,
      List.length_cons, Nat.add_comm]

theorem take_bytes (h : ∀ c ∈ s, IsNameChar c) (n : Nat) :
    String.ofList s = String.ofList (s.take n) ++ String.ofList (s.drop n) ∧
      (String.ofList (s.take n)).utf8ByteSize = min n (String.ofList s).utf8ByteSize := by
  rw [← String.ofList_append, List.take_append_drop, utf8ByteSize_eq_length h,
    utf8ByteSize_eq_length fun c hc => h c (List.mem_of_mem_take hc), List.length_take]
  exact ⟨rfl, rfl⟩

/-- A login is cleaned by cutting it after 64 bytes. -/
theorem clean_eq_of_bytes (raw : String) : ∃ kept rest,
    String.ofList (startWithLetter (core raw)) = kept ++ rest ∧
      kept.utf8ByteSize = min 64 (String.ofList (startWithLetter (core raw))).utf8ByteSize ∧
      clean raw =
        if core raw = [] ∨
          isReserved (.ofList (Text.dropEndWhile isPunctuation kept.toList)) = true then none
        else some (.ofList (Text.dropEndWhile isPunctuation kept.toList)) := by
  have hchars : ∀ c ∈ startWithLetter (core raw), IsNameChar c :=
    isNameChar_startWithLetter isNameChar_of_mem_core
  obtain ⟨happend, hsize⟩ := take_bytes hchars 64
  refine ⟨_, _, happend, hsize, ?_⟩
  rw [clean_eq, String.toList_ofList]
  rfl

theorem cut_isPrefix (s : List Char) : cut s <+: s := by
  have htake := List.take_prefix maxLength s
  exact (Text.dropEndWhile_isPrefix _ _).trans htake

theorem isProper_cut (h : ∀ c ∈ s, IsNameChar c)
    (hfree : isReserved (.ofList (cut (startWithLetter s))) = false) :
    IsProper (.ofList (cut (startWithLetter s))) := by
  have hchars : ∀ c ∈ cut (startWithLetter s), IsNameChar c := fun c hc =>
    isNameChar_startWithLetter h c ((cut_isPrefix _).subset hc)
  have hne : cut (startWithLetter s) ≠ [] := cut_ne_nil s
  refine ⟨?_, ?_, ?_, ?_, hfree⟩
  · rw [String.length_ofList]
    refine ⟨List.length_pos_iff.mpr hne, ?_⟩
    exact (Text.dropEndWhile_isPrefix _ _).length_le.trans (List.length_take_le _ _)
  · rwa [String.toList_ofList]
  · obtain ⟨c, rest, hs, hc⟩ := startWithLetter_eq_cons s
    refine ⟨c, ?_, hc⟩
    rw [String.toList_ofList, Text.head?_of_isPrefix (cut_isPrefix _) hne, hs, List.head?_cons]
  · have hlast := List.getLast?_eq_some_getLast hne
    refine ⟨_, by rw [String.toList_ofList, hlast], ?_⟩
    refine (isNameChar_iff.mp (hchars _ (List.getLast_mem hne))).resolve_right ?_
    rw [Text.not_of_getLast?_dropEndWhile hlast]
    exact Bool.false_ne_true

theorem lower_eq_self (h : ∀ c ∈ name.toList, IsNameChar c) : Text.lower name = name := by
  rw [Text.lower, Text.lowerChars, Text.lowerAfter_eq_self fun c hc => (h c hc).ascii,
    String.ofList_toList]

theorem IsProper.core_eq (h : IsProper name) : core name = name.toList := by
  obtain ⟨first, hfirst, hletter⟩ := h.first
  obtain ⟨last, hlast, halnum⟩ := h.last
  have hfirst' : ∀ c, name.toList.head? = some c → Text.isLowerLetter c = true := by
    intro c hc
    rw [← Option.some.inj (hfirst.symm.trans hc)]
    exact hletter
  have hlast' : ∀ c, name.toList.getLast? = some c → Text.isLowerAlphanumeric c = true := by
    intro c hc
    rw [← Option.some.inj (hlast.symm.trans hc)]
    exact halnum
  have htrim : Text.trim name = name := by
    rw [Text.trim, Text.stripWhile_eq_self, String.ofList_toList]
    · intro c hc
      refine Text.not_isBlank_of_isLowerAlphanumeric ?_
      rw [Text.isLowerAlphanumeric, hfirst' c hc, Bool.true_or]
    · exact fun c hc => Text.not_isBlank_of_isLowerAlphanumeric (hlast' c hc)
  have hmask : name.toList.map mask = name.toList := by
    rw [List.map_congr_left fun c hc => (h.chars c hc).mask_eq, List.map_id']
  rw [core, htrim, lower_eq_self h.chars, hmask]
  refine Text.stripWhile_eq_self (fun c hc => ?_) fun c hc => ?_
  · exact isPunctuation_of_isLowerLetter (hfirst' c hc)
  · exact isPunctuation_of_isLowerAlphanumeric (hlast' c hc)

theorem IsProper.clean_eq_self (h : IsProper name) : clean name = some name := by
  obtain ⟨first, hfirst, hletter⟩ := h.first
  obtain ⟨last, hlast, halnum⟩ := h.last
  have hne : name.toList ≠ [] := by
    intro hnil
    rw [hnil] at hfirst
    cases hfirst
  have hstart : startWithLetter name.toList = name.toList := by
    obtain ⟨rest, hrest⟩ := List.head?_eq_some_iff.mp hfirst
    rw [hrest, startWithLetter, if_pos hletter]
  have htake : name.toList.take maxLength = name.toList := by
    rw [List.take_of_length_le]
    rw [String.length_toList]
    exact h.length.2
  have hcut : cut name.toList = name.toList := by
    rw [cut, htake]
    refine Text.dropEndWhile_eq_self fun c hc => ?_
    rw [← Option.some.inj (hlast.symm.trans hc)]
    exact isPunctuation_of_isLowerAlphanumeric halnum
  refine clean_eq_some_iff.mpr ⟨?_, h.unreserved, ?_⟩
  · rwa [h.core_eq]
  · rw [h.core_eq, hstart, hcut, String.ofList_toList]

theorem isProper_of_clean (h : clean raw = some name) : IsProper name := by
  obtain ⟨_, hfree, rfl⟩ := clean_eq_some_iff.mp h
  exact isProper_cut isNameChar_of_mem_core hfree

/-! ## Other names -/

theorem isProper_generated (serial : Nat) : IsProper (generated serial) := by
  have hdigits : ∀ c ∈ Text.hexDigits 11 serial, Text.isLowerAlphanumeric c = true :=
    Text.forall_mem_hexDigits (by decide) 11 serial
  have hchars : ∀ c ∈ (generated serial).toList, IsNameChar c := by
    rw [generated, String.toList_ofList]
    exact List.forall_mem_cons.mpr ⟨.inl rfl, fun c hc => .inl (hdigits c hc)⟩
  refine ⟨?_, hchars, ⟨'u', ?_, rfl⟩, ?_, ?_⟩
  · rw [generated, String.length_ofList, List.length_cons, Text.length_hexDigits]
    decide
  · rw [generated, String.toList_ofList, List.head?_cons]
  · refine ⟨Text.hexDigit (serial % 16), ?_, ?_⟩
    · rw [generated, String.toList_ofList, Text.hexDigits, ← List.cons_append,
        List.getLast?_concat]
    · refine hdigits _ ?_
      rw [Text.hexDigits]
      exact List.mem_append_right _ List.mem_cons_self
  · -- no reserved name starts with the letter of generated ones
    refine Bool.eq_false_iff.mpr fun hreserved => ?_
    rw [isReserved, lower_eq_self hchars, List.contains_iff_mem] at hreserved
    have hnone : ∀ name ∈ reserved, name.toList.head? ≠ some 'u' := by decide
    refine hnone _ hreserved ?_
    rw [generated, String.toList_ofList, List.head?_cons]

end Chars

end FederatedLogin.Username
