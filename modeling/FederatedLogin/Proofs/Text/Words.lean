import FederatedLogin.Proofs.Text.Strip

/-! # Words of a text

The words of a text are what is not empty of its pieces between blanks. Blanks at its ends and
further blanks between the words leave them as they are, and words joined by single blanks are found
again.
-/

namespace FederatedLogin.Text

section Runs

variable {α : Type} {p : α → Bool} {a : α} {s t run : List α}

theorem runsBetween_eq (p : α → Bool) (s : List α) :
    runsBetween p s = (s.splitOnP p).filter (!·.isEmpty) := by
  induction s with
  | nil => rfl
  | cons a s ih =>
    rw [List.splitOnP_cons_eq_if_modifyHead]
    by_cases ha : p a = true
    · simpa [runsBetween, ha] using ih
    cases s with
    | nil => simp [runsBetween, ha]
    | cons b s =>
      -- the next element either ends the run of the first or has begun the run it joins
      obtain ⟨piece, pieces, hpieces⟩ := List.exists_cons_of_ne_nil (List.splitOnP_ne_nil p s)
      rw [List.splitOnP_cons_eq_if_modifyHead, hpieces] at ih ⊢
      by_cases hb : p b = true
      · rw [if_pos hb] at ih ⊢
        have hruns : runsBetween p (a :: b :: s) = [a] :: runsBetween p (b :: s) := by
          rw [runsBetween.eq_def p (a :: b :: s)]
          cases h : runsBetween p (b :: s) <;> simp [ha, hb, h]
        simp [hruns, ih, ha]
      · rw [if_neg hb] at ih ⊢
        have hruns : runsBetween p (b :: s) =
            (b :: piece) :: pieces.filter (!·.isEmpty) := by simpa using ih
        simp [runsBetween.eq_def p (a :: b :: s), hruns, ha, hb]

theorem runsBetween_append (ha : p a = true) (s t : List α) :
    runsBetween p (s ++ a :: t) = runsBetween p s ++ runsBetween p t := by
  rw [runsBetween_eq, List.splitOnP_append_cons s t ha, List.filter_append, ← runsBetween_eq,
    ← runsBetween_eq]

theorem runsBetween_eq_nil_iff : runsBetween p s = [] ↔ ∀ a ∈ s, p a = true := by
  induction s with
  | nil => simp [runsBetween]
  | cons a s ih =>
    by_cases ha : p a = true
    · simp [runsBetween, ha, ih]
    · refine iff_of_false ?_ fun h => ha (h a List.mem_cons_self)
      rw [runsBetween.eq_def]
      dsimp only
      rw [if_neg ha]
      repeat' split
      all_goals exact List.cons_ne_nil _ _

theorem of_mem_splitOnP (h : run ∈ s.splitOnP p) : ∀ a ∈ run, p a = false := by
  induction s generalizing run with
  | nil =>
    obtain rfl := List.mem_singleton.mp h
    exact List.forall_mem_nil _
  | cons a s ih =>
    rw [List.splitOnP_cons_eq_if_modifyHead] at h
    split at h
    next =>
      rcases List.mem_cons.mp h with rfl | h
      · exact List.forall_mem_nil _
      · exact ih h
    next ha =>
      obtain ⟨piece, pieces, hpieces⟩ := List.exists_cons_of_ne_nil (List.splitOnP_ne_nil p s)
      rw [hpieces] at h ih
      rcases List.mem_cons.mp h with rfl | h
      · exact List.forall_mem_cons.mpr ⟨by simpa using ha, ih List.mem_cons_self⟩
      · exact ih (List.mem_cons_of_mem _ h)

theorem of_mem_runsBetween (h : run ∈ runsBetween p s) : run ≠ [] ∧ ∀ a ∈ run, p a = false := by
  rw [runsBetween_eq, List.mem_filter] at h
  exact ⟨by simpa using h.2, of_mem_splitOnP h.1⟩

theorem runsBetween_of_forall_not (hne : s ≠ []) (h : ∀ a ∈ s, p a = false) :
    runsBetween p s = [s] := by
  rw [runsBetween_eq, List.splitOnP_eq_singleton h]
  simpa using hne

theorem runsBetween_stripWhile (s : List α) :
    runsBetween p (stripWhile p s) = runsBetween p s :=
  map_stripWhile rfl (fun s _ t ha => runsBetween_append ha s t) s

theorem runsBetween_intercalate (ha : p a = true) {runs : List (List α)}
    (h : ∀ run ∈ runs, run ≠ [] ∧ ∀ b ∈ run, p b = false) :
    runsBetween p ([a].intercalate runs) = runs := by
  induction runs with
  | nil => rfl
  | cons run runs ih =>
    obtain ⟨⟨hne, hrun⟩, hruns⟩ := List.forall_mem_cons.mp h
    have hfirst := runsBetween_of_forall_not hne hrun
    cases runs with
    | nil => simpa using hfirst
    | cons next runs =>
      rw [List.intercalate_cons_cons, List.append_assoc, List.singleton_append,
        runsBetween_append ha, hfirst, ih hruns]
      rfl

/-- What has no parting element at its ends, and one run or none, is that run. -/
theorem eq_of_runsBetween_eq_singleton (hfirst : ∀ a, s.head? = some a → p a = false)
    (hlast : ∀ a, s.getLast? = some a → p a = false) (h : runsBetween p s = [run]) : s = run := by
  by_cases hparted : ∃ a ∈ s, p a = true
  · -- there would be runs on either side of an element that parts the list
    obtain ⟨a, has, ha⟩ := hparted
    obtain ⟨l, r, rfl⟩ := List.append_of_mem has
    have hl : runsBetween p l ≠ [] := by
      intro hnil
      cases l with
      | nil => exact absurd ha (by simp [hfirst a rfl])
      | cons b l =>
        have hb := runsBetween_eq_nil_iff.mp hnil b List.mem_cons_self
        exact absurd hb (by simp [hfirst b rfl])
    have hr : runsBetween p r ≠ [] := by
      intro hnil
      have hblank : ∀ b ∈ a :: r, p b = true :=
        List.forall_mem_cons.mpr ⟨ha, runsBetween_eq_nil_iff.mp hnil⟩
      have hend : (l ++ a :: r).getLast? = some ((a :: r).getLast (List.cons_ne_nil a r)) := by
        rw [List.getLast?_append_of_ne_nil _ (List.cons_ne_nil a r), List.getLast?_eq_some_getLast]
      have hmem := List.getLast_mem (List.cons_ne_nil a r)
      exact absurd (hblank _ hmem) (by simp [hlast _ hend])
    rw [runsBetween_append ha] at h
    have hlength := congrArg List.length h
    have hl' := List.length_pos_iff.mpr hl
    have hr' := List.length_pos_iff.mpr hr
    simp only [List.length_append, List.length_singleton] at hlength
    omega
  · have hall : ∀ a ∈ s, p a = false := by simpa using hparted
    have hne : s ≠ [] := by
      rintro rfl
      cases h
    rw [runsBetween_of_forall_not hne hall] at h
    exact List.singleton_inj.mp h

end Runs

/-! ## Words -/

section Words

variable {s t w : String} {ws : List String}

theorem words_eq (s : String) :
    words s = ((s.toList.splitOnP isBlank).filter (!·.isEmpty)).map .ofList := by
  rw [words, runsBetween_eq]

theorem words_trim (s : String) : words (trim s) = words s := by
  rw [words, words, trim, String.toList_ofList, runsBetween_stripWhile]

structure IsWord (w : String) : Prop where
  ne_empty : w ≠ ""
  not_blank : ∀ c ∈ w.toList, isBlank c = false

instance (w : String) : Decidable (IsWord w) :=
  decidable_of_iff (w ≠ "" ∧ w.toList.any isBlank = false)
    ⟨fun h => ⟨h.1, by simpa using h.2⟩, fun h => ⟨h.1, by simpa using h.not_blank⟩⟩

theorem isWord_of_mem_words (h : w ∈ words s) : IsWord w := by
  obtain ⟨run, hrun, rfl⟩ := List.mem_map.mp h
  obtain ⟨hne, hnot⟩ := of_mem_runsBetween hrun
  constructor
  · rwa [Ne, ← String.toList_inj, String.toList_ofList]
  · rwa [String.toList_ofList]

theorem IsWord.isTrimmed (h : IsWord w) : IsTrimmed w := by
  rintro c (hc | hc)
  · exact h.not_blank c (List.mem_of_mem_head? hc)
  · exact h.not_blank c (List.mem_of_mem_getLast? hc)

theorem IsWord.words_eq (h : IsWord w) : words w = [w] := by
  rw [words, runsBetween_of_forall_not (mt String.toList_eq_nil_iff.mp h.ne_empty) h.not_blank,
    List.map_singleton, String.ofList_toList]

theorem words_intercalate (h : ∀ w ∈ ws, IsWord w) : words (" ".intercalate ws) = ws := by
  have hruns : ∀ run ∈ ws.map String.toList, run ≠ [] ∧ ∀ c ∈ run, isBlank c = false := by
    intro run hrun
    obtain ⟨w, hw, rfl⟩ := List.mem_map.mp hrun
    exact ⟨mt String.toList_eq_nil_iff.mp (h w hw).ne_empty, (h w hw).not_blank⟩
  have hjoined := runsBetween_intercalate (a := ' ') (by decide) hruns
  rw [words, String.toList_intercalate]
  simpa using congrArg (List.map String.ofList) hjoined

theorem IsTrimmed.append {a b : String} (ha : IsTrimmed a) (hb : IsTrimmed b) (hne : a ≠ "")
    (hne' : b ≠ "") (m : String) : IsTrimmed (a ++ m ++ b) := by
  have hfirst : (a ++ m ++ b).toList.head? = a.toList.head? := by
    rw [String.toList_append, String.toList_append, List.append_assoc,
      List.head?_append_of_ne_nil _ (mt String.toList_eq_nil_iff.mp hne)]
  have hlast : (a ++ m ++ b).toList.getLast? = b.toList.getLast? := by
    rw [String.toList_append, List.getLast?_append_of_ne_nil _
      (mt String.toList_eq_nil_iff.mp hne')]
  intro c hc
  rw [hfirst, hlast] at hc
  rcases hc with hc | hc
  · exact ha c (.inl hc)
  · exact hb c (.inr hc)

theorem isTrimmed_intercalate (h : ∀ w ∈ ws, IsWord w) : IsTrimmed (" ".intercalate ws) := by
  induction ws with
  | nil => rintro c (hc | hc) <;> cases hc
  | cons w ws ih =>
    obtain ⟨hw, hws⟩ := List.forall_mem_cons.mp h
    cases ws with
    | nil => simpa using hw.isTrimmed
    | cons v ws =>
      have hne : " ".intercalate (v :: ws) ≠ "" := by
        intro hnil
        have hwords := words_intercalate hws
        rw [hnil] at hwords
        cases hwords
      rw [String.intercalate_cons_cons]
      exact hw.isTrimmed.append (ih hws) hw.ne_empty hne " "

theorem words_eq_nil_iff : words s = [] ↔ isAllBlank s = true := by
  rw [words, List.map_eq_nil_iff, runsBetween_eq_nil_iff, isAllBlank, List.all_eq_true]

/-- Trimming is all that it takes to find the word of a text which has no other. -/
theorem trim_of_words_length_lt (h : (words s).length < 2) : trim s = (words s).headD "" := by
  cases hs : words s with
  | nil => exact trim_eq_empty_iff.mpr (words_eq_nil_iff.mp hs)
  | cons w ws =>
    obtain rfl : ws = [] := by
      rw [hs, List.length_cons] at h
      exact List.length_eq_zero_iff.mp (by omega)
    rw [← words_trim, words] at hs
    obtain ⟨run, hrun, rfl⟩ := List.map_eq_singleton_iff.mp hs
    have htrimmed := isTrimmed_trim s
    rw [← eq_of_runsBetween_eq_singleton (fun c hc => htrimmed c (.inl hc))
      (fun c hc => htrimmed c (.inr hc)) hrun, String.ofList_toList]
    rfl

theorem IsWord.trim_append (h : IsWord w) : trim (" " ++ w) = w := by
  have hwords : words (" " ++ w) = [w] := by
    rw [words, String.toList_append, ← h.words_eq, words]
    rfl
  have hone : (words (" " ++ w)).length < 2 := by
    rw [hwords]
    exact Nat.one_lt_two
  rw [trim_of_words_length_lt hone, hwords, List.headD_cons]

end Words

end FederatedLogin.Text
