import FederatedLogin.Proofs.Text.Lowercase
import FederatedLogin.Proofs.Text.Strip
import FederatedLogin.Slug

/-! # The words of a slug

A slug is made in one pass over the lower-cased name, which remembers whether a word has begun and
whether a separator has come since. The outcome is the words of the name, each what is left of a
piece between two separators, joined by single dashes; and it is a slug already if and only if it is
its own slug.
-/

namespace FederatedLogin.Slug

/-! ## Words -/

/-- What is left of pieces of a text without the characters of no word and without what is empty. -/
def wordsOf (pieces : List (List Char)) : List (List Char) :=
  (pieces.map (List.filter isWordChar)).filter (· ≠ [])

def words (s : List Char) : List (List Char) := wordsOf (s.splitOnP isSeparator)

def hyphenate (ws : List (List Char)) : List Char := ['-'].intercalate ws

def IsWord (w : List Char) : Prop := w ≠ [] ∧ ∀ c ∈ w, isWordChar c = true

/-- The texts that match `[a-z0-9]+(-[a-z0-9]+)*`. -/
inductive IsSlug : List Char → Prop where
  | word {w : List Char} : IsWord w → IsSlug w
  | more {w s : List Char} : IsWord w → IsSlug s → IsSlug (w ++ '-' :: s)

section Words

variable {c : Char} {w s : List Char} {ws ws' : List (List Char)}

theorem not_isSeparator_of_isWordChar (h : isWordChar c = true) : isSeparator c = false := by
  refine Bool.eq_false_iff.mpr fun hsep => ?_
  simp only [isSeparator, Bool.or_eq_true, beq_iff_eq] at hsep
  rcases hsep with (rfl | rfl) | hblank
  · exact absurd h (by decide)
  · exact absurd h (by decide)
  · exact absurd hblank (Bool.eq_false_iff.mp (Text.not_isBlank_of_isLowerAlphanumeric h))

theorem isWord_of_mem_wordsOf {pieces : List (List Char)} (h : w ∈ wordsOf pieces) : IsWord w := by
  simp only [wordsOf, List.mem_filter, List.mem_map, decide_eq_true_eq] at h
  obtain ⟨⟨piece, _, rfl⟩, hne⟩ := h
  exact ⟨hne, fun c hc => (List.mem_filter.mp hc).2⟩

theorem wordsOf_append (pieces pieces' : List (List Char)) :
    wordsOf (pieces ++ pieces') = wordsOf pieces ++ wordsOf pieces' := by
  simp [wordsOf]

theorem words_append (hc : isSeparator c = true) (s t : List Char) :
    words (s ++ c :: t) = words s ++ words t := by
  rw [words, List.splitOnP_append_cons s t hc, wordsOf_append, words, words]

theorem words_of_isWord (h : IsWord w) : words w = [w] := by
  have hpiece : w.splitOnP isSeparator = [w] :=
    List.splitOnP_eq_singleton fun c hc => not_isSeparator_of_isWordChar (h.2 c hc)
  have hfilter : w.filter isWordChar = w := List.filter_eq_self.mpr h.2
  simp [words, wordsOf, hpiece, hfilter, h.1]

/-! ## Words joined -/

def dashed (ws : List (List Char)) : List Char := ws.flatMap ('-' :: ·)

theorem hyphenate_cons (w : List Char) (ws : List (List Char)) :
    hyphenate (w :: ws) = w ++ dashed ws := by
  induction ws generalizing w with
  | nil => simp [hyphenate, dashed]
  | cons v ws ih =>
    have hv : ['-'].intercalate (v :: ws) = v ++ dashed ws := ih v
    rw [hyphenate, List.intercalate_cons_cons, hv]
    simp [dashed]

@[simp] theorem hyphenate_singleton (w : List Char) : hyphenate [w] = w :=
  List.intercalate_singleton

theorem hyphenate_append (hs : ws ≠ []) (hs' : ws' ≠ []) :
    hyphenate (ws ++ ws') = hyphenate ws ++ '-' :: hyphenate ws' := by
  cases ws with
  | nil => exact absurd rfl hs
  | cons w ws =>
    cases ws' with
    | nil => exact absurd rfl hs'
    | cons w' ws' =>
      rw [List.cons_append, hyphenate_cons, hyphenate_cons, hyphenate_cons]
      simp [dashed]

theorem IsSlug.ne_nil (h : IsSlug s) : s ≠ [] := by
  cases h with
  | word hw => exact hw.1
  | more _ _ => simp

theorem isSlug_hyphenate (h : ∀ w ∈ ws, IsWord w) (hne : ws ≠ []) : IsSlug (hyphenate ws) := by
  induction ws with
  | nil => exact absurd rfl hne
  | cons w ws ih =>
    obtain ⟨hw, hws⟩ := List.forall_mem_cons.mp h
    by_cases hrest : ws = []
    · rw [hrest, hyphenate_singleton]
      exact .word hw
    · rw [← List.singleton_append, hyphenate_append (List.cons_ne_nil _ _) hrest,
        hyphenate_singleton]
      exact .more hw (ih hws hrest)

theorem hyphenate_eq_nil_iff (h : ∀ w ∈ ws, IsWord w) : hyphenate ws = [] ↔ ws = [] := by
  constructor
  · intro hnil
    exact Decidable.byContradiction fun hne => (isSlug_hyphenate h hne).ne_nil hnil
  · rintro rfl
    rfl

theorem IsSlug.hyphenate_words (h : IsSlug s) : hyphenate (words s) = s := by
  induction h with
  | word hw => rw [words_of_isWord hw, hyphenate_singleton]
  | @more w s hw hs ih =>
    have hne : words s ≠ [] := by
      intro hnil
      rw [hnil] at ih
      exact hs.ne_nil ih.symm
    rw [words_append rfl, words_of_isWord hw, hyphenate_append (List.cons_ne_nil _ _) hne, ih,
      hyphenate_singleton]

end Words

/-! ## The pass over a name -/

/-- What the pass still yields, in each of its states, given the pieces of what is left. -/
theorem join_eq {s : List Char} {piece : List Char} {pieces : List (List Char)}
    (h : s.splitOnP isSeparator = piece :: pieces) :
    join true false s = piece.filter isWordChar ++ dashed (wordsOf pieces) ∧
    join true true s = dashed (wordsOf (piece :: pieces)) ∧
    ∀ parted, join false parted s = hyphenate (wordsOf (piece :: pieces)) := by
  induction s generalizing piece pieces with
  | nil =>
    cases h
    exact ⟨rfl, rfl, fun _ => rfl⟩
  | cons c s ih =>
    obtain ⟨next, rest, hnext⟩ := List.exists_cons_of_ne_nil (List.splitOnP_ne_nil isSeparator s)
    obtain ⟨hinside, hparted, hbefore⟩ := ih hnext
    rw [List.splitOnP_cons_eq_if_modifyHead, hnext] at h
    by_cases hsep : isSeparator c = true
    · -- the piece ends here, and the next word will have its dash
      have hc : isWordChar c = false := by
        refine Bool.eq_false_iff.mpr fun hword => ?_
        rw [not_isSeparator_of_isWordChar hword] at hsep
        cases hsep
      rw [if_pos hsep] at h
      obtain ⟨rfl, rfl⟩ := List.cons.inj h
      have hwords : wordsOf ([] :: next :: rest) = wordsOf (next :: rest) := rfl
      simp [join, hc, hsep, hparted, hbefore, hwords]
    · rw [if_neg hsep] at h
      obtain ⟨rfl, rfl⟩ := List.cons.inj h
      by_cases hc : isWordChar c = true
      · have hwords : wordsOf ((c :: next) :: rest) =
            (c :: next.filter isWordChar) :: wordsOf rest := by
          simp [wordsOf, hc]
        rw [hwords, hyphenate_cons]
        simp [join, hc, hinside, dashed]
      · have hwords : wordsOf ((c :: next) :: rest) = wordsOf (next :: rest) := by
          simp [wordsOf, hc]
        rw [hwords]
        simp [join, hc, hsep, hinside, hparted, hbefore]

theorem join_eq_hyphenate (s : List Char) : join false false s = hyphenate (words s) := by
  obtain ⟨piece, pieces, h⟩ := List.exists_cons_of_ne_nil (List.splitOnP_ne_nil isSeparator s)
  rw [(join_eq h).2.2 false, words, h]

/-! ## Names -/

def nameWords (s : List Char) : List (List Char) := words (Text.lowerChars s)

section Names

variable {c : Char} {s : List Char}

theorem toList_ofName (name : String) :
    (ofName name).toList = hyphenate (nameWords name.toList) := by
  rw [ofName, String.toList_ofList, join_eq_hyphenate, nameWords]

theorem isWord_of_mem_nameWords {w : List Char} (h : w ∈ nameWords s) : IsWord w :=
  isWord_of_mem_wordsOf h

theorem ofName_eq_empty_iff {name : String} : ofName name = "" ↔ nameWords name.toList = [] := by
  rw [← String.toList_inj, toList_ofName]
  exact hyphenate_eq_nil_iff fun _ => isWord_of_mem_nameWords

theorem isSlug_ofName {name : String} (h : ofName name ≠ "") : IsSlug (ofName name).toList := by
  rw [toList_ofName]
  exact isSlug_hyphenate (fun _ => isWord_of_mem_nameWords) (mt ofName_eq_empty_iff.mpr h)

theorem nameWords_append (hc : Text.isBlank c = true) (s t : List Char) :
    nameWords (s ++ c :: t) = nameWords s ++ nameWords t := by
  rw [nameWords, Text.lowerChars_append_blank hc,
    words_append (by simp [isSeparator, hc]), nameWords, nameWords]

theorem ofName_trim (name : String) : ofName (Text.trim name) = ofName name := by
  rw [← String.toList_inj, toList_ofName, toList_ofName, Text.trim, String.toList_ofList,
    Text.map_stripWhile rfl fun s c t hc => nameWords_append hc s t]

theorem IsSlug.ascii (h : IsSlug s) : ∀ c ∈ s, c.toNat < 0x80 ∧ ¬ Text.IsCapital c := by
  induction h with
  | word hw => exact fun c hc => Text.ascii_of_isLowerAlphanumeric (hw.2 c hc)
  | more hw _ ih =>
    refine List.forall_mem_append.mpr
      ⟨fun c hc => Text.ascii_of_isLowerAlphanumeric (hw.2 c hc), ?_⟩
    exact List.forall_mem_cons.mpr ⟨by decide, ih⟩

theorem IsSlug.ofName_eq {name : String} (h : IsSlug name.toList) : ofName name = name := by
  rw [← String.toList_inj, toList_ofName, nameWords, Text.lowerChars,
    Text.lowerAfter_eq_self h.ascii, h.hyphenate_words]

theorem ofName_eq_self_iff {name : String} :
    ofName name = name ↔ name = "" ∨ IsSlug name.toList := by
  constructor
  · intro hself
    by_cases hname : name = ""
    · exact .inl hname
    · rw [← hself] at hname ⊢
      exact .inr (isSlug_ofName hname)
  · rintro (rfl | h)
    · rfl
    · exact h.ofName_eq

theorem ofName_append (a b : String) : ofName (a ++ " " ++ b) =
    if ofName a = "" then ofName b else if ofName b = "" then ofName a
    else ofName a ++ "-" ++ ofName b := by
  have hwords : nameWords (a ++ " " ++ b).toList =
      nameWords a.toList ++ nameWords b.toList := by
    rw [String.toList_append, String.toList_append, List.append_assoc]
    exact nameWords_append rfl a.toList b.toList
  rw [← String.toList_inj, toList_ofName, hwords]
  split
  next ha => rw [ofName_eq_empty_iff.mp ha, List.nil_append, toList_ofName]
  next ha =>
    split
    next hb => rw [ofName_eq_empty_iff.mp hb, List.append_nil, toList_ofName]
    next hb =>
      rw [hyphenate_append (mt ofName_eq_empty_iff.mpr ha) (mt ofName_eq_empty_iff.mpr hb),
        String.toList_append, String.toList_append, toList_ofName, toList_ofName, List.append_assoc]
      rfl

end Names

/-- The slug of a name is made of the words of the lower-cased name, with or without the blanks at
its ends. It is empty or of the form of a slug, and what is of that form is its own slug; so slugs
are their own slugs. The slug of two names with a blank between them is made of their slugs. -/
theorem ofName_by_words (name : String) :
    ofName name = .ofList (['-'].intercalate
      ((((Text.lower name).toList.splitOnP isSeparator).map (List.filter isWordChar)).filter
        (· ≠ []))) ∧
    ofName (Text.trim name) = ofName name ∧
    (ofName name = "" ∨ IsSlug (ofName name).toList) ∧
    (ofName name = name ↔ name = "" ∨ IsSlug name.toList) ∧
    ofName (ofName name) = ofName name ∧
    ∀ other, ofName (name ++ " " ++ other) =
      if ofName name = "" then ofName other else if ofName other = "" then ofName name
      else ofName name ++ "-" ++ ofName other := by
  have hform : ofName name = "" ∨ IsSlug (ofName name).toList :=
    Decidable.or_iff_not_imp_left.mpr isSlug_ofName
  refine ⟨?_, ofName_trim name, hform, ofName_eq_self_iff, ofName_eq_self_iff.mpr hform,
    ofName_append name⟩
  rw [← String.toList_inj, toList_ofName, Text.lower, String.toList_ofList, String.toList_ofList]
  rfl

/-- Characters outside a slug's words vanish without parting the words around them. -/
example : ofName "  R&D -- Café_Ünion " = "rd-caf-nion" := by decide +kernel

end FederatedLogin.Slug
