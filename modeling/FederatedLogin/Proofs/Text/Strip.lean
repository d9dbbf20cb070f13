import Mathlib.Data.List.DropRight
import Mathlib.Data.List.TakeWhile
import FederatedLogin.Text.Blank

/-! # Stripped lists

Dropping from the ends of a list what satisfies a predicate keeps all that does not, leaves no end
that does, and changes nothing where no end does.
-/

namespace FederatedLogin.Text

variable {α : Type} {p : α → Bool} {s : List α} {a : α}

/-! ## What is kept -/

theorem mem_dropWhile_of_not (ha : a ∈ s) (hp : p a = false) : a ∈ s.dropWhile p := by
  induction s with
  | nil => cases ha
  | cons b s ih =>
    rw [List.dropWhile_cons]
    split
    next hb =>
      rcases List.mem_cons.mp ha with rfl | ha
      · exact absurd (hp.symm.trans hb) Bool.false_ne_true
      · exact ih ha
    next => exact ha

theorem mem_dropEndWhile_of_not (ha : a ∈ s) (hp : p a = false) : a ∈ dropEndWhile p s :=
  List.mem_reverse.mpr (mem_dropWhile_of_not (List.mem_reverse.mpr ha) hp)

theorem dropEndWhile_isPrefix (p : α → Bool) (s : List α) : dropEndWhile p s <+: s :=
  List.rdropWhile_prefix p s

theorem exists_dropEndWhile_append (p : α → Bool) (s : List α) :
    ∃ t, dropEndWhile p s ++ t = s ∧ ∀ a ∈ t, p a = true :=
  ⟨s.rtakeWhile p, List.rdropWhile_append_rtakeWhile, fun _ => List.mem_rtakeWhile_imp⟩

theorem dropEndWhile_append {t : List α} (h : ∀ a ∈ t, p a = true) :
    dropEndWhile p (s ++ t) = dropEndWhile p s := by
  rw [dropEndWhile, List.reverse_append, List.dropWhile_append_of_pos (by simpa using h)]
  rfl

theorem stripWhile_sublist (p : α → Bool) (s : List α) : (stripWhile p s).Sublist s :=
  (dropEndWhile_isPrefix p _).sublist.trans (List.dropWhile_sublist p)

theorem stripWhile_subset (p : α → Bool) (s : List α) : stripWhile p s ⊆ s :=
  (stripWhile_sublist p s).subset

/-! ## The ends -/

theorem not_of_getLast?_dropEndWhile (h : (dropEndWhile p s).getLast? = some a) :
    p a = false := by
  change (s.rdropWhile p).getLast? = some a at h
  have hne : s.rdropWhile p ≠ [] := by
    intro hnil
    rw [hnil] at h
    cases h
  rw [List.getLast?_eq_some_getLast hne] at h
  have hlast := List.rdropWhile_last_not p s hne
  rw [Option.some.inj h] at hlast
  exact Bool.eq_false_iff.mpr hlast

theorem head?_of_isPrefix {t : List α} (h : t <+: s) (hne : t ≠ []) : t.head? = s.head? := by
  obtain ⟨rest, rfl⟩ := h
  rw [List.head?_append_of_ne_nil _ hne]

theorem not_of_head?_stripWhile (h : (stripWhile p s).head? = some a) : p a = false := by
  -- what is left at the start is the start of what dropping from the end has kept
  have hne : stripWhile p s ≠ [] := by
    intro hnil
    rw [hnil] at h
    cases h
  rw [stripWhile, head?_of_isPrefix (dropEndWhile_isPrefix p _) hne] at h
  have hnot := List.head?_dropWhile_not p s
  rw [h] at hnot
  exact hnot

/-! ## What stays as it is -/

theorem dropEndWhile_eq_self (h : ∀ a, s.getLast? = some a → p a = false) :
    dropEndWhile p s = s := by
  refine List.rdropWhile_eq_self_iff.mpr fun hne => ?_
  rw [h _ (List.getLast?_eq_some_getLast hne)]
  exact Bool.false_ne_true

theorem stripWhile_eq_self (hfirst : ∀ a, s.head? = some a → p a = false)
    (hlast : ∀ a, s.getLast? = some a → p a = false) : stripWhile p s = s := by
  have hdrop : s.dropWhile p = s := by
    cases s with
    | nil => rfl
    | cons a s => exact List.dropWhile_cons_of_neg (by simp [hfirst a rfl])
  rw [stripWhile, hdrop, dropEndWhile_eq_self hlast]

/-! ## What does not depend on the ends -/

section Map

variable {β : Type} {f : List α → List β} (hnil : f [] = [])
  (happend : ∀ s a t, p a = true → f (s ++ a :: t) = f s ++ f t)

include hnil happend

theorem map_dropWhile (s : List α) : f (s.dropWhile p) = f s := by
  induction s with
  | nil => rfl
  | cons a s ih =>
    rw [List.dropWhile_cons]
    split
    next ha =>
      have hskip : f (a :: s) = f [] ++ f s := happend [] a s ha
      rw [ih, hskip, hnil, List.nil_append]
    next => rfl

theorem map_dropEndWhile (s : List α) : f (dropEndWhile p s) = f s := by
  rw [← List.reverse_reverse s, dropEndWhile, List.reverse_reverse]
  induction s.reverse with
  | nil => rfl
  | cons a s ih =>
    rw [List.dropWhile_cons]
    split
    next ha =>
      have hskip : f (s.reverse ++ [a]) = f s.reverse ++ f [] := happend s.reverse a [] ha
      rw [ih, List.reverse_cons, hskip, hnil, List.append_nil]
    next => rfl

/-- What is made of the parts of a list one by one is made of what is left of it as well. -/
theorem map_stripWhile (s : List α) : f (stripWhile p s) = f s := by
  rw [stripWhile, map_dropEndWhile hnil happend, map_dropWhile hnil happend]

end Map

/-! ## Texts -/

/-- Neither the first nor the last character is blank. -/
def IsTrimmed (s : String) : Prop :=
  ∀ c, s.toList.head? = some c ∨ s.toList.getLast? = some c → isBlank c = false

theorem isTrimmed_trim (s : String) : IsTrimmed (trim s) := by
  intro c hc
  rw [trim, String.toList_ofList] at hc
  rcases hc with hc | hc
  · exact not_of_head?_stripWhile hc
  · exact not_of_getLast?_dropEndWhile hc

theorem trim_eq_self_iff {s : String} : trim s = s ↔ IsTrimmed s := by
  constructor
  · intro h
    rw [← h]
    exact isTrimmed_trim s
  · intro h
    rw [trim, stripWhile_eq_self (fun c hc => h c (.inl hc)) fun c hc => h c (.inr hc),
      String.ofList_toList]

theorem trim_eq_empty_iff {s : String} : trim s = "" ↔ isAllBlank s = true := by
  have hnil : trim s = "" ↔ stripWhile isBlank s.toList = [] := by
    rw [trim, ← String.toList_inj, String.toList_ofList]
    rfl
  rw [hnil, isAllBlank, List.all_eq_true]
  constructor
  · intro h c hc
    cases hb : isBlank c with
    | true => rfl
    | false =>
      have hmem : c ∈ stripWhile isBlank s.toList :=
        mem_dropEndWhile_of_not (mem_dropWhile_of_not hc hb) hb
      rw [h] at hmem
      cases hmem
  · intro h
    rw [stripWhile, List.dropWhile_eq_nil_iff.mpr h]
    rfl

end FederatedLogin.Text
