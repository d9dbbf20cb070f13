import Mathlib.Data.List.TakeWhile
import FederatedLogin.Text.Ascii

/-! # Parts of a text

A text with a character in it is what stands before the first such character, the character, and
what stands after.
-/

namespace FederatedLogin.Text

variable {c : Char} {s : String}

/-- The part of a text after the first `c`. It is empty where there is none. -/
def after (c : Char) (s : String) : String := .ofList (s.toList.dropWhile (· != c)).tail

theorem not_mem_before (c : Char) (s : String) : c ∉ (before c s).toList := by
  rw [before, String.toList_ofList]
  intro h
  simpa using List.mem_takeWhile_imp h

theorem before_eq_self (h : c ∉ s.toList) : before c s = s := by
  have hall : ∀ d ∈ s.toList, (d != c) = true := fun d hd =>
    bne_iff_ne.mpr (ne_of_mem_of_not_mem hd h)
  rw [before, List.takeWhile_eq_self_iff.mpr hall, String.ofList_toList]

theorem before_eq_self_iff : before c s = s ↔ c ∉ s.toList := by
  constructor
  · intro h
    rw [← h]
    exact not_mem_before c s
  · exact before_eq_self

theorem before_append (c : Char) (s t : String) :
    before c (s ++ String.singleton c ++ t) = before c s := by
  rw [before, before, String.toList_append, String.toList_append, String.toList_singleton,
    List.append_assoc, List.singleton_append, String.ofList_inj]
  induction s.toList with
  | nil => simp
  | cons d s ih => simp only [List.cons_append, List.takeWhile_cons, ih]

theorem after_append (h : c ∉ s.toList) (t : String) :
    after c (s ++ String.singleton c ++ t) = t := by
  have hall : ∀ d ∈ s.toList, (d != c) = true := fun d hd =>
    bne_iff_ne.mpr (ne_of_mem_of_not_mem hd h)
  rw [after, String.toList_append, String.toList_append, String.toList_singleton,
    List.append_assoc, List.singleton_append, List.dropWhile_append_of_pos hall]
  simp

theorem before_append_after (h : c ∈ s.toList) :
    before c s ++ String.singleton c ++ after c s = s := by
  have hparts := List.takeWhile_append_dropWhile (p := (· != c)) (l := s.toList)
  cases hrest : s.toList.dropWhile (· != c) with
  | nil =>
    have hall := List.dropWhile_eq_nil_iff.mp hrest c h
    simp at hall
  | cons d rest =>
    have hd := List.head?_dropWhile_not (· != c) s.toList
    rw [hrest] at hd hparts
    obtain rfl : d = c := by simpa using hd
    rw [← String.toList_inj, before, after, hrest]
    simpa using hparts

end FederatedLogin.Text
