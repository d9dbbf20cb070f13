import Mathlib.Data.List.Induction
import Mathlib.Data.List.Nodup
import FederatedLogin.Identity

/-! # Organizations of an identity

An identity keeps those organizations of a list that are named and have an id which no named one
before them has. Organizations that are not named leave no trace, and settling a list that has been
settled, in whole or in parts, changes nothing.
-/

namespace FederatedLogin.Organization

variable {os kept before : List Organization} {o : Organization}

theorem isNamed_iff : o.isNamed = true ↔ o.externalId ≠ 0 ∧ Text.isAllBlank o.name = false := by
  simp [isNamed]

/-! ## The step of settling -/

/-- Some organizations of a list, in its order, stand for all its named ones: each id of a named
organization is the id of exactly one of them, and they are named too. -/
structure Settled (os kept : List Organization) : Prop where
  sublist : kept.Sublist os
  nodup : (kept.map (·.externalId)).Nodup
  named : ∀ o ∈ kept, o.externalId ≠ 0 ∧ Text.isAllBlank o.name = false
  complete : ∀ o ∈ os, o.isNamed = true → o.externalId ∈ kept.map (·.externalId)

theorem Settled.keep (h : Settled os kept) (hnamed : o.isNamed = true)
    (hnew : o.externalId ∉ kept.map (·.externalId)) : Settled (os ++ [o]) (kept ++ [o]) where
  sublist := h.sublist.append (.refl _)
  nodup := by
    rw [List.map_append, List.map_singleton]
    exact List.nodup_append'.mpr ⟨h.nodup, List.nodup_singleton _,
      List.disjoint_singleton.mpr hnew⟩
  named := List.forall_mem_append.mpr
    ⟨h.named, List.forall_mem_singleton.mpr (isNamed_iff.mp hnamed)⟩
  complete := by
    rw [List.map_append, List.forall_mem_append, List.forall_mem_singleton]
    constructor
    · intro o' ho' hn
      exact List.mem_append_left _ (h.complete o' ho' hn)
    · intro _
      exact List.mem_append_right _ (List.mem_singleton_self _)

theorem Settled.skip (h : Settled os kept)
    (ho : o.isNamed = true → o.externalId ∈ kept.map (·.externalId)) :
    Settled (os ++ [o]) kept where
  sublist := h.sublist.trans (List.sublist_append_left _ _)
  nodup := h.nodup
  named := h.named
  complete := List.forall_mem_append.mpr ⟨h.complete, List.forall_mem_singleton.mpr ho⟩

/-- The step of `settle`: the organizations kept so far, the last one first, and the ids seen. -/
def keepNext (r : List Organization × List Int) (o : Organization) :
    List Organization × List Int :=
  if o.isNamed && !r.2.contains o.externalId then (o :: r.1, o.externalId :: r.2) else r

theorem settle_eq (os : List Organization) :
    settle os = (os.foldl keepNext ([], [])).1.reverse := by
  rfl

theorem settled_foldl (os : List Organization) :
    (os.foldl keepNext ([], [])).2 = (os.foldl keepNext ([], [])).1.map (·.externalId) ∧
      Settled os (os.foldl keepNext ([], [])).1.reverse := by
  -- from the end of the list, since the fold treats its last organization after all others
  induction os using List.reverseRecOn with
  | nil => exact ⟨rfl, .refl _, List.nodup_nil, nofun, nofun⟩
  | append_singleton os o ih =>
    rw [List.foldl_append, List.foldl_cons, List.foldl_nil]
    generalize os.foldl keepNext ([], []) = r at ih
    obtain ⟨kept, seen⟩ := r
    obtain ⟨hseen, h⟩ := ih
    dsimp only at hseen h
    subst hseen
    rw [keepNext]
    split
    next ho =>
      obtain ⟨hnamed, hnew⟩ := Bool.and_eq_true_iff.mp ho
      refine ⟨rfl, ?_⟩
      rw [List.reverse_cons]
      exact h.keep hnamed (by simpa using hnew)
    next ho => exact ⟨rfl, h.skip fun hnamed => by simpa [hnamed] using ho⟩

theorem settled_settle (os : List Organization) : Settled os (settle os) :=
  settle_eq os ▸ (settled_foldl os).2

theorem settle_filter (os : List Organization) : settle (os.filter isNamed) = settle os := by
  rw [settle_eq, settle_eq, List.foldl_filter]
  congr 3
  funext r o
  cases ho : o.isNamed <;> simp [keepNext, ho]

/-! ## The first named organization of each id -/

/-- Whether an organization is named, and no named one before it has its id. -/
structure Leads (before : List Organization) (o : Organization) : Prop where
  id_ne_zero : o.externalId ≠ 0
  name_not_blank : Text.isAllBlank o.name = false
  first : ∀ e ∈ before, e.externalId ≠ 0 → Text.isAllBlank e.name = false →
    e.externalId ≠ o.externalId

theorem leads_iff : Leads before o ↔
    o.isNamed = true ∧ ∀ e ∈ before, e.isNamed = true → e.externalId ≠ o.externalId := by
  simp only [isNamed_iff, and_imp]
  exact ⟨fun h => ⟨⟨h.id_ne_zero, h.name_not_blank⟩, h.first⟩, fun h => ⟨h.1.1, h.1.2, h.2⟩⟩

instance : Decidable (Leads before o) := decidable_of_iff _ leads_iff.symm

/-- The organizations of a list that lead, each with those before it, in the order of the list. -/
def leading (os : List Organization) : List Organization :=
  (os.zipIdx.filter fun (o, i) => Leads (os.take i) o).map (·.1)

theorem mem_settle_ids_iff {n : Int} : n ∈ (settle os).map (·.externalId) ↔
    ∃ e ∈ os, e.isNamed = true ∧ e.externalId = n := by
  have h := settled_settle os
  constructor
  · intro hn
    obtain ⟨e, he, rfl⟩ := List.mem_map.mp hn
    exact ⟨e, h.sublist.subset he, isNamed_iff.mpr (h.named e he), rfl⟩
  · rintro ⟨e, he, hnamed, rfl⟩
    exact h.complete e he hnamed

theorem leads_iff_not_mem :
    Leads before o ↔ o.isNamed = true ∧ o.externalId ∉ (settle before).map (·.externalId) := by
  rw [leads_iff, mem_settle_ids_iff]
  simp only [not_exists, not_and, ne_eq]

theorem leads_append_iff {after : List Organization} : Leads (before ++ after) o ↔
    Leads after o ∧ o.externalId ∉ (settle before).map (·.externalId) := by
  rw [leads_iff, leads_iff, List.forall_mem_append, mem_settle_ids_iff]
  simp only [not_exists, not_and, ne_eq]
  tauto

theorem settle_snoc (os : List Organization) (o : Organization) :
    settle (os ++ [o]) = if Leads os o then settle os ++ [o] else settle os := by
  have hkeep : (o.isNamed && !(os.foldl keepNext ([], [])).2.contains o.externalId) =
      decide (Leads os o) := by
    rw [Bool.eq_iff_iff, decide_eq_true_iff, leads_iff_not_mem, settle_eq, (settled_foldl os).1]
    simp
  rw [settle_eq, settle_eq, List.foldl_append, List.foldl_cons, List.foldl_nil, keepNext, hkeep]
  by_cases h : Leads os o <;> simp [h]

theorem leading_snoc (os : List Organization) (o : Organization) :
    leading (os ++ [o]) = if Leads os o then leading os ++ [o] else leading os := by
  have hbefore : ∀ x ∈ os.zipIdx, decide (Leads ((os ++ [o]).take x.2) x.1) =
      decide (Leads (os.take x.2) x.1) := by
    intro x hx
    rw [List.take_append_of_le_length (Nat.le_of_lt (List.snd_lt_of_mem_zipIdx hx))]
  unfold leading
  rw [List.zipIdx_append, List.filter_append, List.filter_congr hbefore]
  by_cases h : Leads os o <;> simp [h]

theorem settle_eq_leading (os : List Organization) : settle os = leading os := by
  induction os using List.reverseRecOn with
  | nil => rfl
  | append_singleton os o ih => rw [settle_snoc, leading_snoc, ih]

/-! ## Lists settled in parts -/

theorem settle_append (os os' : List Organization) : settle (os ++ os') =
    settle os ++ (settle os').filter fun o => o.externalId ∉ (settle os).map (·.externalId) := by
  induction os' using List.reverseRecOn with
  | nil => simp [settle_eq]
  | append_singleton os' o ih =>
    rw [← List.append_assoc, settle_snoc, settle_snoc, ih]
    simp only [leads_append_iff]
    generalize (settle os).map (·.externalId) = seen
    by_cases hleads : Leads os' o
    · by_cases hseen : o.externalId ∈ seen
      · simp [hleads, hseen]
      · simp [hleads, hseen]
    · simp [hleads]

theorem settle_eq_self (hnamed : ∀ o ∈ os, o.isNamed = true)
    (hnodup : (os.map (·.externalId)).Nodup) : settle os = os := by
  induction os using List.reverseRecOn with
  | nil => rfl
  | append_singleton os o ih =>
    rw [List.map_append, List.map_singleton] at hnodup
    obtain ⟨hnodup, -, hnew⟩ := List.nodup_append.mp hnodup
    obtain ⟨hos, ho⟩ := List.forall_mem_append.mp hnamed
    have hleads : Leads os o := leads_iff.mpr ⟨ho o (List.mem_singleton_self o), fun e he _ =>
      hnew _ (List.mem_map_of_mem he) _ (List.mem_singleton_self _)⟩
    rw [settle_snoc, if_pos hleads, ih hos hnodup]

theorem settle_settle (os : List Organization) : settle (settle os) = settle os :=
  settle_eq_self (fun o ho => isNamed_iff.mpr ((settled_settle os).named o ho))
    (settled_settle os).nodup

theorem settle_settle_append (os os' : List Organization) :
    settle (settle os ++ settle os') = settle (os ++ os') := by
  rw [settle_append, settle_append, settle_settle, settle_settle]

/-- What is not named does not count, wherever it stands. -/
theorem settle_append_cons_of_not_named (before after : List Organization)
    (h : o.isNamed = false) : settle (before ++ o :: after) = settle (before ++ after) := by
  rw [← settle_filter (before ++ o :: after), ← settle_filter (before ++ after),
    List.filter_append, List.filter_append, List.filter_cons_of_neg (by simp [h])]

theorem isNamed_eq_false (h : Text.isAllBlank o.name = true) : o.isNamed = false := by
  simp [isNamed, h]

/-- An identity gets exactly the organizations that are named and of which none before has the id
and is named as well. Their ids differ, one with a blank name hides none after it, and a list may be
settled twice or in parts. -/
theorem settle_keeps_leading (os : List Organization) :
    settle os = leading os ∧
    (∀ i : Identity, i.withOrganizations os = { i with organizations := leading os }) ∧
    ((settle os).map (·.externalId)).Nodup ∧
    (∀ before o after, os = before ++ o :: after → Text.isAllBlank o.name = true →
      settle os = settle (before ++ after)) ∧
    settle (settle os) = settle os ∧
    ∀ os', settle (os ++ os') = settle (settle os ++ settle os') := by
  refine ⟨settle_eq_leading os, fun i => ?_, (settled_settle os).nodup, ?_, settle_settle os,
    fun os' => (settle_settle_append os os').symm⟩
  · rw [Identity.withOrganizations, settle_eq_leading]
  · rintro before o after rfl hblank
    exact settle_append_cons_of_not_named before after (isNamed_eq_false hblank)

/-- An organization of blanks alone leaves its id to one that is named, and that one hides the
next. -/
theorem blank_hides_none :
    let acme : Organization := ⟨1, "Acme"⟩
    let blank : Organization := ⟨2, " \t"⟩
    let beta : Organization := ⟨2, "Beta"⟩
    let os := [acme, blank, ⟨0, "Ghost"⟩, beta, ⟨1, ""⟩, ⟨2, "Gamma"⟩]
    os = [acme] ++ blank :: [⟨0, "Ghost"⟩, beta, ⟨1, ""⟩, ⟨2, "Gamma"⟩] ∧
      Text.isAllBlank blank.name = true ∧ settle os = [acme, beta] := by
  intro acme blank beta os
  have hblank : Text.isAllBlank blank.name = true := by decide
  have hskip := (settle_keeps_leading os).2.2.2.1 [acme] blank _ rfl hblank
  exact ⟨rfl, hblank, hskip.trans (by decide)⟩

end FederatedLogin.Organization
