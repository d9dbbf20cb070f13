import FederatedLogin.Json.Record
import FederatedLogin.Proofs.Lookup
import FederatedLogin.Rpc.Message

/-! # Equality and order of values

Values can be compared. Every object in a value that has been read has its keys in strict order, so
that each key occurs once. An object with such keys can be read as a record whatever its members
are, since only a repeated field stands in the way.
-/

namespace FederatedLogin

namespace Json

/-! ## Equality -/

mutual

def same : Json → Json → Bool
  | .null, .null => true
  | .bool a, .bool b => a == b
  | .number m, .number n => m == n
  | .string s, .string t => s == t
  | .array vs, .array ws => sameItems vs ws
  | .object ms, .object ns => sameMembers ms ns
  | _, _ => false

def sameItems : List Json → List Json → Bool
  | [], [] => true
  | v :: vs, w :: ws => same v w && sameItems vs ws
  | _, _ => false

def sameMembers : List (String × Json) → List (String × Json) → Bool
  | [], [] => true
  | (k, v) :: ms, (l, w) :: ns => k == l && same v w && sameMembers ms ns
  | _, _ => false

end

mutual

theorem same_iff : ∀ {v w : Json}, same v w = true ↔ v = w
  | .null, w => by cases w <;> simp [same]
  | .bool _, w => by cases w <;> simp [same]
  | .number _, w => by cases w <;> simp [same]
  | .string _, w => by cases w <;> simp [same]
  | .array _, w => by cases w <;> simp [same, sameItems_iff]
  | .object _, w => by cases w <;> simp [same, sameMembers_iff]

theorem sameItems_iff : ∀ {vs ws : List Json}, sameItems vs ws = true ↔ vs = ws
  | [], ws => by cases ws <;> simp [sameItems]
  | _ :: _, ws => by cases ws <;> simp [sameItems, same_iff, sameItems_iff]

theorem sameMembers_iff :
    ∀ {ms ns : List (String × Json)}, sameMembers ms ns = true ↔ ms = ns
  | [], ns => by cases ns <;> simp [sameMembers]
  | (_, _) :: _, ns => by cases ns <;> simp [sameMembers, same_iff, sameMembers_iff, Prod.ext_iff]

end

instance : DecidableEq Json := fun _ _ => decidable_of_iff _ same_iff

/-! ## Objects in order -/

def Ascending {α : Type} (members : List (String × α)) : Prop :=
  (members.map (·.1)).Pairwise (· < ·)

section Ascending

variable {α : Type} {members : List (String × α)} {key : String} {value : α}

theorem Ascending.nodup (h : Ascending members) : (members.map (·.1)).Nodup :=
  List.Pairwise.imp (fun hlt => Std.ne_of_lt hlt) h

theorem mem_insertMember {m : String × α} (h : m ∈ insertMember key value members) :
    m = (key, value) ∨ m ∈ members := by
  induction members with
  | nil => exact .inl (List.mem_singleton.mp h)
  | cons first members ih =>
    rw [insertMember] at h
    split at h
    next => exact List.mem_cons.mp h
    next =>
      split at h
      next => exact (List.mem_cons.mp h).imp_right (List.mem_cons_of_mem _)
      next =>
        rcases List.mem_cons.mp h with rfl | h
        · exact .inr List.mem_cons_self
        · exact (ih h).imp_right (List.mem_cons_of_mem _)

theorem ascending_insertMember (h : Ascending members) :
    Ascending (insertMember key value members) := by
  unfold Ascending at h ⊢
  induction members with
  | nil => exact List.pairwise_singleton _ _
  | cons first members ih =>
    rw [List.map_cons, List.pairwise_cons] at h
    obtain ⟨hfirst, hmembers⟩ := h
    rw [insertMember]
    split
    next hlt =>
      rw [List.map_cons, List.map_cons, List.pairwise_cons, List.pairwise_cons]
      refine ⟨List.forall_mem_cons.mpr ⟨hlt, fun k hk => ?_⟩, hfirst, hmembers⟩
      exact String.lt_trans hlt (hfirst k hk)
    next hle =>
      split
      next he =>
        subst he
        exact List.pairwise_cons.mpr ⟨hfirst, hmembers⟩
      next hne =>
        have hlt : first.1 < key := Std.lt_of_le_of_ne (String.not_lt.mp hle) (Ne.symm hne)
        refine List.pairwise_cons.mpr ⟨fun k hk => ?_, ih hmembers⟩
        obtain ⟨m, hm, rfl⟩ := List.mem_map.mp hk
        rcases mem_insertMember hm with rfl | hm
        · exact hlt
        · exact hfirst _ (List.mem_map_of_mem hm)

end Ascending

/-- Every object in a value has its keys in order. -/
inductive IsOrdered : Json → Prop where
  | null : IsOrdered .null
  | bool (b : Bool) : IsOrdered (.bool b)
  | number (n : Number) : IsOrdered (.number n)
  | string (s : String) : IsOrdered (.string s)
  | array {items : List Json} : (∀ v ∈ items, IsOrdered v) → IsOrdered (.array items)
  | object {members : List (String × Json)} : Ascending members →
      (∀ m ∈ members, IsOrdered m.2) → IsOrdered (.object members)

/-- Whatever the order and the repetitions of the members an object is made of. -/
theorem isOrdered_ofMembers {members : List (String × Json)} (h : ∀ m ∈ members, IsOrdered m.2) :
    IsOrdered (ofMembers members) := by
  suffices hfold : ∀ done : List (String × Json), Ascending done → (∀ m ∈ done, IsOrdered m.2) →
      IsOrdered (.object (members.foldl (fun ms m => insertMember m.1 m.2 ms) done)) from
    hfold [] .nil nofun
  induction members with
  | nil => exact fun done hkeys hdone => .object hkeys hdone
  | cons m members ih =>
    obtain ⟨hm, hmembers⟩ := List.forall_mem_cons.mp h
    intro done hkeys hdone
    refine ih hmembers _ (ascending_insertMember hkeys) fun m' hm' => ?_
    rcases mem_insertMember hm' with rfl | hm'
    · exact hm
    · exact hdone m' hm'

/-! ## Lists read item by item -/

section Items

variable {α β γ : Type} {f : α → Option β} {items : List α} {values : List β}

theorem mapM_cons_eq_some_iff {a : α} : (a :: items).mapM f = some values ↔
    ∃ b others, f a = some b ∧ items.mapM f = some others ∧ b :: others = values := by
  simp [List.mapM_cons, Option.bind_eq_some_iff]

theorem exists_mapM_eq_some (h : ∀ a ∈ items, ∃ b, f a = some b) :
    ∃ values, items.mapM f = some values := by
  induction items with
  | nil => exact ⟨[], rfl⟩
  | cons a items ih =>
    obtain ⟨⟨b, hb⟩, hitems⟩ := List.forall_mem_cons.mp h
    obtain ⟨others, hothers⟩ := ih hitems
    exact ⟨b :: others, mapM_cons_eq_some_iff.mpr ⟨b, others, hb, hothers, rfl⟩⟩

theorem forall_mem_of_mapM {P : β → Prop} (h : items.mapM f = some values)
    (hf : ∀ a b, f a = some b → P b) : ∀ b ∈ values, P b := by
  induction items generalizing values with
  | nil =>
    cases h
    exact List.forall_mem_nil _
  | cons a items ih =>
    obtain ⟨b, others, hb, hothers, rfl⟩ := mapM_cons_eq_some_iff.mp h
    exact List.forall_mem_cons.mpr ⟨hf a b hb, ih hothers⟩

theorem filterMap_of_mapM (h : items.mapM f = some values) (g : β → Option γ) :
    values.filterMap g = items.filterMap fun a => (f a).bind g := by
  induction items generalizing values with
  | nil =>
    cases h
    rfl
  | cons a items ih =>
    obtain ⟨b, others, hb, hothers, rfl⟩ := mapM_cons_eq_some_iff.mp h
    rw [List.filterMap_cons, List.filterMap_cons, hb, ih hothers]
    rfl

end Items

/-! ## Values that have been read -/

theorem isOrdered_toJson? : ∀ {n : Nat} {o : Outline} {v : Json}, o.toJson? n = some v →
    IsOrdered v
  | _, .null, _, h => by
    rw [Outline.toJson?] at h
    cases h
    exact .null
  | _, .bool b, _, h => by
    rw [Outline.toJson?] at h
    cases h
    exact .bool b
  | _, .number l, _, h => by
    rw [Outline.toJson?, Option.map_eq_some_iff] at h
    obtain ⟨x, _, rfl⟩ := h
    exact .number x
  | _, .string t, _, h => by
    rw [Outline.toJson?, Option.map_eq_some_iff] at h
    obtain ⟨s, _, rfl⟩ := h
    exact .string s
  | n + 1, .array items, _, h => by
    rw [Outline.toJson?, Option.map_eq_some_iff] at h
    obtain ⟨values, hvalues, rfl⟩ := h
    exact .array (forall_mem_of_mapM hvalues fun o v hv => isOrdered_toJson? hv)
  | n + 1, .object members, _, h => by
    rw [Outline.toJson?, Option.map_eq_some_iff] at h
    obtain ⟨values, hvalues, rfl⟩ := h
    refine isOrdered_ofMembers (forall_mem_of_mapM hvalues fun m m' hm => ?_)
    simp only [Option.bind_eq_bind, Option.bind_eq_some_iff] at hm
    obtain ⟨k, _, v, hv, hm⟩ := hm
    cases hm
    exact isOrdered_toJson? hv

end Json

theorem Record.distinct_iff : ∀ names : List String, Record.distinct names = true ↔ names.Nodup
  | [] => by simp [Record.distinct]
  | n :: ns => by simp [Record.distinct, List.nodup_cons, Record.distinct_iff ns]

namespace Json

/-! ## Objects as records -/

theorem record?_object {members : List (String × Json)} (h : Ascending members)
    (names : List String) :
    ∃ r, record? names (.object members) = some r ∧
      ∀ name ∈ names, r.get? name = members.lookup name := by
  have hdistinct : Record.distinct ((members.filter fun m => names.contains m.1).map (·.1)) =
      true := by
    rw [Record.distinct_iff]
    exact h.nodup.sublist (List.filter_sublist.map _)
  -- without aliases every member keeps its key
  have hkeys : Record.ofMembers? names [] members =
      if Record.distinct (((members.map id).filter fun m => names.contains m.1).map (·.1)) then
        some ⟨(members.map id).filter fun m => names.contains m.1⟩
      else none := rfl
  refine ⟨⟨members.filter fun m => names.contains m.1⟩, ?_, fun name hn => ?_⟩
  · rw [record?, hkeys, List.map_id]
    exact if_pos hdistinct
  · rw [Record.get?, lookup_filter, if_pos (List.contains_iff_mem.mpr hn)]

theorem eq_of_optionalValue_eq_some {v w : Json} (h : optionalValue v = some w) : v = w := by
  cases v with
  | null => cases h
  | _ => exact Option.some.inj h

end Json

theorem Rpc.Response.isOrdered_result {bytes : Json.Bytes} {response : Rpc.Response} {v : Json}
    (h : Rpc.Response.ofBytes? bytes = some response) (hv : response.result = some v) :
    v.IsOrdered := by
  simp only [Rpc.Response.ofBytes?, Record.mapM?, Option.bind_eq_bind,
    Option.bind_eq_some_iff] at h
  obtain ⟨_, _, r, _, error, _, values, ⟨fields, hfields, hvalues⟩, version, _, h⟩ := h
  cases hvalues
  cases h
  obtain ⟨w, hw, hresult⟩ := Option.bind_eq_some_iff.mp hv
  cases Json.eq_of_optionalValue_eq_some hresult
  obtain ⟨before, after, rfl, _⟩ := List.lookup_eq_some_iff.mp hw
  refine Json.forall_mem_of_mapM (P := fun m => Json.IsOrdered m.2) hfields (fun m m' hm => ?_)
    ("result", v) (List.mem_append_right _ List.mem_cons_self)
  obtain ⟨_, hread, hm⟩ := Option.bind_eq_some_iff.mp hm
  cases hm
  exact Json.isOrdered_toJson? hread

end FederatedLogin
