import Mathlib.Data.List.Nodup
import FederatedLogin.Config.Sources
import FederatedLogin.Proofs.Config.Fields

/-! # Which source counts

Sources are loaded in the order of their precedence and, where that is the same, of their place in
the list. The first one that fails in this order is the one that is told of, and a field is what the
last one that sets it says.
-/

namespace FederatedLogin.Config

/-! ## The order of sources -/

theorem Precedence.rank_injective : Function.Injective Precedence.rank := by
  intro a b h
  cases a <;> cases b <;> first | rfl | cases h

abbrev Placed : Type := Source × Nat

/-- Of two sources the one of lower precedence comes earlier, or else the one given first. -/
def Earlier (a b : Placed) : Prop :=
  a.1.precedence.rank < b.1.precedence.rank ∨
    a.1.precedence = b.1.precedence ∧ a.2 < b.2

def Later (a b : Placed) : Prop := Earlier b a

theorem Earlier.asymm {a b : Placed} (h : Earlier a b) : ¬ Earlier b a := by
  rintro (hr | ⟨he, hp⟩)
  · rcases h with h | ⟨he, -⟩
    · omega
    · rw [he] at hr
      exact Nat.lt_irrefl _ hr
  · rcases h with h | ⟨-, h⟩
    · rw [he] at h
      exact Nat.lt_irrefl _ h
    · omega

def ranked (sources : List Source) : List Placed :=
  sources.zipIdx.mergeSort
    (List.zipIdxLE fun a b => a.precedence.rank ≤ b.precedence.rank)

theorem ranked_perm (sources : List Source) : (ranked sources).Perm sources.zipIdx :=
  List.mergeSort_perm _ _

theorem sort_eq (sources : List Source) : Source.sort sources = (ranked sources).map (·.1) :=
  List.mergeSort_zipIdx.symm

theorem mem_sort_iff {sources : List Source} {s : Source} :
    s ∈ Source.sort sources ↔ s ∈ sources :=
  List.mem_mergeSort

theorem ranked_pairwise (sources : List Source) : (ranked sources).Pairwise Earlier := by
  have hsorted : (ranked sources).Pairwise fun a b =>
      List.zipIdxLE (fun a b => a.precedence.rank ≤ b.precedence.rank) a b = true :=
    List.pairwise_mergeSort
      (List.zipIdxLE_trans fun a b c hab hbc => by
        simp only [decide_eq_true_eq] at *
        exact Nat.le_trans hab hbc)
      (List.zipIdxLE_total fun a b => by simpa using Nat.le_total _ _) _
  -- where the ranks are the same the places are compared, of which no two are
  have hplaces : (ranked sources).Pairwise fun a b => a.2 ≠ b.2 := by
    rw [← List.pairwise_map (R := (· ≠ ·))]
    refine ((ranked_perm sources).map Prod.snd).nodup_iff.mpr ?_
    rw [List.zipIdx_map_snd]
    exact List.nodup_range'
  refine hsorted.imp₂ (fun a b hle hne => ?_) hplaces
  simp only [List.zipIdxLE, decide_eq_true_eq] at hle
  split at hle
  next hab =>
    split at hle
    next hba =>
      have hplace : a.2 < b.2 := Nat.lt_of_le_of_ne (by simpa using hle) hne
      exact .inr ⟨Precedence.rank_injective (Nat.le_antisymm hab hba), hplace⟩
    next hba => exact .inl (by omega)
  next => cases hle

/-! ## The first source in which something is found -/

section IsFirst

variable {β : Type} {R : Placed → Placed → Prop} {sources : List Source}
  {get? : Source → Option β} {v : β}

/-- The first source, in an order, in which something is found, and that is `v`. -/
structure IsFirst (R : Placed → Placed → Prop) (sources : List Source)
    (get? : Source → Option β) (v : β) (x : Placed) : Prop where
  mem : x ∈ sources.zipIdx
  get_eq : get? x.1 = some v
  first : ∀ y ∈ sources.zipIdx, get? y.1 ≠ none → y = x ∨ R x y

theorem findSome?_eq_some_iff_isFirst {order : List Placed} (hperm : order.Perm sources.zipIdx)
    (horder : order.Pairwise R) (hasymm : ∀ a b, R a b → ¬ R b a) :
    (order.map (·.1)).findSome? get? = some v ↔ ∃ x, IsFirst R sources get? v x := by
  rw [List.findSome?_map, List.findSome?_eq_some_iff]
  constructor
  · rintro ⟨before, x, after, rfl, hx, hbefore⟩
    refine ⟨x, hperm.mem_iff.mp (by simp), hx, fun y hy hfound => ?_⟩
    have hy := hperm.mem_iff.mpr hy
    rw [List.mem_append, List.mem_cons] at hy
    rcases hy with hy | rfl | hy
    · exact absurd (hbefore y hy) hfound
    · exact .inl rfl
    · exact .inr ((List.pairwise_cons.mp (List.pairwise_append.mp horder).2.1).1 y hy)
  · rintro ⟨x, hmem, hx, hfirst⟩
    obtain ⟨before, after, rfl⟩ := List.append_of_mem (hperm.mem_iff.mpr hmem)
    refine ⟨before, x, after, rfl, hx, fun y hy => ?_⟩
    have hyx : R y x :=
      (List.pairwise_append.mp horder).2.2 y hy x List.mem_cons_self
    refine Option.eq_none_iff_forall_ne_some.mpr fun w hw => ?_
    have hfound : get? y.1 ≠ none := by
      change get? y.1 = some w at hw
      rw [hw]
      exact nofun
    rcases hfirst y (hperm.mem_iff.mp (List.mem_append_left _ hy)) hfound with rfl | hxy
    · exact hasymm _ _ hyx hyx
    · exact hasymm _ _ hyx hxy

theorem findSome?_sort_eq_some_iff :
    (Source.sort sources).findSome? get? = some v ↔
      ∃ x, IsFirst Earlier sources get? v x := by
  rw [sort_eq]
  exact findSome?_eq_some_iff_isFirst (ranked_perm _) (ranked_pairwise _)
    fun _ _ => Earlier.asymm

theorem findSome?_reverse_sort_eq_some_iff :
    (Source.sort sources).reverse.findSome? get? = some v ↔
      ∃ x, IsFirst Later sources get? v x := by
  rw [sort_eq, ← List.map_reverse]
  exact findSome?_eq_some_iff_isFirst ((List.reverse_perm _).trans (ranked_perm _))
    (List.pairwise_reverse.mpr (ranked_pairwise _)) fun _ _ => Earlier.asymm

theorem findSome?_reverse_sort_eq_none_iff :
    (Source.sort sources).reverse.findSome? get? = none ↔ ∀ s ∈ sources, get? s = none := by
  simp only [List.findSome?_eq_none_iff, List.mem_reverse, mem_sort_iff]

end IsFirst

/-! ## Loading -/

def Source.failure? (s : Source) : Option Error :=
  match s.layer with
  | .error e => some e
  | .ok _ => none

def Source.value? (s : Source) (f : Field) : Option f.Value := s.layer.toOption.bind (·.value? f)

def Source.Loads (s : Source) : Prop := ∃ l, s.layer = .ok l

theorem mapM_layer_eq_error_iff {sources : List Source} {e : Error} :
    sources.mapM (·.layer) = .error e ↔ sources.findSome? Source.failure? = some e := by
  induction sources with
  | nil => simp [pure, Except.pure]
  | cons s sources ih =>
    rw [List.mapM_cons, List.findSome?_cons]
    cases hs : s.layer with
    | error e => simp [bind, Except.bind, Source.failure?, hs]
    | ok l =>
      simp only [Source.failure?, hs, ← ih]
      cases sources.mapM (·.layer) <;> simp [bind, Except.bind, pure, Except.pure]

theorem mapM_layer_eq_ok_iff {sources : List Source} {layers : List Layer} :
    sources.mapM (·.layer) = .ok layers ↔ sources.map (·.layer) = layers.map .ok := by
  induction sources generalizing layers with
  | nil => cases layers <;> simp [pure, Except.pure]
  | cons s sources ih =>
    rw [List.mapM_cons]
    cases hs : s.layer with
    | error e => cases layers <;> simp [bind, Except.bind, hs]
    | ok l =>
      cases hr : sources.mapM (·.layer) with
      | error e => cases layers <;> simp [bind, Except.bind, hs, ← ih, hr]
      | ok rest => cases layers <;> simp [bind, Except.bind, pure, Except.pure, hs, ← ih, hr]

theorem exists_layers_iff {sources : List Source} :
    (∃ layers, (Source.sort sources).mapM (·.layer) = .ok layers) ↔
      ∀ s ∈ sources, s.Loads := by
  constructor
  · rintro ⟨layers, h⟩ s hs
    have hl := List.mem_map_of_mem (f := Source.layer) (mem_sort_iff.mpr hs)
    rw [mapM_layer_eq_ok_iff.mp h, List.mem_map] at hl
    obtain ⟨l, -, hl⟩ := hl
    exact ⟨l, hl.symm⟩
  · intro h
    cases hr : (Source.sort sources).mapM (·.layer) with
    | ok layers => exact ⟨layers, rfl⟩
    | error e =>
      obtain ⟨s, hs, he⟩ := List.exists_of_findSome?_eq_some (mapM_layer_eq_error_iff.mp hr)
      obtain ⟨l, hl⟩ := h s (mem_sort_iff.mp hs)
      rw [Source.failure?, hl] at he
      cases he

/-! ## The configuration -/

/-- What the sources set a field to, all of them loaded: what the last one says that sets it. -/
inductive Counts (sources : List Source) (f : Field) : Option f.Value → Prop where
  | unset : (∀ s ∈ sources, s.value? f = none) → Counts sources f none
  | set {v : f.Value} {x : Placed} : IsFirst Later sources (·.value? f) v x →
      Counts sources f (some v)

theorem counts_iff {sources : List Source} {f : Field} {v : Option f.Value} :
    Counts sources f v ↔ (Source.sort sources).reverse.findSome? (·.value? f) = v := by
  constructor
  · rintro (h | h)
    · exact findSome?_reverse_sort_eq_none_iff.mpr h
    · exact findSome?_reverse_sort_eq_some_iff.mpr ⟨_, h⟩
  · rintro h
    cases v with
    | none => exact .unset (findSome?_reverse_sort_eq_none_iff.mp h)
    | some v =>
      obtain ⟨x, h⟩ := findSome?_reverse_sort_eq_some_iff.mp h
      exact .set h

/-- A configuration whose every field is made of what counts for it. -/
def Describes (sources : List Source) (c : Resolved) : Prop :=
  ∀ f, ∃ v, Counts sources f v ∧ c.value f = f.resolve v

theorem describes_iff {sources : List Source} {layers : List Layer} {c : Resolved}
    (h : (Source.sort sources).mapM (·.layer) = .ok layers) :
    Describes sources c ↔ c = (Layer.mergeAll layers).described := by
  have hcounts (f : Field) : (Source.sort sources).reverse.findSome? (·.value? f) =
      (Layer.mergeAll layers).value? f := by
    have hl := mapM_layer_eq_ok_iff.mp h
    calc (Source.sort sources).reverse.findSome? (·.value? f)
      _ = ((Source.sort sources).map Source.layer).reverse.findSome?
            (·.toOption.bind (·.value? f)) := by
        rw [← List.map_reverse, List.findSome?_map]
        rfl
      _ = layers.reverse.findSome? (·.value? f) := by
        rw [hl, ← List.map_reverse, List.findSome?_map]
        rfl
      _ = (Layer.mergeAll layers).value? f := (Layer.value?_mergeAll layers f).symm
  have hvalue (f : Field) : (Layer.mergeAll layers).described.value f =
      f.resolve ((Layer.mergeAll layers).value? f) :=
    Layer.value_described _ f
  constructor
  · intro hc
    refine Resolved.ext_value fun f => ?_
    obtain ⟨v, hv, hf⟩ := hc f
    rw [hf, hvalue, ← hcounts, counts_iff.mp hv]
  · rintro rfl f
    exact ⟨_, counts_iff.mpr (hcounts f), hvalue f⟩

/-- The environment counts over the file, and both over the defaults. -/
theorem load_eq (path : String) (content : Source.FileContent) (env : Environment) :
    load path content env = (do
      let fromFile ← Source.fileLayer path content
      let fromEnv ← env.layer
      (fromFile.merge fromEnv).resolve) := by
  have hmerge (l m : Layer) : Layer.mergeAll [{}, l, m] = l.merge m := by
    simp only [Layer.mergeAll, List.foldl_cons, List.foldl_nil, Layer.empty_merge]
  have hsort : Source.sort [.defaults, .file path content, .environment env] =
      [.defaults, .file path content, .environment env] :=
    List.mergeSort_of_pairwise
      (by simp [Source.defaults, Source.file, Source.environment, Precedence.rank])
  rw [load, Source.loadAll, hsort]
  simp only [List.mapM_cons, List.mapM_nil, Source.defaults, Source.file, Source.environment,
    bind_assoc, pure_bind, ← hmerge]
  rfl

/-- Loading fails with the failure of the first source that has one, or else if what the sources
describe is not usable. -/
theorem loadAll_eq_error_iff {sources : List Source} {e : Error} :
    Source.loadAll sources = .error e ↔
      (∃ x, IsFirst Earlier sources Source.failure? e x) ∨
        (∀ s ∈ sources, s.Loads) ∧ e = .oidcUnspecified ∧
          ∃ c, Describes sources c ∧ c.oidc.isUsable = false := by
  rw [← findSome?_sort_eq_some_iff, ← mapM_layer_eq_error_iff, ← exists_layers_iff,
    Source.loadAll]
  cases hr : (Source.sort sources).mapM (·.layer) with
  | error e' => simp [bind, Except.bind]
  | ok layers =>
    simp only [bind, Except.bind, Layer.resolve_eq, describes_iff hr]
    constructor
    · intro h
      split at h
      next => cases h
      next hu =>
        cases h
        exact .inr ⟨⟨layers, rfl⟩, rfl, _, rfl, Bool.eq_false_iff.mpr hu⟩
    · rintro (h | ⟨-, rfl, _, rfl, hu⟩)
      · cases h
      · rw [hu]
        rfl

theorem loadAll_eq_ok_iff {sources : List Source} {c : Resolved} :
    Source.loadAll sources = .ok c ↔
      (∀ s ∈ sources, s.Loads) ∧ Describes sources c ∧ c.oidc.isUsable = true := by
  rw [← exists_layers_iff, Source.loadAll]
  cases hr : (Source.sort sources).mapM (·.layer) with
  | error e => simp [bind, Except.bind]
  | ok layers =>
    simp only [bind, Except.bind, Layer.resolve_eq, describes_iff hr]
    constructor
    · intro h
      split at h
      next hu =>
        cases h
        exact ⟨⟨layers, rfl⟩, rfl, hu⟩
      next => cases h
    · rintro ⟨-, rfl, hu⟩
      rw [hu]
      rfl

/-- Sources of distinct precedences have one order, however they are listed. -/
theorem sort_eq_of_perm {sources sources' : List Source} (hperm : sources'.Perm sources)
    (hdistinct : (sources.map (·.precedence)).Nodup) :
    Source.sort sources' = Source.sort sources := by
  have hsorted (sources : List Source) : (Source.sort sources).Pairwise fun a b =>
      a.precedence.rank ≤ b.precedence.rank := by
    rw [sort_eq, List.pairwise_map]
    refine (ranked_pairwise sources).imp fun h => ?_
    rcases h with h | ⟨h, -⟩
    · exact Nat.le_of_lt h
    · exact Nat.le_of_eq (congrArg _ h)
  refine List.Perm.eq_of_pairwise (fun a b ha hb hab hba => ?_) (hsorted _) (hsorted _) ?_
  · have ha := hperm.mem_iff.mp (mem_sort_iff.mp ha)
    exact List.inj_on_of_nodup_map hdistinct ha (mem_sort_iff.mp hb)
      (Precedence.rank_injective (Nat.le_antisymm hab hba))
  · exact (List.mergeSort_perm _ _).trans (hperm.trans (List.mergeSort_perm _ _).symm)

/-- Loading fails with the failure of the first source that has one, or else if what the sources
describe is not usable; otherwise it gives what they describe, every field by itself. Sources of
distinct precedences may be listed in any order. Merging is associative, and the empty layer is
neutral on both of its sides. -/
theorem loadAll_by_precedence (sources : List Source) :
    (∀ e, Source.loadAll sources = .error e ↔
      (∃ x, IsFirst Earlier sources Source.failure? e x) ∨
        (∀ s ∈ sources, s.Loads) ∧ e = .oidcUnspecified ∧
          ∃ c, Describes sources c ∧ c.oidc.isUsable = false) ∧
    (∀ c, Source.loadAll sources = .ok c ↔
      (∀ s ∈ sources, s.Loads) ∧ Describes sources c ∧ c.oidc.isUsable = true) ∧
    (∀ sources', sources'.Perm sources → (sources.map (·.precedence)).Nodup →
      Source.loadAll sources' = Source.loadAll sources) ∧
    (∀ a b c : Layer, (a.merge b).merge c = a.merge (b.merge c)) ∧
    ∀ l : Layer, Layer.merge {} l = l ∧ l.merge {} = l := by
  refine ⟨fun _ => loadAll_eq_error_iff, fun _ => loadAll_eq_ok_iff,
    fun sources' hperm hdistinct => ?_, Layer.merge_assoc,
    fun l => ⟨l.empty_merge, l.merge_empty⟩⟩
  rw [Source.loadAll, sort_eq_of_perm hperm hdistinct]
  rfl

/-- The environment counts over the file wherever it stands in the list. -/
theorem file_environment_swapped :
    let file : Source := ⟨.file, .ok { http := some { host := "::1", port := some 81 } }⟩
    let environment : Source := ⟨.environment, .ok { http := some { port := some 82 } }⟩
    [environment, file].Perm [file, environment] ∧
      ([file, environment].map (·.precedence)).Nodup ∧
      Source.loadAll [environment, file] = Source.loadAll [file, environment] ∧
      (Source.loadAll [file, environment]).toOption.map (·.http) = some ⟨"::1", 82⟩ := by
  intro file environment
  refine ⟨.swap _ _ _, by decide, ?_, ?_⟩
  · exact (loadAll_by_precedence _).2.2.1 _ (.swap _ _ _) (by decide)
  · have hsort : Source.sort [file, environment] = [file, environment] :=
      List.mergeSort_of_pairwise (by simp [file, environment, Precedence.rank])
    rw [Source.loadAll, hsort]
    rfl

end FederatedLogin.Config
