import Mathlib.Tactic.ByContra
import FederatedLogin.Config.Sources
import FederatedLogin.Proofs.Config.Fields

/-! # Blank values among layers

A blank value counts as unset when a layer is resolved, but not when layers are merged, where it
replaces what the layers before it say. Taking the blank values out of the layers beforehand
therefore gives another configuration exactly where one of them hides a usable value.
-/

namespace FederatedLogin.Config

namespace Field

/-- Whether a value is one that resolving takes for unset. -/
def isVoid : (f : Field) → f.Value → Bool
  | .baseUrl, s => (tidyBaseUrl s).isEmpty
  | .database, s => (Text.trim s).isEmpty
  | .jsonrpcPath, s | .discoveryEndpoint, s | .authorizationEndpoint, s | .tokenEndpoint, s
  | .userinfoEndpoint, s => Text.isAllBlank s
  | .cookieName, s => s.isEmpty
  | .host, _ | .port, _ | .level, _ | .timeoutMs, _ | .syncOrganizations, _ | .oidcEnabled, _
  | .cookieSecure, _ => false

theorem resolve_void {f : Field} {v : f.Value} (h : f.isVoid v = true) :
    f.resolve (some v) = f.resolve none := by
  have hempty : ∀ {s : String}, s.isEmpty = true → nonEmpty s = false := by simp [nonEmpty]
  have hblank : ∀ {s : String}, Text.isAllBlank s = true → notBlank s = false := by
    simp [notBlank]
  cases f with
  | host | port | level | timeoutMs | syncOrganizations | oidcEnabled | cookieSecure => cases h
  | baseUrl =>
    rw [resolve_baseUrl, Option.map_some, Option.filter_some_neg (hempty h)]
    rfl
  | database =>
    rw [resolve_database, Option.map_some, Option.filter_some_neg (hempty h)]
    rfl
  | jsonrpcPath =>
    rw [resolve_jsonrpcPath, Option.filter_some_neg (hblank h)]
    rfl
  | discoveryEndpoint | authorizationEndpoint | tokenEndpoint | userinfoEndpoint =>
    exact Option.filter_some_neg (hblank h)
  | cookieName =>
    rw [resolve_cookieName, Option.filter_some_neg (hempty h)]
    rfl

end Field

namespace Layer

variable {layers before after : List Layer} {l : Layer} {f : Field}

/-! ## Layers without void values -/

def usable? (l : Layer) (f : Field) : Option f.Value := (l.value? f).filter (!f.isVoid ·)

/-- The layer with its void values unset. -/
def scrub (l : Layer) : Layer where
  http := l.http
  logging := l.logging
  odoo := l.odoo.map fun o => { o with
    baseUrl := o.baseUrl.filter (!Field.isVoid .baseUrl ·)
    database := o.database.filter (!Field.isVoid .database ·)
    jsonrpcPath := o.jsonrpcPath.filter (!Field.isVoid .jsonrpcPath ·) }
  oidc := l.oidc.map fun o => { o with
    discoveryEndpoint := o.discoveryEndpoint.filter (!Field.isVoid .discoveryEndpoint ·)
    authorizationEndpoint := o.authorizationEndpoint.filter (!Field.isVoid .authorizationEndpoint ·)
    tokenEndpoint := o.tokenEndpoint.filter (!Field.isVoid .tokenEndpoint ·)
    userinfoEndpoint := o.userinfoEndpoint.filter (!Field.isVoid .userinfoEndpoint ·) }
  session := l.session.map fun s => { s with
    cookieName := s.cookieName.filter (!Field.isVoid .cookieName ·) }

theorem usable?_eq_some_iff {v : f.Value} :
    l.usable? f = some v ↔ l.value? f = some v ∧ f.isVoid v = false := by
  simp [usable?, Option.filter_eq_some_iff]

theorem usable?_eq_none_of_unset (h : l.value? f = none) : l.usable? f = none := by
  rw [usable?, h, Option.filter_none]

theorem value?_scrub (l : Layer) (f : Field) : l.scrub.value? f = l.usable? f := by
  -- a field none of whose values are void keeps its value
  have hkept : ∀ {α : Type} (o : Option α), o = o.filter fun _ => !false := by
    intro α o
    cases o <;> rfl
  obtain ⟨http, logging, odoo, oidc, session⟩ := l
  cases f with
  | host | port | level => exact hkept _
  | timeoutMs | syncOrganizations => cases odoo <;> exact hkept _
  | oidcEnabled => cases oidc <;> exact hkept _
  | cookieSecure => cases session <;> exact hkept _
  | baseUrl | database | jsonrpcPath => cases odoo <;> rfl
  | discoveryEndpoint | authorizationEndpoint | tokenEndpoint | userinfoEndpoint =>
    cases oidc <;> rfl
  | cookieName => cases session <;> rfl

/-- Of layers whose void values are unset the last one with a usable value wins. -/
theorem value?_mergeAll_scrub (layers : List Layer) (f : Field) :
    (mergeAll (layers.map scrub)).value? f = layers.reverse.findSome? (·.usable? f) := by
  rw [value?_mergeAll, ← List.map_reverse, List.findSome?_map]
  congr 1
  funext l
  exact value?_scrub l f

/-! ## The last layer that sets a field -/

theorem findSome?_reverse_of_unset {α : Type} {get : Layer → Option α}
    (h : ∀ m ∈ after, get m = none) : (before ++ l :: after).reverse.findSome? get =
      (get l).or (before.reverse.findSome? get) := by
  have hafter : after.reverse.findSome? get = none := by simpa using h
  rw [List.reverse_append, List.reverse_cons, List.append_assoc, List.findSome?_append, hafter,
    Option.none_or, List.findSome?_append, List.findSome?_singleton]

theorem exists_last_of_value? {v : f.Value} (h : (mergeAll layers).value? f = some v) :
    ∃ before l after, layers = before ++ l :: after ∧ l.value? f = some v ∧
      ∀ m ∈ after, m.value? f = none := by
  rw [value?_mergeAll] at h
  obtain ⟨after, l, before, hsplit, hl, hafter⟩ := List.findSome?_eq_some_iff.mp h
  refine ⟨before.reverse, l, after.reverse, ?_, hl, ?_⟩
  · rw [← List.reverse_reverse layers, hsplit]
    simp
  · simpa using hafter

/-- A void value for a field, given last, hides a usable one that makes a difference. -/
def Hides (layers : List Layer) (f : Field) : Prop :=
  ∃ before l after void usable,
    layers = before ++ l :: after ∧ (∀ m ∈ after, m.value? f = none) ∧
    l.value? f = some void ∧ f.isVoid void = true ∧
    before.reverse.findSome? (·.usable? f) = some usable ∧
    f.resolve (some usable) ≠ f.resolve none

/-- A void value given last counts unless void values are unset, and then the last usable value
before it does. -/
theorem value?_of_void (before : List Layer) {void : f.Value}
    (hafter : ∀ m ∈ after, m.value? f = none) (hl : l.value? f = some void)
    (hvoid : f.isVoid void = true) :
    (mergeAll (before ++ l :: after)).value? f = some void ∧
    (mergeAll ((before ++ l :: after).map scrub)).value? f =
      before.reverse.findSome? (·.usable? f) := by
  have hl' : l.usable? f = none := by rw [usable?, hl, Option.filter_some_neg (by simp [hvoid])]
  constructor
  · rw [value?_mergeAll, findSome?_reverse_of_unset hafter, hl, Option.some_or]
  · rw [value?_mergeAll_scrub,
      findSome?_reverse_of_unset fun m hm => usable?_eq_none_of_unset (hafter m hm), hl',
      Option.none_or]

/-- Unsetting void values leaves what a field is set to, unless a void value is given last. -/
theorem value?_scrub_eq_or_void (layers : List Layer) (f : Field) :
    (mergeAll (layers.map scrub)).value? f = (mergeAll layers).value? f ∨
    ∃ before l after void, layers = before ++ l :: after ∧ (∀ m ∈ after, m.value? f = none) ∧
      l.value? f = some void ∧ f.isVoid void = true := by
  cases hlast : (mergeAll layers).value? f with
  | none =>
    left
    rw [value?_mergeAll] at hlast
    rw [value?_mergeAll_scrub, List.findSome?_eq_none_iff]
    intro l hl
    exact usable?_eq_none_of_unset (List.findSome?_eq_none_iff.mp hlast l hl)
  | some v =>
    obtain ⟨before, l, after, rfl, hl, hafter⟩ := exists_last_of_value? hlast
    cases hvoid : f.isVoid v with
    | false =>
      left
      rw [value?_mergeAll_scrub,
        findSome?_reverse_of_unset fun m hm => usable?_eq_none_of_unset (hafter m hm),
        usable?_eq_some_iff.mpr ⟨hl, hvoid⟩, Option.some_or]
    | true => exact .inr ⟨before, l, after, v, rfl, hafter, hl, hvoid⟩

/-- The fields that unsetting void values changes are those with a hidden value. -/
theorem hides_iff : Hides layers f ↔
    (mergeAll (layers.map scrub)).described.value f ≠ (mergeAll layers).described.value f := by
  rw [value_described, value_described]
  constructor
  · rintro ⟨before, l, after, void, usable, rfl, hafter, hl, hvoid, hbefore, hne⟩
    obtain ⟨hmerged, hscrub⟩ := value?_of_void before hafter hl hvoid
    rw [hmerged, hscrub, hbefore, Field.resolve_void hvoid]
    exact hne
  · intro hne
    rcases value?_scrub_eq_or_void layers f with
      heq | ⟨before, l, after, void, rfl, hafter, hl, hvoid⟩
    · rw [heq] at hne
      exact absurd rfl hne
    · obtain ⟨hmerged, hscrub⟩ := value?_of_void before hafter hl hvoid
      rw [hmerged, Field.resolve_void hvoid, hscrub] at hne
      cases hbefore : before.reverse.findSome? (·.usable? f) with
      | none =>
        rw [hbefore] at hne
        exact absurd rfl hne
      | some usable =>
        rw [hbefore] at hne
        exact ⟨before, l, after, void, usable, rfl, hafter, hl, hvoid, hbefore, hne⟩

/-! ## The configuration -/

theorem Hides.value_eq (h : Hides layers f) :
    (mergeAll layers).described.value f = f.resolve none := by
  obtain ⟨before, l, after, void, _, rfl, hafter, hl, hvoid, -⟩ := h
  rw [value_described, (value?_of_void before hafter hl hvoid).1, Field.resolve_void hvoid]

theorem value_scrub_of_ne (layers : List Layer) (f : Field)
    (h : (mergeAll layers).described.value f ≠ f.resolve none) :
    (mergeAll (layers.map scrub)).described.value f = (mergeAll layers).described.value f := by
  by_contra hne
  exact h (hides_iff.mpr hne).value_eq

theorem not_hides_oidcEnabled : ¬ Hides layers .oidcEnabled := by
  rintro ⟨_, _, _, _, _, -, -, -, hvoid, -⟩
  cases hvoid

/-- What OpenID Connect needs is not lost when void values are unset. -/
theorem isUsable_scrub (h : (mergeAll layers).described.oidc.isUsable = true) :
    (mergeAll (layers.map scrub)).described.oidc.isUsable = true := by
  have henabled : (mergeAll (layers.map scrub)).described.oidc.enabled =
      (mergeAll layers).described.oidc.enabled :=
    not_not.mp fun hne => not_hides_oidcEnabled (hides_iff.mpr hne)
  have hkept : ∀ {o o' : Option String}, (o ≠ none → o' = o) → o.isSome = true →
      o'.isSome = true := by
    intro o o' ho hsome
    rwa [ho (Option.isSome_iff_ne_none.mp hsome)]
  have hdiscovery := hkept (value_scrub_of_ne layers .discoveryEndpoint)
  have hauthorization := hkept (value_scrub_of_ne layers .authorizationEndpoint)
  have htoken := hkept (value_scrub_of_ne layers .tokenEndpoint)
  have huserinfo := hkept (value_scrub_of_ne layers .userinfoEndpoint)
  simp only [OidcConfig.isUsable, OidcConfig.isFullySpecified, Bool.or_eq_true, Bool.and_eq_true,
    henabled] at h ⊢
  rcases h with (h | h) | ⟨⟨ha, ht⟩, hu⟩
  · exact .inl (.inl h)
  · exact .inl (.inr (hdiscovery h))
  · exact .inr ⟨⟨hauthorization ha, htoken ht⟩, huserinfo hu⟩

/-- Unsetting the void values of all layers before they are merged changes a field exactly where one
of them hides a usable value. It changes the configuration exactly where this happens to some field
and a configuration is then found. -/
theorem scrub_changes_iff_hides (layers : List Layer) :
    (∀ f, (mergeAll (layers.map scrub)).described.value f ≠ (mergeAll layers).described.value f ↔
      Hides layers f) ∧
    ((mergeAll (layers.map scrub)).resolve ≠ (mergeAll layers).resolve ↔
      (∃ f, Hides layers f) ∧ ∃ c, (mergeAll (layers.map scrub)).resolve = .ok c) := by
  refine ⟨fun f => hides_iff.symm, ?_⟩
  constructor
  · intro hne
    have husable : (mergeAll (layers.map scrub)).described.oidc.isUsable = true := by
      by_contra hscrub
      have hplain : (mergeAll layers).described.oidc.isUsable ≠ true := hscrub ∘ isUsable_scrub
      rw [resolve_eq, resolve_eq, if_neg hscrub, if_neg hplain] at hne
      exact hne rfl
    refine ⟨?_, _, by rw [resolve_eq, if_pos husable]⟩
    by_contra hhides
    have heq : (mergeAll (layers.map scrub)).described = (mergeAll layers).described :=
      Resolved.ext_value fun f => not_not.mp fun hf => hhides ⟨f, hides_iff.mpr hf⟩
    rw [resolve_eq, resolve_eq, heq] at hne
    exact hne rfl
  · rintro ⟨⟨f, hf⟩, c, hc⟩ heq
    have hscrub : (mergeAll (layers.map scrub)).described = c := (resolve_eq_ok_iff.mp hc).1
    have hplain : (mergeAll layers).described = c := (resolve_eq_ok_iff.mp (heq ▸ hc)).1
    exact hides_iff.mp hf (by rw [hscrub, hplain])

/-- A variable of blanks hides the database that a file names. -/
theorem blank_variable_hides_database :
    ∃ prod blank : Layer,
      (Source.fileLayer "server.toml"
        (.bytes "[odoo]\ndatabase = \"prod\"\n".toUTF8.toList)).toOption = some prod ∧
      (Environment.layer [("FEDLINK_SERVER_ODOO_DB", "  ")]).toOption = some blank ∧
      (mergeAll ([prod, blank].map scrub)).resolve ≠ (mergeAll [prod, blank]).resolve := by
  refine ⟨{ odoo := some { database := some "prod" } },
    { http := some {}, logging := some {}, odoo := some { database := some "  " },
      oidc := some {}, session := some {} }, by decide +kernel, by decide +kernel, ?_⟩
  intro heq
  have hdatabase := congrArg (fun c => c.toOption.bind (·.odoo.database)) heq
  revert hdatabase
  decide +kernel

end Layer

end FederatedLogin.Config
