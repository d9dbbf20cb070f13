import FederatedLogin.Config.Resolve

/-! # Fields of a configuration

Every field goes its own way from the layers to the configuration. Merging takes its value from the
later layer that sets it, and what is made of that value depends on no other field, nor on whether
its section was given.
-/

namespace FederatedLogin.Config

inductive Field where
  | host
  | port
  | level
  | baseUrl
  | database
  | jsonrpcPath
  | timeoutMs
  | syncOrganizations
  | oidcEnabled
  | discoveryEndpoint
  | authorizationEndpoint
  | tokenEndpoint
  | userinfoEndpoint
  | cookieName
  | cookieSecure

/-- What a layer may set a field to. -/
abbrev Field.Value : Field → Type
  | .host | .level | .baseUrl | .database | .jsonrpcPath | .discoveryEndpoint
  | .authorizationEndpoint | .tokenEndpoint | .userinfoEndpoint | .cookieName => String
  | .port => UInt16
  | .timeoutMs => Int64
  | .syncOrganizations | .oidcEnabled | .cookieSecure => Bool

/-- What a field is in a configuration. -/
abbrev Field.Resolved : Field → Type
  | .host | .level | .jsonrpcPath | .cookieName => String
  | .baseUrl | .database | .discoveryEndpoint | .authorizationEndpoint | .tokenEndpoint
  | .userinfoEndpoint => Option String
  | .port => UInt16
  | .timeoutMs => Nat
  | .syncOrganizations | .oidcEnabled | .cookieSecure => Bool

def Layer.value? (l : Layer) : (f : Field) → Option f.Value
  | .host => l.http.bind (·.host)
  | .port => l.http.bind (·.port)
  | .level => l.logging.bind (·.level)
  | .baseUrl => l.odoo.bind (·.baseUrl)
  | .database => l.odoo.bind (·.database)
  | .jsonrpcPath => l.odoo.bind (·.jsonrpcPath)
  | .timeoutMs => l.odoo.bind (·.timeoutMs)
  | .syncOrganizations => l.odoo.bind (·.syncOrganizations)
  | .oidcEnabled => l.oidc.bind (·.enabled)
  | .discoveryEndpoint => l.oidc.bind (·.discoveryEndpoint)
  | .authorizationEndpoint => l.oidc.bind (·.authorizationEndpoint)
  | .tokenEndpoint => l.oidc.bind (·.tokenEndpoint)
  | .userinfoEndpoint => l.oidc.bind (·.userinfoEndpoint)
  | .cookieName => l.session.bind (·.cookieName)
  | .cookieSecure => l.session.bind (·.cookieSecure)

/-- The layer that says nothing but what it sets one field to. -/
def Layer.only : (f : Field) → Option f.Value → Layer
  | .host, v => { http := some { host := v } }
  | .port, v => { http := some { port := v } }
  | .level, v => { logging := some { level := v } }
  | .baseUrl, v => { odoo := some { baseUrl := v } }
  | .database, v => { odoo := some { database := v } }
  | .jsonrpcPath, v => { odoo := some { jsonrpcPath := v } }
  | .timeoutMs, v => { odoo := some { timeoutMs := v } }
  | .syncOrganizations, v => { odoo := some { syncOrganizations := v } }
  | .oidcEnabled, v => { oidc := some { enabled := v } }
  | .discoveryEndpoint, v => { oidc := some { discoveryEndpoint := v } }
  | .authorizationEndpoint, v => { oidc := some { authorizationEndpoint := v } }
  | .tokenEndpoint, v => { oidc := some { tokenEndpoint := v } }
  | .userinfoEndpoint, v => { oidc := some { userinfoEndpoint := v } }
  | .cookieName, v => { session := some { cookieName := v } }
  | .cookieSecure, v => { session := some { cookieSecure := v } }

def Resolved.value (c : Resolved) : (f : Field) → f.Resolved
  | .host => c.http.host
  | .port => c.http.port
  | .level => c.logging.level
  | .baseUrl => c.odoo.baseUrl
  | .database => c.odoo.database
  | .jsonrpcPath => c.odoo.jsonrpcPath
  | .timeoutMs => c.odoo.timeoutMs
  | .syncOrganizations => c.odoo.syncOrganizations
  | .oidcEnabled => c.oidc.enabled
  | .discoveryEndpoint => c.oidc.discoveryEndpoint
  | .authorizationEndpoint => c.oidc.authorizationEndpoint
  | .tokenEndpoint => c.oidc.tokenEndpoint
  | .userinfoEndpoint => c.oidc.userinfoEndpoint
  | .cookieName => c.session.cookieName
  | .cookieSecure => c.session.cookieSecure

/-- The configuration that a layer describes, whether or not it is usable. -/
def Layer.described (l : Layer) : Resolved where
  http := (l.http.getD {}).resolve
  logging := (l.logging.getD {}).resolve
  odoo := (l.odoo.getD {}).resolve
  oidc := (l.oidc.getD {}).resolve
  session := (l.session.getD {}).resolve

/-- What a field becomes that is set to a value, or that is unset. -/
def Field.resolve (f : Field) (v : Option f.Value) : f.Resolved :=
  (Layer.only f v).described.value f

theorem Layer.resolve_eq (l : Layer) : l.resolve =
    if l.described.oidc.isUsable then .ok l.described else .error .oidcUnspecified :=
  rfl

theorem Layer.resolve_eq_ok_iff {l : Layer} {c : Resolved} :
    l.resolve = .ok c ↔ l.described = c ∧ c.oidc.isUsable = true := by
  rw [resolve_eq]
  constructor
  · intro h
    split at h
    next hu =>
      obtain rfl := Except.ok.inj h
      exact ⟨rfl, hu⟩
    next => cases h
  · rintro ⟨rfl, hu⟩
    rw [if_pos hu]

/-- The fields are all that there is to a configuration. -/
theorem Resolved.ext_value {c d : Resolved} (h : ∀ f, c.value f = d.value f) : c = d := by
  obtain ⟨⟨_, _⟩, ⟨_⟩, ⟨_, _, _, _, _⟩, ⟨_, _, _, _, _⟩, ⟨_, _⟩⟩ := c
  obtain ⟨⟨_, _⟩, ⟨_⟩, ⟨_, _, _, _, _⟩, ⟨_, _, _, _, _⟩, ⟨_, _⟩⟩ := d
  obtain rfl := h .host
  obtain rfl := h .port
  obtain rfl := h .level
  obtain rfl := h .baseUrl
  obtain rfl := h .database
  obtain rfl := h .jsonrpcPath
  obtain rfl := h .timeoutMs
  obtain rfl := h .syncOrganizations
  obtain rfl := h .oidcEnabled
  obtain rfl := h .discoveryEndpoint
  obtain rfl := h .authorizationEndpoint
  obtain rfl := h .tokenEndpoint
  obtain rfl := h .userinfoEndpoint
  obtain rfl := h .cookieName
  obtain rfl := h .cookieSecure
  rfl

/-! ## One field in the configuration -/

theorem Layer.value_described (l : Layer) (f : Field) :
    l.described.value f = f.resolve (l.value? f) := by
  obtain ⟨http, logging, odoo, oidc, session⟩ := l
  -- a section that is left out resolves like one in which nothing is set
  cases f with
  | host | port => cases http <;> rfl
  | level => cases logging <;> rfl
  | baseUrl | database | jsonrpcPath | timeoutMs | syncOrganizations => cases odoo <;> rfl
  | oidcEnabled | discoveryEndpoint | authorizationEndpoint | tokenEndpoint | userinfoEndpoint =>
    cases oidc <;> rfl
  | cookieName | cookieSecure => cases session <;> rfl

namespace Field

theorem resolve_baseUrl (v : Option String) :
    Field.resolve .baseUrl v = (v.map tidyBaseUrl).filter nonEmpty :=
  rfl

theorem resolve_database (v : Option String) :
    Field.resolve .database v = (v.map Text.trim).filter nonEmpty :=
  rfl

theorem resolve_jsonrpcPath (v : Option String) : Field.resolve .jsonrpcPath v =
    ((v.filter notBlank).map rootedPath).getD defaultJsonrpcPath :=
  rfl

theorem resolve_cookieName (v : Option String) :
    Field.resolve .cookieName v = (v.filter nonEmpty).getD defaultCookieName :=
  rfl

end Field

/-! ## One field in merged layers -/

section Merge

variable {α β : Type} {merge : α → α → α}

theorem mergeSection_bind {get : α → Option β}
    (h : ∀ base later, get (merge base later) = (get later).or (get base))
    (base later : Option α) :
    (mergeSection merge base later).bind get = (later.bind get).or (base.bind get) := by
  match base, later with
  | none, none => rfl
  | some _, none => rfl
  | none, some later => exact (Option.or_none).symm
  | some base, some later => exact h base later

theorem mergeSection_assoc (h : ∀ x y z, merge (merge x y) z = merge x (merge y z))
    (x y z : Option α) : mergeSection merge (mergeSection merge x y) z =
      mergeSection merge x (mergeSection merge y z) := by
  match x, y, z with
  | none, none, none => rfl
  | some _, none, none => rfl
  | none, none, some _ => rfl
  | some _, none, some _ => rfl
  | none, some _, none => rfl
  | some _, some _, none => rfl
  | none, some _, some _ => rfl
  | some x, some y, some z => exact congrArg some (h x y z)

theorem mergeSection_none_left (x : Option α) : mergeSection merge none x = x := by
  cases x <;> rfl

theorem mergeSection_none_right (x : Option α) : mergeSection merge x none = x := by
  cases x <;> rfl

end Merge

namespace Layer

theorem value?_merge (base later : Layer) (f : Field) :
    (base.merge later).value? f = (later.value? f).or (base.value? f) := by
  cases f <;> exact mergeSection_bind (fun _ _ => rfl) _ _

theorem merge_assoc (a b c : Layer) : (a.merge b).merge c = a.merge (b.merge c) := by
  unfold merge
  congr 1
  · exact mergeSection_assoc (by simp [HttpLayer.merge, Option.or_assoc]) _ _ _
  · exact mergeSection_assoc (by simp [LoggingLayer.merge, Option.or_assoc]) _ _ _
  · exact mergeSection_assoc (by simp [OdooLayer.merge, Option.or_assoc]) _ _ _
  · exact mergeSection_assoc (by simp [OidcLayer.merge, Option.or_assoc]) _ _ _
  · exact mergeSection_assoc (by simp [SessionLayer.merge, Option.or_assoc]) _ _ _

theorem empty_merge (l : Layer) : Layer.merge {} l = l := by
  simp only [merge, mergeSection_none_left]

theorem merge_empty (l : Layer) : l.merge {} = l := by
  simp only [merge, mergeSection_none_right]

/-- Of layers that are merged the last one that sets a field wins. -/
theorem value?_mergeAll (layers : List Layer) (f : Field) :
    (mergeAll layers).value? f = layers.reverse.findSome? (·.value? f) := by
  suffices ∀ base : Layer, (layers.foldl merge base).value? f =
      (layers.reverse.findSome? (·.value? f)).or (base.value? f) by
    have hempty : ({} : Layer).value? f = none := by cases f <;> rfl
    rw [mergeAll, this, hempty, Option.or_none]
  induction layers with
  | nil => exact fun _ => rfl
  | cons l layers ih =>
    intro base
    rw [List.foldl_cons, ih, value?_merge, List.reverse_cons, List.findSome?_append,
      Option.or_assoc, List.findSome?_singleton]

end Layer

end FederatedLogin.Config
