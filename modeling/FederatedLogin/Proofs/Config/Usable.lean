import FederatedLogin.Odoo.Settings
import FederatedLogin.Proofs.Config.Precedence
import FederatedLogin.Proofs.Program.Path
import FederatedLogin.Proofs.Text.Strip

/-! # Loaded configurations are usable

Whatever the file and the environment say, a configuration that is loaded needs no further checks:
its texts are tidy, its time limit is positive, and what OpenID Connect needs is there. Settings for
Odoo can be made from it exactly if it has both an address and a database.
-/

namespace FederatedLogin

namespace Config

/-! ## Fields -/

theorem getLast?_tidyBaseUrl (s : String) : (tidyBaseUrl s).toList.getLast? ≠ some '/' := by
  intro h
  rw [tidyBaseUrl, String.toList_ofList] at h
  exact absurd (Text.not_of_getLast?_dropEndWhile h) (by decide)

theorem head?_rootedPath (s : String) : (rootedPath s).toList.head? = some '/' := by
  unfold rootedPath
  split
  next h => exact beq_iff_eq.mp h
  next =>
    rw [String.toList_append]
    rfl

theorem nonEmpty_iff {s : String} : nonEmpty s = true ↔ s ≠ "" := by
  simp [nonEmpty]

theorem notBlank_iff {s : String} : notBlank s = true ↔ Text.isAllBlank s = false := by
  simp [notBlank]

theorem tidied_of_filter {o : Option String} {tidy : String → String} {v : String}
    (h : (o.map tidy).filter nonEmpty = some v) : v ≠ "" ∧ ∃ s, tidy s = v := by
  obtain ⟨hv, hne⟩ := Option.filter_eq_some_iff.mp h
  obtain ⟨s, -, hs⟩ := Option.map_eq_some_iff.mp hv
  exact ⟨nonEmpty_iff.mp hne, s, hs⟩

/-- The time limit that is made of one asked for: that one if it is positive, else 8000. -/
structure IsTimeLimit (asked : Option Int64) (ms : Nat) : Prop where
  kept : ∀ n, asked = some n → 0 < n.toInt → (ms : Int) = n.toInt
  replaced : (∀ n, asked = some n → n.toInt ≤ 0) → ms = 8000

theorem isTimeLimit_resolveTimeout (asked : Option Int64) :
    IsTimeLimit asked (resolveTimeout asked) := by
  constructor
  · rintro n rfl hn
    rw [resolveTimeout, if_pos hn]
    omega
  · intro h
    cases asked with
    | none => rfl
    | some n =>
      have hn := h n rfl
      rw [resolveTimeout, if_neg (by omega)]
      rfl

theorem IsTimeLimit.bounds {asked : Option Int64} {ms : Nat} (h : IsTimeLimit asked ms) :
    1 ≤ ms ∧ (ms : Int) ≤ Int64.maxValue.toInt := by
  by_cases hpos : ∃ n, asked = some n ∧ 0 < n.toInt
  · obtain ⟨n, hn, hpos⟩ := hpos
    have hkept := h.kept n hn hpos
    have hle := n.toInt_le
    omega
  · have hreplaced : ms = 8000 := h.replaced fun n hn => by
      have hn' : ¬ 0 < n.toInt := fun hp => hpos ⟨n, hn, hp⟩
      omega
    subst hreplaced
    exact ⟨by decide, by decide⟩

/-! ## Configurations -/

/-- A configuration that can be used without further checks. -/
structure Resolved.Usable (c : Resolved) : Prop where
  baseUrl : ∀ u, c.odoo.baseUrl = some u → u ≠ "" ∧ u.toList.getLast? ≠ some '/'
  database : ∀ d, c.odoo.database = some d → d ≠ "" ∧ Text.IsTrimmed d
  jsonrpcPath : c.odoo.jsonrpcPath.toList.head? = some '/'
  timeoutMs : 1 ≤ c.odoo.timeoutMs ∧ (c.odoo.timeoutMs : Int) ≤ Int64.maxValue.toInt
  endpoints : ∀ e, (c.oidc.discoveryEndpoint = some e ∨ c.oidc.authorizationEndpoint = some e ∨
    c.oidc.tokenEndpoint = some e ∨ c.oidc.userinfoEndpoint = some e) → Text.isAllBlank e = false
  cookieName : c.session.cookieName ≠ ""
  oidc : c.oidc.enabled = true → c.oidc.discoveryEndpoint.isSome = true ∨
    c.oidc.authorizationEndpoint.isSome = true ∧ c.oidc.tokenEndpoint.isSome = true ∧
      c.oidc.userinfoEndpoint.isSome = true

namespace Layer

variable {l : Layer} {c : Resolved}

/-- Whatever is set, and to whatever values, a layer that resolves gives a usable configuration. -/
theorem usable_of_resolve (h : l.resolve = .ok c) : c.Usable := by
  obtain ⟨rfl, hoidc⟩ := resolve_eq_ok_iff.mp h
  have hfield := l.value_described
  constructor
  case baseUrl =>
    intro u hu
    obtain ⟨hne, s, rfl⟩ := tidied_of_filter ((hfield .baseUrl).symm.trans hu)
    exact ⟨hne, getLast?_tidyBaseUrl s⟩
  case database =>
    intro d hd
    obtain ⟨hne, s, rfl⟩ := tidied_of_filter ((hfield .database).symm.trans hd)
    exact ⟨hne, Text.isTrimmed_trim s⟩
  case jsonrpcPath =>
    have hpath := hfield .jsonrpcPath
    rw [Field.resolve_jsonrpcPath] at hpath
    change l.described.odoo.jsonrpcPath = _ at hpath
    rw [hpath]
    cases (l.value? .jsonrpcPath).filter notBlank with
    | none => rfl
    | some s => exact head?_rootedPath s
  case timeoutMs => exact (isTimeLimit_resolveTimeout _).bounds
  case endpoints =>
    rintro e (h | h | h | h) <;>
      exact notBlank_iff.mp (Option.filter_eq_some_iff.mp h).2
  case cookieName =>
    have hname := hfield .cookieName
    rw [Field.resolve_cookieName] at hname
    change l.described.session.cookieName = _ at hname
    rw [hname]
    cases hn : (l.value? .cookieName).filter nonEmpty with
    | none => decide
    | some n => exact nonEmpty_iff.mp (Option.filter_eq_some_iff.mp hn).2
  case oidc =>
    intro henabled
    simpa [OidcConfig.isUsable, OidcConfig.isFullySpecified, henabled, and_assoc] using hoidc

end Layer

end Config

namespace Odoo.Settings

variable {o : Config.OdooConfig}

/-! ## Settings for Odoo -/

theorem ofConfig_eq_ok_iff {s : Settings} : ofConfig o = .ok s ↔
    ∃ u d, o.baseUrl = some u ∧ o.database = some d ∧
      s = ⟨u, d, o.jsonrpcPath, o.timeoutMs, o.syncOrganizations⟩ := by
  unfold ofConfig
  cases o.baseUrl <;> cases o.database <;> simp [eq_comm]

theorem ofConfig_isOk_iff :
    (∃ s, ofConfig o = .ok s) ↔ o.baseUrl.isSome = true ∧ o.database.isSome = true := by
  simp only [ofConfig_eq_ok_iff, Option.isSome_iff_exists]
  constructor
  · rintro ⟨s, u, d, hu, hd, -⟩
    exact ⟨⟨u, hu⟩, d, hd⟩
  · rintro ⟨⟨u, hu⟩, d, hd⟩
    exact ⟨_, u, d, hu, hd, rfl⟩

/-- Of what a configuration lacks the address is reported first. -/
theorem ofConfig_eq_missingBaseUrl_iff :
    ofConfig o = .error .missingBaseUrl ↔ o.baseUrl = none := by
  unfold ofConfig
  cases o.baseUrl <;> cases o.database <;> simp

theorem ofConfig_eq_missingDatabase_iff :
    ofConfig o = .error .missingDatabase ↔ o.baseUrl.isSome = true ∧ o.database = none := by
  unfold ofConfig
  cases o.baseUrl <;> cases o.database <;> simp

/-- A URL made of an address and a path with exactly one slash between them. -/
structure Joins (base path url : String) : Prop where
  url_eq : url = base ++ "/" ++ path
  base_last : base.toList.getLast? ≠ some '/'
  path_head : path.toList.head? ≠ some '/'

theorem joins_authenticateUrl {s : Settings} (h : s.baseUrl.toList.getLast? ≠ some '/') :
    Joins s.baseUrl "web/session/authenticate" s.authenticateUrl where
  url_eq := by
    rw [authenticateUrl, String.append_assoc]
    rfl
  base_last := h
  path_head := by decide

end Odoo.Settings

namespace Config

open Odoo (Settings)

variable {path : String} {content : Source.FileContent} {env : Environment} {c : Resolved}

theorem load_eq_ok_iff : load path content env = .ok c ↔
    ∃ fromFile fromEnv, Source.fileLayer path content = .ok fromFile ∧ env.layer = .ok fromEnv ∧
      (fromFile.merge fromEnv).resolve = .ok c := by
  rw [load_eq]
  constructor
  · intro h
    cases hfile : Source.fileLayer path content with
    | error => rw [hfile] at h; cases h
    | ok fromFile =>
      cases henv : env.layer with
      | error => rw [hfile, henv] at h; cases h
      | ok fromEnv =>
        rw [hfile, henv] at h
        exact ⟨fromFile, fromEnv, rfl, rfl, h⟩
  · rintro ⟨fromFile, fromEnv, hfile, henv, h⟩
    rw [hfile, henv]
    exact h

/-- A configuration that is loaded is usable as it stands, and its time limit is the one asked for
in so far as that is positive. Settings for Odoo are made of a configuration with an address and a
database, the lack of an address is reported first, and those of a loaded configuration check
credentials at its address, one slash and the path. -/
theorem usable_of_load (h : load path content env = .ok c) :
    c.Usable ∧
    (∃ fromFile fromEnv, Source.fileLayer path content = .ok fromFile ∧
      env.layer = .ok fromEnv ∧
      IsTimeLimit ((fromEnv.value? .timeoutMs).or (fromFile.value? .timeoutMs))
        c.odoo.timeoutMs) ∧
    (∀ s, Settings.ofConfig c.odoo = .ok s → c.odoo.baseUrl = some s.baseUrl ∧
      Settings.Joins s.baseUrl "web/session/authenticate" s.authenticateUrl) ∧
    ∀ o : OdooConfig,
      ((∃ s, Settings.ofConfig o = .ok s) ↔
        o.baseUrl.isSome = true ∧ o.database.isSome = true) ∧
      (Settings.ofConfig o = .error .missingBaseUrl ↔ o.baseUrl = none) ∧
      (Settings.ofConfig o = .error .missingDatabase ↔
        o.baseUrl.isSome = true ∧ o.database = none) := by
  obtain ⟨fromFile, fromEnv, hfile, henv, hc⟩ := load_eq_ok_iff.mp h
  have husable := Layer.usable_of_resolve hc
  refine ⟨husable, ⟨fromFile, fromEnv, hfile, henv, ?_⟩, ?_, fun o => ⟨?_, ?_, ?_⟩⟩
  · obtain ⟨rfl, -⟩ := Layer.resolve_eq_ok_iff.mp hc
    have htimeout := (fromFile.merge fromEnv).value_described .timeoutMs
    rw [Layer.value?_merge] at htimeout
    change (fromFile.merge fromEnv).described.odoo.timeoutMs = resolveTimeout _ at htimeout
    rw [htimeout]
    exact isTimeLimit_resolveTimeout _
  · intro s hs
    obtain ⟨u, d, hu, -, rfl⟩ := Settings.ofConfig_eq_ok_iff.mp hs
    exact ⟨hu, Settings.joins_authenticateUrl (husable.baseUrl u hu).2⟩
  · exact Settings.ofConfig_isOk_iff
  · exact Settings.ofConfig_eq_missingBaseUrl_iff
  · exact Settings.ofConfig_eq_missingDatabase_iff

/-- Blanks and slashes are gone from what is loaded, and a limit below zero is replaced. -/
theorem tidied_load :
    let content := "[odoo]\nbase_url = \" https://erp.test// \"\ntimeout_ms = 2500\n".toUTF8.toList
    let env := [("FEDLINK_SERVER_ODOO_DB", " prod\t"), ("FEDLINK_SERVER_ODOO_TIMEOUT_MS", "-5")]
    ∃ c, load "server.toml" (.bytes content) env = .ok c ∧
      c.odoo.baseUrl = some "https://erp.test" ∧ c.odoo.database = some "prod" ∧
      c.odoo.timeoutMs = 8000 ∧ c.Usable := by
  intro content env
  let odoo : OdooLayer := { baseUrl := some " https://erp.test// ", timeoutMs := some 2500 }
  let odoo' : OdooLayer := { database := some " prod\t", timeoutMs := some (-5) }
  have hfile : Source.fileLayer "server.toml" (.bytes content) = .ok { odoo := some odoo } :=
    Program.toOption_eq_some_iff.mp (by decide +kernel)
  have henv : Environment.layer env = .ok ⟨some {}, some {}, some odoo', some {}, some {}⟩ :=
    Program.toOption_eq_some_iff.mp (by decide +kernel)
  have hload := load_eq_ok_iff.mpr ⟨_, _, hfile, henv, rfl⟩
  exact ⟨_, hload, by decide +kernel, by decide +kernel, by decide +kernel,
    (usable_of_load hload).1⟩

end Config

end FederatedLogin
