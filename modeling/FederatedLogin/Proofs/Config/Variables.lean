import Mathlib.Data.List.Nodup
import FederatedLogin.Config.Environment
import FederatedLogin.Proofs.Config.Fields
import FederatedLogin.Proofs.Lookup
import FederatedLogin.Proofs.Text.Numerals

/-! # Layers and environment variables

Each field has a variable of its own. A layer that is written to the environment is read back field
by field, what a field is depends on its own variable alone, and reading fails only on a port or a
time limit that is no number in range.
-/

namespace FederatedLogin.Config

namespace Field

def variableName : Field → String
  | .host => "FEDLINK_SERVER_HOST"
  | .port => "FEDLINK_SERVER_PORT"
  | .level => "FEDLINK_SERVER_LOG_LEVEL"
  | .baseUrl => "FEDLINK_SERVER_ODOO_BASE_URL"
  | .database => "FEDLINK_SERVER_ODOO_DB"
  | .jsonrpcPath => "FEDLINK_SERVER_ODOO_JSONRPC_PATH"
  | .timeoutMs => "FEDLINK_SERVER_ODOO_TIMEOUT_MS"
  | .syncOrganizations => "FEDLINK_SERVER_ODOO_SYNC_ORGANIZATIONS"
  | .oidcEnabled => "FEDLINK_SERVER_OIDC_ENABLED"
  | .discoveryEndpoint => "FEDLINK_SERVER_OIDC_DISCOVERY_ENDPOINT"
  | .authorizationEndpoint => "FEDLINK_SERVER_OIDC_AUTHORIZATION_ENDPOINT"
  | .tokenEndpoint => "FEDLINK_SERVER_OIDC_TOKEN_ENDPOINT"
  | .userinfoEndpoint => "FEDLINK_SERVER_OIDC_USERINFO_ENDPOINT"
  | .cookieName => "FEDLINK_SERVER_SESSION_COOKIE_NAME"
  | .cookieSecure => "FEDLINK_SERVER_SESSION_COOKIE_SECURE"

def all : List Field :=
  [.host, .port, .level, .baseUrl, .database, .jsonrpcPath, .timeoutMs, .syncOrganizations,
   .oidcEnabled, .discoveryEndpoint, .authorizationEndpoint, .tokenEndpoint, .userinfoEndpoint,
   .cookieName, .cookieSecure]

def write : (f : Field) → f.Value → String
  | .host, s | .level, s | .baseUrl, s | .database, s | .jsonrpcPath, s | .discoveryEndpoint, s
  | .authorizationEndpoint, s | .tokenEndpoint, s | .userinfoEndpoint, s | .cookieName, s => s
  | .port, n => Text.decimal n.toNat
  | .timeoutMs, n => Text.decimal n.toInt
  | .syncOrganizations, b | .oidcEnabled, b | .cookieSecure, b => if b then "true" else "false"

/-- What a variable that is not empty sets its field to, unless it cannot be read. -/
def read? : (f : Field) → String → Option f.Value
  | .host, s | .level, s | .baseUrl, s | .database, s | .jsonrpcPath, s | .discoveryEndpoint, s
  | .authorizationEndpoint, s | .tokenEndpoint, s | .userinfoEndpoint, s | .cookieName, s => some s
  | .port, s => Environment.parsePort (Text.trim s).toList
  | .timeoutMs, s => Environment.parseTimeout (Text.trim s).toList
  | .syncOrganizations, s | .oidcEnabled, s | .cookieSecure, s => some (Environment.isTrue s)

def isEmptyText : (f : Field) → f.Value → Bool
  | .host, s | .level, s | .baseUrl, s | .database, s | .jsonrpcPath, s | .discoveryEndpoint, s
  | .authorizationEndpoint, s | .tokenEndpoint, s | .userinfoEndpoint, s | .cookieName, s =>
    s.isEmpty
  | .port, _ | .timeoutMs, _ | .syncOrganizations, _ | .oidcEnabled, _ | .cookieSecure, _ => false

variable {f : Field} {v : f.Value}

theorem mem_all (f : Field) : f ∈ all := by
  cases f <;> simp [all]

theorem variableName_injective : Function.Injective variableName := by
  have hnodup : (all.map variableName).Nodup := by decide +kernel
  exact fun f g h => List.inj_on_of_nodup_map hnodup (mem_all f) (mem_all g) h

/-! ## What is written is read -/

theorem write_ne_empty (h : f.isEmptyText v = false) : f.write v ≠ "" := by
  have htext : ∀ s : String, s.isEmpty = false → s ≠ "" := by simp
  have hflag : ∀ b : Bool, (if b then "true" else "false") ≠ "" := by decide
  cases f with
  | host | level | baseUrl | database | jsonrpcPath | discoveryEndpoint | authorizationEndpoint
  | tokenEndpoint | userinfoEndpoint | cookieName => exact htext v h
  | port | timeoutMs => exact Text.decimal_ne_empty _
  | syncOrganizations | oidcEnabled | cookieSecure => exact hflag v

theorem parsePort_eq_some_iff {s : List Char} {n : UInt16} :
    Environment.parsePort s = some n ↔ Text.IsUnsigned s n.toNat := by
  rw [Environment.parsePort, Option.map_eq_some_iff]
  simp only [Option.filter_eq_some_iff, Text.unsigned?_eq_some_iff, decide_eq_true_eq]
  constructor
  · rintro ⟨m, ⟨hm, hlt⟩, rfl⟩
    rwa [UInt16.toNat_ofNat_of_lt' hlt]
  · intro h
    exact ⟨n.toNat, ⟨h, n.toNat_lt⟩, UInt16.ofNat_toNat⟩

theorem parseTimeout_eq_some_iff {s : List Char} {n : Int64} :
    Environment.parseTimeout s = some n ↔ Text.IsSigned s n.toInt := by
  rw [Environment.parseTimeout, Option.map_eq_some_iff]
  simp only [Option.filter_eq_some_iff, Text.signed?_eq_some_iff, Bool.and_eq_true,
    decide_eq_true_eq]
  constructor
  · rintro ⟨m, ⟨hm, hmin, hmax⟩, rfl⟩
    rwa [Int64.toInt_ofInt_of_le hmin (Int.lt_of_le_sub_one hmax)]
  · intro h
    exact ⟨n.toInt, ⟨h, n.le_toInt, n.toInt_le⟩, Int64.ofInt_toInt n⟩

theorem read?_write (f : Field) (v : f.Value) : f.read? (f.write v) = some v := by
  have hflag : ∀ b : Bool, Environment.isTrue (if b then "true" else "false") = b := by decide
  cases f with
  | host | level | baseUrl | database | jsonrpcPath | discoveryEndpoint | authorizationEndpoint
  | tokenEndpoint | userinfoEndpoint | cookieName => rfl
  | port =>
    rw [read?, write, Text.trim_decimal, Text.decimal, String.toList_ofList]
    exact parsePort_eq_some_iff.mpr (.bare (Text.isDigits_natDigits _))
  | timeoutMs =>
    rw [read?, write, Text.trim_decimal, Text.decimal, String.toList_ofList]
    exact parseTimeout_eq_some_iff.mpr (Text.isSigned_intDigits _)
  | syncOrganizations | oidcEnabled | cookieSecure => exact congrArg some (hflag v)

end Field

/-! ## Reading an environment -/

namespace Environment

variable {env env' : Environment} {m m' : Layer} {e : Error}

/-- The layer of an environment, given what its numbers are read as. -/
def assemble (env : Environment) (port : Option UInt16) (timeoutMs : Option Int64) : Layer where
  http := some { host := env.text? (Field.variableName .host), port }
  logging := some { level := env.text? (Field.variableName .level) }
  odoo := some {
    baseUrl := env.text? (Field.variableName .baseUrl)
    database := env.text? (Field.variableName .database)
    jsonrpcPath := env.text? (Field.variableName .jsonrpcPath)
    timeoutMs
    syncOrganizations := env.flag? (Field.variableName .syncOrganizations) }
  oidc := some {
    enabled := env.flag? (Field.variableName .oidcEnabled)
    discoveryEndpoint := env.text? (Field.variableName .discoveryEndpoint)
    authorizationEndpoint := env.text? (Field.variableName .authorizationEndpoint)
    tokenEndpoint := env.text? (Field.variableName .tokenEndpoint)
    userinfoEndpoint := env.text? (Field.variableName .userinfoEndpoint) }
  session := some {
    cookieName := env.text? (Field.variableName .cookieName)
    cookieSecure := env.flag? (Field.variableName .cookieSecure) }

theorem layer_eq (env : Environment) : env.layer = (do
    let port ← parsed? "u16" parsePort env (Field.variableName .port)
    let timeoutMs ← parsed? "i64" parseTimeout env (Field.variableName .timeoutMs)
    return env.assemble port timeoutMs) :=
  rfl

section Parsed

variable {α : Type} {kind name : String} {parse : List Char → Option α}

theorem parsed?_eq_ok_iff {o : Option α} : parsed? kind parse env name = .ok o ↔
    (env.text? name).map (fun s => parse (Text.trim s).toList) = o.map some := by
  rw [parsed?]
  cases env.text? name with
  | none => cases o <;> simp
  | some s =>
    rw [Option.map_some]
    dsimp only
    cases parse (Text.trim s).toList <;> cases o <;> simp

theorem parsed?_eq_error_iff : parsed? kind parse env name = .error e ↔
    ∃ s, env.text? name = some s ∧ parse (Text.trim s).toList = none ∧
      e = .invalidValue name kind s := by
  rw [parsed?]
  cases env.text? name with
  | none => simp
  | some s =>
    dsimp only
    cases hv : parse (Text.trim s).toList <;> simp [hv, eq_comm]

end Parsed

/-- A variable that is not empty and that its field cannot be read from. -/
def Refuses (env : Environment) (f : Field) (s : String) : Prop :=
  env.text? f.variableName = some s ∧ f.read? s = none

/-- Of a port and a time limit that cannot be read the port is told of. -/
theorem layer_eq_error_iff : env.layer = .error e ↔
    (∃ s, env.Refuses .port s ∧ e = .invalidValue (Field.variableName .port) "u16" s) ∨
    (∀ s, ¬ env.Refuses .port s) ∧ ∃ s, env.Refuses .timeoutMs s ∧
      e = .invalidValue (Field.variableName .timeoutMs) "i64" s := by
  have hport (e : Error) : parsed? "u16" parsePort env (Field.variableName .port) = .error e ↔
      ∃ s, env.Refuses .port s ∧ e = .invalidValue (Field.variableName .port) "u16" s := by
    rw [parsed?_eq_error_iff]
    simp only [Refuses, and_assoc]
    rfl
  have htimeout : parsed? "i64" parseTimeout env (Field.variableName .timeoutMs) = .error e ↔
      ∃ s, env.Refuses .timeoutMs s ∧
        e = .invalidValue (Field.variableName .timeoutMs) "i64" s := by
    rw [parsed?_eq_error_iff]
    simp only [Refuses, and_assoc]
    rfl
  rw [layer_eq, ← hport, ← htimeout]
  cases hp : parsed? "u16" parsePort env (Field.variableName .port) with
  | error e' =>
    obtain ⟨s, hs, -⟩ := (hport e').mp hp
    have hsome : ¬ ∀ s, ¬ env.Refuses .port s := fun h => h s hs
    simp [bind, Except.bind, hsome]
  | ok port =>
    have hnone : ∀ s, ¬ env.Refuses .port s := by
      intro s hs
      have herror := (hport _).mpr ⟨s, hs, rfl⟩
      rw [hp] at herror
      cases herror
    cases parsed? "i64" parseTimeout env (Field.variableName .timeoutMs) <;>
      simp [bind, Except.bind, pure, Except.pure, hnone]

theorem map_read?_of_layer (h : env.layer = .ok m) (f : Field) :
    (env.text? f.variableName).map f.read? = (m.value? f).map some := by
  rw [layer_eq] at h
  cases hport : parsed? "u16" parsePort env (Field.variableName .port) with
  | error e => rw [hport] at h; cases h
  | ok port =>
    cases htimeout : parsed? "i64" parseTimeout env (Field.variableName .timeoutMs) with
    | error e => rw [hport, htimeout] at h; cases h
    | ok timeoutMs =>
      rw [hport, htimeout] at h
      obtain rfl := Except.ok.inj h
      cases f with
      | host | level | baseUrl | database | jsonrpcPath | discoveryEndpoint
      | authorizationEndpoint | tokenEndpoint | userinfoEndpoint | cookieName => rfl
      | port =>
        have hread := parsed?_eq_ok_iff.mp hport
        exact hread
      | timeoutMs =>
        have hread := parsed?_eq_ok_iff.mp htimeout
        exact hread
      | syncOrganizations | oidcEnabled | cookieSecure => exact (Option.map_map ..).symm

theorem value?_congr (h : env.layer = .ok m) (h' : env'.layer = .ok m') {f : Field}
    (hf : env.text? f.variableName = env'.text? f.variableName) : m.value? f = m'.value? f := by
  have hm := map_read?_of_layer h f
  rw [hf, map_read?_of_layer h' f] at hm
  exact (Option.map_injective (Option.some_injective _) hm).symm

theorem layer_congr (h : ∀ f : Field, env.text? f.variableName = env'.text? f.variableName) :
    env.layer = env'.layer := by
  simp only [layer_eq, parsed?, assemble, flag?, h]

theorem layer_cons_empty (env : Environment) (name : String) :
    Environment.layer ((name, "") :: env) = Environment.layer (env.filter (·.1 != name)) := by
  have hempty : nonEmpty "" = false := by decide
  refine layer_congr fun f => ?_
  rw [text?, text?, lookup_filter (· != name), lookup_cons_eq_ite]
  by_cases hf : f.variableName = name <;> simp [hf, hempty]

/-! ## Numbers that are refused -/

/-- A number of 16 bits after a plus sign or none, with or without blanks around it. -/
def IsPortText (s : String) : Prop :=
  ∃ n, n ≤ 65535 ∧ Text.IsUnsigned (Text.trim s).toList n

/-- A number of 64 bits after a sign or none, with or without blanks around it. -/
def IsTimeText (s : String) : Prop :=
  ∃ n : Int, -2 ^ 63 ≤ n ∧ n ≤ 2 ^ 63 - 1 ∧ Text.IsSigned (Text.trim s).toList n

/-- A variable is set to a text that is neither empty nor a number of the kind asked for. -/
def Misnumbers (env : Environment) (name : String) (IsNumber : String → Prop) (s : String) : Prop :=
  env.lookup name = some s ∧ s ≠ "" ∧ ¬ IsNumber s

theorem text?_eq_some_iff {name s : String} :
    env.text? name = some s ↔ env.lookup name = some s ∧ s ≠ "" := by
  simp [text?, Option.filter_eq_some_iff, nonEmpty]

theorem isPortText_iff {s : String} : IsPortText s ↔ Field.read? .port s ≠ none := by
  rw [Option.ne_none_iff_exists']
  constructor
  · rintro ⟨n, hle, hn⟩
    have hvalue : (UInt16.ofNat n).toNat = n := UInt16.toNat_ofNat_of_lt' (Nat.lt_succ_of_le hle)
    exact ⟨.ofNat n, Field.parsePort_eq_some_iff.mpr (by rwa [hvalue])⟩
  · rintro ⟨n, hn⟩
    exact ⟨n.toNat, Nat.le_of_lt_succ n.toNat_lt, Field.parsePort_eq_some_iff.mp hn⟩

theorem isTimeText_iff {s : String} : IsTimeText s ↔ Field.read? .timeoutMs s ≠ none := by
  rw [Option.ne_none_iff_exists']
  constructor
  · rintro ⟨n, hmin, hmax, hn⟩
    have hvalue : (Int64.ofInt n).toInt = n := Int64.toInt_ofInt_of_le hmin (by omega)
    exact ⟨.ofInt n, Field.parseTimeout_eq_some_iff.mpr (by rwa [hvalue])⟩
  · rintro ⟨n, hn⟩
    exact ⟨n.toInt, n.le_toInt, Int.le_sub_one_of_lt n.toInt_lt,
      Field.parseTimeout_eq_some_iff.mp hn⟩

theorem refuses_port_iff {s : String} :
    env.Refuses .port s ↔ env.Misnumbers (Field.variableName .port) IsPortText s := by
  rw [Refuses, Misnumbers, text?_eq_some_iff, isPortText_iff, not_not, and_assoc]

theorem refuses_timeoutMs_iff {s : String} :
    env.Refuses .timeoutMs s ↔ env.Misnumbers (Field.variableName .timeoutMs) IsTimeText s := by
  rw [Refuses, Misnumbers, text?_eq_some_iff, isTimeText_iff, not_not, and_assoc]

end Environment

/-! ## Writing an environment -/

namespace Layer

variable {l : Layer} {f : Field}

/-- The environment in which the variable of every field that is set has its value. -/
def environment (l : Layer) : Environment :=
  Field.all.filterMap fun f => ((l.value? f).map f.write).map fun s => (f.variableName, s)

def HasNoEmptyText (l : Layer) : Prop :=
  ∀ f v, l.value? f = some v → f.isEmptyText v = false

section Lookup

variable {text : Field → Option String} {fields : List Field} {name : String}

theorem lookup_filterMap_of_ne (h : ∀ f ∈ fields, f.variableName ≠ name) :
    (fields.filterMap fun f => (text f).map fun s => (f.variableName, s)).lookup name = none := by
  induction fields with
  | nil => rfl
  | cons g fields ih =>
    obtain ⟨hg, hrest⟩ := List.forall_mem_cons.mp h
    rw [List.filterMap_cons]
    cases text g with
    | none => exact ih hrest
    | some s =>
      rw [Option.map_some, lookup_cons_eq_ite, if_neg hg.symm]
      exact ih hrest

theorem lookup_filterMap (h : f ∈ fields) :
    (fields.filterMap fun f => (text f).map fun s => (f.variableName, s)).lookup f.variableName =
      text f := by
  induction fields with
  | nil => cases h
  | cons g fields ih =>
    rw [List.filterMap_cons]
    by_cases hg : g = f
    · subst hg
      cases ht : text g with
      | some s => rw [Option.map_some, List.lookup_cons_self]
      | none =>
        rw [Option.map_none]
        by_cases hmem : g ∈ fields
        · exact (ih hmem).trans ht
        · exact lookup_filterMap_of_ne fun f hf hname =>
            hmem (Field.variableName_injective hname ▸ hf)
    · have hmem : f ∈ fields := (List.mem_cons.mp h).resolve_left (Ne.symm hg)
      have hname : f.variableName ≠ g.variableName := fun he =>
        hg (Field.variableName_injective he).symm
      cases text g with
      | none => exact ih hmem
      | some s =>
        rw [Option.map_some, lookup_cons_eq_ite, if_neg hname]
        exact ih hmem

end Lookup

theorem lookup_environment (l : Layer) (f : Field) :
    l.environment.lookup f.variableName = (l.value? f).map f.write :=
  lookup_filterMap (Field.mem_all f)

theorem HasNoEmptyText.text?_environment (h : l.HasNoEmptyText) (f : Field) :
    l.environment.text? f.variableName = (l.value? f).map f.write := by
  rw [Environment.text?, lookup_environment]
  cases hv : l.value? f with
  | none => rfl
  | some v =>
    have hne : nonEmpty (f.write v) = true := by
      simpa [nonEmpty] using Field.write_ne_empty (h f v hv)
    exact Option.filter_some_pos hne

theorem HasNoEmptyText.not_refuses (h : l.HasNoEmptyText) (f : Field) (s : String) :
    ¬ l.environment.Refuses f s := by
  rintro ⟨htext, hread⟩
  rw [h.text?_environment] at htext
  obtain ⟨v, -, rfl⟩ := Option.map_eq_some_iff.mp htext
  rw [Field.read?_write] at hread
  cases hread

/-- A layer that is written to the environment is read back. -/
theorem HasNoEmptyText.layer_environment (h : l.HasNoEmptyText) :
    ∃ m, l.environment.layer = .ok m ∧ ∀ f, m.value? f = l.value? f := by
  cases hm : l.environment.layer with
  | error e =>
    rcases Environment.layer_eq_error_iff.mp hm with ⟨s, hs, -⟩ | ⟨-, s, hs, -⟩
    · exact absurd hs (h.not_refuses _ s)
    · exact absurd hs (h.not_refuses _ s)
  | ok m =>
    refine ⟨m, rfl, fun f => ?_⟩
    have hread := Environment.map_read?_of_layer hm f
    have hwritten : f.read? ∘ f.write = some := funext (Field.read?_write f)
    rw [h.text?_environment, Option.map_map, hwritten] at hread
    exact (Option.map_injective (Option.some_injective _) hread).symm

/-- What a layer sets, with no empty text, is read back from the environment in which each of its
fields has set the variable of that field, and nothing else is set. In any environment a field is
what its own variable says, an empty one says nothing, and reading fails if and only if the port or
the time limit is given and no number in range; the first such variable is told of. -/
theorem layer_by_variables (l : Layer) (env : Environment) :
    (∀ f, l.environment.lookup f.variableName = (l.value? f).map f.write) ∧
    (∀ name, (∀ f, Field.variableName f ≠ name) → l.environment.lookup name = none) ∧
    (l.HasNoEmptyText → ∃ m, l.environment.layer = .ok m ∧ ∀ f, m.value? f = l.value? f) ∧
    Function.Injective Field.variableName ∧
    (∀ env' m m', env.layer = .ok m → Environment.layer env' = .ok m' →
      ∀ f, env.text? f.variableName = Environment.text? env' f.variableName →
        m.value? f = m'.value? f) ∧
    (∀ name,
      Environment.layer ((name, "") :: env) = Environment.layer (env.filter (·.1 != name))) ∧
    ∀ e, env.layer = .error e ↔
      (∃ s, env.Misnumbers "FEDLINK_SERVER_PORT" Environment.IsPortText s ∧
        e = .invalidValue "FEDLINK_SERVER_PORT" "u16" s) ∨
      (∀ s, ¬ env.Misnumbers "FEDLINK_SERVER_PORT" Environment.IsPortText s) ∧
        ∃ s, env.Misnumbers "FEDLINK_SERVER_ODOO_TIMEOUT_MS" Environment.IsTimeText s ∧
          e = .invalidValue "FEDLINK_SERVER_ODOO_TIMEOUT_MS" "i64" s := by
  refine ⟨l.lookup_environment, fun name hname => lookup_filterMap_of_ne fun f _ => hname f,
    HasNoEmptyText.layer_environment, Field.variableName_injective,
    fun _ _ _ hm hm' _ => Environment.value?_congr hm hm', Environment.layer_cons_empty env,
    fun e => ?_⟩
  rw [Environment.layer_eq_error_iff]
  simp only [Environment.refuses_port_iff, Environment.refuses_timeoutMs_iff]
  rfl

def farLayer : Layer where
  http := some { host := some " ", port := some 65535 }
  odoo := some { timeoutMs := some Int64.minValue, syncOrganizations := some false }
  oidc := some { enabled := some true }
  session := some {}

/-- Numbers at their limits are read back, and a port beyond its limit is told of. -/
theorem farLayer_read_back :
    farLayer.environment = [("FEDLINK_SERVER_HOST", " "), ("FEDLINK_SERVER_PORT", "65535"),
      ("FEDLINK_SERVER_ODOO_TIMEOUT_MS", "-9223372036854775808"),
      ("FEDLINK_SERVER_ODOO_SYNC_ORGANIZATIONS", "false"),
      ("FEDLINK_SERVER_OIDC_ENABLED", "true")] ∧
    farLayer.HasNoEmptyText ∧
    (∃ m, farLayer.environment.layer = .ok m ∧ ∀ f, m.value? f = farLayer.value? f) ∧
    Environment.layer
        [("FEDLINK_SERVER_ODOO_TIMEOUT_MS", "soon"), ("FEDLINK_SERVER_PORT", "65536")] =
      .error (.invalidValue "FEDLINK_SERVER_PORT" "u16" "65536") := by
  have hfull : farLayer.HasNoEmptyText := by
    intro f v hv
    cases f with
    | host =>
      obtain rfl := Option.some.inj hv
      decide
    | level | baseUrl | database | jsonrpcPath | discoveryEndpoint | authorizationEndpoint
    | tokenEndpoint | userinfoEndpoint | cookieName => cases hv
    | port | timeoutMs | syncOrganizations | oidcEnabled | cookieSecure => rfl
  have hrefused : Environment.Misnumbers
      [("FEDLINK_SERVER_ODOO_TIMEOUT_MS", "soon"), ("FEDLINK_SERVER_PORT", "65536")]
      "FEDLINK_SERVER_PORT" Environment.IsPortText "65536" :=
    ⟨by decide, by decide, by rw [Environment.isPortText_iff, not_not]; decide +kernel⟩
  exact ⟨by decide +kernel, hfull, (layer_by_variables farLayer []).2.2.1 hfull,
    ((layer_by_variables farLayer _).2.2.2.2.2.2 _).mpr (.inl ⟨_, hrefused, rfl⟩)⟩

end Layer

end FederatedLogin.Config
