import FederatedLogin.Config.Layer
import FederatedLogin.Json.Record
import FederatedLogin.Toml.Value

/-! # Layers in documents

Reading a layer from a value of JSON or TOML. Sections and fields that a layer does not know are
passed over; those it knows must have the right kind.
-/

namespace FederatedLogin.Config

/-- How fields are read from a kind of document. A reader fails on a value of the wrong kind and
returns nothing for one that stands for a missing field. -/
class Document (α : Type) where
  text? : α → Option (Option String)
  flag? : α → Option (Option Bool)
  int? : α → Option (Option Int)
  /-- Reads a record with the given fields, of which an array holds at least so many. -/
  record? : (names : List String) → (atLeast : Nat) → α → Option (Option (Record α))

instance : Document Json where
  text? := Json.optionalText?
  flag? := Json.optionalFlag?
  int? := Json.optionalInt?
  record? names atLeast
    | .null => some none
    | .array items =>
      if items.length < atLeast then none else (Json.record? names (.array items)).map some
    | v => (v.record? names).map some

/-- A date or a time is no record of this library, but it may stand for one without fields. -/
instance : Document Toml.Value where
  text?
    | .string s => some (some s)
    | _ => none
  flag?
    | .boolean b => some (some b)
    | _ => none
  int?
    | .integer n => some (some n)
    | _ => none
  record? names atLeast
    | .table entries => (Record.ofMembers? names [] entries).map some
    | .array items => if items.length < atLeast then none else some (some (.ofItems names items))
    | .datetime _ => some (some ⟨[]⟩)
    | _ => none

section

variable {α : Type} [Document α]

def port? (v : α) : Option (Option UInt16) := do
  match ← Document.int? v with
  | none => some none
  | some n => if 0 ≤ n ∧ n < UInt16.size then some (some (.ofNat n.toNat)) else none

def int64? (v : α) : Option (Option Int64) := do
  match ← Document.int? v with
  | none => some none
  | some n =>
    if Json.minInt64 ≤ n ∧ n ≤ Json.maxInt64 then some (some (.ofInt n)) else none

def section? (names : List String) (atLeast : Nat) (read : Record α → Option β) (v : α) :
    Option (Option β) := do
  match ← Document.record? names atLeast v with
  | none => some none
  | some r => return some (← read r)

def HttpLayer.ofRecord? (r : Record α) : Option HttpLayer := do
  return {
    host := ← r.read? "host" Document.text?
    port := ← r.read? "port" port? }

def LoggingLayer.ofRecord? (r : Record α) : Option LoggingLayer := do
  return { level := ← r.read? "level" Document.text? }

def OdooLayer.ofRecord? (r : Record α) : Option OdooLayer := do
  return {
    baseUrl := ← r.read? "base_url" Document.text?
    database := ← r.read? "database" Document.text?
    jsonrpcPath := ← r.read? "jsonrpc_path" Document.text?
    timeoutMs := ← r.read? "timeout_ms" int64?
    syncOrganizations := ← r.read? "sync_organizations" Document.flag? }

def OidcLayer.ofRecord? (r : Record α) : Option OidcLayer := do
  return {
    enabled := ← r.read? "enabled" Document.flag?
    discoveryEndpoint := ← r.read? "discovery_endpoint" Document.text?
    authorizationEndpoint := ← r.read? "authorization_endpoint" Document.text?
    tokenEndpoint := ← r.read? "token_endpoint" Document.text?
    userinfoEndpoint := ← r.read? "userinfo_endpoint" Document.text? }

def SessionLayer.ofRecord? (r : Record α) : Option SessionLayer := do
  return {
    cookieName := ← r.read? "cookie_name" Document.text?
    cookieSecure := ← r.read? "cookie_secure" Document.flag? }

def httpFields : List String := ["host", "port"]

def loggingFields : List String := ["level"]

def odooFields : List String :=
  ["base_url", "database", "jsonrpc_path", "timeout_ms", "sync_organizations"]

def oidcFields : List String :=
  ["enabled", "discovery_endpoint", "authorization_endpoint", "token_endpoint",
    "userinfo_endpoint"]

def sessionFields : List String := ["cookie_name", "cookie_secure"]

def layerFields : List String := ["http", "logging", "odoo", "oidc", "session"]

/-- Reads a section that must be there. -/
def required? (reader : α → Option (Option β)) (v : α) : Option β := (reader v).bind id

def OdooLayer.read? : α → Option (Option OdooLayer) := section? odooFields 0 ofRecord?

def OidcLayer.read? : α → Option (Option OidcLayer) := section? oidcFields 0 ofRecord?

def Layer.ofRecord? (r : Record α) : Option Layer := do
  return {
    http := ← r.read? "http" (section? httpFields 0 HttpLayer.ofRecord?)
    logging := ← r.read? "logging" (section? loggingFields 1 LoggingLayer.ofRecord?)
    odoo := ← r.read? "odoo" OdooLayer.read?
    oidc := ← r.read? "oidc" OidcLayer.read?
    session := ← r.read? "session" (section? sessionFields 0 SessionLayer.ofRecord?) }

def Layer.read? : α → Option Layer := required? (section? layerFields 0 ofRecord?)

end

end FederatedLogin.Config
