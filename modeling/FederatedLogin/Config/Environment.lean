import FederatedLogin.Config.Resolve
import FederatedLogin.Text.Ascii

/-! # Layers in the environment

Reading a layer from environment variables, one for each field. An empty variable is like one that
is not set.
-/

namespace FederatedLogin.Config

abbrev Environment := List (String × String)

namespace Environment

/-- The value of a variable, unless it is empty. -/
def text? (env : Environment) (name : String) : Option String := (env.lookup name).filter nonEmpty

/-- A flag is set by `1` and by `true` in any letter case, and cleared by any other text. -/
def isTrue (s : String) : Bool := Text.sameIgnoringCase s "true" || s == "1"

def flag? (env : Environment) (name : String) : Option Bool := (env.text? name).map isTrue

/-- A value read by `parse` after trimming. The `kind` of value is named where that fails. -/
def parsed? (kind : String) (parse : List Char → Option α) (env : Environment) (name : String) :
    Except Error (Option α) :=
  match env.text? name with
  | none => .ok none
  | some s =>
    match parse (Text.trim s).toList with
    | some v => .ok (some v)
    | none => .error (.invalidValue name kind s)

def parsePort (s : List Char) : Option UInt16 :=
  ((Text.unsigned? s).filter (· < UInt16.size)).map .ofNat

def parseTimeout (s : List Char) : Option Int64 :=
  ((Text.signed? s).filter fun n =>
    Int64.minValue.toInt ≤ n && n ≤ Int64.maxValue.toInt).map .ofInt

/-- The layer an environment describes. Every section is there, and the port is read first. -/
def layer (env : Environment) : Except Error Layer := do
  let port ← parsed? "u16" parsePort env "FEDLINK_SERVER_PORT"
  let timeoutMs ← parsed? "i64" parseTimeout env "FEDLINK_SERVER_ODOO_TIMEOUT_MS"
  return {
    http := some { host := env.text? "FEDLINK_SERVER_HOST", port }
    logging := some { level := env.text? "FEDLINK_SERVER_LOG_LEVEL" }
    odoo := some {
      baseUrl := env.text? "FEDLINK_SERVER_ODOO_BASE_URL"
      database := env.text? "FEDLINK_SERVER_ODOO_DB"
      jsonrpcPath := env.text? "FEDLINK_SERVER_ODOO_JSONRPC_PATH"
      timeoutMs
      syncOrganizations := env.flag? "FEDLINK_SERVER_ODOO_SYNC_ORGANIZATIONS" }
    oidc := some {
      enabled := env.flag? "FEDLINK_SERVER_OIDC_ENABLED"
      discoveryEndpoint := env.text? "FEDLINK_SERVER_OIDC_DISCOVERY_ENDPOINT"
      authorizationEndpoint := env.text? "FEDLINK_SERVER_OIDC_AUTHORIZATION_ENDPOINT"
      tokenEndpoint := env.text? "FEDLINK_SERVER_OIDC_TOKEN_ENDPOINT"
      userinfoEndpoint := env.text? "FEDLINK_SERVER_OIDC_USERINFO_ENDPOINT" }
    session := some {
      cookieName := env.text? "FEDLINK_SERVER_SESSION_COOKIE_NAME"
      cookieSecure := env.flag? "FEDLINK_SERVER_SESSION_COOKIE_SECURE" } }

end Environment

end FederatedLogin.Config
