import FederatedLogin.Config.Resolve

/-! # Odoo settings

The connection to one Odoo database. A configuration without an address or a database has none, and
of the two the address is missed first.
-/

namespace FederatedLogin.Odoo

inductive SettingsError where
  | missingBaseUrl
  | missingDatabase
  deriving DecidableEq

def SettingsError.message : SettingsError → String
  | .missingBaseUrl => "Odoo base URL is not configured (FEDLINK_SERVER_ODOO_BASE_URL)"
  | .missingDatabase => "Odoo database is not configured (FEDLINK_SERVER_ODOO_DB)"

structure Settings where
  baseUrl : String
  database : String
  jsonrpcPath : String
  timeoutMs : Nat
  syncOrganizations : Bool
  deriving DecidableEq

namespace Settings

def ofConfig (c : Config.OdooConfig) : Except SettingsError Settings :=
  match c.baseUrl, c.database with
  | none, _ => .error .missingBaseUrl
  | some _, none => .error .missingDatabase
  | some baseUrl, some database => .ok {
    baseUrl, database
    jsonrpcPath := c.jsonrpcPath
    timeoutMs := c.timeoutMs
    syncOrganizations := c.syncOrganizations }

def authenticatePath : String := "/web/session/authenticate"

def authenticateUrl (s : Settings) : String := s.baseUrl ++ authenticatePath

def rpcUrl (s : Settings) : String := s.baseUrl ++ s.jsonrpcPath

end Settings

end FederatedLogin.Odoo
