import FederatedLogin.Config.Layer
import FederatedLogin.Text.Blank
import FederatedLogin.Text.Decimal

/-! # Resolved configurations

A merged layer becomes a configuration by filling in defaults and tidying addresses. Blank texts
count as unset, and a configuration that enables OpenID Connect must say where to find it.
-/

namespace FederatedLogin.Config

structure HttpConfig where
  host : String
  port : UInt16
  deriving DecidableEq

structure LoggingConfig where
  level : String
  deriving DecidableEq

structure OdooConfig where
  /-- Without a slash at its end. -/
  baseUrl : Option String
  database : Option String
  jsonrpcPath : String
  timeoutMs : Nat
  syncOrganizations : Bool
  deriving DecidableEq

structure OidcConfig where
  enabled : Bool
  discoveryEndpoint : Option String
  authorizationEndpoint : Option String
  tokenEndpoint : Option String
  userinfoEndpoint : Option String
  deriving DecidableEq

structure SessionConfig where
  cookieName : String
  cookieSecure : Bool
  deriving DecidableEq

structure Resolved where
  http : HttpConfig
  logging : LoggingConfig
  odoo : OdooConfig
  oidc : OidcConfig
  session : SessionConfig
  deriving DecidableEq

def defaultHost : String := "0.0.0.0"

def defaultPort : UInt16 := 8080

def defaultLevel : String := "info,tower_http::trace=debug"

def defaultJsonrpcPath : String := "/jsonrpc"

def defaultTimeoutMs : Nat := 8000

def defaultCookieName : String := "FEDLINKAUTHTOKEN"

def HttpLayer.resolve (l : HttpLayer) : HttpConfig where
  host := l.host.getD defaultHost
  port := l.port.getD defaultPort

def LoggingLayer.resolve (l : LoggingLayer) : LoggingConfig where
  level := l.level.getD defaultLevel

/-- An address without blanks at its ends and slashes at its end. -/
def tidyBaseUrl (s : String) : String :=
  .ofList (Text.dropEndWhile (· == '/') (Text.trim s).toList)

/-- A path that starts with a slash. -/
def rootedPath (s : String) : String := if s.toList.head? == some '/' then s else "/" ++ s

def nonEmpty (s : String) : Bool := !s.isEmpty

def notBlank (s : String) : Bool := !Text.isAllBlank s

/-- A time limit must be positive. -/
def resolveTimeout : Option Int64 → Nat
  | some ms => if 0 < ms.toInt then ms.toInt.toNat else defaultTimeoutMs
  | none => defaultTimeoutMs

def OdooLayer.resolve (l : OdooLayer) : OdooConfig where
  baseUrl := (l.baseUrl.map tidyBaseUrl).filter nonEmpty
  database := (l.database.map Text.trim).filter nonEmpty
  jsonrpcPath := ((l.jsonrpcPath.filter notBlank).map rootedPath).getD defaultJsonrpcPath
  timeoutMs := resolveTimeout l.timeoutMs
  syncOrganizations := l.syncOrganizations.getD true

def OidcLayer.resolve (l : OidcLayer) : OidcConfig where
  enabled := l.enabled.getD false
  discoveryEndpoint := l.discoveryEndpoint.filter notBlank
  authorizationEndpoint := l.authorizationEndpoint.filter notBlank
  tokenEndpoint := l.tokenEndpoint.filter notBlank
  userinfoEndpoint := l.userinfoEndpoint.filter notBlank

def SessionLayer.resolve (l : SessionLayer) : SessionConfig where
  cookieName := (l.cookieName.filter nonEmpty).getD defaultCookieName
  cookieSecure := l.cookieSecure.getD false

/-- Whether every endpoint is known without discovery. -/
def OidcConfig.isFullySpecified (c : OidcConfig) : Bool :=
  c.authorizationEndpoint.isSome && c.tokenEndpoint.isSome && c.userinfoEndpoint.isSome

def Resolved.socketAddress (c : Resolved) : String :=
  c.http.host ++ ":" ++ Text.decimal c.http.port.toNat

inductive Error where
  | invalidValue (key kind value : String)
  | parseFailed (path : String)
  | unreadable (path : String)
  | oidcUnspecified
  deriving DecidableEq

/-- The message, up to what a parser or the file system says about a file. -/
def Error.message : Error → String
  | .invalidValue key kind value =>
    "Invalid value for " ++ key ++ ": invalid " ++ kind ++ " value '" ++ value ++ "'"
  | .parseFailed path => "Failed to parse TOML config at " ++ path ++ ": "
  | .unreadable path => "Failed to read config file " ++ path ++ ": "
  | .oidcUnspecified =>
    "Validation error: FEDLINK_SERVER_OIDC_ENABLED is set but neither a discovery endpoint nor " ++
    "all of the authorization, token and userinfo endpoints are configured"

/-- Whether OpenID Connect, if enabled, has a discovery endpoint or every other one. -/
def OidcConfig.isUsable (c : OidcConfig) : Bool :=
  !c.enabled || c.discoveryEndpoint.isSome || c.isFullySpecified

def Layer.resolve (l : Layer) : Except Error Resolved :=
  let config : Resolved := {
    http := (l.http.getD {}).resolve
    logging := (l.logging.getD {}).resolve
    odoo := (l.odoo.getD {}).resolve
    oidc := (l.oidc.getD {}).resolve
    session := (l.session.getD {}).resolve }
  if config.oidc.isUsable then .ok config else .error .oidcUnspecified

end FederatedLogin.Config
