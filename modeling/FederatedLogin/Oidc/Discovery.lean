import FederatedLogin.Config.Resolve
import FederatedLogin.Http.Exchange
import FederatedLogin.Json.Record

/-! # OpenID Connect discovery

The endpoints of a provider. Those that are not configured are looked up in the document at the
discovery endpoint, and those that are configured stay as they are.
-/

namespace FederatedLogin.Oidc

structure Endpoints where
  discovery : Option String
  authorization : Option String
  token : Option String
  userinfo : Option String
  deriving DecidableEq

inductive DiscoveryError where
  | invalidEndpoint (url : String)
  /-- The document could not be fetched or read. -/
  | unavailable
  | refused (status : Http.Status)
  deriving DecidableEq

/-- The message, up to what the transport or a parser says about a failure. -/
def DiscoveryError.message : DiscoveryError → String
  | .invalidEndpoint url => "invalid discovery endpoint " ++ url ++ ": "
  | .unavailable => "discovery request failed: "
  | .refused status => "discovery endpoint returned HTTP " ++ status.describe

structure DiscoveryDocument where
  authorization : Option String
  token : Option String
  userinfo : Option String

/-- Reads a discovery document. An endpoint that is missing or empty is not named. -/
def DiscoveryDocument.ofBytes? (s : Json.Bytes) : Option DiscoveryDocument := do
  let r ← Json.recordOfBytes? ["authorization_endpoint", "token_endpoint", "userinfo_endpoint"] [] s
  let named (field : String) : Option (Option String) :=
    (Json.plainText? r field).map fun s => if s.isEmpty then none else some s
  return {
    authorization := ← named "authorization_endpoint"
    token := ← named "token_endpoint"
    userinfo := ← named "userinfo_endpoint" }

namespace Endpoints

def ofConfig (c : Config.OidcConfig) : Endpoints where
  discovery := c.discoveryEndpoint
  authorization := c.authorizationEndpoint
  token := c.tokenEndpoint
  userinfo := c.userinfoEndpoint

def isComplete (e : Endpoints) : Bool :=
  e.authorization.isSome && e.token.isSome && e.userinfo.isSome

def fill (e : Endpoints) (d : DiscoveryDocument) : Endpoints where
  discovery := e.discovery
  authorization := e.authorization.or d.authorization
  token := e.token.or d.token
  userinfo := e.userinfo.or d.userinfo

def ofDelivery (e : Endpoints) : Http.Delivery → Except DiscoveryError Endpoints
  | .failed _ => .error .unavailable
  | .answered status body =>
    if !status.isSuccess then .error (.refused status)
    else match body.bind DiscoveryDocument.ofBytes? with
      | some document => .ok (e.fill document)
      | none => .error .unavailable

/-- Looks up missing endpoints. Nothing is asked where none is missing or there is no discovery
endpoint. -/
def resolve (e : Endpoints) : Http.Exchange (Except DiscoveryError Endpoints) :=
  if e.isComplete then .done (.ok e)
  else match e.discovery with
    | none => .done (.ok e)
    | some url =>
      if Http.Url.isValid url then do
        return e.ofDelivery (← Http.send ⟨.get, url, none⟩)
      else .done (.error (.invalidEndpoint url))

end Endpoints

end FederatedLogin.Oidc
