/-! # Configuration layers

What one source says about the configuration: each section may be missing and each of its fields
unset. Layers are merged field by field, and of two that set a field the later one wins.
-/

namespace FederatedLogin.Config

structure HttpLayer where
  host : Option String := none
  port : Option UInt16 := none
  deriving DecidableEq

structure LoggingLayer where
  level : Option String := none
  deriving DecidableEq

structure OdooLayer where
  baseUrl : Option String := none
  database : Option String := none
  jsonrpcPath : Option String := none
  timeoutMs : Option Int64 := none
  syncOrganizations : Option Bool := none
  deriving DecidableEq

structure OidcLayer where
  enabled : Option Bool := none
  discoveryEndpoint : Option String := none
  authorizationEndpoint : Option String := none
  tokenEndpoint : Option String := none
  userinfoEndpoint : Option String := none
  deriving DecidableEq

structure SessionLayer where
  cookieName : Option String := none
  cookieSecure : Option Bool := none
  deriving DecidableEq

structure Layer where
  http : Option HttpLayer := none
  logging : Option LoggingLayer := none
  odoo : Option OdooLayer := none
  oidc : Option OidcLayer := none
  session : Option SessionLayer := none
  deriving DecidableEq

def HttpLayer.merge (base later : HttpLayer) : HttpLayer where
  host := later.host.or base.host
  port := later.port.or base.port

def LoggingLayer.merge (base later : LoggingLayer) : LoggingLayer where
  level := later.level.or base.level

def OdooLayer.merge (base later : OdooLayer) : OdooLayer where
  baseUrl := later.baseUrl.or base.baseUrl
  database := later.database.or base.database
  jsonrpcPath := later.jsonrpcPath.or base.jsonrpcPath
  timeoutMs := later.timeoutMs.or base.timeoutMs
  syncOrganizations := later.syncOrganizations.or base.syncOrganizations

def OidcLayer.merge (base later : OidcLayer) : OidcLayer where
  enabled := later.enabled.or base.enabled
  discoveryEndpoint := later.discoveryEndpoint.or base.discoveryEndpoint
  authorizationEndpoint := later.authorizationEndpoint.or base.authorizationEndpoint
  tokenEndpoint := later.tokenEndpoint.or base.tokenEndpoint
  userinfoEndpoint := later.userinfoEndpoint.or base.userinfoEndpoint

def SessionLayer.merge (base later : SessionLayer) : SessionLayer where
  cookieName := later.cookieName.or base.cookieName
  cookieSecure := later.cookieSecure.or base.cookieSecure

/-- Merges a section that each of two layers may lack. -/
def mergeSection (merge : α → α → α) : Option α → Option α → Option α
  | some base, some later => some (merge base later)
  | none, some later => some later
  | base, none => base

def Layer.merge (base later : Layer) : Layer where
  http := mergeSection HttpLayer.merge base.http later.http
  logging := mergeSection LoggingLayer.merge base.logging later.logging
  odoo := mergeSection OdooLayer.merge base.odoo later.odoo
  oidc := mergeSection OidcLayer.merge base.oidc later.oidc
  session := mergeSection SessionLayer.merge base.session later.session

/-- Merges layers, the earliest first. -/
def Layer.mergeAll (layers : List Layer) : Layer := layers.foldl .merge {}

end FederatedLogin.Config
