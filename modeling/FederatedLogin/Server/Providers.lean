import FederatedLogin.Odoo.Settings
import FederatedLogin.Oidc.Discovery
import FederatedLogin.Provider

/-! # Configured providers

Which providers the server offers. They are built once from the configuration; that one of them is
not configured is told to those who ask for it.
-/

namespace FederatedLogin.Server

inductive Feature where
  | openId
  deriving DecidableEq

abbrev Entitlements := Feature → Bool

structure Providers where
  odoo : Except Odoo.SettingsError Odoo.Settings
  oidc : Option Oidc.Endpoints

namespace Providers

def ofConfig (c : Config.Resolved) : Providers where
  odoo := Odoo.Settings.ofConfig c.odoo
  oidc := if c.oidc.enabled then some (.ofConfig c.oidc) else none

def hasOdoo (p : Providers) : Bool :=
  match p.odoo with
  | .ok _ => true
  | .error _ => false

/-- Looks up the endpoints that are not configured. If that fails the rest is kept as it is. -/
def resolveOidc (p : Providers) : Http.Exchange Providers :=
  match p.oidc with
  | none => .done p
  | some endpoints => do
    match ← endpoints.resolve with
    | .ok resolved => return { p with oidc := some resolved }
    | .error _ => return p

def enabled (p : Providers) (granted : Entitlements) : List Provider :=
  (if p.hasOdoo then [.odoo] else []) ++
  (if p.oidc.isSome && granted .openId then [.openId] else [])

end Providers

end FederatedLogin.Server
